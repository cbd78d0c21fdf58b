import Stagehand.Text.Hexadecimal
import Stagehand.Text.Printable

/-! # Quoted text

A quoted text stands between double quotes.  A quote and a backslash carry a backslash, the common
controls have a letter, and a character that cannot be shown by itself is written as its code point
in hexadecimal between braces.
-/

set_option autoImplicit false

namespace Stagehand.Text

/-- One character as it stands inside quotes. -/
def quotedChar (c : Char) : String :=
  if c = '\x00' then "\\0"
  else if c = '\t' then "\\t"
  else if c = '\n' then "\\n"
  else if c = '\r' then "\\r"
  else if c = '\\' then "\\\\"
  else if c = '"' then "\\\""
  else if isExtending c || isFiller c || isUnprintable c then "\\u\x7b" ++ hexCode c.toNat ++ "\x7d"
  else c.toString

/-- The text between double quotes. -/
def quoted (text : String) : String :=
  "\"" ++ String.join (text.toList.map quotedChar) ++ "\""

end Stagehand.Text
