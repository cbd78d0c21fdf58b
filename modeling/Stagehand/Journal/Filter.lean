import Stagehand.Text.Blank
import Stagehand.Text.Pattern

/-! # What the journal shows

A filter is a list of directives between commas.  A directive names a level, or the target of an event
or the span around it, and the level from which on events are shown.  Between braces a span can name
fields, each with a value to match.  A directive that cannot be read is left out, and the user is told
so.
-/

set_option autoImplicit false

namespace Stagehand.Filter

/-- Why a directive is left out. -/
inductive Fault where
  | malformed
  | level
  | field (reason : Pattern.Fault)
deriving DecidableEq, Inhabited, Repr

def Fault.message : Fault → String
  | .malformed => "invalid filter directive"
  | .level =>
      "error parsing level filter: expected one of \"off\", \"error\", \"warn\", \"info\", " ++
        "\"debug\", \"trace\", or a number 0-5"
  | .field reason => s!"invalid field filter: {reason.message}"

/-! ## Levels and fields -/

def levelNames : List String :=
  ["off", "error", "warn", "info", "debug", "trace"]

/-- The text without one plus sign before it. -/
def withoutPlus : List Char → List Char
  | '+' :: rest => rest
  | text => text

/-- A level: nothing, a name in either case or a number of at most five. -/
def isLevel (text : List Char) : Bool :=
  let digits := withoutPlus text
  let isNumber := digits ≠ [] && digits.all Char.isDigit &&
    digits.foldl (fun value c => value * 10 + (c.toNat - '0'.toNat)) 0 ≤ 5
  text = [] || isNumber || levelNames.contains (String.ofList (text.map Char.toLower))

/-- Digits, perhaps after a sign: the exponent of a decimal. -/
def isExponent (text : List Char) : Bool :=
  let digits := match text with
    | '+' :: rest => rest
    | '-' :: rest => rest
    | _ => text
  digits ≠ [] && digits.all Char.isDigit

/-- A decimal without a sign: digits, some of them perhaps after a point, and an exponent if any. -/
def isDecimal (text : List Char) : Bool :=
  let whole := text.takeWhile Char.isDigit
  let afterWhole := text.drop whole.length
  let pointed := match afterWhole with
    | '.' :: rest => rest
    | _ => []
  let places := pointed.takeWhile Char.isDigit
  let rest := if afterWhole.head? = some '.' then pointed.drop places.length else afterWhole
  (whole ≠ [] || places ≠ []) &&
    match rest with
    | [] => true
    | 'e' :: exponent => isExponent exponent
    | 'E' :: exponent => isExponent exponent
    | _ => false

/-- A number after its plus sign; among the numbers are those that are none or not finite. -/
def isNumber (text : List Char) : Bool :=
  ["inf", "infinity", "nan"].contains (String.ofList (text.map Char.toLower)) || isDecimal text

/-- What is wrong with a field.  Its value is a number or a pattern; only a plus sign before a number
keeps it from being a pattern too. -/
def fieldFault? (field : List Char) : Option Fault :=
  if field = [] then some .malformed
  else
    match field.dropWhile (· ≠ '=') with
    | [] => none
    | _ :: rest =>
        let value := rest.takeWhile (· ≠ '=')
        if value.head? = some '+' && isNumber (value.drop 1) then none
        else (Pattern.fault? value).map .field

/-! ## Directives -/

/-- Where in a directive a character stands.  Fields and levels know where they begin. -/
inductive Part where
  | start
  | word
  | span
  | field (first : Nat)
  | fields
  | afterSpan
  | level (first : Nat)
deriving DecidableEq, Inhabited, Repr

/-- The part that follows a character.  Places count from the first character that is not blank, while
a field is cut out of the whole directive. -/
def Part.step (whole : List Char) (place : Nat) (c : Char) : Part → Except Fault Part
  | .start =>
      if c = '[' then .ok .span
      else if c = '-' || c = ':' || c = '_' || Text.isAlphanumeric c then .ok .word
      else .error .malformed
  | .word =>
      if c = '=' then .ok (.level (place + 1))
      else if c = '[' then .ok .span
      else .ok .word
  | .span =>
      if c = ']' then .ok .afterSpan
      else if c = '\x7b' then .ok (.field (place + 1))
      else .ok .span
  | .field first =>
      if c = '\x7d' then
        match fieldFault? ((whole.drop first).take (place - first)) with
        | some fault => .error fault
        | none => .ok .fields
      else .ok (.field first)
  | .fields => if c = ']' then .ok .afterSpan else .error .malformed
  | .afterSpan => if c = '=' then .ok (.level (place + 1)) else .error .malformed
  | .level first => .ok (.level first)

/-- The part at the end of some characters. -/
def Part.through (whole : List Char) : Nat → Part → List Char → Except Fault Part
  | _, part, [] => .ok part
  | place, part, c :: rest => do
      let next ← part.step whole place c
      through whole (place + 1) next rest

def Part.endFault? (whole : List Char) : Part → Option Fault
  | .word => none
  | .afterSpan => none
  | .level first => if isLevel (whole.drop first) then none else some .level
  | _ => some .malformed

def trimmed (text : List Char) : List Char :=
  ((text.dropWhile Text.isBlankChar).reverse.dropWhile Text.isBlankChar).reverse

/-- What is wrong with a directive, if anything is. -/
def directiveFault? (directive : List Char) : Option Fault :=
  match Part.through directive 0 .start (trimmed directive) with
  | .error fault => some fault
  | .ok part => part.endFault? directive

/-- The directives of a filter; between two commas there need not be one. -/
def directives (filter : String) : List String :=
  (filter.splitOn ",").filter fun directive => !directive.isEmpty

/-- What the user is told about a filter: a line for each directive that is left out. -/
def notices (filter : String) : String :=
  String.join ((directives filter).filterMap fun directive =>
    (directiveFault? directive.toList).map fun fault =>
      "ignoring \x60" ++ directive ++ "\x60: " ++ fault.message ++ "\n")

end Stagehand.Filter
