import Stagehand.Json.Token

/-! # The value of a JSON text

The tokens are read one after the other, with the arrays and objects that are still open kept on a
stack, so nesting has no limit.  Members keep their order and their repetitions.
-/

set_option autoImplicit false

namespace Stagehand.Json

/-- A value.  Numbers and strings keep the bytes they were written with. -/
inductive Value where
  | null
  | boolean (value : Bool)
  | number (lexeme : Bytes)
  | text (raw : Bytes)
  | array (items : List Value)
  | object (members : List (Bytes × Value))
deriving Inhabited, Repr

/-- An array or object that is still open, with what it holds so far, last first. -/
inductive Frame where
  | array (items : List Value)
  | object (members : List (Bytes × Value))
  | member (members : List (Bytes × Value)) (key : Bytes)
deriving Inhabited, Repr

/-- What the next token has to be. -/
inductive Awaiting where
  | value
  | firstItem
  | firstKey
  | key
  | colon
  /-- What follows a complete value: a comma, the end of what holds it, or nothing more. -/
  | following (value : Value)
deriving Inhabited, Repr

structure Reading where
  awaiting : Awaiting
  frames : List Frame
deriving Inhabited, Repr

namespace Reading

def start : Reading := ⟨.value, []⟩

def value (frames : List Frame) : Token → Option Reading
  | .openBrace => some ⟨.firstKey, .object [] :: frames⟩
  | .openBracket => some ⟨.firstItem, .array [] :: frames⟩
  | .null => some ⟨.following .null, frames⟩
  | .boolean b => some ⟨.following (.boolean b), frames⟩
  | .number lexeme => some ⟨.following (.number lexeme), frames⟩
  | .text raw => some ⟨.following (.text raw), frames⟩
  | _ => none

def key : List Frame → Token → Option Reading
  | .object members :: frames, .text raw => some ⟨.colon, .member members raw :: frames⟩
  | _, _ => none

def following (complete : Value) : List Frame → Token → Option Reading
  | .array items :: frames, .comma => some ⟨.value, .array (complete :: items) :: frames⟩
  | .array items :: frames, .closeBracket =>
      some ⟨.following (.array (complete :: items).reverse), frames⟩
  | .member members key :: frames, .comma =>
      some ⟨.key, .object ((key, complete) :: members) :: frames⟩
  | .member members key :: frames, .closeBrace =>
      some ⟨.following (.object ((key, complete) :: members).reverse), frames⟩
  | _, _ => none

/-- The reading after one more token; none if the token cannot stand there. -/
def step (reading : Reading) (token : Token) : Option Reading :=
  match reading.awaiting, reading.frames, token with
  | .firstItem, .array [] :: frames, .closeBracket => some ⟨.following (.array []), frames⟩
  | .firstItem, frames, _ => value frames token
  | .value, frames, _ => value frames token
  | .firstKey, .object [] :: frames, .closeBrace => some ⟨.following (.object []), frames⟩
  | .firstKey, frames, _ => key frames token
  | .key, frames, _ => key frames token
  | .colon, frames, .colon => some ⟨.value, frames⟩
  | .colon, _, _ => none
  | .following complete, frames, _ => following complete frames token

/-- The value, once it is complete and nothing is open any more. -/
def result? (reading : Reading) : Option Value :=
  match reading.awaiting, reading.frames with
  | .following complete, [] => some complete
  | _, _ => none

def steps : Reading → List Token → Option Reading
  | reading, [] => some reading
  | reading, token :: rest =>
      match reading.step token with
      | none => none
      | some next => next.steps rest

end Reading

/-- The value that a text denotes, if it is a JSON text. -/
def Value.parse? (text : Bytes) : Option Value := do
  let tokens ← tokens? text
  let reading ← Reading.start.steps tokens
  reading.result?

end Stagehand.Json
