import Stagehand.Json.Text
import Stagehand.Json.Value

/-! # The body of a request

A body is a JSON object of which four members count; the others are only checked to be JSON.  A
member that is null is as good as absent, one that is given twice makes the body malformed, and so
does one of the wrong type.  A list of four values in a fixed order is taken for the members
themselves.
-/

set_option autoImplicit false

namespace Stagehand

/-- The members of a body that count. -/
structure Body where
  payloadId : Option String := none
  workflows : Option (List String) := none
  correlationId : Option String := none
  fileCount : Option UInt64 := none
deriving DecidableEq, Inhabited, Repr

namespace Body

/-- The members that count, by their keys. -/
inductive Member where
  | payloadId
  | workflows
  | correlationId
  | fileCount
deriving DecidableEq, Inhabited, Repr

def Member.ofKey? (key : String) : Option Member :=
  if key = "payload_id" then some .payloadId
  else if key = "workflows" then some .workflows
  else if key = "correlation_id" then some .correlationId
  else if key = "file_count" then some .fileCount
  else none

/-- A string, or nothing where null stands. -/
def optionalText? : Json.Value → Option (Option String)
  | .null => some none
  | .text raw => (Json.textOf? raw).map some
  | _ => none

def texts? : List Json.Value → Option (List String)
  | [] => some []
  | .text raw :: others =>
      match Json.textOf? raw, texts? others with
      | some text, some rest => some (text :: rest)
      | _, _ => none
  | _ :: _ => none

/-- A list of strings, or nothing where null stands. -/
def optionalTexts? : Json.Value → Option (Option (List String))
  | .null => some none
  | .array items => (texts? items).map some
  | _ => none

def decimalValue (digits : Bytes) : Nat :=
  digits.foldl (fun value digit => value * 10 + (digit.toNat - 0x30)) 0

/-- A whole number that fits sixty-four bits, or nothing where null stands. -/
def optionalCount? : Json.Value → Option (Option UInt64)
  | .null => some none
  | .number lexeme =>
      if lexeme.all Json.isDigit && decimalValue lexeme < UInt64.size then
        some (some (decimalValue lexeme).toUInt64)
      else none
  | _ => none

def set? (body : Body) (value : Json.Value) : Member → Option Body
  | .payloadId => (optionalText? value).map fun found => { body with payloadId := found }
  | .workflows => (optionalTexts? value).map fun found => { body with workflows := found }
  | .correlationId => (optionalText? value).map fun found => { body with correlationId := found }
  | .fileCount => (optionalCount? value).map fun found => { body with fileCount := found }

/-- The members of an object read into a body; `seen` lists those it has already. -/
def addMembers? (body : Body) (seen : List Member) : List (Bytes × Json.Value) → Option Body
  | [] => some body
  | (rawKey, value) :: others =>
      match Json.textOf? rawKey with
      | none => none
      | some key =>
          match Member.ofKey? key with
          | none => addMembers? body seen others
          | some member =>
              if member ∈ seen then none
              else
                match body.set? value member with
                | none => none
                | some next => addMembers? next (member :: seen) others

def ofValue? : Json.Value → Option Body
  | .object members => addMembers? {} [] members
  | .array [payloadId, workflows, correlationId, fileCount] => do
      let withPayload ← set? {} payloadId .payloadId
      let withWorkflows ← withPayload.set? workflows .workflows
      let withId ← withWorkflows.set? correlationId .correlationId
      withId.set? fileCount .fileCount
  | _ => none

def parse? (content : Bytes) : Option Body :=
  (Json.Value.parse? content).bind ofValue?

end Body
end Stagehand
