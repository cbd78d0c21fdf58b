import Stagehand.Yaml.Token

/-! # From tokens to the structure of a document

What is still to be read is a stack of goals.  The goal on top looks at the tokens ahead, reads some
of them, says what they mean, and may put further goals in its place.  A missing node is an empty
scalar.
-/

set_option autoImplicit false

namespace Stagehand.Yaml

/-- What is said about a node besides its content. -/
structure Properties where
  anchor : Option (List Char) := none
  tag : Option (List Char) := none
deriving DecidableEq, Inhabited, Repr

inductive Event where
  | documentStart
  | documentEnd
  | alias (name : List Char)
  | scalar (properties : Properties) (text : List Char) (style : ScalarStyle)
  | sequenceStart (properties : Properties)
  | sequenceEnd
  | mappingStart (properties : Properties)
  | mappingEnd
deriving DecidableEq, Inhabited, Repr

/-- A scalar that is not there. -/
def Event.empty (properties : Properties) : Event := .scalar properties [] .plain

/-- Something still to be read. -/
inductive Goal where
  | document (first : Bool)
  | content
  | documentEnd
  /-- A node, which may be a block collection, or even a sequence that is not indented. -/
  | node (block unindented : Bool)
  | blockItems
  | unindentedItems
  | blockKeys
  | blockValue
  | flowItems (first : Bool)
  | pairKey
  | pairValue
  | pairEnd
  | flowKeys (first : Bool)
  | flowValue
  /-- A value that is not there, of a key without a mark in a flow mapping. -/
  | missingFlowValue
deriving DecidableEq, Inhabited, Repr

/-- The handles of tags and what they stand for. -/
abbrev Handles := List (List Char × List Char)

/-- The handles that every document has unless it sets them. -/
def defaultHandles : Handles :=
  [(['!'], ['!']), (['!', '!'], "tag:yaml.org,2002:".toList)]

structure Parse where
  tokens : List Token
  goals : List Goal
  handles : Handles := []
  /-- The events so far, last first. -/
  events : List Event := []
deriving Inhabited, Repr

namespace Parse

/-- The parse with the goal on top replaced, some tokens read and some events said. -/
def go (parse : Parse) (tokens : List Token) (goals : List Goal) (events : List Event) : Parse :=
  { parse with
    tokens := tokens
    goals := goals ++ parse.goals
    events := events.reverse ++ parse.events }

def tagName? (handles : Handles) (handle suffix : List Char) : Option (List Char) :=
  if handle = [] then some suffix
  else (handles.lookup handle).map (· ++ suffix)

/-- An anchor and a tag ahead, in either order. -/
def properties (handles : Handles) : List Token → Option (Properties × List Token)
  | .anchor name :: .tag handle suffix :: rest =>
      (tagName? handles handle suffix).map fun tag => (⟨some name, some tag⟩, rest)
  | .anchor name :: rest => some (⟨some name, none⟩, rest)
  | .tag handle suffix :: .anchor name :: rest =>
      (tagName? handles handle suffix).map fun tag => (⟨some name, some tag⟩, rest)
  | .tag handle suffix :: rest =>
      (tagName? handles handle suffix).map fun tag => (⟨none, some tag⟩, rest)
  | tokens => some ({}, tokens)

def node (parse : Parse) (block unindented : Bool) : Option Parse :=
  match parse.tokens with
  | .alias name :: rest => some (parse.go rest [] [.alias name])
  | tokens =>
      (properties parse.handles tokens).bind fun found =>
        match found.2 with
        | .scalar text style :: rest => some (parse.go rest [] [.scalar found.1 text style])
        | .flowSequenceStart :: rest =>
            some (parse.go rest [.flowItems true] [.sequenceStart found.1])
        | .flowMappingStart :: rest =>
            some (parse.go rest [.flowKeys true] [.mappingStart found.1])
        | rest =>
            match rest, block, unindented with
            | .blockEntry :: _, _, true =>
                some (parse.go rest [.unindentedItems] [.sequenceStart found.1])
            | .blockSequenceStart :: later, true, _ =>
                some (parse.go later [.blockItems] [.sequenceStart found.1])
            | .blockMappingStart :: later, true, _ =>
                some (parse.go later [.blockKeys] [.mappingStart found.1])
            | _, _, _ =>
                if found.1 = {} then none else some (parse.go rest [] [.empty found.1])

/-- A node ahead, or an empty scalar before some tokens. -/
def nodeUnless (parse : Parse) (tokens : List Token) (stops : Token → Bool) (block : Bool)
    (unindented : Bool) (goals : List Goal) : Option Parse :=
  match tokens.head? with
  | none => none
  | some token =>
      if stops token then some (parse.go tokens goals [.empty {}])
      else some (parse.go tokens (.node block unindented :: goals) [])

/-- The directives ahead: the handles they set, and the tokens after them. -/
def directives : (versioned : Bool) → Handles → List Token → Option (Handles × List Token)
  | versioned, handles, .versionDirective major minor :: rest =>
      if versioned || !(major = 1 && (minor = 1 || minor = 2)) then none
      else directives true handles rest
  | versioned, handles, .tagDirective handle expansion :: rest =>
      if (handles.lookup handle).isSome then none
      else directives versioned (handles ++ [(handle, expansion)]) rest
  | _, handles, tokens => some (handles, tokens)

/-- A directive or the mark of a document. -/
def startsDocument : Token → Bool
  | .versionDirective _ _ => true
  | .tagDirective _ _ => true
  | .documentStart => true
  | _ => false

/-- A document ahead, or the end of the text, which leaves no goal. -/
def document (parse : Parse) (first : Bool) : Option Parse :=
  let tokens :=
    if first then parse.tokens else parse.tokens.dropWhile fun token => token = .documentEnd
  match tokens with
  | [] => none
  | .streamEnd :: rest => some (parse.go rest [] [])
  | token :: _ =>
      if first && !startsDocument token then
        some ({ parse with handles := defaultHandles }.go tokens
          [.node true false, .documentEnd] [.documentStart])
      else
        (directives false [] tokens).bind fun found =>
          match found.2 with
          | .documentStart :: rest =>
              some ({ parse with handles := found.1 ++ defaultHandles }.go rest
                [.content, .documentEnd] [.documentStart])
          | _ => none

/-- The tokens before which a document's content is empty. -/
def stopsContent (token : Token) : Bool :=
  startsDocument token || token = .documentEnd || token = .streamEnd

def documentEnd (parse : Parse) : Parse :=
  match parse.tokens with
  | .documentEnd :: rest => parse.go rest [.document false] [.documentEnd]
  | tokens => parse.go tokens [.document false] [.documentEnd]

def stopsBlockItem (token : Token) : Bool :=
  token = .blockEntry || token = .blockEnd

def stopsBlockPair (token : Token) : Bool :=
  token = .key || token = .value || token = .blockEnd

def stopsUnindentedItem (token : Token) : Bool :=
  token = .blockEntry || stopsBlockPair token

def stopsFlowItem (token : Token) : Bool :=
  token = .flowEntry || token = .flowSequenceEnd

def stopsFlowPair (token : Token) : Bool :=
  token = .flowEntry || token = .flowMappingEnd

/-- The next item of a flow sequence or its end, after the comma before it. -/
def flowItem (parse : Parse) : List Token → Option Parse
  | .flowSequenceEnd :: rest => some (parse.go rest [] [.sequenceEnd])
  | .key :: rest => some (parse.go rest [.pairKey, .flowItems false] [.mappingStart {}])
  | tokens => some (parse.go tokens [.node false false, .flowItems false] [])

/-- The next key of a flow mapping or its end, after the comma before it. -/
def flowKey (parse : Parse) : List Token → Option Parse
  | .flowMappingEnd :: rest => some (parse.go rest [] [.mappingEnd])
  | .key :: rest =>
      parse.nodeUnless rest (fun token => token = .value || stopsFlowPair token) false false
        [.flowValue, .flowKeys false]
  | tokens =>
      some (parse.go tokens [.node false false, .missingFlowValue, .flowKeys false] [])

def reach (parse : Parse) : Goal → Option Parse
  | .document first => parse.document first
  | .content =>
      parse.nodeUnless parse.tokens stopsContent true false []
  | .documentEnd => some parse.documentEnd
  | .node block unindented => parse.node block unindented
  | .blockItems =>
      match parse.tokens with
      | .blockEntry :: rest => parse.nodeUnless rest stopsBlockItem true false [.blockItems]
      | .blockEnd :: rest => some (parse.go rest [] [.sequenceEnd])
      | _ => none
  | .unindentedItems =>
      match parse.tokens with
      | .blockEntry :: rest =>
          parse.nodeUnless rest stopsUnindentedItem true false [.unindentedItems]
      | tokens => some (parse.go tokens [] [.sequenceEnd])
  | .blockKeys =>
      match parse.tokens with
      | .key :: rest =>
          parse.nodeUnless rest stopsBlockPair true true [.blockValue, .blockKeys]
      | .blockEnd :: rest => some (parse.go rest [] [.mappingEnd])
      | _ => none
  | .blockValue =>
      match parse.tokens with
      | .value :: rest => parse.nodeUnless rest stopsBlockPair true true []
      | tokens => some (parse.go tokens [] [.empty {}])
  | .flowItems first =>
      match first, parse.tokens with
      | true, tokens => parse.flowItem tokens
      | false, .flowSequenceEnd :: rest => some (parse.go rest [] [.sequenceEnd])
      | false, .flowEntry :: rest => parse.flowItem rest
      | false, _ => none
  | .pairKey =>
      match parse.tokens with
      | [] => none
      | token :: rest =>
          if token = .value || stopsFlowItem token then
            some (parse.go rest [.pairValue, .pairEnd] [.empty {}])
          else some (parse.go (token :: rest) [.node false false, .pairValue, .pairEnd] [])
  | .pairValue =>
      match parse.tokens with
      | .value :: rest => parse.nodeUnless rest stopsFlowItem false false []
      | tokens => some (parse.go tokens [] [.empty {}])
  | .pairEnd => some (parse.go parse.tokens [] [.mappingEnd])
  | .flowKeys first =>
      match first, parse.tokens with
      | true, tokens => parse.flowKey tokens
      | false, .flowMappingEnd :: rest => some (parse.go rest [] [.mappingEnd])
      | false, .flowEntry :: rest => parse.flowKey rest
      | false, _ => none
  | .flowValue =>
      match parse.tokens with
      | .value :: rest => parse.nodeUnless rest stopsFlowPair false false []
      | tokens => some (parse.go tokens [] [.empty {}])
  | .missingFlowValue => some (parse.go parse.tokens [] [.empty {}])

/-- The events of the tokens, once no goal is left, after at most `bound` goals. -/
def finish : Nat → Parse → Option (List Event)
  | 0, _ => none
  | bound + 1, parse =>
      match parse.goals with
      | [] => some parse.events.reverse
      | goal :: goals =>
          match { parse with goals := goals }.reach goal with
          | none => none
          | some next => finish bound next

end Parse

/-- The events of a sequence of tokens.  Between two tokens that are read there are fewer than eight
goals that read none. -/
def events? (tokens : List Token) : Option (List Event) :=
  Parse.finish (8 * tokens.length + 8) { tokens := tokens, goals := [.document true] }

end Stagehand.Yaml
