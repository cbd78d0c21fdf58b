import Stagehand.Yaml.Event
import Stagehand.Yaml.Tokens

/-! # The nodes of a document

A document is one node, in which aliases stand for nodes that carry an anchor.  An anchor's name gets
a number when a node takes it: the number of different names taken before.  An alias stands for the
last node of the whole document that was given the number its name had.
-/

set_option autoImplicit false

namespace Stagehand.Yaml

inductive Node where
  | scalar (text : List Char) (style : ScalarStyle) (tag : Option (List Char))
  | sequence (items : List Node)
  | mapping (pairs : List (Node × Node))
  | alias (number : Nat)
deriving Inhabited, Repr

/-- A collection that is still open, with what it holds so far, last first, and its place among the
anchored nodes if it is one of them. -/
inductive OpenNode where
  | sequence (place : Option Nat) (items : List Node)
  | mapping (place : Option Nat) (pairs : List (Node × Node))
  | pair (place : Option Nat) (pairs : List (Node × Node)) (key : Node)
deriving Inhabited, Repr

structure Composition where
  frames : List OpenNode := []
  /-- The number that each anchor's name has now. -/
  names : List (List Char × Nat) := []
  /-- The anchored nodes begun so far. -/
  anchored : Nat := 0
  /-- The place of the last node that was given each number. -/
  places : List (Nat × Nat) := []
  /-- The anchored nodes that are complete, by their places. -/
  nodes : List (Nat × Node) := []
  root : Option Node := none
deriving Inhabited, Repr

namespace Composition

/-- The composition with a node begun that may carry an anchor, and its place if it does. -/
def enter (composition : Composition) (properties : Properties) : Composition × Option Nat :=
  match properties.anchor with
  | none => (composition, none)
  | some name =>
      let number := composition.names.length
      let place := composition.anchored
      ({ composition with
          names := (name, number) :: composition.names.filter fun entry => entry.1 ≠ name
          anchored := place + 1
          places := (number, place) :: composition.places }, some place)

/-- The composition with a complete node put where it belongs. -/
def add (composition : Composition) (place : Option Nat) (node : Node) : Composition :=
  let known :=
    match place with
    | none => composition.nodes
    | some place => (place, node) :: composition.nodes
  let placed : List OpenNode × Option Node :=
    match composition.frames with
    | [] => ([], some node)
    | .sequence outer items :: rest => (.sequence outer (node :: items) :: rest, none)
    | .mapping outer pairs :: rest => (.pair outer pairs node :: rest, none)
    | .pair outer pairs key :: rest => (.mapping outer ((key, node) :: pairs) :: rest, none)
  { composition with nodes := known, frames := placed.1, root := placed.2 }

/-- The composition after an event of one document: none if an alias names no node. -/
def step (composition : Composition) : Event → Option Composition
  | .alias name =>
      (composition.names.lookup name).map fun number => composition.add none (.alias number)
  | .scalar properties text style =>
      let (entered, place) := composition.enter properties
      some (entered.add place (.scalar text style properties.tag))
  | .sequenceStart properties =>
      let (entered, place) := composition.enter properties
      some { entered with frames := .sequence place [] :: entered.frames }
  | .mappingStart properties =>
      let (entered, place) := composition.enter properties
      some { entered with frames := .mapping place [] :: entered.frames }
  | .sequenceEnd =>
      match composition.frames with
      | .sequence place items :: rest =>
          some ({ composition with frames := rest }.add place (.sequence items.reverse))
      | _ => none
  | .mappingEnd =>
      match composition.frames with
      | .mapping place pairs :: rest =>
          some ({ composition with frames := rest }.add place (.mapping pairs.reverse))
      | _ => none
  | .documentStart => some composition
  | .documentEnd => some composition

def steps (composition : Composition) (events : List Event) : Option Composition :=
  events.foldlM step composition

end Composition

structure Document where
  root : Node
  places : List (Nat × Nat) := []
  nodes : List (Nat × Node) := []
deriving Inhabited, Repr

namespace Document

/-- The node itself, or the one that it stands for. -/
def follow (document : Document) : Node → Option Node
  | .alias number =>
      (document.places.lookup number).bind fun place => document.nodes.lookup place
  | node => some node

/-- The document that the events describe, if they describe exactly one. -/
def ofEvents? (events : List Event) : Option Document :=
  if events.count .documentStart ≠ 1 then none
  else
    (Composition.steps {} events).bind fun composition =>
      composition.root.map fun root => ⟨root, composition.places, composition.nodes⟩

/-- The document that a text holds, if it holds exactly one. -/
def parse? (text : String) : Option Document := do
  let tokens ← tokens? text
  let events ← events? tokens
  ofEvents? events

end Document
end Stagehand.Yaml
