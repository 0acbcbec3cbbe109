import BrowserScript.Yaml.Event
import BrowserScript.Yaml.Tag

/-!
# The tree of a document

Nodes carry tags. An alias stands for the node that was anchored before it; one inside the
collection that it names stands for an endless tree, of which only the kind is kept.
-/

namespace BrowserScript.Yaml

inductive Node where
  | scalar (tag : Tag) (text : String)
  | sequence (tag : Tag) (items : List Node)
  | mapping (tag : Tag) (pairs : List (Node × Node))
  /-- The sequence around this place. -/
  | outerSequence
  /-- The mapping around this place. -/
  | outerMapping

namespace Node

def tag : Node → Tag
  | .scalar tag _ => tag
  | .sequence tag _ => tag
  | .mapping tag _ => tag
  | .outerSequence => .sequence
  | .outerMapping => .mapping

end Node

abbrev Anchors := List (String × Node)

/-- Reading nodes from events: the events that are left and the anchors so far. -/
structure Composition where
  events : List Event
  /-- Why no event follows the last one. -/
  refusal : Fault
  anchors : Anchors

abbrev Compose := StateT Composition (Except Fault)

namespace Compose

def refuse {α : Type} : Compose α := throw (.unreadable .composition)

def peek : Compose Event := do
  match (← get).events with
  | event :: _ => return event
  | [] => throw (← get).refusal

def drop : Compose Unit := do
  let _ ← peek
  modify fun state => { state with events := state.events.drop 1 }

def name (anchor : Option String) (node : Node) : Compose Unit :=
  match anchor with
  | none => return
  | some name => modify fun state =>
      { state with anchors := (name, node) :: state.anchors.filter fun entry => entry.1 != name }

def requireFresh (anchor : Option String) : Compose Unit := do
  let anchors := (← get).anchors
  if anchor.any fun name => anchors.any fun entry => entry.1 == name then refuse

def collectionTag (tag : Option String) (usual : Tag) : Tag :=
  match tag with
  | none => usual
  | some "!" => usual
  | some name => .ofName name

def scalarTag (tag : Option String) (implicit : Bool) (text : String) : Tag :=
  match collectionTag tag .str with
  | .str => if (tag.isNone || tag == some "!") && implicit then Implicit.tag text else .str
  | other => other

mutual

/-- The node that the next events describe; the last argument bounds the number of nodes. -/
def node : Nat → Compose Node
  | 0 => refuse
  | rounds + 1 => do
      match ← peek with
      | .alias name =>
          drop
          match (← get).anchors.find? fun entry => entry.1 == name with
          | some entry => return entry.2
          | none => refuse
      | .scalar anchor tag implicit text =>
          requireFresh anchor
          drop
          let result := Node.scalar (scalarTag tag implicit text) text
          name anchor result
          return result
      | .sequenceStart anchor tag =>
          requireFresh anchor
          drop
          name anchor .outerSequence
          let result := Node.sequence (collectionTag tag .sequence) (← items rounds)
          name anchor result
          return result
      | .mappingStart anchor tag =>
          requireFresh anchor
          drop
          name anchor .outerMapping
          let result := Node.mapping (collectionTag tag .mapping) (← pairs rounds)
          name anchor result
          return result
      | _ => refuse

def items : Nat → Compose (List Node)
  | 0 => refuse
  | rounds + 1 => do
      match ← peek with
      | .sequenceEnd => drop; return []
      | _ =>
          let first ← node rounds
          return first :: (← items rounds)

def pairs : Nat → Compose (List (Node × Node))
  | 0 => refuse
  | rounds + 1 => do
      match ← peek with
      | .mappingEnd => drop; return []
      | _ =>
          let key ← node rounds
          let value ← node rounds
          return (key, value) :: (← pairs rounds)

end

/-- The only document of a stream, or nothing for an empty stream. -/
def document : Compose (Option Node) := do
  let rounds := (← get).events.length + 1
  drop
  let result ←
    match ← peek with
    | .streamEnd => pure none
    | _ => do
        drop
        let result ← node rounds
        drop
        pure (some result)
  match ← peek with
  | .streamEnd => return result
  | _ => refuse

end Compose

/-- The tree of the only document of a stream of events. -/
def Node.ofEvents? (events : Reading Event) : Except Fault (Option Node) :=
  Compose.document.run' ⟨events.items, events.refusal.getD (.unreadable .composition), []⟩

end BrowserScript.Yaml
