import BrowserScript.Fault

/-!
# Tokens of a document

The indicators, properties and scalars that a document text is made of, with the tokens that
stand for changes of indentation.
-/

namespace BrowserScript.Yaml

inductive Directive where
  | version (major : Nat)
  | handle (name uri : String)
  | other

inductive Token where
  | streamStart
  | streamEnd
  | directive (directive : Directive)
  | documentStart
  | documentEnd
  | blockSequenceStart
  | blockMappingStart
  | blockEnd
  | flowSequenceStart
  | flowSequenceEnd
  | flowMappingStart
  | flowMappingEnd
  | blockEntry
  | flowEntry
  | key
  | value
  | alias (name : String)
  | anchor (name : String)
  | tag (handle : Option String) (rest : String)
  | scalar (plain : Bool) (text : String)

/-- What was read before reading stopped, and why it stopped if it was refused. -/
structure Reading (α : Type) where
  items : List α
  refusal : Option Fault

end BrowserScript.Yaml
