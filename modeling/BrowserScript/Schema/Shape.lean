import BrowserScript.Schema.Coerce

/-!
# Shapes of documents

A shape says which values may stand in a place of a document. Checking a value gives the first
fault in the order in which fields are declared: its path and the reason. The rule of a record is
asked only when all its fields are in order.
-/

namespace BrowserScript.Schema

/-- A condition on which fields of a record are given, that is present and not null. -/
inductive Rule where
  | anyFields
  /-- At least one of the fields is given. -/
  | atLeastOne (fields : List String) (message : String)
  /-- Exactly one of two fields is given. -/
  | exactlyOne (first second message : String)
  /-- The field is not given. -/
  | notGiven (field message : String)

inductive Shape where
  | anything
  | text
  | duration
  | truth
  | whole
  | number
  | url
  /-- One of several words. -/
  | word (words : List String)
  /-- One of several words, or a value equal to false; faults name the words. -/
  | wordOrFalse (words : List String)
  | list (item : Shape)
  /-- A value of a shape, or null. -/
  | optional (shape : Shape)
  /-- A mapping with named fields, each required or not; other keys do not matter. -/
  | record (name : String) (fields : List (String × Bool × Shape)) (rule : Rule)
  /-- A mapping whose shape depends on the word under a key. -/
  | choice (key : String) (options : List (String × Shape))

structure Finding where
  path : List String
  reason : String
  deriving DecidableEq

namespace Finding

def here (reason : String) : Finding := ⟨[], reason⟩

def within (name : String) (finding : Finding) : Finding :=
  { finding with path := name :: finding.path }

end Finding

def isGiven (entries : Entries) (field : String) : Bool :=
  (Entries.get? entries field).any fun value => !value.isNull

def Rule.check (entries : Entries) : Rule → Option String
  | .anyFields => none
  | .atLeastOne fields message => if fields.any (isGiven entries) then none else some message
  | .exactlyOne first second message =>
      if isGiven entries first == isGiven entries second then some message else none
  | .notGiven field message => if isGiven entries field then some message else none

/-- Words in quotes, separated by commas and an "or" before the last. -/
def alternatives : List String → String
  | [] => ""
  | [word] => "'" ++ word ++ "'"
  | [first, last] => "'" ++ first ++ "' or '" ++ last ++ "'"
  | word :: words => "'" ++ word ++ "', " ++ alternatives words

def listItems? : Value → Option (List Value)
  | .list items => some items
  | .tuple items => some items
  | .set items => some items
  | _ => none

def firstFinding (check : Value → Except Fault (Option Finding)) (index : Nat) :
    List Value → Except Fault (Option Finding)
  | [] => .ok none
  | value :: values => do
      match ← check value with
      | some finding => return some (finding.within (String.ofList (natText index)))
      | none => firstFinding check (index + 1) values

def reasoned (reason : Reason) : Except Fault (Option Finding) := .ok (reason.map Finding.here)

namespace Shape

def wordReason (words : List String) (value : Value) : Reason :=
  if words.any value.isText then none else some ("Input should be " ++ alternatives words)

mutual

def check : Shape → Value → Except Fault (Option Finding)
  | .anything, _ => .ok none
  | .text, value => reasoned (textReason value)
  | .duration, value => reasoned (durationReason value)
  | .truth, value => reasoned (truthReason value)
  | .whole, value => reasoned (wholeReason value)
  | .number, value => reasoned (numberReason value)
  | .url, value => reasoned (urlReason value)
  | .word words, value => reasoned (wordReason words value)
  | .wordOrFalse words, value =>
      if value.equals (.bool false) then .ok none
      else
        let place := "literal[" ++ String.intercalate "," (words.map fun word => "'" ++ word ++ "'")
          ++ "]"
        .ok ((wordReason words value).map fun reason => (Finding.here reason).within place)
  | .list item, value =>
      match listItems? value with
      | none => reasoned (some "Input should be a valid list")
      | some items => firstFinding (fun value => check item value) 0 items
  | .optional shape, value => if value.isNull then .ok none else check shape value
  | .record name fields rule, value =>
      match value with
      | .map entries => do
          match ← checkFields fields entries with
          | some finding => return some finding
          | none => reasoned ((rule.check entries).map ("Value error, " ++ ·))
      | _ => reasoned (some ("Input should be a valid dictionary or instance of " ++ name))
  | .choice key options, value =>
      match value with
      | .map entries =>
          match Entries.get? entries key with
          | none => reasoned (some ("Unable to extract tag using discriminator '" ++ key ++ "'"))
          | some tag => checkOption key (options.map (·.1)) tag options (.map entries)
      | _ =>
          reasoned (some "Input should be a valid dictionary or object to extract fields from")

def checkFields : List (String × Bool × Shape) → Entries → Except Fault (Option Finding)
  | [], _ => .ok none
  | (name, required, shape) :: fields, entries =>
      match Entries.get? entries name with
      | none =>
          if required then .ok (some ((Finding.here "Field required").within name))
          else checkFields fields entries
      | some value => do
          match ← check shape value with
          | some finding => return some (finding.within name)
          | none => checkFields fields entries

/-- The first fault of a mapping with the shape that belongs to a tag. -/
def checkOption (key : String) (tags : List String) (tag : Value) :
    List (String × Shape) → Value → Except Fault (Option Finding)
  | [], _ =>
      let expected := String.intercalate ", " (tags.map fun word => "'" ++ word ++ "'")
      reasoned (some ("Input tag '" ++ tag.displayOrKind ++ "' found using '" ++ key
        ++ "' does not match any of the expected tags: " ++ expected))
  | (name, shape) :: options, value => do
      if tag.isText name then return (← check shape value).map (Finding.within name)
      else checkOption key tags tag options value

end

end Shape

end BrowserScript.Schema
