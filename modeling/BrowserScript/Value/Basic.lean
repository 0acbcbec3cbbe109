import BrowserScript.Calendar

/-!
# Values of scripts and registries

Scripts, options and compatibility data are trees of dynamic values. Mappings keep their entries
in the order in which their keys were first written. Numbers of different kinds are equal when
they denote the same number, and truth values count as zero and one.
-/

namespace BrowserScript

inductive Value where
  | null
  | bool (value : Bool)
  | int (value : Int)
  | float (value : Binary64)
  | str (text : String)
  | bytes (data : List UInt8)
  | list (items : List Value)
  | tuple (items : List Value)
  | map (entries : List (Value × Value))
  | set (items : List Value)
  | date (day : Day)
  | moment (time : Moment)
  deriving Inhabited

namespace Value

def wholeNumber? : Value → Option Int
  | .bool value => some (if value then 1 else 0)
  | .int value => some value
  | .float value => value.whole?
  | _ => none

def equalsAtom (left right : Value) : Bool :=
  match left, right with
  | .null, .null => true
  | .str left, .str right => left == right
  | .bytes left, .bytes right => left == right
  | .date left, .date right => left == right
  | .moment left, .moment right => left.equals right
  | .float left, .float right => left.equals right
  | left, right =>
      match left.wholeNumber?, right.wholeNumber? with
      | some left, some right => left == right
      | _, _ => false

mutual

def equals : Value → Value → Bool
  | .list left, .list right => equalsItems left right
  | .tuple left, .tuple right => equalsItems left right
  | .set left, .set right => left.length == right.length && subset left right
  | .map left, .map right => left.length == right.length && submap left right
  | left, right => equalsAtom left right

def equalsItems : List Value → List Value → Bool
  | [], [] => true
  | left :: lefts, right :: rights => equals left right && equalsItems lefts rights
  | _, _ => false

/-- Whether each value of the first list occurs in the second. -/
def subset : List Value → List Value → Bool
  | [], _ => true
  | left :: lefts, rights => rights.any (fun right => equals left right) && subset lefts rights

/-- Whether each entry of the first mapping is one of the second. -/
def submap : List (Value × Value) → List (Value × Value) → Bool
  | [], _ => true
  | (key, value) :: lefts, rights =>
      rights.any (fun entry => equals key entry.1 && equals value entry.2) && submap lefts rights

end

def truthy : Value → Bool
  | .null => false
  | .bool value => value
  | .int value => value != 0
  | .float value => !value.isZero
  | .str text => text != ""
  | .bytes data => !data.isEmpty
  | .list items => !items.isEmpty
  | .tuple items => !items.isEmpty
  | .map entries => !entries.isEmpty
  | .set items => !items.isEmpty
  | .date _ => true
  | .moment _ => true

def kindName : Value → String
  | .null => "NoneType"
  | .bool _ => "bool"
  | .int _ => "int"
  | .float _ => "float"
  | .str _ => "str"
  | .bytes _ => "bytes"
  | .list _ => "list"
  | .tuple _ => "tuple"
  | .map _ => "dict"
  | .set _ => "set"
  | .date _ => "date"
  | .moment _ => "datetime"

def isNull : Value → Bool
  | .null => true
  | _ => false

mutual

def isKey : Value → Bool
  | .list _ => false
  | .map _ => false
  | .set _ => false
  | .tuple items => areKeys items
  | _ => true

def areKeys : List Value → Bool
  | [] => true
  | item :: items => isKey item && areKeys items

end

end Value

/-- The entries of a mapping, in the order in which their keys were first written. -/
abbrev Entries := List (Value × Value)

namespace Entries

def lookup? (entries : Entries) (key : Value) : Option Value :=
  (List.find? (fun entry => entry.1.equals key) entries).map (·.2)

def get? (entries : Entries) (name : String) : Option Value := lookup? entries (.str name)

/-- Store a value: a key that is present keeps its place and its first spelling. -/
def put (entries : Entries) (key value : Value) : Entries :=
  if entries.any fun entry => entry.1.equals key then
    entries.map fun entry => if entry.1.equals key then (entry.1, value) else entry
  else entries ++ [(key, value)]

def ofPairs (pairs : List (Value × Value)) : Entries :=
  pairs.foldl (fun entries pair => entries.put pair.1 pair.2) []

end Entries

end BrowserScript
