import BrowserScript.Value.Access
import BrowserScript.Text.Casing
import BrowserScript.Yaml.Base64
import BrowserScript.Yaml.Node

/-!
# The value of a tree

Scalars are read by their tags. Collections are filled level by level, so of two faults in a tree
the one nearer to the root is met first, and on one level the earlier one. Mappings named under a
merge key give their entries before the mapping's own, which win.
-/

namespace BrowserScript.Yaml

def unconstructible {α : Type} : Except Fault α := .error (.unreadable .construction)

namespace Numeral

def baseLetter : Nat → Char
  | 2 => 'b'
  | 8 => 'o'
  | _ => 'x'

/-- The integer that digits denote in a base other than ten. -/
def inBase (base : Nat) (text : List Char) : Except Fault Int := do
  let (negative, body) := Numeral.splitSign (Text.trimSpace (Numeral.simplify text))
  let digits :=
    match body with
    | '0' :: letter :: rest =>
        if letter.toLower == baseLetter base then (if rest.isEmpty then ['?'] else rest) else body
    | _ => body
  if digits.isEmpty || !digits.all (fun c => (Text.hexDigit? c).any (· < base)) then
    throw (.invalid (.integer base (← (Value.str (String.ofList text)).literalText)))
  let magnitude : Int := Numeral.ofBase base digits
  return if negative then -magnitude else magnitude

def decimal (text : List Char) : Except Fault Int := (Value.str (String.ofList text)).truncate

def floating (text : List Char) : Except Fault Binary64 :=
  match Numeral.readFloat? text with
  | some value => .ok value
  | none => do throw (.invalid (.number (← (Value.str (String.ofList text)).literalText)))

/-- Integers in base sixty from the last part to the first. -/
def ofSixtieths (parts : List Int) : Int := parts.foldl (fun total part => total * 60 + part) 0

/-- Sum parts from the last to the first, each sixty times the one after it. -/
def sumSixtieths (total : Binary64) (base : Nat) : List Binary64 → Except Fault Binary64
  | [] => .ok total
  | part :: parts =>
      let factor := Binary64.ofInt base
      if factor.isFinite then sumSixtieths (total.add (part.mul factor)) (base * 60) parts
      else .error (.overflow .integerToFloat)

def signed (text : List Char) : Except Fault (Bool × List Char) :=
  if text.isEmpty then .error .outOfBounds else .ok (Numeral.splitSign text)

def int (text : List Char) : Except Fault Int := do
  let (negative, body) ← signed (text.filter (· != '_'))
  let magnitude ←
    match body with
    | [] => throw .outOfBounds
    | ['0'] => pure 0
    | '0' :: 'b' :: digits => inBase 2 digits
    | '0' :: 'x' :: digits => inBase 16 digits
    | '0' :: _ => inBase 8 body
    | _ =>
        if body.contains ':' then do pure (ofSixtieths (← (Implicit.parts ':' body).mapM decimal))
        else decimal body
  return if negative then -magnitude else magnitude

def float (text : List Char) : Except Fault Binary64 := do
  let (negative, body) ← signed (Text.lower (text.filter (· != '_')))
  let sign (value : Binary64) := if negative then value.neg else value
  if body == ".inf".toList then return sign (.infinite false)
  else if body == ".nan".toList then return .nan
  else if body.contains ':' then
    let parts ← (Implicit.parts ':' body).mapM floating
    return sign (← sumSixtieths (Binary64.zero false) 1 parts.reverse)
  else return sign (← floating body)

end Numeral

def truthOf (text : String) : Except Fault Bool :=
  let word := String.ofList (Text.lower text.toList)
  if ["yes", "true", "on"].contains word then .ok true
  else if ["no", "false", "off"].contains word then .ok false
  else .error (.missingKey (.str word))

namespace Stamp

def number (digits : List Char) : Nat := BrowserScript.Numeral.ofDigits digits

def microseconds (fraction : List Char) : Nat :=
  number (fraction.take 6 ++ List.replicate (6 - fraction.length) '0')

def calendar {α : Type} (result : Except CalendarFault α) : Except Fault α :=
  result.mapError fun fault => .invalid (.calendar fault)

def ahead (zone : Option (Option (Char × List Char × List Char))) : Except Fault (Option Int) :=
  match zone with
  | none => .ok none
  | some none => .ok (some 0)
  | some (some (sign, hours, minutes)) => do
      let seconds : Int := (number hours * 60 + number minutes) * 60
      return some (← calendar (Moment.makeAhead (if sign == '-' then -seconds else seconds)))

def value (stamp : Stamp) : Except Fault Value :=
  let year := number stamp.year
  let month := number stamp.month
  let day := number stamp.day
  match stamp.clock with
  | none => do return .date (← calendar (Day.make year month day))
  | some (hour, minute, second) => do
      let zone ← ahead stamp.zone
      return .moment (← calendar (Moment.make year month day (number hour) (number minute)
        (number second) (microseconds stamp.fraction) zone))

end Stamp

namespace Node

def isMapping : Node → Bool
  | .mapping _ _ => true
  | .outerMapping => true
  | _ => false

mutual

def scalarText : Node → Except Fault String
  | .scalar _ text => .ok text
  | .mapping _ pairs => defaultText pairs
  | _ => unconstructible

def defaultText : List (Node × Node) → Except Fault String
  | [] => unconstructible
  | (key, value) :: rest => if key.tag == .default then scalarText value else defaultText rest

end

def plainKey : Node → Node
  | .scalar .default text => .scalar .str text
  | node => node

mutual

/-- The pairs of a mapping with those that it merges in front. -/
def mergedPairs : List (Node × Node) → Except Fault (List (Node × Node) × List (Node × Node))
  | [] => .ok ([], [])
  | (key, value) :: rest => do
      if key.tag == .merge then
        let merged ← mergedNode value
        let (others, own) ← mergedPairs rest
        return (merged ++ others, own)
      else
        let (others, own) ← mergedPairs rest
        return (others, (plainKey key, value) :: own)

def mergedNode : Node → Except Fault (List (Node × Node))
  | .mapping _ pairs => do
      let (merged, own) ← mergedPairs pairs
      return merged ++ own
  | .sequence _ items => mergedItems items
  | .outerMapping => .ok []
  | .outerSequence => .ok []
  | .scalar _ _ => unconstructible

/-- The pairs of mappings in a list, those of the last one first. -/
def mergedItems : List Node → Except Fault (List (Node × Node))
  | [] => .ok []
  | item :: rest => do
      if item.isMapping then
        let pairs ← mergedNode item
        return (← mergedItems rest) ++ pairs
      else unconstructible

end

def entries : Node → Except Fault (List (Node × Node))
  | .mapping _ pairs => do
      let (merged, own) ← mergedPairs pairs
      return merged ++ own
  | .outerMapping => .ok []
  | _ => unconstructible

def members : Node → Except Fault (List Node)
  | .sequence _ items => .ok items
  | .outerSequence => .ok []
  | _ => unconstructible

def onlyPair : Node → Except Fault (Node × Node)
  | .mapping _ [pair] => .ok pair
  | _ => unconstructible

/-- Whether a node is filled after the level it stands on. -/
def isCollection (node : Node) : Bool :=
  [Tag.sequence, .mapping, .set, .orderedMapping, .pairs].contains node.tag

def scalarValue (node : Node) : Except Fault Value := do
  match node.tag with
  | .merge | .default | .unknown => unconstructible
  | tag =>
      let text ← node.scalarText
      match tag with
      | .null => return .null
      | .bool => return .bool (← truthOf text)
      | .int => return .int (← Numeral.int text.toList)
      | .float => return .float (← Numeral.float text.toList)
      | .binary =>
          if text.toList.all (·.toNat < 128) then
            match Base64.decode? text.toList with
            | some data => return .bytes data
            | none => unconstructible
          else unconstructible
      | .timestamp =>
          if node.isMapping then throw (.wrongKind "expected string or bytes-like object")
          else
            match Stamp.read? (Implicit.withoutLineFeed text.toList) with
            | some stamp => stamp.value
            | none => throw (.noOperation "'NoneType' object has no attribute 'groupdict'")
      | _ => return .str text

/-- What is met of a node on its own level. -/
def meet (node : Node) : Except Fault Unit :=
  if node.isCollection then .ok () else node.scalarValue.map fun _ => ()

/-- Meet a key and its value; a key may not be a collection. -/
def meetPair (pair : Node × Node) : Except Fault Unit := do
  pair.1.meet
  if pair.1.isCollection then unconstructible
  pair.2.meet

/-- The nodes inside a collection in order, once all of them have been met. -/
def inside (node : Node) : Except Fault (List Node) :=
  match node.tag with
  | .sequence => do
      let items ← node.members
      items.forM meet
      return items
  | .orderedMapping | .pairs => do
      let pairs ← (← node.members).mapM fun item => do
        let pair ← item.onlyPair
        pair.1.meet
        pair.2.meet
        return pair
      return pairs.flatMap fun pair => [pair.1, pair.2]
  | _ => do
      let pairs ← node.entries
      pairs.forM meetPair
      return pairs.flatMap fun pair => [pair.1, pair.2]

mutual

def size : Node → Nat
  | .sequence _ items => sizeItems items + 1
  | .mapping _ pairs => sizePairs pairs + 1
  | _ => 1

def sizeItems : List Node → Nat
  | [] => 0
  | item :: items => size item + sizeItems items

def sizePairs : List (Node × Node) → Nat
  | [] => 0
  | (key, value) :: pairs => size key + size value + sizePairs pairs

end

/-- Fill the collections of a queue, those inside them after it. -/
def fill : Nat → List Node → Except Fault Unit
  | 0, _ => .ok ()
  | _, [] => .ok ()
  | rounds + 1, node :: queue => do
      let inner ← node.inside
      fill rounds (queue ++ inner.filter isCollection)

/-- Whether two keys are the same, numbers that are none included. -/
def sameKey (left right : Value) : Bool :=
  match left, right with
  | .float .nan, .float .nan => true
  | _, _ => left.equals right

/-- Store an entry: a key that is present keeps its place. -/
def store (entries : Entries) (entry : Value × Value) : Entries :=
  if entries.any fun old => sameKey old.1 entry.1 then
    entries.map fun old => if sameKey old.1 entry.1 then (old.1, entry.2) else old
  else entries ++ [entry]

/-- The value of a node at most so many levels deep. Values are finite: where a collection stands
inside itself, an empty one stands in its place. -/
def valueAt : Nat → Node → Except Fault Value
  | 0, node => if node.isMapping then .ok (.map []) else .ok (.list [])
  | levels + 1, node => do
      let pairValues (pairs : List (Node × Node)) : Except Fault (List (Value × Value)) :=
        pairs.mapM fun pair => do return (← valueAt levels pair.1, ← valueAt levels pair.2)
      match node.tag with
      | .sequence => return .list (← (← node.members).mapM (valueAt levels))
      | .mapping => return .map ((← pairValues (← node.entries)).foldl store [])
      | .set => return .set (((← pairValues (← node.entries)).foldl store []).map (·.1))
      | .orderedMapping | .pairs =>
          let pairs ← pairValues (← (← node.members).mapM onlyPair)
          return .list (pairs.map fun pair => .tuple [pair.1, pair.2])
      | _ => node.scalarValue

def value (node : Node) : Except Fault Value := do
  node.meet
  if node.isCollection then fill (node.size + 1) [node]
  valueAt (node.size + 1) node

end Node

def isAllowed (c : Char) : Bool :=
  c == '\t' || c == '\n' || c == '\r' || c == '\x85'
    || 0x20 ≤ c.toNat && c.toNat ≤ 0x7e || 0xa0 ≤ c.toNat && c.toNat ≤ 0xfffd || 0x10000 ≤ c.toNat

def readDocument (text : String) : Except Fault Value := do
  let characters := text.toList
  if !characters.all isAllowed then throw (.unreadable .character)
  match ← Node.ofEvents? (events (tokens characters)) with
  | none => return .null
  | some node => node.value

end BrowserScript.Yaml
