import BrowserScript.Fault
import BrowserScript.Text.Printable

/-!
# Literals

Values are written into programs as literals. A text is quoted by apostrophes unless it holds
apostrophes and no quotation mark; what is not printable is escaped by its code point. Messages
show texts bare and all other values as literals, days and moments in their usual notation.
-/

namespace BrowserScript

namespace Quoted

/-- The quotation mark around a text: an apostrophe where that needs no more escapes. -/
def mark (text : List Char) : Char :=
  if text.contains '\'' && !text.contains '"' then '"' else '\''

def escapePoint (point : Nat) : List Char :=
  if point < 0x100 then '\\' :: 'x' :: Text.hexFixed 2 point
  else if point < 0x10000 then '\\' :: 'u' :: Text.hexFixed 4 point
  else '\\' :: 'U' :: Text.hexFixed 8 point

def escapeChar (quote c : Char) : List Char :=
  if c == quote || c == '\\' then ['\\', c]
  else if c == '\t' then ['\\', 't']
  else if c == '\n' then ['\\', 'n']
  else if c == '\r' then ['\\', 'r']
  else if Text.isPrintable c then [c]
  else escapePoint c.toNat

def encode (text : List Char) : List Char :=
  let quote := mark text
  quote :: text.flatMap (escapeChar quote) ++ [quote]

def escapeByte (quote : Char) (byte : UInt8) : List Char :=
  let c := Char.ofNat byte.toNat
  if byte < 0x80 then escapeChar quote c else escapePoint byte.toNat

def encodeBytes (data : List UInt8) : List Char :=
  let quote := mark (data.map fun byte => Char.ofNat byte.toNat)
  'b' :: quote :: data.flatMap (escapeByte quote) ++ [quote]

end Quoted

def joined (separator : List Char) : List (List Char) → List Char
  | [] => []
  | [part] => part
  | part :: parts => part ++ separator ++ joined separator parts

namespace Value

def integerText (value : Int) : Except Fault (List Char) :=
  let text := intText value
  if integerDigitLimit < (natText value.natAbs).length then
    .error (.invalid (.integerTooLong none))
  else .ok text

def dayLiteral (day : Day) : List Char :=
  "datetime.date(".toList
    ++ joined ", ".toList ([day.year, day.month, day.day].map natText) ++ [')']

def aheadLiteral (seconds : Int) : List Char :=
  if seconds == 0 then "datetime.timezone.utc".toList
  else
    let (days, rest) := splitDays seconds
    let parts :=
      (if days == 0 then [] else ["days=".toList ++ intText days])
        ++ (if rest == 0 then [] else ["seconds=".toList ++ natText rest])
    "datetime.timezone(datetime.timedelta(".toList ++ joined ", ".toList parts ++ "))".toList

/-- The literal of a moment; seconds and fractions are left out when nothing but zeros follow. -/
def momentLiteral (moment : Moment) : List Char :=
  let fine :=
    if moment.microsecond != 0 then [moment.second, moment.microsecond]
    else if moment.second != 0 then [moment.second] else []
  let numbers :=
    [moment.date.year, moment.date.month, moment.date.day, moment.hour, moment.minute] ++ fine
  let parts :=
    numbers.map natText
      ++ (match moment.ahead with
          | none => []
          | some seconds => ["tzinfo=".toList ++ aheadLiteral seconds])
  "datetime.datetime(".toList ++ joined ", ".toList parts ++ [')']

mutual

def literal : Value → Except Fault (List Char)
  | .null => .ok "None".toList
  | .bool true => .ok "True".toList
  | .bool false => .ok "False".toList
  | .int value => integerText value
  | .float value => .ok value.text
  | .str text => .ok (Quoted.encode text.toList)
  | .bytes data => .ok (Quoted.encodeBytes data)
  | .list items => do
      let parts ← literalItems items
      return '[' :: joined ", ".toList parts ++ [']']
  | .tuple items => do
      let parts ← literalItems items
      match parts with
      | [part] => return '(' :: part ++ [',', ')']
      | _ => return '(' :: joined ", ".toList parts ++ [')']
  | .map entries => do
      let parts ← literalEntries entries
      return '\x7b' :: joined ", ".toList parts ++ ['\x7d']
  | .set [] => .ok "set()".toList
  | .set items => do
      let parts ← literalItems items
      return '\x7b' :: joined ", ".toList parts ++ ['\x7d']
  | .date day => .ok (dayLiteral day)
  | .moment time => .ok (momentLiteral time)

def literalItems : List Value → Except Fault (List (List Char))
  | [] => .ok []
  | item :: items => do
      let part ← literal item
      let parts ← literalItems items
      return part :: parts

def literalEntries : List (Value × Value) → Except Fault (List (List Char))
  | [] => .ok []
  | (key, value) :: entries => do
      let left ← literal key
      let right ← literal value
      let parts ← literalEntries entries
      return (left ++ ':' :: ' ' :: right) :: parts

end

/-- The literal of a value. The members of a set are written in the order in which they were given,
which stands for whatever order a set is walked through. -/
def literalText (value : Value) : Except Fault String := do
  return String.ofList (← value.literal)

def display : Value → Except Fault String
  | .str text => .ok text
  | .date day => .ok (String.ofList day.text)
  | .moment time => .ok (String.ofList (time.text ' '))
  | value => value.literalText

/-- A value as it stands in a message that is never refused: the kind names a value that cannot be
written. -/
def displayOrKind (value : Value) : String :=
  match value.display with
  | .ok text => text
  | .error _ => "<unprintable " ++ value.kindName ++ " object>"

end Value

end BrowserScript
