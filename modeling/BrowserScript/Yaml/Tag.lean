import BrowserScript.Text.Digit

/-!
# Tags of nodes

The kinds of values that a node can denote. A plain scalar takes its tag from its text: words for
truth values and null, numbers in several bases, days and moments; any other text is a string. A
line feed after the text does not count.
-/

namespace BrowserScript.Yaml

inductive Tag where
  | null
  | bool
  | int
  | float
  | str
  | binary
  | timestamp
  | sequence
  | mapping
  | set
  | orderedMapping
  | pairs
  /-- The key under which other mappings are merged. -/
  | merge
  /-- The key of the scalar that stands for a mapping. -/
  | default
  | unknown
  deriving DecidableEq

namespace Tag

def ofName (name : String) : Tag :=
  match name.toList.drop "tag:yaml.org,2002:".length |> String.ofList with
  | rest =>
      if name != "tag:yaml.org,2002:" ++ rest then unknown
      else
        match rest with
        | "null" => null
        | "bool" => bool
        | "int" => int
        | "float" => float
        | "str" => str
        | "binary" => binary
        | "timestamp" => timestamp
        | "seq" => sequence
        | "map" => mapping
        | "set" => set
        | "omap" => orderedMapping
        | "pairs" => pairs
        | "merge" => merge
        | "value" => default
        | _ => unknown

end Tag

namespace Implicit

def boolWords : List String :=
  ["yes", "Yes", "YES", "no", "No", "NO", "true", "True", "TRUE", "false", "False", "FALSE",
   "on", "On", "ON", "off", "Off", "OFF"]

def nullWords : List String := ["~", "null", "Null", "NULL", ""]

def unsigned : List Char → List Char
  | '-' :: rest => rest
  | '+' :: rest => rest
  | text => text

def isPadded (c : Char) : Bool := c.isDigit || c == '_'

def isNumber : List Char → Bool
  | [] => false
  | c :: rest => c.isDigit && rest.all isPadded

/-- A count of minutes or seconds: one or two digits below sixty. -/
def isSixtieth : List Char → Bool
  | [c] => c.isDigit
  | [tens, ones] => tens.isDigit && tens.toNat < '6'.toNat && ones.isDigit
  | _ => false

def parts (mark : Char) : List Char → List (List Char)
  | [] => [[]]
  | c :: rest =>
      match parts mark rest with
      | [] => [[c]]
      | first :: others => if c == mark then [] :: first :: others else (c :: first) :: others

/-- A number with sixtieths after it, separated by colons. -/
def isSexagesimal (isFirst : List Char → Bool) (text : List Char) : Bool :=
  match parts ':' text with
  | first :: next :: others => isFirst first && (next :: others).all isSixtieth
  | _ => false

def isPositive (text : List Char) : Bool := isNumber text && text.head? != some '0'

def oneOrMore (accepts : Char → Bool) (text : List Char) : Bool := !text.isEmpty && text.all accepts

/-- Integers: binary, octal, decimal, hexadecimal and in base sixty. -/
def isInt (text : List Char) : Bool :=
  let body := unsigned text
  match body with
  | '0' :: rest =>
      rest.isEmpty || oneOrMore (fun c => '0' ≤ c && c ≤ '7' || c == '_') rest
        || (match rest with
            | 'b' :: digits => oneOrMore (fun c => c == '0' || c == '1' || c == '_') digits
            | 'x' :: digits => oneOrMore (fun c => Text.isHexDigit c || c == '_') digits
            | _ => false)
  | _ => isPositive body || isSexagesimal isPositive body

def isExponent : List Char → Bool
  | [] => true
  | mark :: sign :: digits =>
      (mark == 'e' || mark == 'E') && (sign == '-' || sign == '+') && oneOrMore Char.isDigit digits
  | _ => false

def isFraction (text : List Char) : Bool := isExponent (text.dropWhile isPadded)

/-- Floating-point numbers: decimal with a point, in base sixty, infinity and not-a-number. -/
def isFloat (text : List Char) : Bool :=
  let body := unsigned text
  let whole := body.takeWhile (· != '.')
  match body.dropWhile (· != '.') with
  | [] => false
  | _ :: fraction =>
      isNumber whole && isFraction fraction
        || text.head? == some '.' && fraction.head?.any Char.isDigit && isFraction fraction
        || isSexagesimal isNumber whole && fraction.all isPadded
        || whole.isEmpty && ["inf", "Inf", "INF"].contains (String.ofList fraction)
        || [".nan", ".NaN", ".NAN"].contains (String.ofList text)

def digits12? : List Char → Option (List Char × List Char)
  | c :: rest =>
      if c.isDigit then
        match rest with
        | d :: rest' => if d.isDigit then some ([c, d], rest') else some ([c], rest)
        | [] => some ([c], [])
      else none
  | [] => none

end Implicit

structure Stamp where
  year : List Char
  month : List Char
  day : List Char
  clock : Option (List Char × List Char × List Char)
  fraction : List Char
  /-- The sign, hours and minutes of the distance from universal time; none for a clock that shows
  universal time. -/
  zone : Option (Option (Char × List Char × List Char))

namespace Stamp

open Implicit

def digits? (count : Nat) (text : List Char) : Option (List Char × List Char) :=
  let taken := text.take count
  if taken.length == count && taken.all Char.isDigit then some (taken, text.drop count) else none

def after? (mark : Char) : List Char → Option (List Char)
  | c :: rest => if c == mark then some rest else none
  | [] => none

def zone? (text : List Char) : Option (Option (Option (Char × List Char × List Char))) :=
  match text.dropWhile fun c => c == ' ' || c == '\t' with
  | [] => if text.isEmpty then some none else none
  | ['Z'] => some (some none)
  | sign :: rest =>
      if sign == '-' || sign == '+' then do
        let (hours, rest) ← digits12? rest
        match rest with
        | [] => return some (some (sign, hours, []))
        | _ =>
            let (minutes, rest) ← digits? 2 (← after? ':' rest)
            if rest.isEmpty then return some (some (sign, hours, minutes)) else none
      else none

def clock? (stamp : Stamp) (text : List Char) : Option Stamp := do
  let start ←
    match text with
    | 'T' :: rest => some rest
    | 't' :: rest => some rest
    | c :: _ =>
        if c == ' ' || c == '\t' then some (text.dropWhile fun c => c == ' ' || c == '\t') else none
    | [] => none
  let (hour, rest) ← digits12? start
  let (minute, rest) ← digits? 2 (← after? ':' rest)
  let (second, rest) ← digits? 2 (← after? ':' rest)
  let (fraction, rest) :=
    match rest with
    | '.' :: tail => (tail.takeWhile Char.isDigit, tail.dropWhile Char.isDigit)
    | _ => ([], rest)
  return { stamp with clock := some (hour, minute, second), fraction, zone := ← zone? rest }

/-- The day or moment that a text writes, with one or two digits for month, day and hour. -/
def read? (text : List Char) : Option Stamp := do
  let (year, rest) ← digits? 4 text
  let (month, rest) ← digits12? (← after? '-' rest)
  let (day, rest) ← digits12? (← after? '-' rest)
  let stamp : Stamp := ⟨year, month, day, none, [], none⟩
  if rest.isEmpty then return stamp else clock? stamp rest

end Stamp

namespace Implicit

def isTimestamp (text : List Char) : Bool :=
  match Stamp.read? text with
  | none => false
  | some stamp => stamp.clock.isSome || stamp.month.length == 2 && stamp.day.length == 2

def withoutLineFeed (text : List Char) : List Char :=
  if text.getLast? == some '\n' then text.dropLast else text

/-- The tag of a plain text. A text is matched by its first character only with the kinds that may
start so, which matters for a line feed alone. -/
def tag (text : String) : Tag :=
  let body := withoutLineFeed text.toList
  let word := String.ofList body
  if boolWords.contains word then .bool
  else if isFloat body then .float
  else if isInt body then .int
  else if word == "<<" then .merge
  else if nullWords.contains word && text != "\n" then .null
  else if isTimestamp body then .timestamp
  else if word == "=" then .default
  else .str

end Implicit

end BrowserScript.Yaml
