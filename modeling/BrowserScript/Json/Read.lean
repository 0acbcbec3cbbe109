import BrowserScript.Fault
import BrowserScript.Text.Digit

/-!
# Values in JSON

Reading follows the usual grammar, which numbers that are not finite extend. A text that does not
follow it is refused with what was expected and where.
-/

namespace BrowserScript.Json

inductive Problem where
  | byteOrderMark
  | value
  | propertyName
  | colon
  | comma
  | unterminated
  | control
  | escape
  | unicodeEscape
  | extra
  deriving DecidableEq

def Problem.message : Problem → String
  | .byteOrderMark => "Unexpected UTF-8 BOM (decode using utf-8-sig)"
  | .value => "Expecting value"
  | .propertyName => "Expecting property name enclosed in double quotes"
  | .colon => "Expecting ':' delimiter"
  | .comma => "Expecting ',' delimiter"
  | .unterminated => "Unterminated string starting at"
  | .control => "Invalid control character at"
  | .escape => "Invalid \\escape"
  | .unicodeEscape => "Invalid \\uXXXX escape"
  | .extra => "Extra data"

inductive Refusal where
  | problem (cause : Problem) (index : Nat)
  /-- An integer with more digits than can be read. -/
  | tooLong (digits : Nat)

/-- What is left of a text and the number of characters before it. -/
structure Cursor where
  index : Nat
  rest : List Char

namespace Cursor

def forward (cursor : Cursor) (count : Nat) : Cursor :=
  ⟨cursor.index + count, cursor.rest.drop count⟩

def skipBlanks (cursor : Cursor) : Cursor :=
  cursor.forward
    (cursor.rest.takeWhile fun c => c == ' ' || c == '\t' || c == '\n' || c == '\r').length

def isAt (cursor : Cursor) (c : Char) : Bool := cursor.rest.head? == some c

end Cursor

def refuse {α : Type} (cause : Problem) (cursor : Cursor) : Except Refusal α :=
  .error (.problem cause cursor.index)

def escaped? : Char → Option Char
  | '"' => some '"'
  | '\\' => some '\\'
  | '/' => some '/'
  | 'b' => some '\x08'
  | 'f' => some '\x0c'
  | 'n' => some '\n'
  | 'r' => some '\r'
  | 't' => some '\t'
  | _ => none

def fourDigits? (text : List Char) : Option Nat :=
  let digits := text.take 4
  if digits.length == 4 && digits.all Text.isHexDigit then some (Text.ofHex digits) else none

/-- A character by number, after the letter of its escape, and the number of characters that it
takes. Two numbers that make one character count as one. -/
def numbered (index : Nat) (rest : List Char) : Except Refusal (Char × Nat) :=
  match if rest.length ≤ 4 then none else fourDigits? rest with
  | none => .error (.problem .unicodeEscape (index + 1))
  | some high =>
      if 0xd800 ≤ high && high < 0xdc00 && 10 < rest.length
          && (rest.drop 4).take 2 == ['\\', 'u'] then
        match fourDigits? (rest.drop 6) with
        | none => .error (.problem .unicodeEscape (index + 7))
        | some low =>
            if 0xdc00 ≤ low && low < 0xe000 then
              .ok (Char.ofNat (0x10000 + (high - 0xd800) * 0x400 + (low - 0xdc00)), 10)
            else .ok (Text.ofCodePoint high, 4)
      else .ok (Text.ofCodePoint high, 4)

/-- The characters of a string up to its closing quotation mark, and the place after it. -/
def stringFrom (start index : Nat) (rest : List Char) : Except Refusal (List Char × Cursor) :=
  match rest with
  | [] => .error (.problem .unterminated start)
  | '"' :: rest => .ok ([], ⟨index + 1, rest⟩)
  | '\\' :: [] => .error (.problem .unterminated start)
  | '\\' :: 'u' :: rest => do
      let (c, count) ← numbered index rest
      let (others, cursor) ← stringFrom start (index + 2 + count) (rest.drop count)
      return (c :: others, cursor)
  | '\\' :: letter :: rest =>
      match escaped? letter with
      | none => .error (.problem .escape index)
      | some c => do
          let (others, cursor) ← stringFrom start (index + 2) rest
          return (c :: others, cursor)
  | c :: rest =>
      if c.toNat < 0x20 then .error (.problem .control index)
      else do
        let (others, cursor) ← stringFrom start (index + 1) rest
        return (c :: others, cursor)
termination_by rest.length
decreasing_by all_goals simp only [List.length_cons, List.length_drop]; omega

def string (cursor : Cursor) : Except Refusal (String × Cursor) := do
  let (text, after) ← stringFrom cursor.index (cursor.index + 1) (cursor.rest.drop 1)
  return (String.ofList text, after)

/-- The length of a number's whole part without its sign. -/
def wholeLength : List Char → Nat
  | [] => 0
  | '0' :: _ => 1
  | c :: rest => if c.isDigit then (rest.takeWhile Char.isDigit).length + 1 else 0

/-- The length of a fraction with its point, if a digit follows that. -/
def fractionLength : List Char → Nat
  | '.' :: rest =>
      let digits := (rest.takeWhile Char.isDigit).length
      if digits == 0 then 0 else digits + 1
  | _ => 0

/-- The length of an exponent with its mark, if it has digits. -/
def exponentLength : List Char → Nat
  | mark :: rest =>
      if mark == 'e' || mark == 'E' then
        let sign := if rest.head? == some '-' || rest.head? == some '+' then 1 else 0
        let digits := ((rest.drop sign).takeWhile Char.isDigit).length
        if digits == 0 then 0 else digits + sign + 1
      else 0
  | [] => 0

/-- A number: an integer unless it has a fraction or an exponent. -/
def number (cursor : Cursor) : Except Refusal (Value × Cursor) :=
  let negative := cursor.isAt '-'
  let body := if negative then cursor.rest.drop 1 else cursor.rest
  let whole := wholeLength body
  if whole == 0 then refuse .value cursor
  else
    let fraction := fractionLength (body.drop whole)
    let exponent := exponentLength (body.drop (whole + fraction))
    let after := cursor.forward (whole + fraction + exponent + if negative then 1 else 0)
    if fraction == 0 && exponent == 0 then
      if integerDigitLimit < whole then .error (.tooLong whole)
      else
        let magnitude : Int := Numeral.ofDigits (body.take whole)
        .ok (.int (if negative then -magnitude else magnitude), after)
    else
      .ok (.float ((Numeral.readDecimal? negative (body.take (whole + fraction + exponent))).getD
        .nan), after)

def words : List (String × Value) :=
  [("null", .null), ("true", .bool true), ("false", .bool false), ("NaN", .float .nan),
   ("Infinity", .float (.infinite false)), ("-Infinity", .float (.infinite true))]

def plain (cursor : Cursor) : Except Refusal (Value × Cursor) :=
  match words.find? fun word => word.1.toList.isPrefixOf cursor.rest with
  | some word => .ok (word.2, cursor.forward word.1.length)
  | none => number cursor

mutual

/-- The value at a place, whose parts are at most so many. -/
def value : Nat → Cursor → Except Refusal (Value × Cursor)
  | 0, cursor => refuse .value cursor
  | rounds + 1, cursor =>
      if cursor.isAt '"' then do
        let (text, after) ← string cursor
        return (.str text, after)
      else if cursor.isAt '\x7b' then do
        let inner := (cursor.forward 1).skipBlanks
        if inner.isAt '\x7d' then return (.map [], inner.forward 1)
        let (pairs, after) ← members rounds inner
        return (.map (Entries.ofPairs pairs), after)
      else if cursor.isAt '[' then do
        let inner := (cursor.forward 1).skipBlanks
        if inner.isAt ']' then return (.list [], inner.forward 1)
        let (items, after) ← elements rounds inner
        return (.list items, after)
      else plain cursor

/-- The members of an object from the name of the first one. -/
def members : Nat → Cursor → Except Refusal (List (Value × Value) × Cursor)
  | 0, cursor => refuse .value cursor
  | rounds + 1, cursor => do
      if !cursor.isAt '"' then refuse .propertyName cursor
      let (name, after) ← string cursor
      let colon := after.skipBlanks
      if !colon.isAt ':' then refuse .colon colon
      let (item, after) ← value rounds (colon.forward 1).skipBlanks
      let next := after.skipBlanks
      if next.isAt '\x7d' then return ([(.str name, item)], next.forward 1)
      if !next.isAt ',' then refuse .comma next
      let (others, after) ← members rounds (next.forward 1).skipBlanks
      return ((.str name, item) :: others, after)

def elements : Nat → Cursor → Except Refusal (List Value × Cursor)
  | 0, cursor => refuse .value cursor
  | rounds + 1, cursor => do
      let (item, after) ← value rounds cursor
      let next := after.skipBlanks
      if next.isAt ']' then return ([item], next.forward 1)
      if !next.isAt ',' then refuse .comma next
      let (others, after) ← elements rounds (next.forward 1).skipBlanks
      return (item :: others, after)

end

def read (text : List Char) : Except Refusal Value := do
  let start : Cursor := ⟨0, text⟩
  if start.isAt '\ufeff' then refuse .byteOrderMark start
  let (result, after) ← value (text.length + 1) start.skipBlanks
  let rest := after.skipBlanks
  if !rest.rest.isEmpty then refuse .extra rest
  return result

def placeText (text : List Char) (index : Nat) : String :=
  let before := text.take index
  let line := before.count '\n' + 1
  let column := (before.reverse.takeWhile (· != '\n')).length + 1
  "line " ++ String.ofList (natText line) ++ " column " ++ String.ofList (natText column)
    ++ " (char " ++ String.ofList (natText index) ++ ")"

def problemText (text : List Char) (cause : Problem) (index : Nat) : String :=
  cause.message ++ ": " ++ placeText text index

end BrowserScript.Json
