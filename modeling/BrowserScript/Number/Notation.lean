import BrowserScript.Number.Shortest
import BrowserScript.Text.Blank
import BrowserScript.Text.Digit

/-!
# Numbers as text

Floating-point numbers are written with the fewest digits that read back, positionally between
`10 ^ (-4)` and `10 ^ 16` and with an exponent of at least two digits elsewhere. Readers accept
digits of any script, single underscores between digits and white space around the number.
-/

namespace BrowserScript

def natText (value : Nat) : List Char := Nat.toDigits 10 value

def intText (value : Int) : List Char :=
  if value < 0 then '-' :: natText value.natAbs else natText value.natAbs

def integerDigitLimit : Nat := 4300

namespace Binary64

/-- The exponent of a decimal: its sign and at least two digits. -/
def exponentText (exponent : Int) : List Char :=
  let digits := natText exponent.natAbs
  (if exponent < 0 then '-' else '+') :: (if digits.length < 2 then '0' :: digits else digits)

def decimalText (decimal : Decimal) : List Char :=
  let digits := natText decimal.digits
  let point : Int := digits.length + decimal.exponent
  if -4 < point && point ≤ 16 then
    if point ≤ 0 then '0' :: '.' :: List.replicate (-point).toNat '0' ++ digits
    else if (digits.length : Int) ≤ point then
      digits ++ List.replicate (point - digits.length).toNat '0' ++ ['.', '0']
    else digits.take point.toNat ++ '.' :: digits.drop point.toNat
  else
    let fraction := digits.drop 1
    digits.take 1 ++ (if fraction.isEmpty then [] else '.' :: fraction)
      ++ 'e' :: exponentText (point - 1)

def text : Binary64 → List Char
  | .nan => "nan".toList
  | .infinite negative => if negative then "-inf".toList else "inf".toList
  | .finite negative significand exponent =>
      let magnitude :=
        if significand == 0 then "0.0".toList
        else decimalText (roundingInterval significand exponent).shortest
      if negative then '-' :: magnitude else magnitude

end Binary64

namespace Numeral

/-- Digits of any script become the seven-bit ones and white space becomes spaces. -/
def simplify (text : List Char) : List Char :=
  text.map fun c =>
    match Text.digit? c with
    | some value => Char.ofNat (48 + value)
    | none => if Text.isSpace c then ' ' else c

/-- The text without underscores, each of which must stand between two digits. -/
def dropUnderscores? (previousDigit : Bool) : List Char → Option (List Char)
  | [] => some []
  | '_' :: rest =>
      match rest with
      | [] => none
      | next :: _ =>
          if previousDigit && next.isDigit then dropUnderscores? false rest else none
  | c :: rest => (dropUnderscores? c.isDigit rest).map (c :: ·)

def splitSign : List Char → Bool × List Char
  | '-' :: rest => (true, rest)
  | '+' :: rest => (false, rest)
  | text => (false, text)

def ofDigits (digits : List Char) : Nat :=
  digits.foldl (fun total c => 10 * total + (c.toNat - 48)) 0

def ofBase (base : Nat) (digits : List Char) : Nat :=
  digits.foldl (fun total c => base * total + (Text.hexDigit? c).getD 0) 0

/-- An exponent after its mark; an absent mark is the exponent zero. -/
def readExponent? (text : List Char) : Option Int :=
  match text with
  | [] => some 0
  | c :: rest =>
      if c == 'e' || c == 'E' then
        let (negative, digits) := splitSign rest
        if !digits.isEmpty && digits.all Char.isDigit then
          some (if negative then -(ofDigits digits : Int) else ofDigits digits)
        else none
      else none

def readDecimal? (negative : Bool) (text : List Char) : Option Binary64 :=
  let whole := text.takeWhile Char.isDigit
  let rest := text.dropWhile Char.isDigit
  let (fraction, rest) :=
    match rest with
    | '.' :: tail => (tail.takeWhile Char.isDigit, tail.dropWhile Char.isDigit)
    | other => ([], other)
  if whole.isEmpty && fraction.isEmpty then none
  else (readExponent? rest).map fun exponent =>
    Binary64.ofDecimal negative (ofDigits (whole ++ fraction)) (exponent - fraction.length)

def readPlain? (text : List Char) : Option Binary64 :=
  let (negative, body) := splitSign text
  let word := String.ofList (body.map Char.toLower)
  if word == "inf" || word == "infinity" then some (.infinite negative)
  else if word == "nan" then some .nan
  else readDecimal? negative body

/-- The number that a text denotes, white space around it and digits of any script allowed. -/
def readFloat? (text : List Char) : Option Binary64 :=
  let body := Text.trimSpace (simplify text)
  (dropUnderscores? false body).bind readPlain?

inductive IntReading where
  | value (result : Int)
  | tooLong (digits : Nat)
  | malformed

/-- The integer that a decimal text denotes, white space around it and digits of any script
allowed. Digits are counted before what follows them is refused. -/
def readInt (text : List Char) : IntReading :=
  let (negative, body) := splitSign (Text.trimSpace (simplify text))
  let run := body.takeWhile fun c => c.isDigit || c == '_'
  match dropUnderscores? false run with
  | none => .malformed
  | some digits =>
      if integerDigitLimit < digits.length then .tooLong digits.length
      else if digits.isEmpty || run.length < body.length then .malformed
      else .value (if negative then -(ofDigits digits : Int) else ofDigits digits)

end Numeral

end BrowserScript
