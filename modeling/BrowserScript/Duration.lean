import BrowserScript.Value.Literal

/-!
# Durations

A duration is a number with an optional unit somewhere in a text: `500ms`, `2s`, `1m`. Without a
unit it counts milliseconds. The first run of digits decides, and what follows it names the unit.
-/

namespace BrowserScript

namespace Duration

/-- The milliseconds of the unit that a text starts with; one when it starts with none. -/
def unitFactor : List Char → Nat
  | 'm' :: 's' :: _ => 1
  | 's' :: _ => 1000
  | 'm' :: _ => 60000
  | _ => 1

def ofDigits (digits : List Char) : Nat :=
  digits.foldl (fun total c => 10 * total + (Text.digit? c).getD 0) 0

/-- The milliseconds that a text denotes; a text without digits denotes none. -/
def read? (text : List Char) : Option (Except InvalidValue Nat) :=
  let start := text.dropWhile (!Text.isDigit ·)
  let digits := start.takeWhile Text.isDigit
  let rest := start.dropWhile Text.isDigit
  if digits.isEmpty then none
  else if integerDigitLimit < digits.length then
    some (.error (.integerTooLong (some digits.length)))
  else some (.ok (ofDigits digits * unitFactor rest))

/-- The milliseconds of a duration token. Numbers without fraction count milliseconds already. -/
def milliseconds (token : Value) : Except Fault Value :=
  match token with
  | .int value => .ok (.int value)
  | .bool value => .ok (.bool value)
  | _ => do
      let text ← token.display
      match read? text.toList with
      | some (.ok value) => return .int value
      | some (.error cause) => throw (.invalid cause)
      | none => throw (.invalid (.duration (← token.literalText)))

def thousandth (value : Int) : Except Fault Binary64 :=
  match Binary64.ofQuotient (value < 0) value.natAbs 1000 with
  | .infinite _ => .error (.overflow .quotient)
  | result => .ok result

def seconds (token : Value) : Except Fault Binary64 := do
  let count ← milliseconds token
  thousandth (count.wholeNumber?.getD 0)

end Duration

end BrowserScript
