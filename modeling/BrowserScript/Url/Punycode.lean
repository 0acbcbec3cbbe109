import BrowserScript.Text.Digit

/-!
# Host labels in seven-bit characters

A label with other characters is written as its seven-bit ones, a hyphen and the distances between
the others in increasing order. Distances are numbers with variable base whose digits adapt to the
distances before.
-/

namespace BrowserScript.Url.Punycode

/-- The value of a digit: letters first, then figures. -/
def digit? (c : Char) : Option Nat :=
  if 'a' ≤ c && c ≤ 'z' then some (c.toNat - 97)
  else if 'A' ≤ c && c ≤ 'Z' then some (c.toNat - 65)
  else if '0' ≤ c && c ≤ '9' then some (c.toNat - 48 + 26)
  else none

/-- The least value of a digit that another one follows. -/
def threshold (weight bias : Nat) : Nat :=
  if weight ≤ bias then 1 else if bias + 26 ≤ weight then 26 else weight - bias

def shrink (distance bias : Nat) : Nat × Nat :=
  if 455 < distance then shrink (distance / 35) (bias + 36) else (distance, bias)
termination_by distance
decreasing_by exact Nat.div_lt_self (by omega) (by omega)

def adapt (distance count : Nat) (first : Bool) : Nat :=
  let scaled := if first then distance / 700 else distance / 2
  let (distance, bias) := shrink (scaled + scaled / count) 0
  bias + 36 * distance / (distance + 38)

/-- The number that the next digits write, and the digits after it. -/
def number? (bias weight unit total : Nat) : List Char → Option (Nat × List Char)
  | [] => none
  | c :: rest => do
      let digit ← digit? c
      let total := total + digit * unit
      let least := threshold weight bias
      if digit < least then some (total, rest)
      else number? bias (weight + 36) (unit * (36 - least)) total rest

def insertions? (label : List Char) (point position bias : Nat) (first : Bool)
    (digits : List Char) : Nat → Option (List Char)
  | 0 => if digits.isEmpty then some label else none
  | rounds + 1 =>
      if digits.isEmpty then some label
      else do
        let (distance, rest) ← number? bias 36 1 0 digits
        let count := label.length + 1
        let place := position + distance
        let point := point + place / count
        if 0x110000 ≤ point || 0xd800 ≤ point && point < 0xe000 then none
        else
          insertions? (label.insertIdx (place % count) (Char.ofNat point)) point
            (place % count + 1) (adapt distance count first) false rest rounds

def decode? (text : List Char) : Option (List Char) :=
  let digits := (text.reverse.takeWhile (· != '-')).reverse
  let label := text.take (text.length - digits.length - 1)
  insertions? label 128 0 72 true digits digits.length

end BrowserScript.Url.Punycode
