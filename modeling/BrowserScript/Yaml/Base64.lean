import BrowserScript.Text.Digit

/-!
# Bytes in base sixty-four

Characters outside the alphabet are passed over. The data end at the padding that completes a group
of four characters; without it, the last group must be complete.
-/

namespace BrowserScript.Yaml.Base64

def sextet? (c : Char) : Option Nat :=
  if 'A' ≤ c && c ≤ 'Z' then some (c.toNat - 65)
  else if 'a' ≤ c && c ≤ 'z' then some (c.toNat - 71)
  else if '0' ≤ c && c ≤ '9' then some (c.toNat + 4)
  else if c == '+' then some 62
  else if c == '/' then some 63
  else none

/-- The bytes of a text, given the values of the group that is open and the padding in it. -/
def decodeFrom (group : List Nat) (padding : Nat) : List Char → Option (List UInt8)
  | [] => if group.isEmpty then some [] else none
  | c :: rest =>
      if c == '=' then
        if 2 ≤ group.length then
          if 4 ≤ group.length + padding + 1 then some (close group)
          else decodeFrom group (padding + 1) rest
        else decodeFrom group padding rest
      else
        match sextet? c with
        | none => decodeFrom group padding rest
        | some value =>
            if group.length == 3 then
              (decodeFrom [] 0 rest).map (close (group ++ [value]) ++ ·)
            else decodeFrom (group ++ [value]) 0 rest
where
  /-- The whole bytes of a group. -/
  close : List Nat → List UInt8
    | [a, b] => [UInt8.ofNat (a * 4 + b / 16)]
    | [a, b, c] => [UInt8.ofNat (a * 4 + b / 16), UInt8.ofNat (b % 16 * 16 + c / 4)]
    | [a, b, c, d] =>
        [UInt8.ofNat (a * 4 + b / 16), UInt8.ofNat (b % 16 * 16 + c / 4),
         UInt8.ofNat (c % 4 * 64 + d)]
    | _ => []

def decode? (text : List Char) : Option (List UInt8) := decodeFrom [] 0 text

end BrowserScript.Yaml.Base64
