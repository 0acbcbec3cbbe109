import BrowserScript.Fault
import BrowserScript.Text.Digit

/-!
# Text in bytes

Reading stops at the first byte sequence that is no character and says where it lies and what is
wrong with it.
-/

namespace BrowserScript.Text.Utf8

inductive Defect where
  | start
  | continuation
  | cutOff
  deriving DecidableEq

def Defect.message : Defect → String
  | .start => "invalid start byte"
  | .continuation => "invalid continuation byte"
  | .cutOff => "unexpected end of data"

/-- The number of bytes of a character by its first byte. -/
def width? (first : Nat) : Option Nat :=
  if first < 0x80 then some 1
  else if 0xc2 ≤ first && first ≤ 0xdf then some 2
  else if 0xe0 ≤ first && first ≤ 0xef then some 3
  else if 0xf0 ≤ first && first ≤ 0xf4 then some 4
  else none

/-- Whether a byte may follow the first one of a character: some first bytes allow only part of the
usual ones. -/
def isSecond (first second : Nat) : Bool :=
  0x80 ≤ second && second ≤ 0xbf
    && !(first == 0xe0 && second < 0xa0) && !(first == 0xed && 0xa0 ≤ second)
    && !(first == 0xf0 && second < 0x90) && !(first == 0xf4 && 0x90 ≤ second)

/-- The number of bytes after the first that can belong to its character. -/
def continued (first : Nat) (rest : List UInt8) : Nat :=
  match rest with
  | [] => 0
  | second :: others =>
      if isSecond first second.toNat then
        (others.takeWhile fun byte => 0x80 ≤ byte.toNat && byte.toNat ≤ 0xbf).length + 1
      else 0

def point (width first : Nat) (rest : List UInt8) : Nat :=
  let lead := if width == 1 then first else first % Nat.pow 2 (7 - width)
  rest.foldl (fun total byte => total * 64 + byte.toNat % 64) lead

def decodeFrom (index : Nat) (bytes : List UInt8) : Except (Nat × Nat × Defect) (List Char) :=
  match bytes with
  | [] => .ok []
  | byte :: rest =>
      let first := byte.toNat
      match width? first with
      | none => .error (index, 1, .start)
      | some width =>
          let fitting := min (continued first rest) (width - 1)
          if fitting == width - 1 then do
            let others ← decodeFrom (index + width) (rest.drop (width - 1))
            return Char.ofNat (point width first (rest.take (width - 1))) :: others
          else if fitting == rest.length then .error (index, rest.length + 1, .cutOff)
          else .error (index, fitting + 1, .continuation)
termination_by bytes.length
decreasing_by simp only [List.length_cons, List.length_drop]; omega

/-- The characters of bytes; a defect is shown with its first byte, or with its extent if it has
more. -/
def decode (bytes : List UInt8) : Except Fault (List Char) :=
  (decodeFrom 0 bytes).mapError fun (index, length, defect) =>
    let number (value : Nat) : String := String.ofList (natText value)
    let place :=
      if length == 1 then
        "byte 0x" ++ String.ofList (hexFixed 2 ((bytes.drop index).head?.getD 0).toNat)
          ++ " in position " ++ number index
      else "bytes in position " ++ number index ++ "-" ++ number (index + length - 1)
    .undecodable ("'utf-8' codec can't decode " ++ place ++ ": " ++ defect.message)

end BrowserScript.Text.Utf8
