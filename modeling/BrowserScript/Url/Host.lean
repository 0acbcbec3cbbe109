import BrowserScript.Text.Casing
import BrowserScript.Url.HostChar
import BrowserScript.Url.Punycode

/-!
# Hosts of addresses

A host is a name, four bytes or eight groups in brackets. A name whose last label is a number is
read as four bytes.
-/

namespace BrowserScript.Url

inductive Refusal where
  | emptyText
  | noScheme
  | emptyHost
  | port
  | ipv4
  | ipv6
  | name
  | hostCharacter
  deriving DecidableEq

def Refusal.message : Refusal → String
  | .emptyText => "input is empty"
  | .noScheme => "relative URL without a base"
  | .emptyHost => "empty host"
  | .port => "invalid port number"
  | .ipv4 => "invalid IPv4 address"
  | .ipv6 => "invalid IPv6 address"
  | .name => "invalid international domain name"
  | .hostCharacter => "invalid domain character"

def splitOn (mark : Char) : List Char → List (List Char)
  | [] => [[]]
  | c :: rest =>
      match splitOn mark rest with
      | [] => [[c]]
      | first :: others => if c == mark then [] :: first :: others else (c :: first) :: others

namespace Ipv4

def ofDigits? (base : Nat) (digits : List Char) : Option Nat :=
  if digits.all fun c => (Text.hexDigit? c).any (· < base) then some (Numeral.ofBase base digits)
  else none

def number? : List Char → Option Nat
  | [] => none
  | ['0'] => some 0
  | '0' :: 'x' :: digits => ofDigits? 16 digits
  | '0' :: 'X' :: digits => ofDigits? 16 digits
  | '0' :: digits => ofDigits? 8 digits
  | digits => ofDigits? 10 digits

/-- The labels of a name without the empty one after a last dot. -/
def labels (name : List Char) : List (List Char) :=
  let parts := splitOn '.' name
  if parts.getLast? == some [] then parts.dropLast else parts

def endsInNumber (name : List Char) : Bool :=
  match (labels name).getLast? with
  | none => false
  | some last => !last.isEmpty && last.all Char.isDigit || (number? last).isSome

def isAddress (name : List Char) : Bool :=
  match (labels name).mapM number? with
  | none => false
  | some numbers =>
      match numbers.getLast? with
      | none => false
      | some last =>
          numbers.length ≤ 4 && numbers.dropLast.all (· < 256)
            && last < Nat.pow 256 (5 - numbers.length)

end Ipv4

namespace Ipv6

def isByte (digits : List Char) : Bool :=
  !digits.isEmpty && digits.length ≤ 3 && digits.all Char.isDigit
    && (digits.length == 1 || digits.head? != some '0') && Numeral.ofDigits digits < 256

def isGroup (text : List Char) : Bool :=
  !text.isEmpty && text.length ≤ 4 && text.all Text.isHexDigit

def isQuad (text : List Char) : Bool :=
  let parts := splitOn '.' text
  parts.length == 4 && parts.all isByte

/-- The number of groups that parts stand for; four bytes stand for the last two. -/
def groups? : List (List Char) → Option Nat
  | [] => some 0
  | [last] =>
      if isGroup last then some 1 else if isQuad last then some 2
      else if last.isEmpty then some 0 else none
  | part :: rest =>
      if isGroup part then (groups? rest).map (· + 1)
      else if part.isEmpty then groups? rest
      else none

/-- Whether a text in brackets is an address. Two colons in a row stand once for groups that are
zero. -/
def isAddress (text : List Char) : Bool :=
  let parts := splitOn ':' text
  let start := parts.take 2 == [[], []]
  let parts' := if start then parts.drop 1 else parts
  let finish := text.length ≥ 2 && text.reverse.take 2 == [':', ':']
  let inner := if finish then parts'.dropLast else parts'
  let empties := inner.countP List.isEmpty
  let edges := (start || inner.head? != some []) && (finish || inner.getLast? != some [])
  match groups? inner with
  | none => false
  | some count => edges && (empties == 0 && count == 8 || empties == 1 && count ≤ 7)

end Ipv6

namespace HostName

def unescape : List Char → List UInt8
  | [] => []
  | '%' :: high :: low :: rest =>
      if Text.isHexDigit high && Text.isHexDigit low then
        UInt8.ofNat (Text.ofHex [high, low]) :: unescape rest
      else 37 :: unescape (high :: low :: rest)
  | c :: rest => c.toString.toUTF8.toList ++ unescape rest

def isSettled (c : Char) : Bool :=
  hostChars? c == some [c] && Text.lowerChar c == [c]

/-- Whether joiners stand only where the character before them asks for one. -/
def joinersFit (before : Option Char) : List Char → Bool
  | [] => true
  | c :: rest =>
      (c.toNat != 0x200c && c.toNat != 0x200d
        || before.any fun previous => viramaRanges.has previous.toNat)
        && joinersFit (some c) rest

/-- Whether a label may stand in a host name: it starts with no combining character, and one in
seven-bit characters stands for a label that has others. -/
def isLabel (label : List Char) : Bool :=
  match label with
  | 'x' :: 'n' :: '-' :: '-' :: code =>
      match Punycode.decode? code with
      | none => false
      | some decoded =>
          decoded.any (fun c => 0x80 ≤ c.toNat) && decoded.all isSettled && isPlain decoded
  | _ => isPlain label
where
  /-- The rules of a label that stands for itself. -/
  isPlain (label : List Char) : Bool :=
    !(label.head?.any fun c => markRanges.has c.toNat) && joinersFit none label

def ofText? (text : List Char) : Option (List Char) := do
  let decoded ← String.fromUTF8? ⟨(unescape text).toArray⟩
  let name := (← decoded.toList.mapM hostChars?).flatten
  if (splitOn '.' name).all isLabel then some name else none

end HostName

namespace Host

def bracketed? (text : List Char) : Option Refusal :=
  if text.getLast? == some ']' && Ipv6.isAddress (text.drop 1).dropLast then none else some .ipv6

def named? (text : List Char) : Option Refusal :=
  if text.head? == some '[' then bracketed? text
  else
    match HostName.ofText? text with
    | none => some .name
    | some name =>
        if name.isEmpty then some .emptyHost
        else if Ipv4.endsInNumber name && !Ipv4.isAddress name then some .ipv4
        else none

def other? (text : List Char) : Option Refusal :=
  if text.head? == some '[' then bracketed? text
  else if text.any fun c => c.toNat == 0 || " #/:<>?@[\\]^|".toList.contains c then
    some .hostCharacter
  else none

end Host

end BrowserScript.Url
