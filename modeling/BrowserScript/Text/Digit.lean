/-!
# Digits and code points

Every script writes its ten decimal digits at ten consecutive code points, so the zeros alone
determine which characters are digits and what they are worth. Escapes give characters by
hexadecimal numbers.
-/

namespace BrowserScript.Text

def zeros : List Nat :=
  [0x30, 0x660, 0x6f0, 0x7c0, 0x966, 0x9e6, 0xa66, 0xae6, 0xb66, 0xbe6, 0xc66, 0xce6, 0xd66,
   0xde6, 0xe50, 0xed0, 0xf20, 0x1040, 0x1090, 0x17e0, 0x1810, 0x1946, 0x19d0, 0x1a80,
   0x1a90, 0x1b50, 0x1bb0, 0x1c40, 0x1c50, 0xa620, 0xa8d0, 0xa900, 0xa9d0, 0xa9f0, 0xaa50,
   0xabf0, 0xff10, 0x104a0, 0x10d30, 0x11066, 0x110f0, 0x11136, 0x111d0, 0x112f0, 0x11450,
   0x114d0, 0x11650, 0x116c0, 0x11730, 0x118e0, 0x11950, 0x11c50, 0x11d50, 0x11da0, 0x16a60,
   0x16ac0, 0x16b50, 0x1d7ce, 0x1d7d8, 0x1d7e2, 0x1d7ec, 0x1d7f6, 0x1e140, 0x1e2f0, 0x1e950,
   0x1fbf0]

def digit? (c : Char) : Option Nat :=
  (zeros.find? fun start => start ≤ c.toNat && c.toNat < start + 10).map (c.toNat - ·)

def isDigit (c : Char) : Bool := (digit? c).isSome

/-- The code points of the zeros that later versions of the character tables add. -/
def laterZeros : List Nat :=
  [0x10d40, 0x116d0, 0x116da, 0x11bf0, 0x11f50, 0x16130, 0x16d70, 0x1ccf0, 0x1e4f0, 0x1e5f1]

/-- Whether a character is a decimal digit by the later tables only. -/
def isLaterDigit (c : Char) : Bool :=
  laterZeros.any fun start => start ≤ c.toNat && c.toNat < start + 10

def asciiDigit? (c : Char) : Option Nat :=
  if '0' ≤ c && c ≤ '9' then some (c.toNat - 48) else none

def hexDigit? (c : Char) : Option Nat :=
  if '0' ≤ c && c ≤ '9' then some (c.toNat - 48)
  else if 'a' ≤ c && c ≤ 'f' then some (c.toNat - 87)
  else if 'A' ≤ c && c ≤ 'F' then some (c.toNat - 55)
  else none

def isHexDigit (c : Char) : Bool := (hexDigit? c).isSome

/-- The number written by hexadecimal digits, most significant first. -/
def ofHex (digits : List Char) : Nat :=
  digits.foldl (fun total c => 16 * total + (hexDigit? c).getD 0) 0

/-- The character at a code point that an escape gives by its number. Texts hold no lone surrogates:
half of a pair stands as the replacement character, as does what is no code point at all. Every
text can therefore be written as UTF-8. -/
def ofCodePoint (point : Nat) : Char :=
  if point.isValidChar then Char.ofNat point else '\ufffd'

@[simp] theorem ofCodePoint_toNat (c : Char) : ofCodePoint c.toNat = c := by
  have valid : c.toNat.isValidChar := c.valid
  rw [ofCodePoint, if_pos valid, Char.ofNat_toNat]

def hexChar (value : Nat) : Char :=
  if value < 10 then Char.ofNat (48 + value) else Char.ofNat (87 + value)

def hexFixed (width value : Nat) : List Char :=
  match width with
  | 0 => []
  | width + 1 => hexFixed width (value / 16) ++ [hexChar (value % 16)]

end BrowserScript.Text
