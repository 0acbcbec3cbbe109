/-!
# The 256-bit secure hash

A message is padded to whole blocks of sixteen words; each block is mixed into a chain of eight
words, whose hexadecimal text is the digest.
-/

namespace BrowserScript.Digest

def roundConstants : List UInt32 :=
  [0x428a2f98, 0x71374491, 0xb5c0fbcf, 0xe9b5dba5, 0x3956c25b, 0x59f111f1, 0x923f82a4, 0xab1c5ed5,
   0xd807aa98, 0x12835b01, 0x243185be, 0x550c7dc3, 0x72be5d74, 0x80deb1fe, 0x9bdc06a7, 0xc19bf174,
   0xe49b69c1, 0xefbe4786, 0x0fc19dc6, 0x240ca1cc, 0x2de92c6f, 0x4a7484aa, 0x5cb0a9dc, 0x76f988da,
   0x983e5152, 0xa831c66d, 0xb00327c8, 0xbf597fc7, 0xc6e00bf3, 0xd5a79147, 0x06ca6351, 0x14292967,
   0x27b70a85, 0x2e1b2138, 0x4d2c6dfc, 0x53380d13, 0x650a7354, 0x766a0abb, 0x81c2c92e, 0x92722c85,
   0xa2bfe8a1, 0xa81a664b, 0xc24b8b70, 0xc76c51a3, 0xd192e819, 0xd6990624, 0xf40e3585, 0x106aa070,
   0x19a4c116, 0x1e376c08, 0x2748774c, 0x34b0bcb5, 0x391c0cb3, 0x4ed8aa4a, 0x5b9cca4f, 0x682e6ff3,
   0x748f82ee, 0x78a5636f, 0x84c87814, 0x8cc70208, 0x90befffa, 0xa4506ceb, 0xbef9a3f7, 0xc67178f2]

/-- The chain of eight words between blocks. -/
structure Chain where
  a : UInt32
  b : UInt32
  c : UInt32
  d : UInt32
  e : UInt32
  f : UInt32
  g : UInt32
  h : UInt32

def Chain.initial : Chain :=
  ⟨0x6a09e667, 0xbb67ae85, 0x3c6ef372, 0xa54ff53a, 0x510e527f, 0x9b05688c, 0x1f83d9ab, 0x5be0cd19⟩

def Chain.words (chain : Chain) : List UInt32 :=
  [chain.a, chain.b, chain.c, chain.d, chain.e, chain.f, chain.g, chain.h]

def Chain.add (left right : Chain) : Chain :=
  ⟨left.a + right.a, left.b + right.b, left.c + right.c, left.d + right.d,
   left.e + right.e, left.f + right.f, left.g + right.g, left.h + right.h⟩

def rotate (word : UInt32) (count : UInt32) : UInt32 :=
  (word >>> count) ||| (word <<< (32 - count))

def Chain.round (chain : Chain) (word constant : UInt32) : Chain :=
  let spread := rotate chain.e 6 ^^^ rotate chain.e 11 ^^^ rotate chain.e 25
  let choice := (chain.e &&& chain.f) ^^^ (~~~chain.e &&& chain.g)
  let first := chain.h + spread + choice + constant + word
  let fold := rotate chain.a 2 ^^^ rotate chain.a 13 ^^^ rotate chain.a 22
  let majority := (chain.a &&& chain.b) ^^^ (chain.a &&& chain.c) ^^^ (chain.b &&& chain.c)
  ⟨first + (fold + majority), chain.a, chain.b, chain.c, chain.d + first, chain.e, chain.f, chain.g⟩

/-- The next word of a schedule whose words are given latest first. -/
def nextWord (latest : List UInt32) : UInt32 :=
  let near := latest.getD 1 0
  let far := latest.getD 14 0
  let spreadNear := rotate near 17 ^^^ rotate near 19 ^^^ (near >>> 10)
  let spreadFar := rotate far 7 ^^^ rotate far 18 ^^^ (far >>> 3)
  latest.getD 15 0 + spreadFar + latest.getD 6 0 + spreadNear

/-- Extend a schedule, kept latest first, by a number of words. -/
def extendSchedule : Nat → List UInt32 → List UInt32
  | 0, latest => latest
  | count + 1, latest => extendSchedule count (nextWord latest :: latest)

def schedule (block : List UInt32) : List UInt32 := (extendSchedule 48 block.reverse).reverse

def Chain.absorb (chain : Chain) (block : List UInt32) : Chain :=
  let mixed :=
    ((schedule block).zip roundConstants).foldl (fun state pair => state.round pair.1 pair.2) chain
  chain.add mixed

/-- The bytes of a number, most significant first, as many as asked for. -/
def bigEndian (width value : Nat) : List UInt8 :=
  match width with
  | 0 => []
  | width + 1 => bigEndian width (value / 256) ++ [UInt8.ofNat (value % 256)]

/-- The message with its end mark, zeros and length in bits: a whole number of blocks. -/
def pad (message : List UInt8) : List UInt8 :=
  let zeros := (119 - message.length % 64) % 64
  message ++ 0x80 :: List.replicate zeros 0 ++ bigEndian 8 (8 * message.length)

def toWords : List UInt8 → List UInt32
  | a :: b :: c :: d :: rest =>
      (a.toUInt32 <<< 24 ||| b.toUInt32 <<< 16 ||| c.toUInt32 <<< 8 ||| d.toUInt32) :: toWords rest
  | _ => []

/-- Words in groups of sixteen, `count` groups at most. -/
def toBlocks : Nat → List UInt32 → List (List UInt32)
  | 0, _ => []
  | count + 1, words => words.take 16 :: toBlocks count (words.drop 16)

def chainOf (message : List UInt8) : Chain :=
  let padded := pad message
  (toBlocks (padded.length / 64) (toWords padded)).foldl Chain.absorb Chain.initial

def wordText (word : UInt32) : String :=
  let digits := Nat.toDigits 16 word.toNat
  String.ofList (List.replicate (8 - digits.length) '0' ++ digits)

def sha256 (message : List UInt8) : String :=
  String.join ((chainOf message).words.map wordText)

end BrowserScript.Digest
