import BrowserScript.Text.Casing

/-!
# Case variants

Two characters are variants of each other when they differ in case only. Besides a letter and its
capital these are the few lower-case letters that share a capital, such as the two sigmas.
-/

namespace BrowserScript.Text

def sharedCapitals : List (List Nat) :=
  [[0x69, 0x131], [0x73, 0x17f], [0xb5, 0x3bc], [0x345, 0x3b9, 0x1fbe], [0x390, 0x1fd3],
   [0x3b0, 0x1fe3], [0x3b2, 0x3d0], [0x3b5, 0x3f5], [0x3b8, 0x3d1], [0x3ba, 0x3f0],
   [0x3c0, 0x3d6], [0x3c1, 0x3f1], [0x3c2, 0x3c3], [0x3c6, 0x3d5], [0x432, 0x1c80],
   [0x434, 0x1c81], [0x43e, 0x1c82], [0x441, 0x1c83], [0x442, 0x1c84, 0x1c85],
   [0x44a, 0x1c86], [0x463, 0x1c87], [0x1c88, 0xa64b], [0x1e61, 0x1e9b], [0xfb05, 0xfb06]]

/-- The first character of the lower case of a character. -/
def lowerFirst (c : Char) : Char := (lowerChar c).headD c

def capitals (point : Nat) : List Nat :=
  (if 0x61 ≤ point && point ≤ 0x7a then [point - 0x20] else [])
    ++ (if point == 0x69 then [0x130] else [])
    ++ lowerRuns.filterMap fun run =>
      let source := ((point : Int) - run.distance).toNat
      if run.send? source == some point then some source else none

/-- The code points that differ from a character in case only, itself among them. -/
def variants (c : Char) : List Nat :=
  let point := (lowerFirst c).toNat
  let letters := (sharedCapitals.find? (·.contains point)).getD [point]
  letters ++ letters.flatMap capitals

/-- The code points that differ from a character in the case of a seven-bit letter only. -/
def asciiVariants (c : Char) : List Nat :=
  if c.isAlpha then [c.toLower.toNat, c.toUpper.toNat] else [c.toNat]

end BrowserScript.Text
