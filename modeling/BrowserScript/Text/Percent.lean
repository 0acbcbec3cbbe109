import BrowserScript.Text.Digit

/-!
# Percent encoding

Letters, digits and a few marks stand for themselves; every other character is written as its
bytes.
-/

namespace BrowserScript.Text.Percent

def isSafe (c : Char) : Bool := c.isAlphanum || "_.-~/".toList.contains c

def byteText (byte : UInt8) : List Char := '%' :: (hexFixed 2 byte.toNat).map Char.toUpper

def encode (text : List Char) : List Char :=
  text.flatMap fun c => if isSafe c then [c] else c.toString.toUTF8.toList.flatMap byteText

end BrowserScript.Text.Percent
