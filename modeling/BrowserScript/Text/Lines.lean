import BrowserScript.Text.Blank

/-!
# Lines of text

Program text is put together from lines, which are joined by line feeds. A text is cut into lines
again at every line break, of which there are several kinds; the line feed is only one of them.
-/

namespace BrowserScript.Text

def isLineBreak (c : Char) : Bool :=
  let point := c.toNat
  (10 ≤ point && point ≤ 13) || (0x1c ≤ point && point ≤ 0x1e) || point == 0x85
    || point == 0x2028 || point == 0x2029

/-- The lines of a text with the line breaks that end them. A carriage return and a line feed after
it are one line break. -/
def brokenLines : List Char → List (List Char)
  | [] => []
  | '\r' :: '\n' :: rest => ['\r', '\n'] :: brokenLines rest
  | c :: rest =>
      if isLineBreak c then [c] :: brokenLines rest
      else
        match brokenLines rest with
        | [] => [[c]]
        | line :: lines => (c :: line) :: lines

def joinLines (lines : List String) : String := String.intercalate "\n" lines

def indentation : List Char := "    ".toList

/-- The text with every line moved to the right but those that are blank. -/
def indent (text : List Char) : List Char :=
  (brokenLines text).flatMap fun line => if line.all isBlank then line else indentation ++ line

end BrowserScript.Text
