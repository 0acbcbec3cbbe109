import BrowserScript.Fault

/-!
# A place in a document text

A cursor holds what is left of the text and the place where it starts. Lines end at line feeds,
carriage returns and the line separators of Unicode; a byte order mark takes no column.
-/

namespace BrowserScript.Yaml

def isBreak (c : Char) : Bool :=
  c == '\n' || c == '\r' || c == '\x85' || c == '\u2028' || c == '\u2029'

/-- Whether a word may end here: before a blank, a line end or the end of the text. -/
def endsWord : Option Char → Bool
  | none => true
  | some c => c == ' ' || c == '\t' || isBreak c

/-- Whether only a space, a line end or the end of the text stands here. -/
def endsField : Option Char → Bool
  | none => true
  | some c => c == ' ' || isBreak c

def endsLine : Option Char → Bool
  | none => true
  | some c => isBreak c

def isNameChar (c : Char) : Bool := c.isAlphanum || c == '-' || c == '_'

structure Cursor where
  rest : List Char
  index : Nat
  line : Nat
  column : Nat

namespace Cursor

def start (text : List Char) : Cursor := ⟨text, 0, 0, 0⟩

def at? (cursor : Cursor) (distance : Nat) : Option Char := (cursor.rest.drop distance).head?

def next (cursor : Cursor) : Cursor :=
  match cursor.rest with
  | [] => cursor
  | c :: rest =>
      if c != '\r' && isBreak c || c == '\r' && rest.head? != some '\n' then
        ⟨rest, cursor.index + 1, cursor.line + 1, 0⟩
      else if c == '\ufeff' then ⟨rest, cursor.index + 1, cursor.line, cursor.column⟩
      else ⟨rest, cursor.index + 1, cursor.line, cursor.column + 1⟩

def forward (cursor : Cursor) : Nat → Cursor
  | 0 => cursor
  | count + 1 => cursor.next.forward count

def atSeparator (cursor : Cursor) : Bool :=
  (cursor.rest.take 3 == ['-', '-', '-'] || cursor.rest.take 3 == ['.', '.', '.'])
    && endsWord (cursor.at? 3)

end Cursor

abbrev Scan := StateT Cursor (Except Fault)

namespace Scan

def refuse {α : Type} : Scan α := throw (.unreadable .token)

def require (condition : Bool) : Scan Unit := if condition then pure () else refuse

def skip (count : Nat) : Scan Unit := modify fun cursor => cursor.forward count

def peek (distance : Nat) : Scan (Option Char) := do return (← get).at? distance

def span (accepts : Char → Bool) : Scan (List Char) := do
  let taken := (← get).rest.takeWhile accepts
  skip taken.length
  return taken

/-- A line end, if one stands here: a line feed for those of one byte, else the character itself. -/
def lineEnd : Scan (List Char) := do
  match (← get).rest with
  | '\r' :: '\n' :: _ => skip 2; return ['\n']
  | c :: _ =>
      if c == '\u2028' || c == '\u2029' then skip 1; return [c]
      else if isBreak c then skip 1; return ['\n']
      else return []
  | [] => return []

def comment : Scan Unit := do
  let _ ← span (· == ' ')
  if (← peek 0) == some '#' then
    let _ ← span fun c => !isBreak c

def emptyLine : Scan Unit := do
  comment
  require (endsLine (← peek 0))
  let _ ← lineEnd

/-- Spaces, comments and line ends before the next token; tells whether a line ended. The
argument bounds the number of lines. -/
def gap : Nat → Scan Bool
  | 0 => return false
  | lines + 1 => do
      comment
      if (← lineEnd).isEmpty then return false
      else
        let _ ← gap lines
        return true

end Scan

end BrowserScript.Yaml
