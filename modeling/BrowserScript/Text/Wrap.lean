import BrowserScript.Text.Blank
import BrowserScript.Text.Digit
import BrowserScript.Text.WordChar

/-!
# Wrapping text

A paragraph is cut into chunks: blanks, dashes between words, words, and the parts of hyphenated
words. Lines are filled with as many chunks as fit. A chunk that fits on no line is cut, after a
hyphen if it has one.
-/

namespace BrowserScript.Text.Wrap

/-- Tabs become spaces up to the next multiple of eight columns. -/
def expandTabs (column : Nat) : List Char → List Char
  | [] => []
  | c :: rest =>
      if c == '\t' then
        List.replicate (8 - column % 8) ' ' ++ expandTabs (column + (8 - column % 8)) rest
      else if c == '\n' || c == '\r' then c :: expandTabs 0 rest
      else c :: expandTabs (column + 1) rest

def isPlainBlank (c : Char) : Bool :=
  c == ' ' || 9 ≤ c.toNat && c.toNat ≤ 13

def flatten (text : List Char) : List Char :=
  (expandTabs 0 text).map fun c => if isPlainBlank c then ' ' else c

/-- A letter of a word: no digit and no punctuation. -/
def isLetter (c : Char) : Bool := isWordChar c && !isDigit c

def beforeDash (c : Char) : Bool := isWordChar c || "!\"'&.,?".toList.contains c

/-- Whether two or more hyphens before a word character stand here. -/
def atDash (rest : List Char) : Bool :=
  let hyphens := (rest.takeWhile (· == '-')).length
  2 ≤ hyphens && (rest.drop hyphens).head?.any isWordChar

/-- Whether a hyphen with this text before it joins two parts of a word: two letters, or a letter
and a letter after another hyphen, stand before it. -/
def joinsBefore : List Char → Bool
  | last :: previous :: before =>
      isLetter last && (isLetter previous || previous == '-' && before.head?.any isLetter)
  | _ => false

def joinsAfter : List Char → Bool
  | first :: second :: rest =>
      isLetter first && (isLetter second || second == '-' && rest.head?.any isLetter)
  | _ => false

/-- The length of the word part that starts here, given the text before it in reverse and whether a
character of it has been passed. -/
def wordLength (before : List Char) (started : Bool) : List Char → Nat
  | [] => 0
  | c :: rest =>
      if started && c == '-' && joinsBefore before && joinsAfter rest then 1
      else if started
          && (c == ' ' || before.head?.any beforeDash && atDash (c :: rest)) then 0
      else wordLength (c :: before) true rest + 1

/-- The length of the chunk that starts here, given the text before it in reverse. -/
def chunkLength (before rest : List Char) : Nat :=
  match rest with
  | [] => 0
  | c :: _ =>
      if c == ' ' then (rest.takeWhile (· == ' ')).length
      else if before.head?.any beforeDash && atDash rest then (rest.takeWhile (· == '-')).length
      else wordLength before false rest

def chunks (before rest : List Char) : Nat → List (List Char)
  | 0 => []
  | rounds + 1 =>
      let length := max 1 (chunkLength before rest)
      if rest.isEmpty then []
      else
        let chunk := rest.take length
        chunk :: chunks (chunk.reverse ++ before) (rest.drop length) rounds

def isBlankChunk (chunk : List Char) : Bool := chunk.all isBlank

def fitting (width : Nat) : List (List Char) → List (List Char) × List (List Char)
  | [] => ([], [])
  | chunk :: rest =>
      if chunk.length ≤ width then
        let (line, left) := fitting (width - chunk.length) rest
        (chunk :: line, left)
      else ([], chunk :: rest)

/-- Where a long chunk is cut: after its last hyphen within the space, if other characters stand
before that, else where the space ends. -/
def cutLength (space : Nat) (chunk : List Char) : Nat :=
  let before := ((chunk.take space).reverse.dropWhile (· != '-')).drop 1
  if space < chunk.length && before.any (· != '-') then before.length + 1 else space

def line (width : Nat) (chunks : List (List Char)) : List (List Char) × List (List Char) :=
  let (parts, left) := fitting width chunks
  match left with
  | chunk :: rest =>
      if width < chunk.length then
        let cut := cutLength (width - parts.flatten.length) chunk
        (parts ++ [chunk.take cut], chunk.drop cut :: rest)
      else (parts, left)
  | [] => (parts, [])

/-- The lines that chunks fill. Blanks at the end of a line are dropped, and those at the start of
each line but the first. -/
def fill (width : Nat) (first : Bool) (chunks : List (List Char)) : Nat → List (List Char)
  | 0 => []
  | rounds + 1 =>
      match chunks with
      | [] => []
      | chunk :: rest =>
          let (parts, left) :=
            line width (if !first && isBlankChunk chunk then rest else chunk :: rest)
          let kept :=
            match parts.getLast? with
            | some last => if isBlankChunk last then parts.dropLast else parts
            | none => parts
          if kept.isEmpty then fill width first left rounds
          else kept.flatten :: fill width false left rounds

/-- The lines of a paragraph, each of at most a number of characters. -/
def wrap (width : Nat) (text : List Char) : List (List Char) :=
  let flat := flatten text
  fill width true (chunks [] flat flat.length) (2 * flat.length + 2)

end BrowserScript.Text.Wrap
