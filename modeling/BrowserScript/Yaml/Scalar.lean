import BrowserScript.Yaml.Cursor
import BrowserScript.Text.Digit

/-!
# Texts of scalars

Plain, quoted and block scalars. A line end inside a scalar becomes a space, or the line ends that
follow it, except in literal blocks. Numeric arguments bound the number of rounds by the length of
the text.
-/

namespace BrowserScript.Yaml.Scalar

open Scan

def endsQuotedRun (c : Char) : Bool :=
  c == '\'' || c == '"' || c == '\\' || c == ' ' || c == '\t' || isBreak c

/-- Line ends and the blanks around them inside quotes. -/
def quotedBreaks : Nat → Scan (List Char)
  | 0 => return []
  | rounds + 1 => do
      if (← get).atSeparator then refuse
      let _ ← span fun c => c == ' ' || c == '\t'
      let ending ← lineEnd
      if ending.isEmpty then return []
      else return ending ++ (← quotedBreaks rounds)

def escaped? : Char → Option Char
  | '0' => some '\x00'
  | 'a' => some '\x07'
  | 'b' => some '\x08'
  | 't' => some '\t'
  | '\t' => some '\t'
  | 'n' => some '\n'
  | 'v' => some '\x0b'
  | 'f' => some '\x0c'
  | 'r' => some '\r'
  | 'e' => some '\x1b'
  | ' ' => some ' '
  | '"' => some '"'
  | '\\' => some '\\'
  | '/' => some '/'
  | 'N' => some '\x85'
  | '_' => some '\xa0'
  | 'L' => some '\u2028'
  | 'P' => some '\u2029'
  | _ => none

def escapeWidth? : Char → Option Nat
  | 'x' => some 2
  | 'u' => some 4
  | 'U' => some 8
  | _ => none

def ofCodePoint (point : Nat) : Scan Char :=
  if point < 0x110000 then return Text.ofCodePoint point
  else if point < 0x80000000 then throw (.invalid (.other "chr() arg not in range(0x110000)"))
  else throw (.overflow .codePoint)

def escape (rounds : Nat) : Scan (List Char) := do
  match ← peek 0 with
  | none => refuse
  | some c =>
      match escaped? c, escapeWidth? c with
      | some result, _ => skip 1; return [result]
      | none, some width =>
          skip 1
          let digits := (← get).rest.take width
          require (digits.length == width && digits.all Text.isHexDigit)
          let result ← ofCodePoint (Text.ofHex digits)
          skip width
          return [result]
      | none, none =>
          require (isBreak c)
          let _ ← lineEnd
          quotedBreaks rounds

/-- The part of a quoted scalar up to the next blank, line end or closing quote. -/
def quotedRun (double : Bool) : Nat → Scan (List Char)
  | 0 => return []
  | rounds + 1 => do
      let plain ← span fun c => !endsQuotedRun c
      match (← get).rest with
      | [] => return plain
      | c :: rest =>
          if !double && c == '\'' && rest.head? == some '\'' then
            skip 2
            return plain ++ '\'' :: (← quotedRun double rounds)
          else if double && c == '\'' || !double && (c == '"' || c == '\\') then
            skip 1
            return plain ++ c :: (← quotedRun double rounds)
          else if double && c == '\\' then
            skip 1
            let middle ← escape rounds
            return plain ++ middle ++ (← quotedRun double rounds)
          else return plain

def quotedGap (rounds : Nat) : Scan (List Char) := do
  let blanks ← span fun c => c == ' ' || c == '\t'
  if (← peek 0).isNone then refuse
  let ending ← lineEnd
  if ending.isEmpty then return blanks
  else
    let breaks ← quotedBreaks rounds
    if ending != ['\n'] then return ending ++ breaks
    else if breaks.isEmpty then return [' ']
    else return breaks

def quotedRest (double : Bool) : Nat → Scan (List Char)
  | 0 => return []
  | rounds + 1 => do
      if (← peek 0) == some (if double then '"' else '\'') then
        skip 1
        return []
      else
        let between ← quotedGap rounds
        let next ← quotedRun double rounds
        return between ++ next ++ (← quotedRest double rounds)

def quoted (double : Bool) : Scan (List Char) := do
  let rounds := (← get).rest.length + 1
  skip 1
  let first ← quotedRun double rounds
  return first ++ (← quotedRest double rounds)

/-- The length of the run of a plain scalar; brackets and commas end it inside flow collections. -/
def plainLength (inFlow : Bool) : List Char → Nat
  | [] => 0
  | c :: rest =>
      let colonEnds := match rest with
        | [] => true
        | after :: _ => endsWord (some after) || inFlow && [',', '[', ']', '{', '}'].contains after
      if endsWord (some c) || c == ':' && colonEnds
          || inFlow && [',', '?', '[', ']', '{', '}'].contains c then 0
      else plainLength inFlow rest + 1

/-- Empty lines inside a plain scalar; nothing where a document separator follows. -/
def plainBreaks : Nat → Scan (Option (List Char))
  | 0 => return some []
  | rounds + 1 => do
      let _ ← span (· == ' ')
      let ending ← lineEnd
      if ending.isEmpty then return some []
      else if (← get).atSeparator then return none
      else return (← plainBreaks rounds).map (ending ++ ·)

/-- The text between two runs of a plain scalar, empty where the scalar ends, and whether a line
ended. -/
def plainGap (rounds : Nat) : Scan (List Char × Bool) := do
  let spaces ← span (· == ' ')
  let ending ← lineEnd
  if ending.isEmpty then return (spaces, false)
  else if (← get).atSeparator then return ([], true)
  else
    match ← plainBreaks rounds with
    | none => return ([], true)
    | some breaks =>
        if ending != ['\n'] then return (ending ++ breaks, true)
        else if breaks.isEmpty then return ([' '], true)
        else return (breaks, true)

/-- The runs of a plain scalar that starts after some text, and whether a line ended after the
last of them. -/
def plainFrom (inFlow : Bool) (indent : Int) (between : List Char) (lineEnded : Bool) :
    Nat → Scan (List Char × Bool)
  | 0 => return ([], lineEnded)
  | rounds + 1 => do
      let cursor ← get
      let length := plainLength inFlow cursor.rest
      if cursor.at? 0 == some '#' || length == 0 then return ([], lineEnded)
      else
        skip length
        let text := between ++ cursor.rest.take length
        let (gap, ended) ← plainGap rounds
        let after ← get
        if gap.isEmpty || after.at? 0 == some '#' || !inFlow && (after.column : Int) < indent then
          return (text, ended)
        else
          let (more, ended) ← plainFrom inFlow indent gap ended rounds
          return (text ++ more, ended)

/-- A plain scalar whose further lines are indented by at least a column, and whether a line
ended after it. -/
def plain (inFlow : Bool) (indent : Int) : Scan (List Char × Bool) := do
  plainFrom inFlow indent [] false ((← get).rest.length + 1)

/-- What becomes of the line ends after the text of a block. -/
inductive Chomp where
  | strip
  | clip
  | keep
  deriving DecidableEq

/-- The sign that chooses what becomes of the last line ends. -/
def chomp? : Option Char → Option Chomp
  | some '+' => some .keep
  | some '-' => some .strip
  | _ => none

def blockIndent : Scan (Option Nat) := do
  match (← peek 0).bind Text.asciiDigit? with
  | some digit =>
      require (digit != 0)
      skip 1
      return some digit
  | none => return none

/-- The signs after the indicator of a block, in either order. -/
def blockHeader : Scan (Chomp × Option Nat) := do
  match chomp? (← peek 0) with
  | some chomp =>
      skip 1
      let indent ← blockIndent
      require (endsField (← peek 0))
      return (chomp, indent)
  | none =>
      let indent ← blockIndent
      let chomp ←
        match chomp? (← peek 0) with
        | some chomp => skip 1; pure chomp
        | none => pure .clip
      require (endsField (← peek 0))
      return (chomp, indent)

/-- Empty lines before a block and the largest column that their spaces reach. -/
def blockLead : Nat → Scan (List Char × Nat)
  | 0 => return ([], 0)
  | rounds + 1 => do
      let spaces ← span (· == ' ')
      let reached := (← get).column
      let column := if spaces.isEmpty then 0 else reached
      let ending ← lineEnd
      if ending.isEmpty then return ([], column)
      else
        let (breaks, largest) ← blockLead rounds
        return (ending ++ breaks, max column largest)

def spacesTo (indent : Nat) : Scan Unit := do
  let cursor ← get
  skip (min (indent - cursor.column) (cursor.rest.takeWhile (· == ' ')).length)

def blockBreaks (indent : Nat) : Nat → Scan (List Char)
  | 0 => return []
  | rounds + 1 => do
      spacesTo indent
      let ending ← lineEnd
      if ending.isEmpty then return []
      else return ending ++ (← blockBreaks indent rounds)

def atBlockLine (indent : Nat) (cursor : Cursor) : Bool :=
  cursor.column == indent && !cursor.rest.isEmpty

def startsBlank (cursor : Cursor) : Bool :=
  match cursor.at? 0 with
  | some c => c == ' ' || c == '\t'
  | none => false

/-- The lines of a block after some empty ones: their text, the last line end and the empty lines
after it. -/
def blockLines (folded : Bool) (indent : Nat) (breaks : List Char) :
    Nat → Scan (List Char × List Char × List Char)
  | 0 => return ([], [], breaks)
  | rounds + 1 => do
      let cursor ← get
      if atBlockLine indent cursor then
        let line ← span fun c => !isBreak c
        let ending ← lineEnd
        let next ← blockBreaks indent rounds
        let after ← get
        if atBlockLine indent after then
          let joint :=
            if folded && ending == ['\n'] && !startsBlank cursor && !startsBlank after then
              (if next.isEmpty then [' '] else [])
            else ending
          let (text, last, tail) ← blockLines folded indent next rounds
          return (breaks ++ line ++ joint ++ text, last, tail)
        else return (breaks ++ line, ending, next)
      else return ([], [], breaks)

/-- A block scalar inside a collection of a given indentation. -/
def block (folded : Bool) (outer : Int) : Scan (List Char) := do
  let rounds := (← get).rest.length + 1
  skip 1
  let (chomp, explicit) ← blockHeader
  emptyLine
  let least := max 1 (outer + 1).toNat
  let (indent, breaks) ←
    match explicit with
    | none => do
        let (breaks, largest) ← blockLead rounds
        pure (max least largest, breaks)
    | some increment => do
        let indent := least + increment - 1
        pure (indent, ← blockBreaks indent rounds)
  let (text, last, tail) ← blockLines folded indent breaks rounds
  return text ++ (if chomp == .strip then [] else last) ++ (if chomp == .keep then tail else [])

end BrowserScript.Yaml.Scalar
