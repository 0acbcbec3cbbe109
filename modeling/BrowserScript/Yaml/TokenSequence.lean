import BrowserScript.Yaml.Property
import BrowserScript.Yaml.Scalar

/-!
# The tokens of a text

Tokens are found from left to right. Indentation opens and closes block collections, and a colon
may show that an earlier token was the key of a mapping, which puts tokens before it; such a key
lies on the line of its colon and starts at most 1024 characters before it. A reader of the
tokens asks for them one by one: it is refused at the first token for which more text had to be
read than can be.
-/

namespace BrowserScript.Yaml

/-- A token that becomes a key if a colon follows. -/
structure PossibleKey where
  /-- The number of tokens before it. -/
  position : Nat
  /-- Whether the token can be nothing else. -/
  required : Bool
  index : Nat
  line : Nat
  column : Nat

structure Scanner where
  cursor : Cursor
  /-- The number of open brackets less the number of closed ones. -/
  depth : Int
  tokens : List Token
  /-- The number of tokens that the reader has taken. -/
  taken : Nat
  /-- The column of the innermost block collection. -/
  indent : Int
  /-- The columns of the collections around it. -/
  outer : List Int
  keyAllowed : Bool
  /-- The possible keys by depth. -/
  keys : List (Int × PossibleKey)
  finished : Bool

abbrev Fetch := StateT Scanner (Except Fault)

namespace Scanner

def start (text : List Char) : Scanner where
  cursor := .start text
  depth := 0
  tokens := [.streamStart]
  taken := 0
  indent := -1
  outer := []
  keyAllowed := true
  keys := []
  finished := false

def inFlow (scanner : Scanner) : Bool := scanner.depth != 0

def isStale (scanner : Scanner) (key : PossibleKey) : Bool :=
  key.line != scanner.cursor.line || 1024 < scanner.cursor.index - key.index

def key? (scanner : Scanner) : Option PossibleKey :=
  (scanner.keys.find? fun entry => entry.1 == scanner.depth).map (·.2)

/-- The state without the possible key at the depth of the place. -/
def withoutKey (scanner : Scanner) : Scanner :=
  { scanner with keys := scanner.keys.filter fun entry => entry.1 != scanner.depth }

/-- The number of tokens before the first possible key. -/
def firstKey? (scanner : Scanner) : Option Nat :=
  (scanner.keys.map (·.2.position)).min?

/-- How many collections a column leaves, and the columns around the place then. -/
def leave (column : Int) (indent : Int) : List Int → Nat × Int × List Int
  | [] => (0, indent, [])
  | next :: outer =>
      if column < indent then
        let (count, result) := leave column next outer
        (count + 1, result)
      else (0, indent, next :: outer)

end Scanner

namespace Fetch

def refuse {α : Type} : Fetch α := throw (.unreadable .token)

def scan {α : Type} (action : Scan α) : Fetch α := do
  let scanner ← get
  let (result, cursor) ← action.run scanner.cursor
  set { scanner with cursor }
  return result

def emit (token : Token) : Fetch Unit :=
  modify fun scanner => { scanner with tokens := scanner.tokens ++ [token] }

def allowKey (allowed : Bool) : Fetch Unit :=
  modify fun scanner => { scanner with keyAllowed := allowed }

/-- Forget the possible keys that are too far away; a required one may not be. -/
def dropStale : Fetch Unit := do
  let scanner ← get
  if scanner.keys.any fun entry => scanner.isStale entry.2 && entry.2.required then refuse
  set { scanner with keys := scanner.keys.filter fun entry => !scanner.isStale entry.2 }

/-- Forget the possible key at the depth of the place; a required one may not be. -/
def dropKey : Fetch Unit := do
  let scanner ← get
  if scanner.key?.any (·.required) then refuse
  set scanner.withoutKey

def noteKey : Fetch Unit := do
  if (← get).keyAllowed then
    dropKey
    modify fun scanner =>
      let cursor := scanner.cursor
      let key : PossibleKey :=
        { position := scanner.tokens.length
          required := !scanner.inFlow && scanner.indent == cursor.column
          index := cursor.index
          line := cursor.line
          column := cursor.column }
      { scanner with keys := scanner.keys ++ [(scanner.depth, key)] }

def unwind (column : Int) : Fetch Unit := do
  let scanner ← get
  if !scanner.inFlow then
    let (count, indent, outer) := Scanner.leave column scanner.indent scanner.outer
    set { scanner with
      indent := indent
      outer := outer
      tokens := scanner.tokens ++ List.replicate count Token.blockEnd }

/-- Open a block collection at a column unless one is open there. -/
def openBlock (column : Nat) (position : Nat) (token : Token) : Fetch Unit :=
  modify fun scanner =>
    if scanner.indent < (column : Int) then
      { scanner with
        outer := scanner.indent :: scanner.outer
        indent := column
        tokens := scanner.tokens.insertIdx position token }
    else scanner

def openHere (token : Token) : Fetch Unit := do
  let scanner ← get
  if !scanner.inFlow then
    if !scanner.keyAllowed then refuse
    openBlock scanner.cursor.column scanner.tokens.length token

def indicator (token : Token) (width : Nat) : Fetch Unit := do
  emit token
  scan (Scan.skip width)

def streamEnd : Fetch Unit := do
  unwind (-1)
  dropKey
  modify fun scanner => { scanner with keys := [], finished := true }
  emit .streamEnd

def documentMark (action : Fetch Unit) : Fetch Unit := do
  unwind (-1)
  dropKey
  allowKey false
  action

def openFlow (token : Token) : Fetch Unit := do
  noteKey
  modify fun scanner => { scanner with depth := scanner.depth + 1 }
  allowKey true
  indicator token 1

def closeFlow (token : Token) : Fetch Unit := do
  dropKey
  modify fun scanner => { scanner with depth := scanner.depth - 1 }
  allowKey false
  indicator token 1

def flowEntry : Fetch Unit := do
  allowKey true
  dropKey
  indicator .flowEntry 1

def blockEntry : Fetch Unit := do
  openHere .blockSequenceStart
  allowKey true
  dropKey
  indicator .blockEntry 1

def key : Fetch Unit := do
  openHere .blockMappingStart
  allowKey (!(← get).inFlow)
  dropKey
  indicator .key 1

def value : Fetch Unit := do
  let scanner ← get
  match scanner.key? with
  | some key =>
      set { scanner.withoutKey with tokens := scanner.tokens.insertIdx key.position .key }
      if !scanner.inFlow then openBlock key.column key.position .blockMappingStart
      allowKey false
  | none =>
      openHere .blockMappingStart
      allowKey (!scanner.inFlow)
      dropKey
  indicator .value 1

/-- A token that may be a key and is not followed by one. -/
def keyLike (action : Scan Token) : Fetch Unit := do
  noteKey
  allowKey false
  emit (← scan action)

def plain : Fetch Unit := do
  noteKey
  let scanner ← get
  let (text, lineEnded) ← scan (Scalar.plain scanner.inFlow (scanner.indent + 1))
  allowKey lineEnded
  emit (.scalar true (String.ofList text))

def block (folded : Bool) : Fetch Unit := do
  allowKey true
  dropKey
  let text ← scan (Scalar.block folded (← get).indent)
  emit (.scalar false (String.ofList text))

def quoted (double : Bool) : Fetch Unit :=
  keyLike do return .scalar false (String.ofList (← Scalar.quoted double))

def startsPlain (inFlow : Bool) (c : Char) (next : Option Char) : Bool :=
  !(endsWord (some c) || "-?:,[]\x7b\x7d#&*!|>'\"%@`".toList.contains c)
    || !endsWord next && (c == '-' || !inFlow && (c == '?' || c == ':'))

def tokenAt (c : Char) : Fetch Unit := do
  let scanner ← get
  let cursor := scanner.cursor
  let next := cursor.at? 1
  let atMargin := cursor.column == 0
  if c == '%' && atMargin then documentMark (do emit (← scan Property.directive))
  else if c == '-' && atMargin && cursor.atSeparator then documentMark (indicator .documentStart 3)
  else if c == '.' && atMargin && cursor.atSeparator then documentMark (indicator .documentEnd 3)
  else if c == '[' then openFlow .flowSequenceStart
  else if c == '{' then openFlow .flowMappingStart
  else if c == ']' then closeFlow .flowSequenceEnd
  else if c == '}' then closeFlow .flowMappingEnd
  else if c == ',' then flowEntry
  else if c == '-' && endsWord next then blockEntry
  else if c == '?' && (scanner.inFlow || endsWord next) then key
  else if c == ':' && (scanner.inFlow || endsWord next) then value
  else if c == '*' then keyLike (do return .alias (← Property.anchorName))
  else if c == '&' then keyLike (do return .anchor (← Property.anchorName))
  else if c == '!' then keyLike Property.tag
  else if c == '|' && !scanner.inFlow then block false
  else if c == '>' && !scanner.inFlow then block true
  else if c == '\'' then quoted false
  else if c == '"' then quoted true
  else if startsPlain scanner.inFlow c next then plain
  else refuse

/-- Move to the next token; a mark of byte order may start the text. -/
def toToken : Fetch Unit := do
  let cursor := (← get).cursor
  if cursor.index == 0 && cursor.at? 0 == some '\ufeff' then scan (Scan.skip 1)
  let lineEnded ← scan (Scan.gap (cursor.rest.length + 1))
  if lineEnded && !(← get).inFlow then allowKey true

def more : Fetch Unit := do
  toToken
  dropStale
  unwind (← get).cursor.column
  match (← get).cursor.at? 0 with
  | none => streamEnd
  | some c => tokenAt c

def isPending : Fetch Bool := do
  if (← get).tokens.length ≤ (← get).taken then return true
  else
    dropStale
    let scanner ← get
    return scanner.firstKey? == some scanner.taken

end Fetch

namespace Scanner

/-- The number of tokens that the reader can take before more text is needed. -/
def certain (scanner : Scanner) : Nat :=
  match scanner.firstKey? with
  | some position => min position scanner.tokens.length
  | none => scanner.tokens.length

/-- Find tokens until the text ends or is refused, each round for the first token that is not
certain. -/
def readAll (scanner : Scanner) : Nat → Reading Token
  | 0 => ⟨scanner.tokens, some (.unreadable .token)⟩
  | rounds + 1 =>
      if scanner.finished then ⟨scanner.tokens, none⟩
      else
        let stopped (fault : Fault) : Reading Token :=
          ⟨scanner.tokens.take scanner.taken, some fault⟩
        match Fetch.isPending.run scanner with
        | .error fault => stopped fault
        | .ok (false, settled) => readAll { settled with taken := settled.certain } rounds
        | .ok (true, settled) =>
            match Fetch.more.run settled with
            | .error fault => stopped fault
            | .ok ((), next) => readAll next rounds

end Scanner

def tokens (text : List Char) : Reading Token :=
  (Scanner.start text).readAll (2 * text.length + 8)

end BrowserScript.Yaml
