import BrowserScript.Fault
import BrowserScript.Number.Notation
import BrowserScript.Pattern.Basic
import BrowserScript.Text.Identifier

/-!
# Patterns in text

The notation of patterns: letters stand for themselves, a backslash names a category or hides the
meaning of a character, brackets hold sets, and parentheses hold groups, looks and flags.
-/

namespace BrowserScript.Pattern

structure Flags where
  anyCase : Bool := false
  lines : Bool := false
  dotAll : Bool := false
  verbose : Bool := false
  sevenBit : Bool := false
  /-- Characters of all scripts are asked for by name. -/
  allScripts : Bool := false
  /-- No part may be repeated. -/
  template : Bool := false
  deriving DecidableEq

namespace Flags

def likeness (flags : Flags) : Likeness :=
  if flags.anyCase then (if flags.sevenBit then .sevenBit else .anyCase) else .exact

def merge (first second : Flags) : Flags :=
  { anyCase := first.anyCase || second.anyCase
    lines := first.lines || second.lines
    dotAll := first.dotAll || second.dotAll
    verbose := first.verbose || second.verbose
    sevenBit := first.sevenBit || second.sevenBit
    allScripts := first.allScripts || second.allScripts
    template := first.template || second.template }

def overlap (first second : Flags) : Bool :=
  first.anyCase && second.anyCase || first.lines && second.lines
    || first.dotAll && second.dotAll || first.verbose && second.verbose
    || first.sevenBit && second.sevenBit || first.allScripts && second.allScripts
    || first.template && second.template

/-- The flags inside of a group that turns some on and some off. -/
def within (flags on off : Flags) : Flags :=
  let typed := on.sevenBit || on.allScripts
  { anyCase := (flags.anyCase || on.anyCase) && !off.anyCase
    lines := (flags.lines || on.lines) && !off.lines
    dotAll := (flags.dotAll || on.dotAll) && !off.dotAll
    verbose := (flags.verbose || on.verbose) && !off.verbose
    sevenBit := if typed then on.sevenBit else flags.sevenBit
    allScripts := if typed then on.allScripts else flags.allScripts
    template := flags.template }

def ofLetter? : Char → Option Flags
  | 'i' => some { anyCase := true }
  | 'm' => some { lines := true }
  | 's' => some { dotAll := true }
  | 'x' => some { verbose := true }
  | 'a' => some { sevenBit := true }
  | 'u' => some { allScripts := true }
  | 't' => some { template := true }
  | _ => none

end Flags

inductive Token where
  | plain (c : Char)
  | escaped (c : Char)
  /-- A backslash at the end. -/
  | dangling
  deriving DecidableEq

def Token.text : Token → List Char
  | plain c => [c]
  | escaped c => ['\\', c]
  | dangling => ['\\']

def tokens : List Char → List Token
  | [] => []
  | ['\\'] => [.dangling]
  | '\\' :: c :: rest => .escaped c :: tokens rest
  | c :: rest => .plain c :: tokens rest

structure Progress where
  tokens : List Token
  flags : Flags := {}
  /-- The widths of the groups in order; a group that is open has none. -/
  groups : List (Option Width) := []
  names : List (List Char × Nat) := []
  /-- How many groups there were when the outermost look behind began. -/
  behind : Option Nat := none
  /-- The groups that conditions ask for. -/
  conditions : List Nat := []

abbrev Reader := StateT Progress (Except Fault)

namespace Reader

def refuse {α : Type} : Reader α := throw .badPattern

def peek : Reader (Option Token) := do return (← get).tokens.head?

/-- Go behind the next token; a backslash must not stand alone there. -/
def advance : Reader Unit := do
  let progress ← get
  let rest := progress.tokens.tail
  if rest == [.dangling] then refuse
  set { progress with tokens := rest }

def next : Reader (Option Token) := do
  let token ← peek
  advance
  return token

def accept (c : Char) : Reader Bool := do
  if (← peek) == some (.plain c) then
    advance
    return true
  else return false

def expect (c : Char) : Reader Unit := do
  if !(← accept c) then refuse

def upTo (test : Char → Bool) : Nat → Reader (List Char)
  | 0 => return []
  | count + 1 => do
      match ← peek with
      | some (.plain c) =>
          if test c then
            advance
            return c :: (← upTo test count)
          else return []
      | _ => return []

def tokensUntil (stop : Char) : Nat → Reader (List Char)
  | 0 => refuse
  | fuel + 1 => do
      match ← next with
      | none => refuse
      | some token =>
          if token == .plain stop then return []
          else return token.text ++ (← tokensUntil stop fuel)

def name (stop : Char) : Reader (List Char) := do
  let text ← tokensUntil stop ((← get).tokens.length + 1)
  if text.isEmpty then refuse else return text

def remaining : Reader Nat := do return (← get).tokens.length

def isClosed (group : Nat) : Reader Bool := do
  return ((← get).groups[group - 1]?).join.isSome

/-- A look behind may ask only for groups that were closed before it. -/
def checkBehind (group : Nat) : Reader Unit := do
  match (← get).behind with
  | none => return ()
  | some count => if !(← isClosed group) || count < group then refuse

def askAgain (flags : Flags) (group : Nat) : Reader Node := do
  if !(← isClosed group) then refuse
  checkBehind group
  return .again group flags.likeness

def hexPoint (count : Nat) : Reader Nat := do
  let digits ← upTo Text.isHexDigit count
  if digits.length == count && (count < 8 || Text.ofHex digits < 0x110000) then
    return Text.ofHex digits
  else refuse

def isOctal (c : Char) : Bool := '0' ≤ c && c ≤ '7'

def octalPoint (digits : List Char) : Reader Nat :=
  let point := Numeral.ofBase 8 digits
  if point ≤ 0o377 then return point else refuse

end Reader

def controlPoint? : Char → Option Nat
  | 'a' => some 7
  | 'f' => some 12
  | 'n' => some 10
  | 'r' => some 13
  | 't' => some 9
  | 'v' => some 11
  | '\\' => some 92
  | _ => none

def categoryOf? (sevenBit : Bool) : Char → Option Member
  | 'd' => some (.category .digit sevenBit false)
  | 'D' => some (.category .digit sevenBit true)
  | 's' => some (.category .blank sevenBit false)
  | 'S' => some (.category .blank sevenBit true)
  | 'w' => some (.category .word sevenBit false)
  | 'W' => some (.category .word sevenBit true)
  | _ => none

def anchorOf? (sevenBit : Bool) : Char → Option Anchor
  | 'A' => some .textStart
  | 'Z' => some .textEnd
  | 'b' => some (.boundary sevenBit false)
  | 'B' => some (.boundary sevenBit true)
  | _ => none

namespace Reader

def escapedPoint (c : Char) : Reader Nat := do
  match controlPoint? c with
  | some point => return point
  | none =>
      match c with
      | 'x' => hexPoint 2
      | 'u' => hexPoint 4
      | 'U' => hexPoint 8
      | _ => if c.isAlphanum then refuse else return c.toNat

def escapedMember (flags : Flags) (c : Char) : Reader Member := do
  match categoryOf? flags.sevenBit c with
  | some member => return member
  | none =>
      let point ←
        if c == 'b' then pure 8
        else if isOctal c then do
          let more ← upTo isOctal 2
          octalPoint (c :: more)
        else escapedPoint c
      return .range point point

def member (flags : Flags) : Token → Reader Member
  | .plain c => return .range c.toNat c.toNat
  | .escaped c => escapedMember flags c
  | .dangling => refuse

/-- The range between two members, which must be single code points in order. -/
def between (first second : Member) : Reader Member :=
  match first, second with
  | .range low lowEnd, .range high highEnd =>
      if low == lowEnd && high == highEnd && low ≤ high then return .range low high else refuse
  | _, _ => refuse

/-- The members of a set up to its closing bracket, which as the first one stands for itself. -/
def members (flags : Flags) (isFirst : Bool) : Nat → Reader (List Member)
  | 0 => refuse
  | fuel + 1 => do
      match ← next with
      | none => refuse
      | some token =>
          if token == .plain ']' && !isFirst then return []
          else
            let first ← member flags token
            if ← accept '-' then
              match ← next with
              | none => refuse
              | some (.plain ']') => return [first, .range 45 45]
              | some other =>
                  let second ← member flags other
                  let range ← between first second
                  return range :: (← members flags false fuel)
            else return first :: (← members flags false fuel)

def set (flags : Flags) : Reader Node := do
  let negated ← accept '^'
  let found ← members flags true ((← remaining) + 1)
  return .one ⟨found, negated, flags.likeness⟩

def single (flags : Flags) (point : Nat) : Node :=
  .one ⟨[.range point point], false, flags.likeness⟩

/-- Digits behind a backslash: a code point in octal or the number of a group. -/
def numbered (flags : Flags) (c : Char) : Reader Node := do
  if c == '0' then
    let more ← upTo isOctal 2
    return single flags (Numeral.ofBase 8 (c :: more))
  else
    let second ← upTo Char.isDigit 1
    let third ←
      if isOctal c && !second.isEmpty && second.all isOctal then upTo isOctal 1 else pure []
    if third.isEmpty then askAgain flags (Numeral.ofDigits (c :: second))
    else
      let point ← octalPoint (c :: second ++ third)
      return single flags point

def escape (flags : Flags) (c : Char) : Reader Node := do
  match anchorOf? flags.sevenBit c, categoryOf? flags.sevenBit c with
  | some anchor, _ => return .between anchor
  | none, some member => return .one ⟨[member], false, .exact⟩
  | none, none =>
      if c.isDigit then numbered flags c
      else
        let point ← escapedPoint c
        return single flags point

/-- A number of repetitions in digits; none stands for no number. -/
def repetitionNumber? (digits : List Char) : Reader (Option Nat) :=
  if digits.isEmpty then return none
  else if integerDigitLimit < digits.length then
    throw (.invalid (.integerTooLong (some digits.length)))
  else if 4294967295 ≤ Numeral.ofDigits digits then throw (.overflow .repetition)
  else return some (Numeral.ofDigits digits)

/-- The limits of a repetition behind an opening brace; without them the brace stands for
itself. -/
def limits? : Reader (Option (Nat × Option Nat)) := do
  if (← peek) == some (.plain '}') then return none
  let start ← get
  let low ← upTo Char.isDigit (← remaining)
  let hasComma ← accept ','
  let high ← if hasComma then upTo Char.isDigit (← remaining) else pure low
  if ← accept '}' then
    let least ← repetitionNumber? low
    let most ← repetitionNumber? high
    match most with
    | some limit => if limit < least.getD 0 then refuse
    | none => pure ()
    return some (least.getD 0, most)
  else
    StateT.set start
    return none

/-- The flags up to a character that ends them, and that character. -/
def flagLetters (isEnd : Char → Bool) (mayBeTyped : Bool) (found : Flags) (c : Char) :
    Nat → Reader (Flags × Char)
  | 0 => refuse
  | fuel + 1 => do
      match Flags.ofLetter? c with
      | none => refuse
      | some flag =>
          let flags := found.merge flag
          if flags.sevenBit && flags.allScripts then refuse
          if !mayBeTyped && (flags.sevenBit || flags.allScripts) then refuse
          match ← next with
          | some (.plain further) =>
              if isEnd further then return (flags, further)
              else flagLetters isEnd mayBeTyped flags further fuel
          | _ => refuse

/-- The flags of a group that start with a character: those that are turned on and off inside, or
none if they hold for the whole pattern. -/
def flagGroup (c : Char) : Reader (Option (Flags × Flags)) := do
  let fuel ← remaining
  let (on, stop) ←
    if c == '-' then pure ({}, '-')
    else flagLetters (fun c => c == ')' || c == '-' || c == ':') true {} c (fuel + 1)
  if stop == ')' then
    modify fun progress => { progress with flags := progress.flags.merge on }
    return none
  else
    if on.template then refuse
    let off ←
      if stop == '-' then do
        match ← next with
        | some (.plain further) =>
            let (off, _) ← flagLetters (· == ':') false {} further (fuel + 1)
            pure off
        | _ => refuse
      else pure {}
    if off.template || on.overlap off then refuse
    return some (on, off)

def openGroup (name : Option (List Char)) : Reader Nat := do
  let progress ← get
  let group := progress.groups.length + 1
  let names ←
    match name with
    | none => pure progress.names
    | some name =>
        if progress.names.any (·.1 == name) then refuse
        else pure ((name, group) :: progress.names)
  StateT.set { progress with
    groups := progress.groups ++ [none]
    names := names }
  return group

def closeGroup (group : Nat) (item : Node) : Reader Unit :=
  modify fun progress => { progress with
    groups := progress.groups.set (group - 1) (some (item.width progress.groups)) }

def conditionGroup (text : List Char) : Reader Nat := do
  if Text.isIdentifier text then
    match (← get).names.lookup text with
    | some group => return group
    | none => refuse
  else
    match Numeral.readInt text with
    | .value value =>
        if value ≤ 0 then refuse
        modify fun progress => { progress with
          conditions := value.toNat :: progress.conditions }
        return value.toNat
    | _ => refuse

end Reader

structure Piece where
  node : Node
  repeatable : Bool := true

inductive Opening where
  /-- A part that is complete, or nothing. -/
  | complete (piece : Option Piece)
  | group (number : Option Nat) (flags : Flags) (atomic : Bool)
  | look (behind negated : Bool)
  | condition (group : Nat)

namespace Reader

def comment : Nat → Reader Unit
  | 0 => refuse
  | fuel + 1 => do
      match ← peek with
      | none => refuse
      | some token =>
          advance
          if token != .plain ')' then comment fuel

def lineComment : Nat → Reader Unit
  | 0 => return ()
  | fuel + 1 => do
      match ← next with
      | none => return ()
      | some token => if token != .plain '\n' then lineComment fuel

/-- What begins behind a parenthesis and a question mark. Flags for the whole pattern may stand
only at its start. -/
def extension (flags : Flags) (mayBeGlobal : Bool) : Reader Opening := do
  match ← next with
  | some (.plain ':') => return .group none flags false
  | some (.plain '>') => return .group none flags true
  | some (.plain '=') => return .look false false
  | some (.plain '!') => return .look false true
  | some (.plain '<') =>
      match ← next with
      | some (.plain '=') => return .look true false
      | some (.plain '!') => return .look true true
      | _ => refuse
  | some (.plain '#') =>
      comment ((← remaining) + 1)
      return .complete none
  | some (.plain 'P') =>
      if ← accept '<' then
        let text ← name '>'
        if !Text.isIdentifier text then refuse
        let group ← openGroup (some text)
        return .group (some group) flags false
      else if ← accept '=' then
        let text ← name ')'
        match (← get).names.lookup text with
        | some group =>
            let node ← askAgain flags group
            return .complete (some ⟨node, true⟩)
        | none => refuse
      else refuse
  | some (.plain '(') =>
      let text ← name ')'
      let group ← conditionGroup text
      checkBehind group
      return .condition group
  | some (.plain c) =>
      match ← flagGroup c with
      | some (on, off) => return .group none (flags.within on off) false
      | none => if mayBeGlobal then return .complete none else refuse
  | _ => refuse

def opening (flags : Flags) (mayBeGlobal : Bool) : Reader Opening := do
  if ← accept '?' then extension flags mayBeGlobal
  else
    let group ← openGroup none
    return .group (some group) flags false

def repeatLast (pieces : List Piece) (least : Nat) (most : Option Nat) : Reader (List Piece) := do
  match pieces with
  | [] => refuse
  | piece :: before =>
      if !piece.repeatable then refuse
      let isLazy ← accept '?'
      let isPossessive ← if isLazy then pure false else accept '+'
      let greed : Greed := if isLazy then .lazy else if isPossessive then .possessive else .greedy
      return ⟨.repeated greed least most piece.node, false⟩ :: before

/-- Start a look, remembering where the outermost look behind began. -/
def startLook (behind : Bool) : Reader (Option Nat) := do
  let progress ← get
  if behind && progress.behind.isNone then
    StateT.set { progress with behind := some progress.groups.length }
  return progress.behind

def endLook (outer : Option Nat) : Reader Unit :=
  modify fun progress => { progress with behind := outer }

mutual

/-- Alternatives between bars. The flags of the whole pattern hold where no group is open. -/
def alternatives (scope : Option Flags) (isFirst : Bool) : Nat → Reader Node
  | 0 => refuse
  | fuel + 1 => do
      let first ← sequence scope isFirst [] fuel
      if ← accept '|' then
        let others ← alternatives scope false fuel
        return .either first others
      else return first

/-- Parts in a row, of which the last ones read come first. -/
def sequence (scope : Option Flags) (isFirst : Bool) (pieces : List Piece) : Nat → Reader Node
  | 0 => refuse
  | fuel + 1 => do
      let flags := scope.getD (← get).flags
      let done : Reader Node := return .sequence (pieces.reverse.map Piece.node)
      let more (node : Node) (repeatable : Bool) : Reader Node :=
        sequence scope isFirst (⟨node, repeatable⟩ :: pieces) fuel
      let again (least : Nat) (most : Option Nat) : Reader Node := do
        let repeated ← repeatLast pieces least most
        sequence scope isFirst repeated fuel
      match ← peek with
      | none => done
      | some (.plain '|') => done
      | some (.plain ')') => done
      | some .dangling => refuse
      | some (.escaped c) => do
          advance
          let node ← escape flags c
          let isAnchor := match node with
            | .between _ => true
            | _ => false
          more node (!isAnchor)
      | some (.plain c) => do
          advance
          if flags.verbose && " \t\n\r\x0b\x0c".toList.contains c then
            sequence scope isFirst pieces fuel
          else if flags.verbose && c == '#' then
            lineComment ((← remaining) + 1)
            sequence scope isFirst pieces fuel
          else match c with
            | '[' => more (← set flags) true
            | '.' =>
                let excluded := if flags.dotAll then [] else [.range 10 10]
                more (.one ⟨excluded, true, .exact⟩) true
            | '^' => more (.between (if flags.lines then .lineStart else .textStart)) false
            | '$' => more (.between (if flags.lines then .lineEnd else .lastLineEnd)) false
            | '?' => again 0 (some 1)
            | '*' => again 0 none
            | '+' => again 1 none
            | '{' =>
                match ← limits? with
                | some (least, most) => again least most
                | none => more (single flags c.toNat) true
            | '(' =>
                let mayBeGlobal := scope.isNone && isFirst && pieces.isEmpty
                match ← opening flags mayBeGlobal with
                | .complete none => sequence scope isFirst pieces fuel
                | .complete (some piece) => sequence scope isFirst (piece :: pieces) fuel
                | .group number inner isAtomic =>
                    let item ← alternatives (some inner) false fuel
                    expect ')'
                    match number with
                    | some group =>
                        closeGroup group item
                        more (.capture group item) true
                    | none => more (if isAtomic then .atomic item else item) true
                | .look behind negated =>
                    let outer ← startLook behind
                    let item ← alternatives (some flags) false fuel
                    endLook outer
                    expect ')'
                    let groups := (← get).groups
                    let start : Look :=
                      if behind then .behind (item.width groups).back? else .ahead
                    more (.look start negated item) true
                | .condition group =>
                    let yes ← sequence (some flags) false [] fuel
                    let hasNo ← accept '|'
                    let no ← if hasNo then sequence (some flags) false [] fuel else pure .empty
                    expect ')'
                    more (.whether group yes no) true
            | _ => more (single flags c.toNat) true

end

def whole : Reader Node := do
  if (← get).tokens == [.dangling] then refuse
  let node ← alternatives none true (2 * (← remaining) + 2)
  let progress ← get
  if progress.flags.sevenBit && progress.flags.allScripts then
    throw (.invalid (.other "ASCII and UNICODE flags are incompatible"))
  if !progress.tokens.isEmpty then refuse
  if progress.conditions.any (progress.groups.length < ·) then refuse
  if !node.canLookBehind then refuse
  if progress.flags.template && node.hasRepetition then refuse
  return node

end Reader

def read (text : List Char) : Except Fault Node := do
  let (node, _) ← Reader.whole.run { tokens := tokens text }
  return node

end BrowserScript.Pattern
