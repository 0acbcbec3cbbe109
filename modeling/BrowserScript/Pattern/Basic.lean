import BrowserScript.Text.Blank
import BrowserScript.Text.Digit
import BrowserScript.Text.Folding
import BrowserScript.Text.WordChar

/-!
# Patterns

A pattern describes texts: characters of a set, places between characters, and the ways to put
patterns together. Groups remember the text that they took, and later parts may ask for it again.
-/

namespace BrowserScript.Pattern

inductive Likeness where
  | exact
  /-- Upper and lower case of seven-bit letters are the same. -/
  | sevenBit
  /-- Upper and lower case of all letters are the same. -/
  | anyCase
  deriving DecidableEq

namespace Likeness

def variants (likeness : Likeness) (c : Char) : List Nat :=
  match likeness with
  | exact => [c.toNat]
  | sevenBit => Text.asciiVariants c
  | anyCase => Text.variants c

/-- A representative of a character in a text that is compared with another text. -/
def plain (likeness : Likeness) (c : Char) : Char :=
  match likeness with
  | exact => c
  | sevenBit => c.toLower
  | anyCase => Text.lowerFirst c

end Likeness

inductive Category where
  | digit
  | blank
  | word
  deriving DecidableEq

/-- Whether a category holds a character; the seven-bit categories hold no other characters. -/
def Category.has (category : Category) (sevenBit : Bool) (c : Char) : Bool :=
  (!sevenBit || c.toNat < 0x80) &&
    match category with
    | digit => Text.isDigit c
    | blank => Text.isBlank c && !(sevenBit && 0x1c ≤ c.toNat && c.toNat ≤ 0x1f)
    | word => Text.isWordChar c

inductive Member where
  /-- The code points between two, both included. -/
  | range (low high : Nat)
  | category (kind : Category) (sevenBit negated : Bool)
  deriving DecidableEq

def Member.has (likeness : Likeness) (c : Char) : Member → Bool
  | range low high => (likeness.variants c).any fun point => low ≤ point && point ≤ high
  | category kind sevenBit negated => kind.has sevenBit c != negated

structure CharSet where
  members : List Member
  negated : Bool
  likeness : Likeness
  deriving DecidableEq

def CharSet.has (set : CharSet) (c : Char) : Bool :=
  set.members.any (·.has set.likeness c) != set.negated

inductive Anchor where
  | textStart
  | lineStart
  | textEnd
  /-- The end of the text or the line break at its end. -/
  | lastLineEnd
  | lineEnd
  /-- Between a word character and another, or anywhere else in a text that is not empty. -/
  | boundary (sevenBit negated : Bool)
  deriving DecidableEq

inductive Greed where
  | greedy
  | lazy
  /-- As many as possible, without giving any back. -/
  | possessive
  deriving DecidableEq

/-- The fewest and the most characters that a pattern takes, without limit if there is no most. -/
structure Width where
  least : Nat
  most : Option Nat
  deriving DecidableEq

namespace Width

def fixed (count : Nat) : Width := ⟨count, some count⟩

def add (first second : Width) : Width :=
  ⟨first.least + second.least, do return (← first.most) + (← second.most)⟩

def union (first second : Width) : Width :=
  ⟨min first.least second.least, do return max (← first.most) (← second.most)⟩

def times (width : Width) (least : Nat) (most : Option Nat) : Width :=
  ⟨width.least * least,
   match width.most, most with
   | some 0, _ => some 0
   | _, some 0 => some 0
   | some high, some count => some (high * count)
   | _, _ => none⟩

def backLimit : Nat := 4294967295

/-- The one width, where there is one that can be stepped back over. -/
def back? (width : Width) : Option Nat :=
  if width.most == some width.least && width.least ≤ backLimit then some width.least else none

end Width

inductive Look where
  | ahead
  /-- So many characters back; a look that has no fixed width cannot begin. -/
  | behind (width : Option Nat)
  deriving DecidableEq

inductive Node where
  | empty
  | one (set : CharSet)
  | between (anchor : Anchor)
  | both (first second : Node)
  | either (first second : Node)
  | repeated (greed : Greed) (least : Nat) (most : Option Nat) (item : Node)
  | capture (group : Nat) (item : Node)
  /-- The text that a group took. -/
  | again (group : Nat) (likeness : Likeness)
  /-- One of two patterns, by whether a group took a text. -/
  | whether (group : Nat) (yes no : Node)
  | look (start : Look) (negated : Bool) (item : Node)
  /-- The first way to match, and no other. -/
  | atomic (item : Node)

namespace Node

def sequence (nodes : List Node) : Node := nodes.foldr both empty

def choice : List Node → Node
  | [] => empty
  | [node] => node
  | node :: rest => either node (choice rest)

/-- How many characters a pattern takes, by the widths of the groups that it asks for again. -/
def width (groups : List (Option Width)) : Node → Width
  | empty => .fixed 0
  | one _ => .fixed 1
  | between _ => .fixed 0
  | both first second => (first.width groups).add (second.width groups)
  | either first second => (first.width groups).union (second.width groups)
  | repeated _ least most item => (item.width groups).times least most
  | capture _ item => item.width groups
  | again group _ => ((groups[group - 1]?).join).getD (.fixed 0)
  | whether _ yes no => (yes.width groups).union (no.width groups)
  | look _ _ _ => .fixed 0
  | atomic item => item.width groups

def canLookBehind : Node → Bool
  | both first second => first.canLookBehind && second.canLookBehind
  | either first second => first.canLookBehind && second.canLookBehind
  | repeated _ _ _ item => item.canLookBehind
  | capture _ item => item.canLookBehind
  | whether _ yes no => yes.canLookBehind && no.canLookBehind
  | look start _ item => start != .behind none && item.canLookBehind
  | atomic item => item.canLookBehind
  | _ => true

def hasRepetition : Node → Bool
  | both first second => first.hasRepetition || second.hasRepetition
  | either first second => first.hasRepetition || second.hasRepetition
  | repeated _ _ _ _ => true
  | capture _ item => item.hasRepetition
  | whether _ yes no => yes.hasRepetition || no.hasRepetition
  | look _ _ item => item.hasRepetition
  | atomic item => item.hasRepetition
  | _ => false

end Node

end BrowserScript.Pattern
