import BrowserScript.Pattern.Basic

/-!
# Searching

A pattern is tried at each place of a text from left to right. At a place its alternatives are
tried in order, and where the rest of the pattern fails the next alternative is taken, with the
groups as they were before.
-/

namespace BrowserScript.Pattern

structure Place where
  /-- The characters on the left, nearest first. -/
  before : List Char
  after : List Char
  index : Nat
  groups : List (Nat × List Char) := []

namespace Place

def forward? (place : Place) : Option (Char × Place) :=
  match place.after with
  | [] => none
  | c :: rest => some (c, { place with
      before := c :: place.before
      after := rest
      index := place.index + 1 })

def back? (place : Place) (count : Nat) : Option Place :=
  if place.index < count then none
  else some { place with
    before := place.before.drop count
    after := (place.before.take count).reverse ++ place.after
    index := place.index - count }

def taken? (place : Place) (group : Nat) : Option (List Char) := place.groups.lookup group

/-- The place after a group has taken the text since an earlier place. -/
def take (place start : Place) (group : Nat) : Place :=
  { place with
    groups := (group, start.after.take (place.index - start.index))
      :: place.groups.filter (·.1 != group) }

def isBoundary (place : Place) (sevenBit : Bool) : Bool :=
  let isWord (c : Option Char) : Bool := (c.map (Category.word.has sevenBit)).getD false
  isWord place.before.head? != isWord place.after.head?

def isAt (place : Place) : Anchor → Bool
  | .textStart => place.before.isEmpty
  | .lineStart => place.before.isEmpty || place.before.head? == some '\n'
  | .textEnd => place.after.isEmpty
  | .lastLineEnd => place.after.isEmpty || place.after == ['\n']
  | .lineEnd => place.after.isEmpty || place.after.head? == some '\n'
  | .boundary sevenBit negated =>
      !(place.before.isEmpty && place.after.isEmpty) && place.isBoundary sevenBit != negated

def skip? (likeness : Likeness) (place : Place) : List Char → Option Place
  | [] => some place
  | c :: rest =>
      match place.forward? with
      | some (next, further) =>
          if likeness.plain next == likeness.plain c then skip? likeness further rest else none
      | none => none

end Place

abbrev Rest := Place → Option Place

/-- The repetitions of a pattern. One that takes no text is not repeated at the same place. -/
def repetitions (matching : Place → Rest → Option Place) (greed : Greed) (least : Nat)
    (most : Option Nat) (rest : Rest) : (fuel count : Nat) → (last : Option Nat) → Rest
  | 0, _, _ => rest
  | fuel + 1, count, last => fun place =>
      let again (last : Option Nat) : Option Place :=
        let continued := repetitions matching greed least most rest fuel (count + 1) last
        match greed with
        | .possessive =>
            match matching place some with
            | some further => continued further
            | none => if count < least then none else rest place
        | _ => matching place continued
      let mayRepeat := most.all (count < ·) && last != some place.index
      if count < least then again last
      else if !mayRepeat then rest place
      else match greed with
        | .greedy => (again (some place.index)).orElse fun _ => rest place
        | .lazy => (rest place).orElse fun _ => again (some place.index)
        | .possessive => again (some place.index)

namespace Node

def matching : Node → Place → Rest → Option Place
  | empty, place, rest => rest place
  | one set, place, rest =>
      match place.forward? with
      | some (c, further) => if set.has c then rest further else none
      | none => none
  | between anchor, place, rest => if place.isAt anchor then rest place else none
  | both first second, place, rest => first.matching place fun further => second.matching further rest
  | either first second, place, rest =>
      (first.matching place rest).orElse fun _ => second.matching place rest
  | repeated greed least most item, place, rest =>
      repetitions item.matching greed least most rest (least + place.after.length + 3) 0 none place
  | capture group item, place, rest =>
      item.matching place fun further => rest (further.take place group)
  | again group likeness, place, rest =>
      match place.taken? group with
      | some text =>
          match place.skip? likeness text with
          | some further => rest further
          | none => none
      | none => none
  | whether group yes no, place, rest =>
      if (place.taken? group).isSome then yes.matching place rest else no.matching place rest
  | look start negated item, place, rest =>
      let begun :=
        match start with
        | .ahead => some place
        | .behind width => width.bind place.back?
      let seen := begun.bind fun begun => item.matching begun some
      match seen with
      | some found => if negated then none else rest { place with groups := found.groups }
      | none => if negated then rest place else none
  | atomic item, place, rest =>
      match item.matching place some with
      | some further => rest further
      | none => none

def occursFrom (node : Node) (before : List Char) (index : Nat) (after : List Char) : Bool :=
  (node.matching { before, after, index } some).isSome ||
    match after with
    | [] => false
    | c :: rest => node.occursFrom (c :: before) (index + 1) rest

def occursIn (node : Node) (text : List Char) : Bool := node.occursFrom [] 0 text

end Node

end BrowserScript.Pattern
