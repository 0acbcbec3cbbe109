/-!
# Close words

Two words are close when most of their characters lie in common runs: the longest run that both
share, and the runs on either side of it.
-/

namespace BrowserScript.Text

/-- A run of characters that two words share: where it starts in each, and its length. -/
structure SharedRun where
  left : Nat
  right : Nat
  length : Nat

def commonStart : List Char → List Char → Nat
  | a :: as, b :: bs => if a == b then commonStart as bs + 1 else 0
  | _, _ => 0

/-- The longest shared run, the leftmost in the first and then in the second word. -/
def longestRun (first second : List Char) : SharedRun :=
  let runs : List SharedRun := (List.range first.length).flatMap fun left =>
    (List.range second.length).map fun right =>
      ⟨left, right, commonStart (first.drop left) (second.drop right)⟩
  runs.foldl (fun best run => if best.length < run.length then run else best) ⟨0, 0, 0⟩

def sharedCount (first second : List Char) : Nat :=
  match longestRun first second with
  | ⟨left, right, length⟩ =>
      if _bounds : 0 < length ∧ left < first.length then
        length
          + sharedCount (first.take left) (second.take right)
          + sharedCount (first.drop (left + length)) (second.drop (right + length))
      else 0
termination_by first.length
decreasing_by
  · simp only [List.length_take]; omega
  · simp only [List.length_drop]; omega

structure Closeness where
  word : String
  shared : Nat
  total : Nat

/-- Whether one candidate is closer than another, a later one of two equally close. -/
def Closeness.before (first second : Closeness) : Bool :=
  let left := first.shared * second.total
  let right := second.shared * first.total
  right < left || (left == right && second.word < first.word)

/-- At most three candidates of which three fifths of the characters are shared with a word, in
alphabetical order. -/
def closest (word : String) (candidates : List String) : List String :=
  let measured := candidates.map fun candidate =>
    Closeness.mk candidate (sharedCount candidate.toList word.toList)
      (candidate.length + word.length)
  let close := measured.filter fun entry => 3 * entry.total ≤ 10 * entry.shared
  let best := (close.mergeSort Closeness.before).take 3
  (best.map Closeness.word).mergeSort fun first second => first ≤ second

end BrowserScript.Text
