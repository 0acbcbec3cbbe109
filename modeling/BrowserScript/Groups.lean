/-!
# Groups in order of appearance

Items are collected under keys. A key has its place from its first item on, and the items of a key
keep their order.
-/

namespace BrowserScript

/-- Items under keys, both in order of appearance. -/
abbrev Groups (κ α : Type) := List (κ × List α)

namespace Groups

variable {κ α : Type}

def add (same : κ → κ → Bool) (key : κ) (item : α) : Groups κ α → Groups κ α
  | [] => [(key, [item])]
  | group :: groups =>
      if same group.1 key then (group.1, group.2 ++ [item]) :: groups
      else group :: add same key item groups

def get (same : κ → κ → Bool) (key : κ) : Groups κ α → List α
  | [] => []
  | group :: groups => if same group.1 key then group.2 else get same key groups

def ofPairs (same : κ → κ → Bool) (pairs : List (κ × α)) : Groups κ α :=
  pairs.foldl (fun groups pair => add same pair.1 pair.2 groups) []

end Groups

end BrowserScript
