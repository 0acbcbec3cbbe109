import BrowserScript.Proofs.Yaml.Tree
import BrowserScript.Yaml.Content

/-!
# Why a tree has no value

Most trees without a value are refused as such. The others have a node whose tag asks for a truth
value, a number or a point in time and whose text writes none: whichever way the tree is filled and
its mappings are merged, the fault is the one of that node alone.
-/

namespace BrowserScript.Yaml

/-! ## Computations -/

section

variable {α β : Type} {explains : Fault → Prop}

/-- A computation gives a good result or ends with a fault that is explained. -/
def Gives (explains : Fault → Prop) (outcome : Except Fault α) (good : α → Prop) : Prop :=
  match outcome with
  | .ok result => good result
  | .error fault => explains fault

namespace Gives

theorem bind {outcome : Except Fault α} {next : α → Except Fault β} {between : α → Prop}
    {good : β → Prop} (first : Gives explains outcome between)
    (second : ∀ result, between result → Gives explains (next result) good) :
    Gives explains (outcome >>= next) good := by
  cases outcome with
  | error fault => exact first
  | ok result => exact second result first

theorem mono {outcome : Except Fault α} {good better : α → Prop}
    (gives : Gives explains outcome better) (weaker : ∀ result, better result → good result) :
    Gives explains outcome good := by
  cases outcome with
  | error fault => exact gives
  | ok result => exact weaker result gives

theorem mapM {step : α → Except Fault β} {good : β → Prop} {items : List α}
    (each : ∀ item ∈ items, Gives explains (step item) good) :
    Gives explains (items.mapM step) fun results => ∀ result ∈ results, good result := by
  induction items with
  | nil => exact List.forall_mem_nil _
  | cons item items ih =>
      obtain ⟨first, others⟩ := List.forall_mem_cons.1 each
      rw [List.mapM_cons]
      refine first.bind fun result isGood => (ih others).bind fun results areGood => ?_
      exact List.forall_mem_cons.2 ⟨isGood, areGood⟩

theorem forM {step : α → Except Fault PUnit} {items : List α}
    (each : ∀ item ∈ items, Gives explains (step item) fun _ => True) :
    Gives explains (items.forM step) fun _ => True := by
  induction items with
  | nil => trivial
  | cons item items ih =>
      obtain ⟨first, others⟩ := List.forall_mem_cons.1 each
      change Gives explains (step item >>= fun _ => items.forM step) fun _ => True
      exact first.bind fun _ _ => ih others

theorem weaken {outcome : Except Fault α} {good : α → Prop} {explainsMore : Fault → Prop}
    (gives : Gives explains outcome good) (more : ∀ {fault}, explains fault → explainsMore fault) :
    Gives explainsMore outcome good := by
  cases outcome with
  | error fault => exact more gives
  | ok result => exact gives

theorem explained {outcome : Except Fault α} {good : α → Prop}
    (gives : Gives explains outcome good) {fault : Fault} (failed : outcome = .error fault) :
    explains fault := by
  subst failed
  exact gives

end Gives

end

namespace Node

variable {node : Node}

/-! ## Nodes of a tree -/

inductive Holds : Node → Node → Prop where
  | self (node : Node) : Holds node node
  | item {tag : Tag} {items : List Node} {item node : Node} (member : item ∈ items)
      (inside : Holds item node) : Holds (.sequence tag items) node
  | key {tag : Tag} {pairs : List (Node × Node)} {pair : Node × Node} {node : Node}
      (member : pair ∈ pairs) (inside : Holds pair.1 node) : Holds (.mapping tag pairs) node
  | value {tag : Tag} {pairs : List (Node × Node)} {pair : Node × Node} {node : Node}
      (member : pair ∈ pairs) (inside : Holds pair.2 node) : Holds (.mapping tag pairs) node

theorem Holds.trans {root middle : Node} (outer : root.Holds middle)
    (inner : middle.Holds node) : root.Holds node := by
  induction outer with
  | self => exact inner
  | item member _ ih => exact .item member (ih inner)
  | key member _ ih => exact .key member (ih inner)
  | value member _ ih => exact .value member (ih inner)

def isReadTag : Tag → Bool
  | .bool => true
  | .int => true
  | .float => true
  | .timestamp => true
  | _ => false

inductive Valueless (root : Node) : Fault → Prop where
  /-- The tree is refused as such. -/
  | unconstructible : Valueless root (.unreadable .construction)
  /-- A node of the tree writes no value for its tag. -/
  | misread {node : Node} {fault : Fault} (holds : root.Holds node)
      (read : isReadTag node.tag = true) (failed : node.scalarValue = .error fault) :
      Valueless root fault

variable {root : Node}

/-- The nodes that are met: those of the tree, and keys that were made texts. -/
def Met (root node : Node) : Prop := root.Holds node ∨ ∃ text, node = .scalar .str text

theorem gives_unconstructible {α : Type} {good : α → Prop} :
    Gives (Valueless root) unconstructible good := Valueless.unconstructible

/-! ## Scalars -/

/-- The texts of nodes are refused as such. -/
theorem scalarText_gives (node : Node) : Gives (Valueless root) node.scalarText fun _ => True := by
  have both := scalarText.mutual_induct
    (fun node => Gives (Valueless root) node.scalarText fun _ => True)
    (fun pairs => Gives (Valueless root) (defaultText pairs) fun _ => True)
  refine (both ?_ ?_ ?_ ?_ ?_ ?_).1 node
  · intro tag text
    rw [scalarText]
    trivial
  · intro tag pairs ih
    rwa [scalarText]
  · intro other noScalar noMapping
    rw [scalarText.eq_3 other noScalar noMapping]
    exact gives_unconstructible
  · rw [defaultText]
    exact gives_unconstructible
  · intro key value rest isDefault ih
    rwa [defaultText, if_pos isDefault]
  · intro key value rest other ih
    rwa [defaultText, if_neg other]

/-- A node is refused as such unless its tag has rules of its own. -/
theorem scalarValue_gives (met : Met root node) :
    Gives (Valueless root) node.scalarValue fun _ => True := by
  by_cases read : isReadTag node.tag = true
  -- A key that was made a text has no such tag, so the node is one of the tree.
  · have holds : root.Holds node := by
      rcases met with holds | ⟨text, rfl⟩
      · exact holds
      · cases read
    cases failed : node.scalarValue with
    | ok value => trivial
    | error fault => exact .misread holds read failed
  · unfold scalarValue
    cases tagged : node.tag with
    | merge => exact gives_unconstructible
    | default => exact gives_unconstructible
    | unknown => exact gives_unconstructible
    | bool => exact absurd (congrArg isReadTag tagged) read
    | int => exact absurd (congrArg isReadTag tagged) read
    | float => exact absurd (congrArg isReadTag tagged) read
    | timestamp => exact absurd (congrArg isReadTag tagged) read
    | binary =>
        refine (scalarText_gives node).bind fun text _ => ?_
        dsimp only
        split
        · split
          · trivial
          · exact gives_unconstructible
        · exact gives_unconstructible
    | _ => exact (scalarText_gives node).bind fun _ _ => trivial

theorem meet_gives (met : Met root node) : Gives (Valueless root) node.meet fun _ => True := by
  unfold meet
  split
  · trivial
  · have read := scalarValue_gives met
    cases outcome : node.scalarValue with
    | ok value => trivial
    | error fault =>
        rw [outcome] at read
        exact read

/-! ## Collections -/

def PairsMet (root : Node) (pairs : List (Node × Node)) : Prop :=
  ∀ pair ∈ pairs, Met root pair.1 ∧ Met root pair.2

theorem PairsMet.append {left right : List (Node × Node)} (first : PairsMet root left)
    (second : PairsMet root right) : PairsMet root (left ++ right) := by
  intro pair member
  rcases List.mem_append.1 member with inLeft | inRight
  · exact first pair inLeft
  · exact second pair inRight

theorem met_plainKey {key : Node} (holds : root.Holds key) : Met root key.plainKey := by
  unfold plainKey
  split
  · exact .inr ⟨_, rfl⟩
  · exact .inl holds

/-- Merging gives pairs of nodes of the tree, with keys that may have become texts. -/
theorem merged_gives (root : Node) :
    (∀ pairs : List (Node × Node), (∀ pair ∈ pairs, root.Holds pair.1 ∧ root.Holds pair.2) →
      Gives (Valueless root) (mergedPairs pairs)
        fun parts => PairsMet root parts.1 ∧ PairsMet root parts.2) ∧
    (∀ node : Node, root.Holds node → Gives (Valueless root) node.mergedNode (PairsMet root)) ∧
    ∀ items : List Node, (∀ item ∈ items, root.Holds item) →
      Gives (Valueless root) (mergedItems items) (PairsMet root) := by
  have none : PairsMet root [] := List.forall_mem_nil _
  apply mergedPairs.mutual_induct
  case case1 =>
    intro tag pairs ih holds
    rw [mergedNode]
    refine (ih fun pair member => ?_).bind fun parts met => met.1.append met.2
    exact ⟨holds.trans (.key member (.self _)), holds.trans (.value member (.self _))⟩
  case case2 =>
    intro tag items ih holds
    rw [mergedNode]
    exact ih fun item member => holds.trans (.item member (.self _))
  case case3 =>
    intro _
    rw [mergedNode]
    exact none
  case case4 =>
    intro _
    rw [mergedNode]
    exact none
  case case5 =>
    intro tag text _
    rw [mergedNode]
    exact gives_unconstructible
  case case6 =>
    intro _
    rw [mergedItems]
    exact none
  case case7 =>
    intro item rest isMapping ih ihRest held
    obtain ⟨first, others⟩ := List.forall_mem_cons.1 held
    rw [mergedItems, if_pos isMapping]
    exact (ih first).bind fun pairs met => (ihRest others).bind fun _ metRest => metRest.append met
  case case8 =>
    intro item rest other _
    rw [mergedItems, if_neg other]
    exact gives_unconstructible
  case case9 =>
    intro _
    rw [mergedPairs]
    exact ⟨none, none⟩
  case case10 =>
    intro key value rest isMerge ih ihRest held
    obtain ⟨first, others⟩ := List.forall_mem_cons.1 held
    rw [mergedPairs, if_pos isMerge]
    exact (ih first.2).bind fun merged met => (ihRest others).bind fun parts metRest =>
      ⟨met.append metRest.1, metRest.2⟩
  case case11 =>
    intro key value rest other ihRest held
    obtain ⟨first, others⟩ := List.forall_mem_cons.1 held
    rw [mergedPairs, if_neg other]
    refine (ihRest others).bind fun parts metRest => ⟨metRest.1, ?_⟩
    exact List.forall_mem_cons.2 ⟨⟨met_plainKey first.1, .inl first.2⟩, metRest.2⟩

theorem entries_gives (met : Met root node) :
    Gives (Valueless root) node.entries (PairsMet root) := by
  rcases met with holds | ⟨text, rfl⟩
  · cases node with
    | mapping tag pairs =>
        refine ((merged_gives root).1 pairs fun pair member => ?_).bind fun parts met =>
          met.1.append met.2
        exact ⟨holds.trans (.key member (.self _)), holds.trans (.value member (.self _))⟩
    | outerMapping => exact List.forall_mem_nil _
    | _ => exact gives_unconstructible
  · exact gives_unconstructible

theorem members_gives (met : Met root node) :
    Gives (Valueless root) node.members fun items => ∀ item ∈ items, Met root item := by
  rcases met with holds | ⟨text, rfl⟩
  · cases node with
    | sequence tag items => exact fun item member => .inl (holds.trans (.item member (.self _)))
    | outerSequence => exact List.forall_mem_nil _
    | _ => exact gives_unconstructible
  · exact gives_unconstructible

theorem onlyPair_gives (met : Met root node) :
    Gives (Valueless root) node.onlyPair fun pair => Met root pair.1 ∧ Met root pair.2 := by
  unfold onlyPair
  split
  · rename_i tag pair
    rcases met with holds | ⟨text, same⟩
    · exact ⟨.inl (holds.trans (.key List.mem_cons_self (.self _))),
        .inl (holds.trans (.value List.mem_cons_self (.self _)))⟩
    · cases same
  · exact gives_unconstructible

/-! ## Levels -/

theorem meetPair_gives {pair : Node × Node} (met : Met root pair.1 ∧ Met root pair.2) :
    Gives (Valueless root) (meetPair pair) fun _ => True := by
  unfold meetPair
  refine (meet_gives met.1).bind fun _ _ => ?_
  dsimp only
  split
  · exact Valueless.unconstructible
  · exact meet_gives met.2

theorem met_of_mem_flatMap {pairs : List (Node × Node)} (met : PairsMet root pairs)
    (member : node ∈ pairs.flatMap fun pair => [pair.1, pair.2]) : Met root node := by
  obtain ⟨pair, inPairs, inPair⟩ := List.mem_flatMap.1 member
  simp only [List.mem_cons, List.not_mem_nil, or_false] at inPair
  rcases inPair with rfl | rfl
  · exact (met pair inPairs).1
  · exact (met pair inPairs).2

theorem inside_gives (met : Met root node) :
    Gives (Valueless root) node.inside fun nodes => ∀ inner ∈ nodes, Met root inner := by
  have ofMembers : Gives (Valueless root) (do
      let pairs ← (← node.members).mapM fun item => do
        let pair ← item.onlyPair
        pair.1.meet
        pair.2.meet
        return pair
      return pairs.flatMap fun pair => [pair.1, pair.2]) fun nodes =>
        ∀ inner ∈ nodes, Met root inner := by
    refine (members_gives met).bind fun items metItems => ?_
    refine (Gives.mapM fun item member => ?_).bind fun pairs metPairs inner inMember =>
      met_of_mem_flatMap metPairs inMember
    refine (onlyPair_gives (metItems item member)).bind fun pair metPair => ?_
    exact (meet_gives metPair.1).bind fun _ _ => (meet_gives metPair.2).bind fun _ _ => metPair
  have ofEntries : Gives (Valueless root) (do
      let pairs ← node.entries
      pairs.forM meetPair
      return pairs.flatMap fun pair => [pair.1, pair.2]) fun nodes =>
        ∀ inner ∈ nodes, Met root inner := by
    refine (entries_gives met).bind fun pairs metPairs => ?_
    refine (Gives.forM fun pair member => meetPair_gives (metPairs pair member)).bind fun _ _ => ?_
    exact fun inner member => met_of_mem_flatMap metPairs member
  unfold inside
  split
  · refine (members_gives met).bind fun items metItems => ?_
    exact (Gives.forM fun item member => meet_gives (metItems item member)).bind fun _ _ => metItems
  · exact ofMembers
  · exact ofMembers
  · exact ofEntries

/-- Filling a queue of nodes that are met meets nodes of the tree. -/
theorem fill_gives (rounds : Nat) {queue : List Node} (met : ∀ node ∈ queue, Met root node) :
    Gives (Valueless root) (fill rounds queue) fun _ => True := by
  induction rounds generalizing queue with
  | zero => trivial
  | succ rounds ih =>
      cases queue with
      | nil => trivial
      | cons node queue =>
          obtain ⟨first, others⟩ := List.forall_mem_cons.1 met
          rw [fill]
          refine (inside_gives first).bind fun inner metInner => ih fun other member => ?_
          rcases List.mem_append.1 member with inQueue | inInner
          · exact others other inQueue
          · exact metInner other (List.mem_filter.1 inInner).1

theorem valueAt_gives (levels : Nat) (met : Met root node) :
    Gives (Valueless root) (valueAt levels node) fun _ => True := by
  induction levels generalizing node with
  | zero =>
      unfold valueAt
      split <;> trivial
  | succ levels ih =>
      have pairValues {pairs : List (Node × Node)} (metPairs : PairsMet root pairs) :
          Gives (Valueless root) (pairs.mapM fun pair => do
            return (← valueAt levels pair.1, ← valueAt levels pair.2)) fun _ => True := by
        have each : ∀ pair ∈ pairs, Gives (Valueless root) (do
            return (← valueAt levels pair.1, ← valueAt levels pair.2)) fun _ => True := by
          intro pair member
          refine (ih (metPairs pair member).1).bind fun _ _ => ?_
          exact (ih (metPairs pair member).2).bind fun _ _ => trivial
        exact (Gives.mapM each).mono fun _ _ => trivial
      have ofEntries (finish : List (Value × Value) → Value) : Gives (Valueless root) (do
          let pairs ← node.entries
          return finish (← pairs.mapM fun pair => do
            return (← valueAt levels pair.1, ← valueAt levels pair.2))) fun _ => True :=
        (entries_gives met).bind fun _ metPairs => (pairValues metPairs).bind fun _ _ => trivial
      have ofMembers (finish : List (Value × Value) → Value) : Gives (Valueless root) (do
          let pairs ← (← node.members).mapM onlyPair
          return finish (← pairs.mapM fun pair => do
            return (← valueAt levels pair.1, ← valueAt levels pair.2))) fun _ => True := by
        refine (members_gives met).bind fun items metItems => ?_
        refine (Gives.mapM fun item member => onlyPair_gives (metItems item member)).bind
          fun pairs metPairs => ?_
        exact (pairValues metPairs).bind fun _ _ => trivial
      unfold valueAt
      dsimp only
      split
      · refine (members_gives met).bind fun items metItems => ?_
        exact (Gives.mapM fun item member => ih (metItems item member)).bind fun _ _ => trivial
      · exact ofEntries _
      · exact ofEntries _
      · exact ofMembers _
      · exact ofMembers _
      · exact scalarValue_gives met

/-- A tree has a value, or what explains its fault is one of its nodes. -/
theorem value_gives (root : Node) : Gives (Valueless root) root.value fun _ => True := by
  have met : Met root root := .inl (.self root)
  unfold value
  refine (meet_gives met).bind fun _ _ => ?_
  dsimp only
  split
  · refine (fill_gives _ fun node member => ?_).bind fun _ _ => valueAt_gives _ met
    rw [List.mem_singleton.1 member]
    exact met
  · exact valueAt_gives _ met

end Node

end BrowserScript.Yaml
