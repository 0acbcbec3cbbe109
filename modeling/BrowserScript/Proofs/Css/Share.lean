import Mathlib.Algebra.GroupWithZero.Nat
import BrowserScript.Css.Rule

/-!
# What nodes take of a list

Reading cuts a list of components into nodes. Each node takes its own part of the list: the
components before its block, the block and the marks that make it a rule or a declaration. The sizes
of all nodes add up to no more than the weight of the list, whether an item is read as a declaration,
falls back to a nested rule, or is given up.
-/

namespace BrowserScript.Css

namespace Component

theorem totalWeight_eq_sum (components : List Component) :
    totalWeight components = (components.map weight).sum := by
  induction components with
  | nil => rfl
  | cons component components ih => rw [totalWeight, ih, List.map_cons, List.sum_cons]

theorem totalWeight_reverse (components : List Component) :
    totalWeight components.reverse = totalWeight components := by
  rw [totalWeight_eq_sum, totalWeight_eq_sum, List.map_reverse, List.sum_reverse]

theorem totalWeight_dropWhile_le (skipped : Component → Bool) (components : List Component) :
    totalWeight (components.dropWhile skipped) ≤ totalWeight components := by
  induction components with
  | nil => exact Nat.le_refl _
  | cons component components ih =>
      rw [List.dropWhile_cons]
      split
      · rw [totalWeight]
        omega
      · exact Nat.le_refl _

theorem isLiteral_iff {component : Component} {text : String} :
    component.isLiteral text = true ↔ component = .literal text := by
  cases component <;> simp [isLiteral]

end Component

open Component

namespace Node

/-- The components that a node stands for, at all depths: those of its parts, the curly brackets and
the name of an at-rule, the name and the colon of a declaration. -/
def size : Node → Nat
  | .qualified selector content => totalWeight selector + totalWeight content + 1
  | .atRule _ condition none => totalWeight condition + 1
  | .atRule _ condition (some content) => totalWeight condition + totalWeight content + 2
  | .declaration _ value => totalWeight value + 2
  | .unparsable => 0

def totalSize (nodes : List Node) : Nat := (nodes.map size).sum

end Node

def Opening.weight : Opening → Nat
  | .block content => totalWeight content + 1
  | .semicolon => 1
  | .endOfList => 0

/-- A split keeps every component: before its end, in its end, or after it. -/
theorem totalWeight_splitAtBlock (stopsAtSemicolon : Bool) (components : List Component) :
    totalWeight (splitAtBlock stopsAtSemicolon components).1
        + (splitAtBlock stopsAtSemicolon components).2.1.weight
        + totalWeight (splitAtBlock stopsAtSemicolon components).2.2
      = totalWeight components := by
  fun_induction splitAtBlock stopsAtSemicolon components with
  | case1 => rfl
  | case2 content rest =>
      simp only [Opening.weight, totalWeight, Component.weight]
      omega
  | case3 component rest _ stops =>
      have semicolon := (Bool.and_eq_true_iff.1 stops).2
      simp only [Opening.weight, totalWeight, isLiteral_iff.1 semicolon, weight,
        Nat.zero_add]
  | case4 component rest _ _ before opening after found ih =>
      rw [found] at ih
      simp only [totalWeight] at ih ⊢
      omega

theorem readAtRule_size (name : String) (components : List Component) :
    (readAtRule name components).1.size + totalWeight (readAtRule name components).2
      ≤ totalWeight components + 1 := by
  have kept := totalWeight_splitAtBlock true components
  unfold readAtRule
  split <;> rename_i found <;> rw [found] at kept
  · simp only [Node.size, Opening.weight] at kept ⊢
    omega
  · simp only [Node.size] at kept ⊢
    omega

theorem readQualified_size (stopsAtSemicolon : Bool) (components : List Component) :
    (readQualified stopsAtSemicolon components).1.size
        + totalWeight (readQualified stopsAtSemicolon components).2
      ≤ totalWeight components := by
  have kept := totalWeight_splitAtBlock stopsAtSemicolon components
  unfold readQualified
  split <;> rename_i found <;> rw [found] at kept
  · simp only [Node.size, Opening.weight] at kept ⊢
    omega
  · simp only [Node.size] at kept ⊢
    omega

/-! ## Declarations -/

/-- A value is looked at within a limit: what it holds, and what it held before its mark of
importance, weighs no more. -/
structure ValueState.Within (limit : Nat) (state : ValueState) : Prop where
  value : totalWeight state.value ≤ limit
  bang : ∀ before, state.importance = .bang before → totalWeight before ≤ limit
  important : ∀ before, state.importance = .important before → totalWeight before ≤ limit

/-- Each component widens the limit by its own weight. -/
theorem ValueState.Within.add {limit : Nat} {state : ValueState} (within : state.Within limit)
    (component : Component) : (state.add component).Within (component.weight + limit) := by
  obtain ⟨value, bang, important⟩ := within
  have taken : totalWeight (component :: state.value) ≤ component.weight + limit :=
    Nat.add_le_add_left value component.weight
  have kept : ∀ before, state.importance = .important before →
      totalWeight before ≤ component.weight + limit := fun before same =>
    Nat.le_trans (important before same) (Nat.le_add_left limit component.weight)
  have keptBang : ∀ before, state.importance = .bang before →
      totalWeight before ≤ component.weight + limit := fun before same =>
    Nat.le_trans (bang before same) (Nat.le_add_left limit component.weight)
  unfold ValueState.add
  split
  · refine ⟨taken, ?_, nofun⟩
    rintro before ⟨⟩
    exact Nat.le_trans value (Nat.le_add_left limit _)
  · rename_i before name marked
    split
    · refine ⟨taken, nofun, ?_⟩
      rintro before ⟨⟩
      exact keptBang before marked
    · exact ⟨taken, nofun, nofun⟩
  · exact ⟨taken, keptBang, kept⟩
  · exact ⟨taken, keptBang, kept⟩
  · split
    · exact ⟨taken, nofun, nofun⟩
    · exact ⟨taken, nofun, nofun⟩
  · exact ⟨taken, nofun, nofun⟩

theorem ValueState.Within.addAll {limit : Nat} {state : ValueState} (within : state.Within limit)
    (components : List Component) :
    (components.foldl ValueState.add state).Within (totalWeight components + limit) := by
  induction components generalizing limit state with
  | nil =>
      rw [totalWeight, Nat.zero_add]
      exact within
  | cons component components ih =>
      have later := ih (within.add component)
      rw [totalWeight, List.foldl_cons]
      rwa [← Nat.add_assoc, Nat.add_comm (totalWeight components)] at later

theorem readValue?_weight {components value : List Component}
    (found : readValue? components = some value) : totalWeight value ≤ totalWeight components := by
  have start : ({} : ValueState).Within 0 := ⟨Nat.le_refl 0, nofun, nofun⟩
  have within := start.addAll components
  rw [Nat.add_zero] at within
  unfold readValue? at found
  dsimp only at found
  split at found
  · cases found
  · split at found
    · rename_i before same
      rw [← Option.some.inj found, totalWeight_reverse]
      exact within.important before same
    · rw [← Option.some.inj found, totalWeight_reverse]
      exact within.value

theorem readDeclaration?_size {components : List Component} {node : Node}
    (found : readDeclaration? components = some node) : node.size ≤ totalWeight components := by
  unfold readDeclaration? at found
  split at found
  · rename_i name rest
    split at found
    · rename_i value after
      obtain ⟨written, read, rfl⟩ := Option.map_eq_some_iff.1 found
      have bound := readValue?_weight read
      have skipped := totalWeight_dropWhile_le Component.isGap rest
      rw [show rest.dropWhile Component.isGap = _ from after] at skipped
      simp only [Node.size, totalWeight, Component.weight] at skipped ⊢
      omega
    · cases found
  · cases found

/-- What may be a declaration and what follows it do not overlap. -/
theorem totalWeight_declarationPart_le (components : List Component) :
    totalWeight (declarationPart components) + totalWeight (splitAtBlock true components).2.2
      ≤ totalWeight components := by
  fun_induction declarationPart components with
  | case1 => exact Nat.le_refl _
  | case2 content rest =>
      simp only [splitAtBlock, totalWeight]
      omega
  | case3 component rest other semicolon =>
      rw [splitAtBlock, semicolon]
      · simp only [Bool.true_and, if_true, totalWeight]
        omega
      · exact other
  | case4 component rest other goes ih =>
      rw [splitAtBlock, Bool.eq_false_iff.2 goes]
      · rcases parts : splitAtBlock true rest with ⟨before, opening, after⟩
        rw [parts] at ih
        simp only [Bool.and_false, Bool.false_eq_true, if_false, totalWeight] at ih ⊢
        omega
      · exact other

theorem readItem_size (components : List Component) :
    (readItem components).1.size + totalWeight (readItem components).2
      ≤ totalWeight components := by
  unfold readItem
  split
  · simp only [Node.size, totalWeight, Component.weight]
    omega
  · split
    · rename_i declaration found
      have taken := readDeclaration?_size found
      have apart := totalWeight_declarationPart_le components
      dsimp only
      omega
    · exact readQualified_size true components

/-! ## Lists of nodes -/

/-- A node and what follows it do not overlap. -/
theorem readNode_size (place : Place) (component : Component) (rest : List Component) :
    (readNode place component rest).1.size + totalWeight (readNode place component rest).2
      ≤ totalWeight (component :: rest) := by
  unfold readNode
  split
  · rename_i name
    have bound := readAtRule_size name rest
    simp only [totalWeight, Component.weight]
    omega
  · split
    · exact readItem_size (component :: rest)
    · exact readQualified_size false (component :: rest)

/-- The nodes of a list take disjoint parts of it. -/
theorem totalSize_readNodes_le (place : Place) (components : List Component) :
    Node.totalSize (readNodes place components) ≤ totalWeight components := by
  fun_induction readNodes place components with
  | case1 => exact Nat.le_refl _
  | case2 component rest _ ih =>
      rw [totalWeight]
      omega
  | case3 component rest _ _ ih =>
      have bound := readNode_size place component rest
      rw [Node.totalSize, List.map_cons, List.sum_cons]
      rw [Node.totalSize] at ih
      omega

end BrowserScript.Css
