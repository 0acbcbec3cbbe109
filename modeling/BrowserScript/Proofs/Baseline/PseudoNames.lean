import BrowserScript.Proofs.Baseline.Occurrence
import BrowserScript.Proofs.Css.Share

/-!
# Names of pseudo-classes

A component has a place: its index in its own list, after the indices of the functions around it.
The names of a selector are those right after a colon, in the order of their places, where a
function comes before all that stands in its arguments.
-/

namespace BrowserScript.Baseline

open Css

def nameOf? : Component → Option String
  | .ident name => some name
  | .function name _ => some name
  | _ => none

/-- The arguments of a function. Brackets have none. -/
def argumentsOf : Component → List Component
  | .function _ arguments => arguments
  | _ => []

def FollowsColon (components : List Component) (index : Nat) : Prop :=
  ∃ before, index = before + 1 ∧ components[before]? = some (.literal ":")

/-- A name stands at a place right after a colon, in the list itself or in the arguments of its
functions. -/
inductive NamedAt : List Component → List Nat → String → Prop
  | here {components : List Component} {index : Nat} {component : Component} {name : String}
      (found : components[index]? = some component) (named : nameOf? component = some name)
      (colon : FollowsColon components index) : NamedAt components [index] name
  | inside {components : List Component} {index : Nat} {component : Component} {name : String}
      {place : List Nat} (found : components[index]? = some component)
      (named : NamedAt (argumentsOf component) place name) :
      NamedAt components (index :: place) name

theorem totalWeight_argumentsOf (component : Component) :
    Component.totalWeight (argumentsOf component) < component.weight := by
  cases component <;> simp [argumentsOf, Component.totalWeight, Component.weight]

def placesAt (afterColon : Bool) (index : Nat) (component : Component)
    (inner : List (List Nat × String)) : List (List Nat × String) :=
  (if afterColon then (nameOf? component).toList.map ([index], ·) else [])
    ++ inner.map fun found => (index :: found.1, found.2)

def places (afterColon : Bool) (index : Nat) : List Component → List (List Nat × String)
  | [] => []
  | component :: rest =>
      placesAt afterColon index component (places false 0 (argumentsOf component))
        ++ places (component.isLiteral ":") (index + 1) rest
termination_by components => Component.totalWeight components
decreasing_by
  all_goals
    have := totalWeight_argumentsOf component
    simp only [Component.totalWeight]
    omega

/-- Without their places, these are the names that are listed. -/
theorem places_names (afterColon : Bool) (index : Nat) (components : List Component) :
    (places afterColon index components).map (·.2) = selectorNames afterColon components := by
  fun_induction places afterColon index components with
  | case1 => rfl
  | case2 afterColon index component rest inner later =>
      have own : componentNames afterColon component =
          (if afterColon then (nameOf? component).toList else [])
            ++ selectorNames false (argumentsOf component) := by
        cases component <;> simp [componentNames, nameOf?, argumentsOf, selectorNames]
      rw [selectorNames, own, ← inner, ← later]
      cases afterColon <;> simp [placesAt, Function.comp_def]

theorem mem_placesAt {afterColon : Bool} {index : Nat} {component : Component}
    {inner : List (List Nat × String)} {place : List Nat} {name : String} :
    (place, name) ∈ placesAt afterColon index component inner ↔
      (place = [index] ∧ nameOf? component = some name ∧ afterColon = true) ∨
        ∃ within, place = index :: within ∧ (within, name) ∈ inner := by
  cases afterColon <;> simp only [placesAt, List.mem_append, List.mem_map] <;> grind

/-! ## The order of places -/

theorem head_of_mem_places {afterColon : Bool} {index : Nat} {components : List Component}
    {found : List Nat × String} (member : found ∈ places afterColon index components) :
    ∃ first place, found.1 = first :: place ∧ index ≤ first := by
  induction components generalizing afterColon index with
  | nil =>
      rw [places] at member
      cases member
  | cons component rest ih =>
      rw [places, List.mem_append, mem_placesAt] at member
      rcases member with (⟨same, _⟩ | ⟨within, same, _⟩) | later
      · exact ⟨index, [], same, Nat.le_refl _⟩
      · exact ⟨index, within, same, Nat.le_refl _⟩
      · obtain ⟨first, place, same, ordered⟩ := ih later
        exact ⟨first, place, same, by omega⟩

/-- The places are found in their order. -/
theorem places_sorted (afterColon : Bool) (index : Nat) (components : List Component) :
    (places afterColon index components).Pairwise fun left right => left.1 < right.1 := by
  fun_induction places afterColon index components with
  | case1 => exact .nil
  | case2 afterColon index component rest inner later =>
      refine List.pairwise_append.2 ⟨List.pairwise_append.2 ⟨?_, ?_, ?_⟩, later, ?_⟩
      · cases afterColon <;> cases nameOf? component <;> simp
      · exact List.pairwise_map.2
          (inner.imp fun ordered => List.cons_lt_cons_iff.2 (.inr ⟨rfl, ordered⟩))
      · intro own isOwn found member
        obtain ⟨within, listed, rfl⟩ := List.mem_map.1 member
        obtain ⟨first, place, same, _⟩ := head_of_mem_places listed
        cases afterColon <;> simp at isOwn
        obtain ⟨name, _, rfl⟩ := isOwn
        simp [same]
      · intro left here right after
        obtain ⟨first, place, same, ordered⟩ := head_of_mem_places after
        rw [same]
        rcases mem_placesAt.1 here with ⟨same', _⟩ | ⟨within, same', _⟩ <;> rw [same'] <;>
          exact List.cons_lt_cons_iff.2 (.inl ordered)

/-! ## The names at the places -/

theorem mem_places_iff {all : List Component} {afterColon : Bool} {index : Nat}
    {components : List Component} (rest : all.drop index = components)
    (colon : afterColon = true ↔ FollowsColon all index) (place : List Nat) (name : String) :
    (place, name) ∈ places afterColon index components ↔
      NamedAt all place name ∧ index ≤ place.headD 0 := by
  fun_induction places afterColon index components generalizing all place with
  | case1 afterColon index =>
      have short : all.length ≤ index := List.drop_eq_nil_iff.1 rest
      refine iff_of_false List.not_mem_nil ?_
      rintro ⟨⟨found, _⟩ | ⟨found, _⟩, within⟩ <;>
        exact absurd (Nat.lt_of_lt_of_le (List.getElem?_eq_some_iff.1 found).1 short)
          (Nat.not_lt.2 within)
  | case2 afterColon index component others inner later =>
      have own : all[index]? = some component := by
        rw [← List.head?_drop, rest, List.head?_cons]
      have tail : all.drop (index + 1) = others := by
        rw [← List.drop_drop, rest, List.drop_one, List.tail_cons]
      have isColon : component.isLiteral ":" = true ↔ FollowsColon all (index + 1) := by
        rw [Component.isLiteral_iff]
        simp [FollowsColon, own]
      have start : false = true ↔ FollowsColon (argumentsOf component) 0 := by simp [FollowsColon]
      have within (place : List Nat) : (place, name) ∈ places false 0 (argumentsOf component) ↔
          NamedAt (argumentsOf component) place name := by
        have both := inner (List.drop_zero (l := argumentsOf component)) start place
        simpa using both
      rw [List.mem_append, mem_placesAt, later tail isColon]
      simp only [within]
      constructor
      · rintro ((⟨rfl, named, follows⟩ | ⟨within, rfl, named⟩) | ⟨named, ordered⟩)
        · exact ⟨.here own named (colon.1 follows), Nat.le_refl _⟩
        · exact ⟨.inside own named, Nat.le_refl _⟩
        · exact ⟨named, by omega⟩
      · rintro ⟨named, ordered⟩
        -- The place is at this index or behind it.
        by_cases here : place.headD 0 = index
        · left
          cases named with
          | here found named follows =>
              obtain rfl := here
              cases own.symm.trans found
              exact .inl ⟨rfl, named, colon.2 follows⟩
          | inside found named =>
              obtain rfl := here
              cases own.symm.trans found
              exact .inr ⟨_, rfl, named⟩
        · exact .inr ⟨named, by omega⟩

/-- The names of a selector are those right after a colon, each once for its place, in the order of
the places. A name after blank space or a comment is not among them, nor is one in brackets. -/
theorem names_after_colons (components : List Component) :
    ∃ found : List (List Nat × String),
      pseudoNames components = found.map (·.2) ∧
      found.Pairwise (fun left right => left.1 < right.1) ∧
      ∀ place name, (place, name) ∈ found ↔ NamedAt components place name := by
  refine ⟨places false 0 components, ?_, places_sorted false 0 components, fun place name => ?_⟩
  · rw [pseudoNames_eq, places_names]
  · have start : false = true ↔ FollowsColon components 0 := by simp [FollowsColon]
    simpa using mem_places_iff rfl start place name

end BrowserScript.Baseline
