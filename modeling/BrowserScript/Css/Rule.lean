import BrowserScript.Css.Scan

/-!
# Rules and declarations

Components are read as rules at the top of a sheet and inside grouping rules, and as declarations
mixed with rules inside other blocks. There, each item is tried as a declaration first. What a rule
encloses weighs less than the list that the rule was read from.
-/

namespace BrowserScript.Css

/-- A rule, a declaration, or what could be read as neither. -/
inductive Node where
  | qualified (selector content : List Component)
  | atRule (name : String) (condition : List Component) (content : Option (List Component))
  | declaration (name : String) (value : List Component)
  | unparsable
  deriving Inhabited

namespace Node

def weight : Node → Nat
  | .qualified _ content => Component.totalWeight content
  | .atRule _ _ (some content) => Component.totalWeight content
  | _ => 0

end Node

inductive Opening where
  | block (content : List Component)
  | semicolon
  | endOfList

/-- The components up to the first curly block, or up to a semicolon if that ends them, what ends
them, and the components that follow. -/
def splitAtBlock (stopsAtSemicolon : Bool) :
    List Component → List Component × Opening × List Component
  | [] => ([], .endOfList, [])
  | .block .curly content :: rest => ([], .block content, rest)
  | component :: rest =>
      if stopsAtSemicolon && component.isLiteral ";" then ([], .semicolon, rest)
      else
        let (before, opening, after) := splitAtBlock stopsAtSemicolon rest
        (component :: before, opening, after)

theorem splitAtBlock_length (stopsAtSemicolon : Bool) (components : List Component) :
    (splitAtBlock stopsAtSemicolon components).2.2.length ≤ components.length - 1 := by
  fun_induction splitAtBlock stopsAtSemicolon components with
  | case1 => simp
  | case2 => simp
  | case3 => simp
  | case4 component rest _ _ before opening after found ih =>
      rw [found] at ih
      simp at ih ⊢
      omega

/-- What follows the end of a split weighs no more than the list, and a block that ends it weighs
less than the list without what follows. -/
theorem splitAtBlock_weight (stopsAtSemicolon : Bool) (components : List Component) :
    Component.totalWeight (splitAtBlock stopsAtSemicolon components).2.2
        ≤ Component.totalWeight components ∧
      ∀ content, (splitAtBlock stopsAtSemicolon components).2.1 = .block content →
        Component.totalWeight content < Component.totalWeight components := by
  fun_induction splitAtBlock stopsAtSemicolon components with
  | case1 => simp
  | case2 =>
      simp only [Component.totalWeight, Component.weight, Opening.block.injEq]
      constructor
      · omega
      · intro content equal
        subst equal
        omega
  | case3 => simp [Component.totalWeight]
  | case4 component rest _ _ before opening after found ih =>
      rw [found] at ih
      refine ⟨?_, fun content equal => ?_⟩
      · have := ih.1
        simp only [Component.totalWeight] at this ⊢
        omega
      · have := ih.2 content equal
        simp only [Component.totalWeight] at this ⊢
        omega

def readAtRule (name : String) (components : List Component) : Node × List Component :=
  match splitAtBlock true components with
  | (condition, .block content, after) => (.atRule name condition (some content), after)
  | (condition, _, after) => (.atRule name condition none, after)

def readQualified (stopsAtSemicolon : Bool) (components : List Component) :
    Node × List Component :=
  match splitAtBlock stopsAtSemicolon components with
  | (selector, .block content, after) => (.qualified selector content, after)
  | (_, _, after) => (.unparsable, after)

inductive Importance where
  /-- The value goes on. -/
  | value
  /-- An exclamation mark, with the value before it, latest first. -/
  | bang (before : List Component)
  /-- The mark and its keyword, with the value before them, latest first. -/
  | important (before : List Component)

/-- What a value holds so far: whether it has something but blank space, and whether a curly block
stands next to it. -/
structure ValueState where
  value : List Component := []
  importance : Importance := .value
  hasContent : Bool := false
  hasMixedBlock : Bool := false

def ValueState.add (state : ValueState) (component : Component) : ValueState :=
  let state' := { state with value := component :: state.value }
  match state.importance, component with
  | .value, .literal "!" => { state' with importance := .bang state.value }
  | .bang before, .ident name =>
      if name.toList.map Char.toLower == "important".toList then
        { state' with importance := .important before }
      else { state' with importance := .value, hasContent := true }
  | _, .whitespace _ => state'
  | _, .comment _ => state'
  | _, .block .curly _ =>
      if state.hasContent then { state' with importance := .value, hasMixedBlock := true }
      else { state' with importance := .value, hasContent := true }
  | _, _ => { state' with importance := .value, hasContent := true }

/-- The value of a declaration, unless a curly block stands next to other components. -/
def readValue? (components : List Component) : Option (List Component) :=
  let state := components.foldl ValueState.add {}
  if state.hasMixedBlock then none
  else
    match state.importance with
    | .important before => some before.reverse
    | _ => some state.value.reverse

def skipWhitespace (components : List Component) : List Component :=
  components.dropWhile Component.isGap

def readDeclaration? (components : List Component) : Option Node :=
  match components with
  | .ident name :: rest =>
      match skipWhitespace rest with
      | .literal ":" :: value => (readValue? value).map (.declaration name)
      | _ => none
  | _ => none

/-- The components of a possible declaration: up to a semicolon, or with the first curly block. -/
def declarationPart : List Component → List Component
  | [] => []
  | .block .curly content :: _ => [.block .curly content]
  | component :: rest =>
      if component.isLiteral ";" then [] else component :: declarationPart rest

inductive Place where
  /-- The top of a style sheet. -/
  | sheet
  /-- The block of a grouping rule. -/
  | group
  /-- Any other block. -/
  | block
  deriving DecidableEq

/-- Whether a component between two nodes stands for nothing. -/
def Place.skips (place : Place) (component : Component) : Bool :=
  component.isGap ||
    match place with
    | .sheet => component.isLiteral "<!--" || component.isLiteral "-->"
    | .group => false
    | .block => component.isLiteral ";"

/-- A declaration, or else a nested rule, that starts with the first component. -/
def readItem (components : List Component) : Node × List Component :=
  match components with
  | .block .curly content :: rest => (.qualified [] content, rest)
  | _ =>
      match readDeclaration? (declarationPart components) with
      | some declaration => (declaration, (splitAtBlock true components).2.2)
      | none => readQualified true components

/-- The node that starts with a component, and the components after it. -/
def readNode (place : Place) (component : Component) (rest : List Component) :
    Node × List Component :=
  match component with
  | .atKeyword name => readAtRule name rest
  | _ =>
      match place with
      | .block => readItem (component :: rest)
      | _ => readQualified false (component :: rest)

theorem readAtRule_length (name : String) (components : List Component) :
    (readAtRule name components).2.length ≤ components.length := by
  have bound := splitAtBlock_length true components
  unfold readAtRule
  split <;> rename_i found <;> rw [found] at bound <;> simp at bound ⊢ <;> omega

theorem readQualified_length (stopsAtSemicolon : Bool) (components : List Component) :
    (readQualified stopsAtSemicolon components).2.length ≤ components.length - 1 := by
  have bound := splitAtBlock_length stopsAtSemicolon components
  unfold readQualified
  split <;> rename_i found <;> rw [found] at bound <;> simpa using bound

theorem readItem_length (components : List Component) :
    (readItem components).2.length ≤ components.length - 1 := by
  unfold readItem
  split
  · simp
  · split
    · exact splitAtBlock_length true components
    · exact readQualified_length true components

theorem readNode_length (place : Place) (component : Component) (rest : List Component) :
    (readNode place component rest).2.length ≤ rest.length := by
  unfold readNode
  split
  · exact readAtRule_length _ rest
  · split
    · exact readItem_length (component :: rest)
    · exact readQualified_length false (component :: rest)

theorem readAtRule_weight (name : String) (components : List Component) :
    Component.totalWeight (readAtRule name components).2 ≤ Component.totalWeight components ∧
      (readAtRule name components).1.weight ≤ Component.totalWeight components := by
  have bound := splitAtBlock_weight true components
  unfold readAtRule
  split <;> rename_i found <;> rw [found] at bound
  · exact ⟨bound.1, Nat.le_of_lt (bound.2 _ rfl)⟩
  · exact ⟨bound.1, Nat.zero_le _⟩

theorem Component.weight_pos (component : Component) : 0 < component.weight := by
  cases component <;> simp [Component.weight]

theorem readQualified_weight (stopsAtSemicolon : Bool) (component : Component)
    (rest : List Component) :
    Component.totalWeight (readQualified stopsAtSemicolon (component :: rest)).2
        ≤ Component.totalWeight (component :: rest) ∧
      (readQualified stopsAtSemicolon (component :: rest)).1.weight
        < Component.totalWeight (component :: rest) := by
  have bound := splitAtBlock_weight stopsAtSemicolon (component :: rest)
  unfold readQualified
  split <;> rename_i found <;> rw [found] at bound
  · exact ⟨bound.1, bound.2 _ rfl⟩
  · refine ⟨bound.1, ?_⟩
    have := component.weight_pos
    simp only [Node.weight, Component.totalWeight]
    omega

theorem readDeclaration?_weight {components : List Component} {node : Node}
    (found : readDeclaration? components = some node) : node.weight = 0 := by
  unfold readDeclaration? at found
  split at found
  · split at found
    · obtain ⟨value, _, rfl⟩ := Option.map_eq_some_iff.1 found
      rfl
    · cases found
  · cases found

theorem readItem_weight (component : Component) (rest : List Component) :
    Component.totalWeight (readItem (component :: rest)).2
        ≤ Component.totalWeight (component :: rest) ∧
      (readItem (component :: rest)).1.weight < Component.totalWeight (component :: rest) := by
  unfold readItem
  split
  · rename_i content tail equal
    cases equal
    simp only [Node.weight, Component.totalWeight, Component.weight]
    constructor <;> omega
  · split
    · rename_i declaration found
      refine ⟨(splitAtBlock_weight true (component :: rest)).1, ?_⟩
      rw [readDeclaration?_weight found]
      have := component.weight_pos
      simp only [Component.totalWeight]
      omega
    · exact readQualified_weight true component rest

/-- A node weighs less than the list that it starts, and what follows it no more. -/
theorem readNode_weight (place : Place) (component : Component) (rest : List Component) :
    Component.totalWeight (readNode place component rest).2
        ≤ Component.totalWeight (component :: rest) ∧
      (readNode place component rest).1.weight < Component.totalWeight (component :: rest) := by
  unfold readNode
  split
  · rename_i name
    have bound := readAtRule_weight name rest
    simp only [Component.totalWeight, Component.weight]
    constructor <;> omega
  · split
    · exact readItem_weight component rest
    · exact readQualified_weight false component rest

def readNodes (place : Place) (components : List Component) : List Node :=
  match components with
  | [] => []
  | component :: rest =>
      if place.skips component then readNodes place rest
      else
        have := readNode_length place component rest
        (readNode place component rest).1 :: readNodes place (readNode place component rest).2
termination_by components.length

/-- Every node weighs less than the list that it was read from. -/
theorem weight_lt_of_mem_readNodes {place : Place} {components : List Component} {node : Node}
    (member : node ∈ readNodes place components) :
    node.weight < Component.totalWeight components := by
  fun_induction readNodes place components with
  | case1 => simp at member
  | case2 component rest _ ih =>
      have := ih member
      simp only [Component.totalWeight]
      omega
  | case3 component rest _ _ ih =>
      have bound := readNode_weight place component rest
      rcases List.mem_cons.1 member with equal | later
      · rw [equal]
        exact bound.2
      · exact Nat.lt_of_lt_of_le (ih later) bound.1

end BrowserScript.Css
