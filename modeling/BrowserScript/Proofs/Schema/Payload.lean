import BrowserScript.Proofs.Schema.Acceptance

/-!
# What accepted payloads hold

The entries that the blocks of a program read, with the kinds that acceptance gives them.
-/

namespace BrowserScript.Schema

variable {name : String} {value : Value}

def HasField (name : String) (value : Value) : Prop := ∃ item, value.field name = .ok item

def HasNumbers (first second : String) (value : Value) : Prop :=
  ∃ left right, (value.field first = .ok left ∧ IsNumberKind left) ∧
    (value.field second = .ok right ∧ IsNumberKind right)

def HasTarget (value : Value) : Prop :=
  ∃ selector, value.option "selector" = .ok selector ∧
    if selector.isNull then ∃ point, value.field "coords" = .ok point ∧ HasNumbers "x" "y" point
    else HasField "selector" value

/-- An accepted record has its required fields. -/
theorem Shape.Admits.required {field : String} {fields : List (String × Bool × Shape)}
    {rule : Rule} {shape : Shape} (admitted : (Shape.record name fields rule).Admits value)
    (member : Schema.required field shape ∈ fields) :
    ∃ item, value.field field = .ok item ∧ shape.Admits item := by
  obtain ⟨entries, same, conforms, _⟩ := admitted.record
  obtain ⟨item, found, shaped⟩ := conforms.required member
  subst same
  exact ⟨item, Value.field_map found, shaped⟩

theorem hasNumbers_of_record {first second : String}
    (admitted : (Shape.record name [required first .number, required second .number]
      .anyFields).Admits value) : HasNumbers first second value := by
  have one : ∃ item, value.field first = .ok item ∧ Shape.number.Admits item :=
    admitted.required List.mem_cons_self
  have two : ∃ item, value.field second = .ok item ∧ Shape.number.Admits item :=
    admitted.required mem_second
  obtain ⟨left, foundLeft, shapedLeft⟩ := one
  obtain ⟨right, foundRight, shapedRight⟩ := two
  exact ⟨left, right, ⟨foundLeft, shapedLeft.number⟩, ⟨foundRight, shapedRight.number⟩⟩

/-- An accepted target that names no element has a point. -/
theorem coords_of_target {entries : Entries} (admitted : (target name).Admits (.map entries))
    (null : ((Entries.get? entries "selector").getD .null).isNull = true) :
    ∃ point, (Value.map entries).field "coords" = .ok point ∧ coords.Admits point := by
  obtain ⟨_, same, conforms, rule⟩ := admitted.record
  cases same
  obtain ⟨field, member, given⟩ := Rule.check_atLeastOne rule
  rw [isGiven_eq] at given
  have chosen : field = "coords" := by
    rcases List.mem_cons.1 member with first | later
    · subst first
      rw [null] at given
      cases given
    · exact List.mem_singleton.1 later
  subst chosen
  have notNull := (Bool.not_eq_true' _).mp given
  obtain ⟨point, found, shaped⟩ :=
    conforms.given mem_second notNull
  exact ⟨point, Value.field_map found, shaped⟩

/-- An accepted target names an element, or has a point with two numbers. -/
theorem hasTarget_of_target (admitted : (target name).Admits value) : HasTarget value := by
  obtain ⟨entries, same, conforms, _⟩ := admitted.record
  subst same
  refine ⟨_, Value.option_map entries "selector", ?_⟩
  cases null : ((Entries.get? entries "selector").getD .null).isNull with
  | false =>
      obtain ⟨item, found, _⟩ := conforms.given List.mem_cons_self null
      exact ⟨item, Value.field_map found⟩
  | true =>
      obtain ⟨point, found, shaped⟩ := coords_of_target admitted null
      exact ⟨point, found, hasNumbers_of_record shaped⟩

/-- An accepted scroll has a target to scroll to, or else an offset to scroll by. -/
theorem scroll_payload (admitted : (payload .scroll).Admits value) :
    ∃ destination, value.option "to" = .ok destination ∧
      if destination.isNull then
        ∃ distance, value.field "by" = .ok distance ∧ HasNumbers "dx" "dy" distance
      else HasTarget destination := by
  obtain ⟨entries, same, conforms, rule⟩ := admitted.record
  subst same
  refine ⟨_, Value.option_map entries "to", ?_⟩
  have differ := Rule.check_exactlyOne rule
  rw [isGiven_eq, isGiven_eq] at differ
  cases null : ((Entries.get? entries "to").getD .null).isNull with
  | false =>
      obtain ⟨item, found, shaped⟩ := conforms.given List.mem_cons_self null
      rw [found]
      exact hasTarget_of_target shaped
  | true =>
      have notNull : ((Entries.get? entries "by").getD .null).isNull = false := by
        rw [null] at differ
        cases other : ((Entries.get? entries "by").getD .null).isNull with
        | false => rfl
        | true => rw [other] at differ; exact absurd rfl differ
      obtain ⟨item, found, shaped⟩ :=
        conforms.given mem_second notNull
      exact ⟨item, Value.field_map found, hasNumbers_of_record shaped⟩

def browserChoice : Shape :=
  .choice "mode" [("launch", launchConfig), ("connect", connectConfig)]

/-- The options of a launched browser: a mapping whose viewport, if given, has two sides. -/
def HasLaunch (value : Value) : Prop :=
  ∃ launch, value.option "launch" = .ok (.map launch) ∧
    ∀ viewport, (Value.map launch).option "viewport" = .ok viewport → viewport.isNull = false →
      HasField "width" viewport ∧ HasField "height" viewport

/-- An accepted way to reach a browser has the options of its mode. -/
theorem browser_payload (admitted : browserChoice.Admits value) :
    (value.field "mode" = .ok (.str "launch") ∧ HasLaunch value) ∨
      (value.field "mode" = .ok (.str "connect") ∧
        ∃ connect, value.field "connect" = .ok connect ∧ HasField "wsUrl" connect) := by
  obtain ⟨entries, same, option, member, tag, shaped⟩ := admitted.choice
  rcases List.mem_cons.1 member with launches | connects
  · left
    subst launches
    subst same
    refine ⟨Value.field_map tag, ?_⟩
    obtain ⟨_, equal, conforms, _⟩ := shaped.record
    cases equal
    obtain ⟨options, found, shapedOptions⟩ :=
      conforms.required mem_second
    obtain ⟨launch, isMap, conformsLaunch, _⟩ := shapedOptions.record
    subst isMap
    refine ⟨launch, ?_, ?_⟩
    · rw [Value.option_map, found]
      rfl
    · intro viewport read given
      rw [Value.option_map] at read
      have equal := Except.ok.inj read
      subst equal
      obtain ⟨item, foundItem, shapedItem⟩ := conformsLaunch.given
        mem_third given
      rw [foundItem]
      obtain ⟨width, foundWidth, _⟩ := shapedItem.required List.mem_cons_self
      obtain ⟨height, foundHeight, _⟩ :=
        shapedItem.required mem_second
      exact ⟨⟨width, foundWidth⟩, ⟨height, foundHeight⟩⟩
  · right
    have equal := List.mem_singleton.1 connects
    subst equal
    subst same
    refine ⟨Value.field_map tag, ?_⟩
    obtain ⟨connect, found, shapedConnect⟩ :=
      shaped.required mem_second
    obtain ⟨address, foundAddress, _⟩ := shapedConnect.required List.mem_cons_self
    exact ⟨connect, found, ⟨address, foundAddress⟩⟩

end BrowserScript.Schema
