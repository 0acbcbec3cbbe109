import BrowserScript.Value.Access

/-!
# When a literal can be written

Every value has a literal but those that hold an integer with too many digits for text, at
whatever depth. No other fault can arise while a literal is written.
-/

namespace BrowserScript

/-- Two steps succeed together only if each does. -/
theorem bind_eq_ok {α β : Type} {outcome : Except Fault α} {next : α → Except Fault β} {result : β}
    (done : outcome >>= next = .ok result) :
    ∃ middle, outcome = .ok middle ∧ next middle = .ok result := by
  cases outcome with
  | error fault => cases done
  | ok middle => exact ⟨middle, rfl, done⟩

namespace Fault

def tooLong : Fault := .invalid (.integerTooLong none)

end Fault

namespace Value

variable {condition : Bool}

def isShort (value : Int) : Bool := (natText value.natAbs).length ≤ integerDigitLimit

mutual

def isWritable : Value → Bool
  | .int value => isShort value
  | .list items => areWritable items
  | .tuple items => areWritable items
  | .set items => areWritable items
  | .map entries => entriesWritable entries
  | _ => true

def areWritable : List Value → Bool
  | [] => true
  | item :: items => isWritable item && areWritable items

/-- Whether all integers in the keys and values of a mapping are short enough. -/
def entriesWritable : List (Value × Value) → Bool
  | [] => true
  | (key, value) :: entries => isWritable key && isWritable value && entriesWritable entries

end

/-- A result exists exactly where a condition holds; otherwise an integer is too long. -/
def WrittenWhen {α : Type} (condition : Bool) (outcome : Except Fault α) : Prop :=
  match outcome with
  | .ok _ => condition = true
  | .error fault => condition = false ∧ fault = Fault.tooLong

theorem WrittenWhen.pure {α : Type} (result : α) :
    WrittenWhen true (Except.ok result : Except Fault α) := rfl

theorem WrittenWhen.bind {α β : Type} {first second : Bool} {outcome : Except Fault α}
    {next : α → Except Fault β} (start : WrittenWhen first outcome)
    (rest : ∀ result, WrittenWhen second (next result)) :
    WrittenWhen (first && second) (outcome >>= next) := by
  cases outcome with
  | error fault =>
      obtain ⟨long, same⟩ := start
      exact ⟨by rw [long, Bool.false_and], same⟩
  | ok result =>
      have holds : first = true := start
      rw [holds, Bool.true_and]
      exact rest result

theorem WrittenWhen.map {α β : Type} {outcome : Except Fault α}
    {next : α → Except Fault β} (start : WrittenWhen condition outcome)
    (rest : ∀ result, WrittenWhen true (next result)) :
    WrittenWhen condition (outcome >>= next) := by
  have both := start.bind rest
  rwa [Bool.and_true] at both

theorem WrittenWhen.ok {α : Type} {outcome : Except Fault α}
    (written : WrittenWhen condition outcome) (holds : condition = true) :
    ∃ result, outcome = .ok result := by
  cases outcome with
  | error fault =>
      obtain ⟨long, _⟩ := written
      rw [holds] at long
      cases long
  | ok result => exact ⟨result, rfl⟩

theorem WrittenWhen.error {α : Type} {outcome : Except Fault α} {fault : Fault}
    (written : WrittenWhen condition outcome) (failed : outcome = .error fault) :
    condition = false ∧ fault = Fault.tooLong := by
  subst failed
  exact written

/-- A result exists where a condition holds; where there is none, an integer is too long. -/
def WrittenIf {α : Type} (condition : Bool) (outcome : Except Fault α) : Prop :=
  ∀ fault, outcome = .error fault → condition = false ∧ fault = Fault.tooLong

theorem WrittenWhen.writtenIf {α : Type} {outcome : Except Fault α}
    (written : WrittenWhen condition outcome) : WrittenIf condition outcome :=
  fun _ failed => written.error failed

theorem WrittenIf.ok {α : Type} (result : α) : WrittenIf condition (.ok result) := by
  intro fault failed
  cases failed

theorem WrittenIf.bind {α β : Type} {outcome : Except Fault α}
    {next : α → Except Fault β} (start : WrittenIf condition outcome)
    (rest : ∀ result, WrittenIf condition (next result)) :
    WrittenIf condition (outcome >>= next) := by
  cases outcome with
  | error fault =>
      intro other failed
      cases failed
      exact start fault rfl
  | ok result => exact rest result

/-- A stronger condition is as good. -/
theorem WrittenIf.strengthen {α : Type} {stronger : Bool} {outcome : Except Fault α}
    (written : WrittenIf condition outcome) (implies : stronger = true → condition = true) :
    WrittenIf stronger outcome := by
  intro fault failed
  obtain ⟨fails, long⟩ := written fault failed
  refine ⟨?_, long⟩
  cases stronger with
  | false => rfl
  | true => exact (implies rfl).symm.trans fails

theorem WrittenIf.foldlM {σ α : Type} {fits : α → Bool} {step : σ → α → Except Fault σ}
    (written : ∀ state item, WrittenIf (fits item) (step state item)) (items : List α)
    (state : σ) : WrittenIf (items.all fits) (items.foldlM step state) := by
  induction items generalizing state with
  | nil => exact .ok state
  | cons item rest ih =>
      rw [List.foldlM_cons, List.all_cons]
      refine .bind ((written state item).strengthen ?_) fun next => (ih next).strengthen ?_
      · intro both
        exact (Bool.and_eq_true_iff.1 both).1
      · intro both
        exact (Bool.and_eq_true_iff.1 both).2

theorem areWritable_eq_all (items : List Value) : areWritable items = items.all isWritable := by
  induction items with
  | nil => rfl
  | cons item items ih => rw [areWritable, ih, List.all_cons]

theorem entriesWritable_eq_all (entries : List (Value × Value)) :
    entriesWritable entries =
      entries.all fun entry => entry.1.isWritable && entry.2.isWritable := by
  induction entries with
  | nil => rfl
  | cons entry entries ih => rw [entriesWritable, ih, List.all_cons]

theorem isWritable_of_get? {entries : Entries} {name : String} {value : Value}
    (found : Entries.get? entries name = some value)
    (writable : entriesWritable entries = true) : value.isWritable = true := by
  unfold Entries.get? Entries.lookup? at found
  obtain ⟨entry, located, same⟩ := Option.map_eq_some_iff.1 found
  rw [entriesWritable_eq_all] at writable
  have both := List.all_eq_true.1 writable entry (List.mem_of_find?_eq_some located)
  rw [← same]
  exact (Bool.and_eq_true_iff.1 both).2

/-- A field that is not there counts as null, which is writable. -/
theorem isWritable_getD_get? {entries : Entries} (name : String)
    (writable : entriesWritable entries = true) :
    ((Entries.get? entries name).getD .null).isWritable = true := by
  cases found : Entries.get? entries name with
  | none => rfl
  | some value => exact isWritable_of_get? found writable

theorem integerText_writtenWhen (value : Int) : WrittenWhen (isShort value) (integerText value) := by
  unfold integerText isShort
  by_cases long : integerDigitLimit < (natText value.natAbs).length
  · rw [if_pos long]
    exact ⟨decide_eq_false (Nat.not_le.2 long), rfl⟩
  · rw [if_neg long]
    exact decide_eq_true (Nat.not_lt.1 long)

mutual

theorem literal_writtenWhen (value : Value) : WrittenWhen value.isWritable value.literal := by
  cases value with
  | null => exact .pure _
  | bool value => cases value <;> exact .pure _
  | int value => exact integerText_writtenWhen value
  | list items => exact (literalItems_writtenWhen items).map fun _ => .pure _
  | tuple items =>
      refine (literalItems_writtenWhen items).map fun parts => ?_
      match parts with
      | [] => exact .pure _
      | [_] => exact .pure _
      | _ :: _ :: _ => exact .pure _
  | map entries => exact (literalEntries_writtenWhen entries).map fun _ => .pure _
  | set items =>
      cases items with
      | nil => exact .pure _
      | cons item items => exact (literalItems_writtenWhen (item :: items)).map fun _ => .pure _
  | date day => exact .pure _
  | moment time => exact .pure _
  | _ => exact .pure _

theorem literalItems_writtenWhen (items : List Value) :
    WrittenWhen (areWritable items) (literalItems items) := by
  cases items with
  | nil => exact .pure _
  | cons item items =>
      exact (literal_writtenWhen item).bind fun _ =>
        (literalItems_writtenWhen items).map fun _ => .pure _

theorem literalEntries_writtenWhen (entries : List (Value × Value)) :
    WrittenWhen (entriesWritable entries) (literalEntries entries) := by
  cases entries with
  | nil => exact .pure _
  | cons entry entries =>
      obtain ⟨key, value⟩ := entry
      rw [entriesWritable, Bool.and_assoc]
      exact (literal_writtenWhen key).bind fun _ => (literal_writtenWhen value).bind fun _ =>
        (literalEntries_writtenWhen entries).map fun _ => .pure _

end

theorem literalText_writtenWhen (value : Value) : WrittenWhen value.isWritable value.literalText :=
  (literal_writtenWhen value).map fun _ => .pure _

/-- A value is shown unless it holds an integer that is too long. -/
theorem display_writtenWhen (value : Value) : WrittenWhen value.isWritable value.display := by
  cases value with
  | str text => exact .pure _
  | date day => exact .pure _
  | moment time => exact .pure _
  | _ => exact literalText_writtenWhen _

@[simp] theorem isText_str (text other : String) : (Value.str text).isText other = (text == other) := by
  simp [isText, equals, equalsAtom]

/-- A value is a given text exactly when it is that text and no other kind of value. -/
theorem isText_iff {value : Value} {text : String} : value.isText text = true ↔ value = .str text := by
  unfold isText
  cases value with
  | str other => simp [equals, equalsAtom]
  | _ => simp [equals, equalsAtom, wholeNumber?]

end Value

end BrowserScript
