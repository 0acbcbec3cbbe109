import BrowserScript.Proofs.Value.Literal

/-!
# Faults of number conversion

A number can be too long for text, have no integer part, or be no number at all. A computation
whose faults are all of this kind never meets a missing entry or a value of the wrong kind. Where
the condition is known under which a computation has a result, its outcome is described by the
condition and by what explains its fault.
-/

namespace BrowserScript

def Fault.isNumeric : Fault → Bool
  | .invalid (.integerTooLong _) => true
  | .invalid (.integer _ _) => true
  | .invalid .notANumber => true
  | .overflow .infinityToInteger => true
  | _ => false

/-- A computation that fails at most in the conversion of a number. -/
def OnlyNumeric {α : Type} (outcome : Except Fault α) : Prop :=
  ∀ fault, outcome = .error fault → fault.isNumeric = true

namespace OnlyNumeric

variable {α β : Type}

@[simp] theorem ok (result : α) : OnlyNumeric (Except.ok result : Except Fault α) := by
  intro fault failed
  cases failed

@[simp] theorem pure (result : α) : OnlyNumeric (Pure.pure result : Except Fault α) := ok result

/-- The faults of two computations in a row are those of the first and those of the second. -/
@[simp] theorem bind {outcome : Except Fault α} {next : α → Except Fault β}
    (first : OnlyNumeric outcome) (second : ∀ result, OnlyNumeric (next result)) :
    OnlyNumeric (outcome >>= next) := by
  cases outcome with
  | error fault =>
      intro other failed
      cases failed
      exact first fault rfl
  | ok result => exact second result

/-- A computation that is known to succeed hands its result on. -/
theorem after {outcome : Except Fault α} {next : α → Except Fault β} {result : α}
    (succeeds : outcome = .ok result) (second : OnlyNumeric (next result)) :
    OnlyNumeric (outcome >>= next) := by
  subst succeeds
  exact second

theorem mapM {items : List α} {write : α → Except Fault β}
    (each : ∀ item ∈ items, OnlyNumeric (write item)) : OnlyNumeric (items.mapM write) := by
  induction items with
  | nil =>
      rw [List.mapM_nil]
      exact pure []
  | cons item items ih =>
      rw [List.mapM_cons]
      refine bind (each item List.mem_cons_self) fun result => ?_
      exact bind (ih fun other member => each other (List.mem_cons_of_mem _ member)) fun _ => pure _

end OnlyNumeric

theorem Value.WrittenWhen.onlyNumeric {α : Type} {condition : Bool} {outcome : Except Fault α}
    (written : Value.WrittenWhen condition outcome) : OnlyNumeric outcome := by
  intro fault failed
  rw [(written.error failed).2]
  rfl

@[simp] theorem literalText_onlyNumeric (value : Value) : OnlyNumeric value.literalText :=
  (Value.literalText_writtenWhen value).onlyNumeric

/-- Writing a literal is a step that fails in numbers at most. -/
theorem OnlyNumeric.literal {α : Type} {value : Value} {next : String → Except Fault α}
    (rest : ∀ text, OnlyNumeric (next text)) : OnlyNumeric (value.literalText >>= next) :=
  .bind (literalText_onlyNumeric value) rest

@[simp] theorem display_onlyNumeric (value : Value) : OnlyNumeric value.display :=
  (Value.display_writtenWhen value).onlyNumeric

@[simp] theorem integerText_onlyNumeric (value : Int) : OnlyNumeric (Value.integerText value) :=
  (Value.integerText_writtenWhen value).onlyNumeric

/-- A computation has a result exactly under a condition, and its fault is explained otherwise. -/
def Outcome {α : Type} (condition : Prop) (explains : Fault → Prop) (outcome : Except Fault α) :
    Prop :=
  match outcome with
  | .ok _ => condition
  | .error fault => ¬ condition ∧ explains fault

namespace Outcome

variable {α β : Type} {first second : Prop} {explains : Fault → Prop}

theorem pure (result : α) : Outcome True explains (Pure.pure result) := trivial

theorem congr {outcome : Except Fault α} (known : Outcome first explains outcome)
    (same : first ↔ second) : Outcome second explains outcome := by
  cases outcome with
  | error fault => exact ⟨mt same.2 known.1, known.2⟩
  | ok result => exact same.1 known

theorem bind {outcome : Except Fault α} {next : α → Except Fault β}
    (start : Outcome first explains outcome)
    (rest : ∀ result, Outcome second explains (next result)) :
    Outcome (first ∧ second) explains (outcome >>= next) := by
  cases outcome with
  | error fault => exact ⟨fun both => start.1 both.1, start.2⟩
  | ok result => exact (rest result).congr ⟨fun holds => ⟨start, holds⟩, And.right⟩

/-- What is done after a choice may stand in both of its branches. -/
theorem bind_ite {choice : Prop} [Decidable choice] {outcome other : Except Fault α}
    {next : α → Except Fault β} (start : Outcome first explains (if choice then outcome else other))
    (rest : ∀ result, Outcome second explains (next result)) :
    Outcome (first ∧ second) explains
      (if choice then outcome >>= next else other >>= next) := by
  by_cases holds : choice
  · rw [if_pos holds] at start ⊢
    exact start.bind rest
  · rw [if_neg holds] at start ⊢
    exact start.bind rest

/-- The last step does not fail. -/
theorem map {outcome : Except Fault α} {next : α → Except Fault β}
    (start : Outcome first explains outcome)
    (rest : ∀ result, Outcome True explains (next result)) :
    Outcome first explains (outcome >>= next) :=
  (start.bind rest).congr (and_iff_left trivial)

theorem mapM {condition : α → Prop} {step : α → Except Fault β} {items : List α}
    (each : ∀ item ∈ items, Outcome (condition item) explains (step item)) :
    Outcome (∀ item ∈ items, condition item) explains (items.mapM step) := by
  induction items with
  | nil => exact (pure []).congr ⟨fun _ => List.forall_mem_nil _, fun _ => trivial⟩
  | cons item items ih =>
      rw [List.mapM_cons]
      refine congr ?_ List.forall_mem_cons.symm
      refine (each item List.mem_cons_self).bind fun _ => map (ih fun other member => ?_) fun _ =>
        pure _
      exact each other (List.mem_cons_of_mem item member)

theorem of_writtenWhen {condition : Bool} {outcome : Except Fault α}
    (written : Value.WrittenWhen condition outcome)
    (explained : condition = false → explains Fault.tooLong) :
    Outcome (condition = true) explains outcome := by
  cases outcome with
  | error fault =>
      obtain ⟨long, rfl⟩ := written
      exact ⟨Bool.eq_false_iff.1 long, explained long⟩
  | ok result => exact written

theorem ok_iff {outcome : Except Fault α} (known : Outcome first explains outcome) :
    (∃ result, outcome = .ok result) ↔ first := by
  cases outcome with
  | error fault => exact ⟨fun ⟨_, done⟩ => (nomatch done), fun holds => absurd holds known.1⟩
  | ok result => exact ⟨fun _ => known, fun _ => ⟨result, rfl⟩⟩

theorem explained {outcome : Except Fault α} (known : Outcome first explains outcome)
    {fault : Fault} (failed : outcome = .error fault) : explains fault := by
  subst failed
  exact known.2

end Outcome

end BrowserScript
