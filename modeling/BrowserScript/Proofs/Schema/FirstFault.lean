import BrowserScript.Proofs.Program.Accepted
import BrowserScript.Proofs.Schema.Script

/-!
# The first fault of a document

A document is checked as a whole before its steps are, and the steps one after another. The first
fault is therefore one of the document, whatever its steps hold, or the fault of the first step that
has one.
-/

namespace BrowserScript

namespace Schema

variable {entries : Entries} {finding : Finding} (index : Nat)

/-! ## Steps -/

def AcceptedBefore (index : Nat) (steps : List Value) (place : Nat) : Prop :=
  ∀ earlier step, earlier < place → steps[earlier]? = some step →
    checkStep (index + earlier) step = .ok ()

theorem acceptedBefore_succ {index : Nat} {first : Value} {steps : List Value} {place : Nat}
    (checked : checkStep index first = .ok ()) (later : AcceptedBefore (index + 1) steps place) :
    AcceptedBefore index (first :: steps) (place + 1) := by
  intro earlier step before found
  cases earlier with
  | zero =>
      cases found
      exact checked
  | succ earlier =>
      have accepted := later earlier step (Nat.lt_of_succ_lt_succ before) found
      rwa [Nat.add_right_comm, Nat.add_assoc] at accepted

/-- All steps are accepted, or the first of them that is not gives its fault. -/
theorem checkSteps_cases (steps : List Value) :
    (checkSteps index steps = .ok () ∧ AcceptedBefore index steps steps.length) ∨
    ∃ place step fault, steps[place]? = some step ∧ checkStep (index + place) step = .error fault ∧
      checkSteps index steps = .error fault ∧ AcceptedBefore index steps place := by
  induction steps generalizing index with
  | nil => exact .inl ⟨rfl, fun _ _ before => absurd before (Nat.not_lt_zero _)⟩
  | cons first steps ih =>
      unfold checkSteps
      cases checked : checkStep index first with
      | error fault =>
          exact .inr ⟨0, first, fault, rfl, checked, rfl,
            fun _ _ before => absurd before (Nat.not_lt_zero _)⟩
      | ok =>
          rcases ih (index + 1) with ⟨accepted, all⟩ | ⟨place, step, fault, found, failed, same, before⟩
          · exact .inl ⟨accepted, acceptedBefore_succ checked all⟩
          · refine .inr ⟨place + 1, step, fault, found, ?_, same, acceptedBefore_succ checked before⟩
            rwa [Nat.add_right_comm, Nat.add_assoc] at failed

/-! ## The document -/

/-- A finding about the fields of a record is one about a field that is missing, or about the value
of a field. -/
theorem checkFields_finding {fields : List (String × Bool × Shape)}
    (found : Shape.checkFields fields entries = .ok (some finding)) :
    ∃ name required shape inner, (name, required, shape) ∈ fields ∧ finding = inner.within name ∧
      (inner = Finding.here "Field required" ∨ ∃ value, shape.check value = .ok (some inner)) := by
  induction fields with
  | nil => cases found
  | cons field fields ih =>
      obtain ⟨name, required, shape⟩ := field
      unfold Shape.checkFields at found
      split at found
      · cases required with
        | true =>
            cases found
            exact ⟨name, true, shape, _, List.mem_cons_self, rfl, .inl rfl⟩
        | false =>
            obtain ⟨other, asked, below, inner, member, cause⟩ := ih found
            exact ⟨other, asked, below, inner, List.mem_cons_of_mem _ member, cause⟩
      · obtain ⟨inner?, checked, found⟩ := bind_eq_ok found
        cases inner? with
        | some inner =>
            cases found
            exact ⟨name, required, shape, inner, List.mem_cons_self, rfl, .inr ⟨_, checked⟩⟩
        | none =>
            obtain ⟨other, asked, below, inner, member, cause⟩ := ih found
            exact ⟨other, asked, below, inner, List.mem_cons_of_mem _ member, cause⟩

/-- The field of a fault of the document itself: none of its steps is named. -/
def IsDocumentField (field : String) : Prop :=
  field = "framework" ∨ field = "steps" ∨ field = "browser" ∨ ∃ path, field = "browser." ++ path

/-- Two documents that differ at most in the members of their lists of steps. -/
structure DifferInSteps (entries others : Entries) : Prop where
  apart : ∀ name, name ≠ "steps" → Entries.get? others name = Entries.get? entries name
  steps : Entries.get? others "steps" = Entries.get? entries "steps" ∨
    ∃ value items value' items', Entries.get? entries "steps" = some value ∧
      listItems? value = some items ∧ Entries.get? others "steps" = some value' ∧
      listItems? value' = some items'

theorem firstFinding_anything (items : List Value) :
    firstFinding (fun value => Shape.anything.check value) index items = .ok none := by
  induction items generalizing index with
  | nil => rfl
  | cons item items ih => exact ih (index + 1)

/-- A list has no finding of its own when its members may be anything. -/
theorem check_steps {value : Value} {items : List Value} (listed : listItems? value = some items) :
    (Shape.optional (.list .anything)).check value = .ok none := by
  unfold Shape.check
  split
  · rfl
  · unfold Shape.check
    rw [listed]
    exact firstFinding_anything 0 items

/-- What the document itself lacks does not depend on its steps. -/
theorem DifferInSteps.document_check {others : Entries} (differ : DifferInSteps entries others) :
    document.check (.map others) = document.check (.map entries) := by
  refine check_record_congr (fun name required shape member => ?_) rfl
  by_cases steps : name = "steps"
  · rcases differ.steps with same | ⟨value, items, value', items', found, listed, found', listed'⟩
    · rw [steps, same]
    · -- The lists are both in order, whatever their members are.
      have only : shape = .optional (.list .anything) := by
        subst steps
        have listed : required = false ∧ shape = .optional (.list .anything) := by
          simpa [Schema.required, nullable] using member
        exact listed.2
      rw [steps, found, found', only, Option.map_some, Option.map_some, check_steps listed,
        check_steps listed']
  · rw [differ.apart name steps]

theorem reasoned_some {reason : Reason}
    (found : reasoned reason = .ok (some finding)) : finding.path = [] := by
  cases reason with
  | none => cases found
  | some text =>
      cases found
      rfl

theorem check_steps_some {value : Value}
    (found : (Shape.optional (.list .anything)).check value = .ok (some finding)) :
    finding.path = [] := by
  cases listed : listItems? value with
  | some items =>
      rw [check_steps listed] at found
      cases found
  | none =>
      unfold Shape.check at found
      split at found
      · cases found
      · unfold Shape.check at found
        rw [listed] at found
        exact reasoned_some found

/-- A finding about the document names one of its fields. -/
theorem isDocumentField_of_check (found : document.check (.map entries) = .ok (some finding)) :
    IsDocumentField (violation [] finding).field := by
  unfold document Shape.check at found
  obtain ⟨finding?, checked, found⟩ := bind_eq_ok found
  cases finding? with
  | none => cases found
  | some first =>
      cases found
      obtain ⟨name, required, shape, inner, member, rfl, cause⟩ := checkFields_finding checked
      have whole (plain : ∀ value, shape.check value = .ok (some inner) → inner.path = []) :
          (violation [] (inner.within name)).field = name := by
        have path : inner.path = [] := by
          rcases cause with rfl | ⟨value, checked⟩
          · rfl
          · exact plain value checked
        simp [violation, Finding.within, path]
      simp only [Schema.required, nullable, List.mem_cons, List.not_mem_nil, or_false,
        Prod.mk.injEq] at member
      rcases member with ⟨rfl, rfl, rfl⟩ | ⟨rfl, rfl, rfl⟩ | ⟨rfl, rfl, rfl⟩
      · exact .inl (whole fun value checked => reasoned_some checked)
      · refine .inr (.inr ?_)
        cases path : inner.path with
        | nil => exact .inl (by simp [violation, Finding.within, path])
        | cons step path' =>
            refine .inr ⟨String.intercalate "." (step :: path'), ?_⟩
            simp [violation, Finding.within, path, String.intercalate_cons_cons]
      · exact .inr (.inl (whole fun value checked => check_steps_some checked))

/-- A document that lacks something is refused for a reason of its own, which names no step and stays
the same whatever its steps are. Any other document is accepted when each of its steps is, and
otherwise has the fault of its first step that is not. The fault of a step is a violation with a
field at the step or below, and its number enters that field alone; only a step whose name cannot be
shown has no violation. -/
theorem first_offender_is_named (entries : Entries) :
    ((∃ finding, document.check (.map entries) = .ok (some finding) ∧
        IsDocumentField (violation [] finding).field ∧
        ∀ others, DifferInSteps entries others →
          checkDocument (.map others) = .error (.violation (violation [] finding))) ∨
      document.check (.map entries) = .ok none ∧
        (checkDocument (.map entries) = .ok () ∧
            (∀ index step, (stepsOf entries)[index]? = some step → checkStep index step = .ok ()) ∨
          ∃ index step fault, (stepsOf entries)[index]? = some step ∧
            checkStep index step = .error fault ∧ checkDocument (.map entries) = .error fault ∧
            ∀ earlier other, earlier < index → (stepsOf entries)[earlier]? = some other →
              checkStep earlier other = .ok ())) ∧
    ∀ step,
      (∀ index, checkStep index step = .ok ()) ∨
      (∃ below message, IsBelow below ∧
        ∀ index, checkStep index step = .error (.violation ⟨stepField index below, message⟩)) ∨
      ∃ name payload, step = .map [(name, payload)] ∧ name.isWritable = false ∧
        ∀ index, checkStep index step = .error Fault.tooLong := by
  refine ⟨?_, checkStep_uniform⟩
  obtain ⟨finding?, checked⟩ := document.check_eq_ok (.map entries)
  cases finding? with
  | some finding =>
      refine .inl ⟨finding, checked, isDocumentField_of_check checked, fun others differ => ?_⟩
      unfold checkDocument
      rw [differ.document_check, checked]
      rfl
  | none =>
      have steps : checkDocument (.map entries) = checkSteps 0 (stepsOf entries) := by
        unfold checkDocument
        rw [checked]
        rfl
      have cases := checkSteps_cases 0 (stepsOf entries)
      simp only [AcceptedBefore, Nat.zero_add] at cases
      refine .inr ⟨checked, ?_⟩
      rw [steps]
      refine cases.imp_left fun ⟨accepted, all⟩ => ⟨accepted, fun index step found => ?_⟩
      exact all index step (List.getElem?_eq_some_iff.1 found).1 found

def stepScript (step : Value) : Entries :=
  [(.str "framework", .str "playwright"), (.str "browser", plainLaunch), (.str "steps", .list [step])]

theorem document_check_stepScript (step : Value) :
    document.check (.map (stepScript step)) = .ok none := by
  simp [stepScript, plainLaunch, document, Shape.check, Shape.checkFields, Entries.get?_cons,
    get?_nil, required, absent, nullable, Shape.wordReason, reasoned, Shape.checkOption, launchConfig,
    Rule.check, isGiven, listItems?, firstFinding, Value.isNull, bind, Except.bind, pure, Except.pure]

theorem checkDocument_stepScript (step : Value) :
    checkDocument (.map (stepScript step)) = checkStep 0 step := by
  have steps : stepsOf (stepScript step) = [step] := by
    simp only [stepsOf, stepScript, Entries.get?_cons]
    rfl
  unfold checkDocument
  rw [document_check_stepScript]
  change checkSteps 0 (stepsOf (stepScript step)) = _
  rw [steps, checkSteps]
  cases checkStep 0 step <;> rfl

def longStep : Value := .map [(.int (10 ^ integerDigitLimit : Nat), .map [])]

theorem checkStep_longStep : checkStep index longStep = .error Fault.tooLong := by
  have long {number : Nat} (long : 10 ^ integerDigitLimit ≤ number) :
      (Value.int number).isWritable = false := by
    refine decide_eq_false fun short => ?_
    have fits := (Nat.length_toDigits_le_iff (by decide) (by decide)).1 short
    exact absurd fits (Nat.not_lt.2 long)
  have unknown (number : Int) : CommandName.ofValue? (.int number) = none :=
    List.find?_eq_none.2 fun name _ named => by cases Value.isText_iff.1 named
  simp only [checkStep, longStep, unknown, Option.filter_none,
    display_unwritable (long (Nat.le_refl _))]
  rfl

/-- Nothing is lacking in a script with that step but a known command, and yet no violation names
the step. -/
theorem longStep_unnamed :
    document.check (.map (stepScript longStep)) = .ok none ∧
    checkDocument (.map (stepScript longStep)) ≠ .ok () ∧
    ∀ violation, checkDocument (.map (stepScript longStep)) ≠ .error (.violation violation) := by
  rw [checkDocument_stepScript, checkStep_longStep]
  refine ⟨document_check_stepScript longStep, fun same => ?_, fun violation same => ?_⟩
  · cases same
  · cases same

end Schema

end BrowserScript
