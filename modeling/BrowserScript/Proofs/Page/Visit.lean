import BrowserScript.Page.Visit
import Mathlib.Data.List.Forall2

/-!
# Visits as lists of steps

What a visit does can be written down beforehand as a list of steps, each with the effect that it
has and the fault that ends the visit after it. The visit goes through the steps up to the first
fault, so its effects are the first ones of the list.
-/

namespace BrowserScript.Page

/-- A step of a visit: what reaches the world outside, if anything does, and the fault that ends
the visit after it, if there is one. -/
structure Step where
  effect : Option Effect := none
  fault : Option Fault := none

namespace Step

/-- All effects of steps, whether or not a fault comes before them. -/
def effects (steps : List Step) : List Effect := steps.filterMap (·.effect)

def fault? (steps : List Step) : Option Fault := steps.findSome? (·.fault)

def performed : List Step → List Effect
  | [] => []
  | step :: rest =>
      step.effect.toList ++ if step.fault.isSome then [] else performed rest

/-- The step that a computation makes, with an effect if it has one. -/
def ofResult {α : Type} (effect : Option Effect) (result : Except Fault α) : Step where
  effect := effect
  fault :=
    match result with
    | .ok _ => none
    | .error fault => some fault

@[simp] theorem ofResult_map {α β : Type} (effect : Option Effect) (change : α → β)
    (result : Except Fault α) : ofResult effect (change <$> result) = ofResult effect result := by
  cases result <;> rfl

theorem fault?_append (first second : List Step) :
    fault? (first ++ second) = (fault? first).or (fault? second) :=
  List.findSome?_append

@[simp] theorem effects_cons (step : Step) (rest : List Step) :
    effects (step :: rest) = step.effect.toList ++ effects rest := by
  cases found : step.effect <;> simp [effects, found]

theorem effects_append (first second : List Step) :
    effects (first ++ second) = effects first ++ effects second :=
  List.filterMap_append

/-- What follows a fault is not performed. -/
theorem performed_append (first second : List Step) :
    performed (first ++ second) =
      performed first ++ if (fault? first).isSome then [] else performed second := by
  induction first with
  | nil => rfl
  | cons step rest ih =>
      cases failed : step.fault with
      | some fault => simp [performed, fault?, failed]
      | none =>
          have same : fault? (step :: rest) = fault? rest := by simp [fault?, failed]
          simp [performed, failed, ih, same, List.append_assoc]

/-- Steps that each have one effect. -/
theorem effects_map {α : Type} {step : α → Step} {effect : α → Effect}
    (each : ∀ item, (step item).effect = some (effect item)) (items : List α) :
    effects (items.map step) = items.map effect := by
  induction items with
  | nil => rfl
  | cons item items ih => simp [each, ih]

theorem performed_prefix (steps : List Step) : performed steps <+: effects steps := by
  induction steps with
  | nil => exact List.prefix_refl []
  | cons step rest ih =>
      rw [effects_cons, performed]
      refine (List.prefix_append_right_inj _).2 ?_
      split
      · exact List.nil_prefix
      · exact ih

theorem performed_eq_effects {steps : List Step} (complete : fault? steps = none) :
    performed steps = effects steps := by
  induction steps with
  | nil => rfl
  | cons step rest ih =>
      obtain ⟨passed, completeRest⟩ : step.fault = none ∧ fault? rest = none := by
        cases failed : step.fault with
        | some fault => simp [fault?, failed] at complete
        | none => exact ⟨rfl, by simpa [fault?, failed] using complete⟩
      rw [performed, ih completeRest, passed, effects_cons]
      rfl

end Step

def Journal.errors (journal : Journal) : List LogLine :=
  journal.log.filter fun line => line.level = .error

/-- A journal is a later state of another one, with further effects and no further errors. -/
structure Journal.Continues (before : Journal) (effects : List Effect) (after : Journal) :
    Prop where
  effects_eq : after.effects = before.effects ++ effects
  errors_eq : after.errors = before.errors

theorem Journal.Continues.trans {first second third : Journal} {effects later : List Effect}
    (continues : first.Continues effects second) (further : second.Continues later third) :
    first.Continues (effects ++ later) third := by
  constructor
  · rw [further.effects_eq, continues.effects_eq, List.append_assoc]
  · rw [further.errors_eq, continues.errors_eq]

namespace Visit

variable {journal : Journal} {steps : List Step}

/-- A visit goes through steps from a journal: it ends in their first fault, and without one in a
result and a journal of which something holds. -/
structure Takes {α : Type} (visit : Visit α) (journal : Journal) (steps : List Step)
    (goal : α → Journal → Prop) : Prop where
  continues : journal.Continues (Step.performed steps) (visit.outcome journal).2
  ends : match (visit.outcome journal).1 with
    | .ok result => Step.fault? steps = none ∧ goal result (visit.outcome journal).2
    | .error fault => Step.fault? steps = some fault

variable {α β : Type}

theorem outcome_bind (visit : Visit α) (next : α → Visit β) (journal : Journal) :
    (visit >>= next).outcome journal =
      match visit.outcome journal with
      | (.ok result, after) => (next result).outcome after
      | (.error fault, after) => (.error fault, after) := by
  change (match visit.outcome journal with | (a, s) => ExceptT.bindCont next a s) = _
  rcases visit.outcome journal with ⟨fault | result, after⟩ <;> rfl

theorem outcome_liftM (result : Except Fault α) (journal : Journal) :
    (liftM result : Visit α).outcome journal = (result, journal) := by
  cases result <;> rfl

theorem outcome_mapM_liftM (items : List α) (compute : α → Except Fault β) (journal : Journal) :
    (items.mapM fun item => (liftM (compute item) : Visit β)).outcome journal =
      (items.mapM compute, journal) := by
  induction items with
  | nil => rfl
  | cons item items ih =>
      rw [List.mapM_cons, List.mapM_cons, outcome_bind, outcome_liftM]
      cases compute item with
      | error fault => rfl
      | ok first =>
          dsimp only
          rw [outcome_bind, ih]
          cases items.mapM compute <;> rfl

theorem Takes.pure {result : α} {goal : α → Journal → Prop}
    (holds : goal result journal) : Takes (Pure.pure result) journal [] goal := by
  refine ⟨⟨?_, rfl⟩, rfl, holds⟩
  exact (List.append_nil _).symm

/-- A visit that has at most one effect, logs no error and ends in a known result takes one
step. -/
theorem Takes.single {visit : Visit α} {after : Journal} {result : Except Fault α}
    (effect : Option Effect) (ends : visit.outcome journal = (result, after))
    (continues : journal.Continues effect.toList after) :
    Takes visit journal [.ofResult effect result]
      fun value later => result = .ok value ∧ later = after := by
  constructor
  · rw [ends]
    have performed : Step.performed [.ofResult effect result] = effect.toList := by
      cases result <;> simp [Step.performed, Step.ofResult]
    rw [performed]
    exact continues
  · rw [ends]
    cases result with
    | ok value => exact ⟨rfl, rfl, rfl⟩
    | error fault => rfl

/-- A computation that nothing is seen of takes one step, which may be its fault. -/
theorem Takes.lift (result : Except Fault α) (journal : Journal) :
    (liftM result : Visit α).Takes journal [.ofResult none result]
      fun value after => result = .ok value ∧ after = journal :=
  .single none (outcome_liftM result journal) ⟨(List.append_nil _).symm, rfl⟩

/-- A computation with a known result takes no step. -/
theorem Takes.known {value : α} {next : α → Visit β} {goal : β → Journal → Prop}
    (takes : (next value).Takes journal steps goal) :
    ((liftM (Except.ok value : Except Fault α) : Visit α) >>= next).Takes journal steps goal :=
  takes

/-- Lines that report no error are written without a step. -/
theorem Takes.report {lines : List LogLine} (harmless : ∀ line ∈ lines, line.level ≠ .error)
    (journal : Journal) :
    (Visit.report lines).Takes journal [] fun _ after => after.answers = journal.answers := by
  refine ⟨⟨(List.append_nil _).symm, ?_⟩, rfl, rfl⟩
  have noErrors : lines.filter (fun line => line.level = .error) = [] := by
    refine List.filter_eq_nil_iff.2 ?_
    intro line member isError
    exact harmless line member (of_decide_eq_true isError)
  change (journal.log ++ lines).filter (fun line => line.level = .error) = journal.errors
  rw [List.filter_append, noErrors, List.append_nil]
  rfl

theorem Takes.perform (effect : Effect) (journal : Journal) :
    (Visit.perform effect).Takes journal [{ effect := some effect }]
      fun _ after => after.answers = journal.answers :=
  ⟨⟨rfl, rfl⟩, rfl, rfl⟩

/-- Two visits in a row take the steps of the first and then those of the second. -/
theorem Takes.bind {visit : Visit α} {next : α → Visit β}
    {later : List Step} {middle : α → Journal → Prop} {goal : β → Journal → Prop}
    (takes : visit.Takes journal steps middle)
    (further : ∀ result after, middle result after → (next result).Takes after later goal) :
    (visit >>= next).Takes journal (steps ++ later) goal := by
  obtain ⟨continues, ends⟩ := takes
  have run := outcome_bind visit next journal
  rcases known : visit.outcome journal with ⟨fault | result, after⟩
  · rw [known] at run continues ends
    have failed : Step.fault? steps = some fault := ends
    constructor
    · rw [run, Step.performed_append, failed]
      simpa using continues
    · rw [run, Step.fault?_append, failed]
      rfl
  · rw [known] at run continues ends
    obtain ⟨complete, holds⟩ := ends
    obtain ⟨continuesLater, endsLater⟩ := further result after holds
    constructor
    · rw [run, Step.performed_append, complete]
      exact continues.trans continuesLater
    · rw [run, Step.fault?_append, complete]
      exact endsLater

/-- What follows a visit may be silent. -/
theorem Takes.andThen {visit : Visit α} {next : α → Visit β} {middle : α → Journal → Prop}
    {goal : β → Journal → Prop} (takes : visit.Takes journal steps middle)
    (further : ∀ result after, middle result after → (next result).Takes after [] goal) :
    (visit >>= next).Takes journal steps goal := by
  rw [← List.append_nil steps]
  exact takes.bind further

theorem Takes.mono {visit : Visit α}
    {strong weak : α → Journal → Prop} (takes : visit.Takes journal steps strong)
    (weaker : ∀ result after, strong result after → weak result after) :
    visit.Takes journal steps weak := by
  obtain ⟨continues, ends⟩ := takes
  refine ⟨continues, ?_⟩
  split at ends
  · exact ⟨ends.1, weaker _ _ ends.2⟩
  · exact ends

/-- Visits to the members of a list take one step each; what holds of the journal between them is
kept. -/
theorem Takes.mapM (items : List α) {visit : α → Visit β} {step : α → Step}
    {related : α → β → Prop} {invariant : Journal → Prop}
    (each : ∀ item journal, invariant journal → (visit item).Takes journal [step item]
      fun result after => related item result ∧ invariant after)
    (journal : Journal) (holds : invariant journal) :
    (items.mapM visit).Takes journal (items.map step)
      fun results after => List.Forall₂ related items results ∧ invariant after := by
  induction items generalizing journal with
  | nil => exact Takes.pure ⟨.nil, holds⟩
  | cons item items ih =>
      rw [List.mapM_cons]
      refine Takes.bind (each item journal holds) ?_
      rintro result after ⟨isRelated, stillHolds⟩
      refine (ih after stillHolds).andThen ?_
      rintro results last ⟨areRelated, holdsLast⟩
      exact Takes.pure ⟨.cons isRelated areRelated, holdsLast⟩

end Visit

def Answer.value : Answer → Except Fault Value
  | .result value => .ok value
  | .failure text => .error (.page text)

def Journal.nextAnswer (journal : Journal) : Answer := journal.answers.headD (.result .null)

def Effect.script (calling : Calling) (body : String) (parameters : List String)
    (arguments : List Value) : Effect :=
  .call ⟨calling.method, calling.script body parameters, calling.hand arguments⟩

def Journal.afterScript (journal : Journal) (effect : Effect) : Journal :=
  { journal with answers := journal.answers.tail, effects := journal.effects ++ [effect] }

namespace Visit

theorem outcome_evaluate (calling : Calling) (body : String) (parameters : List String)
    (arguments : List Value) (journal : Journal) :
    (evaluate calling body parameters arguments).outcome journal =
      (journal.nextAnswer.value,
        journal.afterScript (.script calling body parameters arguments)) := by
  unfold evaluate
  rw [outcome_bind]
  change (match journal.nextAnswer with
    | .result value => (pure value : Visit Value)
    | .failure text => throw (Fault.page text)).outcome
      (journal.afterScript (.script calling body parameters arguments)) = _
  cases journal.nextAnswer <;> rfl

theorem Takes.evaluate (calling : Calling) (body : String) (parameters : List String)
    (arguments : List Value) (journal : Journal) :
    (Visit.evaluate calling body parameters arguments).Takes journal
      [.ofResult (some (.script calling body parameters arguments)) journal.nextAnswer.value]
      fun value after => journal.nextAnswer.value = .ok value ∧
        after = journal.afterScript (.script calling body parameters arguments) :=
  .single _ (outcome_evaluate calling body parameters arguments journal) ⟨rfl, rfl⟩

end Visit

end BrowserScript.Page
