import BrowserScript.Proofs.Program.Uniform

/-!
# Skipped commands leave no trace

A command that is skipped adds a warning to a draft and nothing else, so a plan without its skipped
commands has the same program, less the warnings. What is skipped depends on the commands before it,
as commands may stand before the first framework command.
-/

namespace BrowserScript.Program

/-! ## What is carried out and what is skipped -/

theorem carriedOut_sublist (opened : Bool) (plan : Plan) :
    (carriedOut opened plan).Sublist plan := by
  induction plan generalizing opened with
  | nil => exact .slnil
  | cons command plan ih =>
      rw [carriedOut]
      split
      · split
        · exact (ih true).cons command
        · exact (ih true).cons_cons command
      · split
        · exact (ih opened).cons_cons command
        · exact (ih opened).cons command

theorem skipped_sublist (opened : Bool) (plan : Plan) : (skipped opened plan).Sublist plan := by
  induction plan generalizing opened with
  | nil => exact .slnil
  | cons command plan ih =>
      rw [skipped]
      split
      · split
        · exact (ih true).cons_cons command
        · exact (ih true).cons command
      · split
        · exact (ih opened).cons command
        · exact (ih opened).cons_cons command

/-- Every command of a plan is either carried out or skipped. -/
theorem perm_carriedOut_skipped (opened : Bool) (plan : Plan) :
    plan.Perm (carriedOut opened plan ++ skipped opened plan) := by
  induction plan generalizing opened with
  | nil => exact .nil
  | cons command plan ih =>
      rw [carriedOut, skipped]
      split
      · split
        · exact ((ih true).cons command).trans List.perm_middle.symm
        · exact (ih true).cons command
      · split
        · exact (ih opened).cons command
        · exact ((ih opened).cons command).trans List.perm_middle.symm

theorem length_carriedOut_add_skipped (opened : Bool) (plan : Plan) :
    (carriedOut opened plan).length + (skipped opened plan).length = plan.length := by
  rw [(perm_carriedOut_skipped opened plan).length_eq, List.length_append]

/-- The first framework command is not skipped. -/
theorem find?_carriedOut (plan : Plan) :
    (carriedOut false plan).find? isFramework = plan.find? isFramework := by
  induction plan with
  | nil => rfl
  | cons command plan ih =>
      rw [carriedOut]
      by_cases framework : isFramework command = true
      · rw [if_pos framework, if_neg Bool.false_ne_true, List.find?_cons_of_pos framework,
          List.find?_cons_of_pos framework]
      · rw [if_neg framework, List.find?_cons_of_neg framework, ← ih]
        split
        · rw [List.find?_cons_of_neg framework]
        · rfl

/-! ## Drafts without warnings -/

namespace Draft

/-- What taking up a command may make of a draft is what it does make of it. -/
theorem add_of_takes {dialect : Dialect} {draft next : Draft} {command : Command}
    (takes : draft.Takes dialect command next) : draft.add dialect command = .ok next := by
  unfold Draft.add
  cases takes with
  | repeated named opened shown =>
      rw [isFramework_iff.2 named, opened, Bool.and_true, if_pos rfl, shown]
      rfl
  | unknown unnamed shown =>
      rw [not_isFramework_of_unnamed unnamed, Bool.false_and, if_neg Bool.false_ne_true,
        Dialect.blockOf?, unnamed, shown]
      rfl
  | opens named fresh =>
      have display : command.name.display = .ok CommandName.framework.tag := by rw [named]; rfl
      rw [isFramework_iff.2 named, fresh, Option.isSome_none, Bool.and_false,
        if_neg Bool.false_ne_true, named.blockOf?, display]
      rfl
  | @adds name lines named other written =>
      have display : command.name.display = .ok name.tag := by rw [named]; rfl
      rw [named.isFramework, decide_eq_false other, Bool.false_and, if_neg Bool.false_ne_true,
        named.blockOf?, written, display]
      rfl

def quiet (draft : Draft) : Draft := { draft with warnings := [] }

/-- A draft without warnings is reached by the commands that are carried out. -/
theorem foldlM_carriedOut {dialect : Dialect} {plan : Plan} {draft final : Draft}
    (drafted : plan.foldlM (Draft.add dialect) draft = .ok final) :
    (carriedOut draft.prologue.isSome plan).foldlM (Draft.add dialect) draft.quiet =
      .ok final.quiet := by
  induction plan generalizing draft with
  | nil =>
      cases drafted
      rfl
  | cons command plan ih =>
      rw [List.foldlM_cons] at drafted
      obtain ⟨next, added, drafted⟩ := bind_eq_ok drafted
      have rest := ih drafted
      rw [carriedOut]
      cases takes_of_add added with
      | repeated named opened shown =>
          rw [if_pos (isFramework_iff.2 named), if_pos opened, ← opened]
          exact rest
      | unknown unnamed shown =>
          rw [not_isFramework_of_unnamed unnamed, if_neg Bool.false_ne_true, unnamed,
            Option.isSome_none, if_neg Bool.false_ne_true]
          exact rest
      | opens named fresh =>
          have again : draft.quiet.Takes dialect command _ := .opens named fresh
          rw [if_pos (isFramework_iff.2 named), fresh, Option.isSome_none,
            if_neg Bool.false_ne_true, List.foldlM_cons, add_of_takes again]
          exact rest
      | adds named other written =>
          have again : draft.quiet.Takes dialect command _ := .adds named other written
          rw [named.isFramework, decide_eq_false other, if_neg Bool.false_ne_true,
            if_pos named.isSome_ofValue?, List.foldlM_cons, add_of_takes again]
          exact rest

def finish (dialect : Dialect) (draft : Draft) : Program :=
  let source := assemble (draft.prologue.getD []) draft.body
  { backend := dialect.backend
    source := source
    stepCount := draft.stepCount
    fingerprint := fingerprintOf source
    warnings := draft.warnings }

end Draft

/-- A plan with a framework command is drafted in the dialect that the command chooses. -/
theorem ofPlan_of_find? {plan : Plan} {framework : Command}
    (found : plan.find? isFramework = some framework) :
    ofPlan plan = do
      let dialect ← Dialect.ofValue framework.payload
      let draft ← plan.foldlM (Draft.add dialect) {}
      return draft.finish dialect := by
  unfold ofPlan
  rw [found]
  rfl

theorem exists_draft_of_ofPlan {plan : Plan} {program : Program}
    (compiled : ofPlan plan = .ok program) :
    ∃ framework dialect draft, plan.find? isFramework = some framework ∧
      Dialect.ofValue framework.payload = .ok dialect ∧
      plan.foldlM (Draft.add dialect) {} = .ok draft ∧ program = draft.finish dialect := by
  cases found : plan.find? isFramework with
  | none =>
      unfold ofPlan at compiled
      rw [found] at compiled
      cases compiled
  | some framework =>
      rw [ofPlan_of_find? found] at compiled
      obtain ⟨dialect, chosen, compiled⟩ := bind_eq_ok compiled
      obtain ⟨draft, drafted, compiled⟩ := bind_eq_ok compiled
      exact ⟨framework, dialect, draft, rfl, chosen, drafted, (Except.ok.inj compiled).symm⟩

theorem length_of_mapM_eq_ok {α β : Type} {step : α → Except Fault β} {items : List α}
    {results : List β} (mapped : items.mapM step = .ok results) :
    results.length = items.length := by
  induction items generalizing results with
  | nil =>
      cases mapped
      rfl
  | cons item items ih =>
      rw [List.mapM_cons] at mapped
      obtain ⟨result, _, mapped⟩ := bind_eq_ok mapped
      obtain ⟨rest, further, mapped⟩ := bind_eq_ok mapped
      cases mapped
      rw [List.length_cons, List.length_cons, ih further]

/-- Every command of a plan is reported or warned about. Without the skipped commands the plan has
the same program but for the warnings, of which there is one for each skipped command, in the order
of the plan. -/
theorem skipped_leave_no_trace {plan : Plan} {program : Program}
    (compiled : ofPlan plan = .ok program) :
    program.stepCount + program.warnings.length = plan.length ∧
      ofPlan (carriedOut false plan) = .ok { program with warnings := [] } ∧
      (skipped false plan).mapM (warningText program.backend.tag) = .ok program.warnings ∧
      (carriedOut false plan).Sublist plan ∧ (skipped false plan).Sublist plan ∧
      plan.Perm (carriedOut false plan ++ skipped false plan) := by
  obtain ⟨framework, dialect, draft, found, chosen, drafted, rfl⟩ :=
    exists_draft_of_ofPlan compiled
  obtain ⟨count, warnings, warned, added⟩ := Draft.warnings_of_foldlM drafted
  have all : (draft.finish dialect).warnings = warnings := added
  have same : ofPlan (carriedOut false plan) =
      .ok { draft.finish dialect with warnings := [] } := by
    have first := (find?_carriedOut plan).trans found
    have quiet : (carriedOut false plan).foldlM (Draft.add dialect) {} = .ok draft.quiet :=
      Draft.foldlM_carriedOut drafted
    rw [ofPlan_of_find? first, chosen]
    dsimp only [bind, Except.bind]
    rw [quiet]
    rfl
  refine ⟨?_, same, ?_, carriedOut_sublist false plan, skipped_sublist false plan,
    perm_carriedOut_skipped false plan⟩
  · rw [all, length_of_mapM_eq_ok warned, ← length_carriedOut_add_skipped false plan]
    exact congrArg (· + _) (count.trans (Nat.zero_add _))
  · rw [all]
    exact warned

/-- A plan whose first command is outside the vocabulary and whose framework is named twice. -/
theorem mixedPlan_leaves_no_trace :
    ∃ program, ofPlan (forBackend .selenium mixedPlan) = .ok program ∧
      (carriedOut false (forBackend .selenium mixedPlan)).length = 3 ∧
      program.stepCount + program.warnings.length = (forBackend .selenium mixedPlan).length ∧
      ofPlan (carriedOut false (forBackend .selenium mixedPlan)) =
        .ok { program with warnings := [] } ∧
      (skipped false (forBackend .selenium mixedPlan)).mapM (warningText program.backend.tag) =
        .ok program.warnings := by
  have done : (ofPlan (forBackend .selenium mixedPlan)).toBool = true := by decide +kernel
  obtain ⟨program, compiled⟩ := exists_ok_of_toBool done
  obtain ⟨count, same, warned, _⟩ := skipped_leave_no_trace compiled
  exact ⟨program, compiled, by decide +kernel, count, same, warned⟩

end BrowserScript.Program
