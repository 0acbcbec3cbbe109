import BrowserScript.Assertion
import BrowserScript.Proofs.Schema.Acceptance

/-!
# Runs of assertions

An assertion may name several kinds of expectations. Of those that are given, the first one decides
and the later ones do not matter; an element that is missing is only looked at further where the
assertion says that it should not exist. Assertions run one after another, up to the first whose
pattern cannot be read or whose failure stops the program.
-/

namespace BrowserScript.Assertion

/-! ## Options -/

def textOption (options : Value) (name : String) : Option String :=
  match options.option name with
  | .ok (.str text) => some text
  | _ => none

def truthOption (options : Value) (name : String) : Option Bool :=
  match options.option name with
  | .ok (.bool truth) => some truth
  | _ => none

/-- Options of an assertion: expected texts are texts, the others truth values, and each may be null
or absent. The selector can be shown. -/
structure IsAssertion (options : Value) : Prop where
  texts : ∀ name ∈ ["contains", "equals", "matches"],
    options.option name = .ok .null ∨ ∃ text, options.option name = .ok (.str text)
  truths : ∀ name ∈ ["exists", "visible", "throwOnFail"],
    options.option name = .ok .null ∨ ∃ truth, options.option name = .ok (.bool truth)
  selector : ∃ selector shown, options.optionOr "selector" (.str "") = .ok selector ∧
    selector.display = .ok shown

namespace IsAssertion

variable {options : Value}

theorem given?_text (typed : IsAssertion options) (name : String)
    (member : name ∈ ["contains", "equals", "matches"]) :
    given? options name = .ok ((textOption options name).map .str) := by
  unfold given? textOption
  rcases typed.texts name member with null | ⟨text, given⟩
  · rw [null]
    rfl
  · rw [given]
    rfl

theorem option_truth (typed : IsAssertion options) (name : String)
    (member : name ∈ ["exists", "visible", "throwOnFail"]) :
    options.option name = .ok ((truthOption options name).elim .null .bool) := by
  unfold truthOption
  rcases typed.truths name member with null | ⟨truth, given⟩
  · rw [null]
    rfl
  · rw [given]
    rfl

theorem given?_truth (typed : IsAssertion options) (name : String)
    (member : name ∈ ["exists", "visible", "throwOnFail"]) :
    given? options name = .ok ((truthOption options name).map .bool) := by
  unfold given?
  rw [typed.option_truth name member]
  cases truthOption options name with
  | none => rfl
  | some truth => rfl

end IsAssertion

/-! ## Kinds of expectations -/

inductive Kind where
  | part (text : String)
  | whole (text : String)
  | pattern (text : String)
  | existing (expected : Bool)
  | shown (expected : Bool)

/-- The expectations that options give, in the order in which they count. -/
def kinds (options : Value) : List Kind :=
  [(textOption options "contains").map .part, (textOption options "equals").map .whole,
    (textOption options "matches").map .pattern, (truthOption options "exists").map .existing,
    (truthOption options "visible").map .shown].filterMap id

namespace Kind

def Holds (seen : Sighting) : Kind → Prop
  | part text => text.toList <:+: seen.text.toList
  | whole text => seen.text = text
  | pattern text =>
      ∃ node, Pattern.read text.toList = .ok node ∧ node.occursIn seen.text.toList = true
  | existing expected => seen.found = expected
  | shown expected => seen.visible = expected

def judge (seen : Sighting) (kind : Kind) : Except Fault Verdict :=
  let got := ", but got: \"" ++ seen.text ++ "\""
  match kind with
  | part text => .ok ⟨occurs text.toList seen.text.toList,
      "Expected text to contain \"" ++ text ++ "\"" ++ got⟩
  | whole text => .ok ⟨text == seen.text, "Expected text to equal \"" ++ text ++ "\"" ++ got⟩
  | pattern text => do
      let node ← Pattern.read text.toList
      return ⟨node.occursIn seen.text.toList,
        "Expected text to match pattern /" ++ text ++ "/" ++ got⟩
  | existing expected => .ok ⟨seen.found == expected,
      "Expected element to " ++ (if expected then "exist" else "not exist")⟩
  | shown expected => .ok ⟨seen.visible == expected,
      "Expected element to be " ++ (if expected then "visible" else "hidden")⟩

end Kind

theorem occurs_iff {part text : List Char} : occurs part text = true ↔ part <:+: text := by
  induction text with
  | nil =>
      unfold occurs
      simp
  | cons c rest ih =>
      unfold occurs
      rw [List.infix_cons_iff, ← ih]
      simp

/-! ## Evaluation -/

/-- An element is looked at further: it is found, or it should not exist. -/
def Considered (options : Value) (seen : Sighting) : Prop :=
  seen.found = true ∨ truthOption options "exists" = some false

section

variable {options : Value} {seen : Sighting}

theorem evaluate_missing (typed : IsAssertion options) (missing : ¬ Considered options seen) :
    ∃ message, evaluate options seen = .ok ⟨false, message⟩ := by
  obtain ⟨selector, shown, read, displayed⟩ := typed.selector
  obtain ⟨unseen, needed⟩ := not_or.1 missing
  unfold evaluate
  rw [read, typed.option_truth "exists" (by decide)]
  dsimp only [bind, Except.bind]
  rw [if_pos, displayed]
  · exact ⟨_, rfl⟩
  · rcases existing : truthOption options "exists" with _ | _ | _
    · simp [unseen]
    · exact absurd existing needed
    · simp [unseen]

/-- What is left of an evaluation once the element is looked at. -/
theorem evaluate_considered (typed : IsAssertion options) (considered : Considered options seen) :
    (∀ kind, (kinds options).head? = some kind → evaluate options seen = kind.judge seen) ∧
      ((kinds options).head? = none → ∃ message, evaluate options seen = .ok ⟨false, message⟩) := by
  obtain ⟨selector, shown, read, displayed⟩ := typed.selector
  unfold evaluate kinds
  rw [read, typed.option_truth "exists" (by decide), typed.given?_text "contains" (by decide),
    typed.given?_text "equals" (by decide), typed.given?_text "matches" (by decide),
    typed.given?_truth "exists" (by decide), typed.given?_truth "visible" (by decide)]
  dsimp only [bind, Except.bind]
  rw [if_neg]
  · have decided {kind : Kind} {outcome : Except Fault Verdict} (same : outcome = kind.judge seen) :
        (∀ other, some kind = some other → outcome = other.judge seen) ∧
          (some kind = none → ∃ message, outcome = .ok ⟨false, message⟩) := by
      refine ⟨fun other first => ?_, fun none => ?_⟩
      · cases first
        exact same
      · cases none
    -- Each kind that is not given leaves the question to the next one.
    rcases textOption options "contains" with _ | text
    · rcases textOption options "equals" with _ | text
      · rcases textOption options "matches" with _ | text
        · rcases truthOption options "exists" with _ | expected
          · rcases truthOption options "visible" with _ | expected
            · refine ⟨fun kind first => ?_, fun _ => ?_⟩
              · cases first
              · refine ⟨"No assertion kind given for " ++ shown, ?_⟩
                rw [displayed]
                rfl
            · exact decided rfl
          · exact decided rfl
        · refine decided ?_
          simp only [Option.map_some, matchesPattern, Kind.judge]
          cases Pattern.read text.toList with
          | error fault => rfl
          | ok node => rfl
      · refine decided ?_
        simp only [Option.map_some, Value.isText_str]
        rfl
    · exact decided rfl
  · rcases considered with found | absent
    · simp [found]
    · simp [absent]

end

/-- A pattern that cannot be read fails; any other verdict says whether the expectation holds. -/
theorem Kind.judge_cases (kind : Kind) (seen : Sighting) :
    (∃ text fault, kind = .pattern text ∧ Pattern.read text.toList = .error fault ∧
      kind.judge seen = .error fault) ∨
    (∃ verdict, kind.judge seen = .ok verdict ∧ (verdict.passed = true ↔ kind.Holds seen) ∧
      ∀ text fault, kind = .pattern text → Pattern.read text.toList ≠ .error fault) := by
  cases kind with
  | part text => exact .inr ⟨_, rfl, occurs_iff, fun _ _ other => by cases other⟩
  | whole text => exact .inr ⟨_, rfl, beq_iff_eq.trans eq_comm, fun _ _ other => by cases other⟩
  | pattern text =>
      cases read : Pattern.read text.toList with
      | error fault =>
          refine .inl ⟨text, fault, rfl, read, ?_⟩
          simp only [judge, read]
          rfl
      | ok node =>
          obtain ⟨message, judged⟩ : ∃ message, (pattern text).judge seen =
              .ok ⟨node.occursIn seen.text.toList, message⟩ := by
            simp only [judge, read]
            exact ⟨_, rfl⟩
          refine .inr ⟨_, judged, by simp [Holds, read], ?_⟩
          rintro _ fault ⟨⟩ failed
          rw [read] at failed
          cases failed
  | _ => exact .inr ⟨_, rfl, beq_iff_eq, fun _ _ other => by cases other⟩

namespace Step

def Passes (step : Step) : Prop :=
  ∃ verdict, evaluate step.options step.seen = .ok verdict ∧ verdict.passed = true

def FailsByPattern (step : Step) (fault : Fault) : Prop :=
  Considered step.options step.seen ∧ ∃ text,
    (kinds step.options).head? = some (.pattern text) ∧ Pattern.read text.toList = .error fault

def GoesOn (step : Step) : Prop :=
  (¬ ∃ fault, step.FailsByPattern fault) ∧
    (step.Passes ∨ truthOption step.options "throwOnFail" = some false)

/-- What an evaluation can come to. -/
theorem evaluate_cases {step : Step} (typed : IsAssertion step.options) :
    (∃ fault, step.FailsByPattern fault ∧ evaluate step.options step.seen = .error fault) ∨
    (∃ verdict, (¬ ∃ fault, step.FailsByPattern fault) ∧
      evaluate step.options step.seen = .ok verdict ∧
      (verdict.passed = true ↔ Considered step.options step.seen ∧
        ∃ kind, (kinds step.options).head? = some kind ∧ kind.Holds step.seen)) := by
  by_cases considered : Considered step.options step.seen
  · obtain ⟨decides, undecided⟩ := evaluate_considered typed considered
    cases first : (kinds step.options).head? with
    | none =>
        obtain ⟨message, evaluated⟩ := undecided first
        refine .inr ⟨_, ?_, evaluated, by simp⟩
        rintro ⟨fault, _, text, given, _⟩
        rw [first] at given
        cases given
    | some kind =>
        rcases kind.judge_cases step.seen with
          ⟨text, fault, rfl, failed, judged⟩ | ⟨verdict, judged, holds, readable⟩
        · exact .inl ⟨fault, ⟨considered, text, first, failed⟩, (decides _ first).trans judged⟩
        · refine .inr ⟨verdict, ?_, (decides _ first).trans judged, ?_⟩
          · rintro ⟨fault, _, text, given, failed⟩
            rw [first] at given
            exact readable text fault (Option.some.inj given) failed
          · simp [holds, considered]
  · obtain ⟨message, evaluated⟩ := evaluate_missing typed considered
    refine .inr ⟨_, ?_, evaluated, by simp [considered]⟩
    rintro ⟨fault, looked, _⟩
    exact considered looked

theorem evaluate_error_iff {step : Step} (typed : IsAssertion step.options) (fault : Fault) :
    evaluate step.options step.seen = .error fault ↔ step.FailsByPattern fault := by
  rcases evaluate_cases typed with ⟨other, fails, evaluated⟩ | ⟨verdict, readable, evaluated, _⟩
  · rw [evaluated]
    constructor
    · rintro ⟨⟩
      exact fails
    · rintro ⟨_, text, first, failed⟩
      obtain ⟨_, otherText, otherFirst, otherFailed⟩ := fails
      cases first.symm.trans otherFirst
      exact congrArg _ (Except.error.inj (otherFailed.symm.trans failed))
  · rw [evaluated]
    exact ⟨fun other => (by cases other), fun fails => (readable ⟨fault, fails⟩).elim⟩

theorem passes_iff {step : Step} (typed : IsAssertion step.options) :
    step.Passes ↔ Considered step.options step.seen ∧
      ∃ kind, (kinds step.options).head? = some kind ∧ kind.Holds step.seen := by
  rcases evaluate_cases typed with
    ⟨fault, ⟨considered, text, first, failed⟩, evaluated⟩ | ⟨verdict, _, evaluated, passed⟩
  · constructor
    · rintro ⟨verdict, other, _⟩
      rw [evaluated] at other
      cases other
    · rintro ⟨_, kind, given, holds⟩
      rw [first] at given
      cases given
      obtain ⟨node, read, _⟩ := holds
      rw [failed] at read
      cases read
  · rw [← passed]
    constructor
    · rintro ⟨other, same, holds⟩
      rw [evaluated] at same
      cases same
      exact holds
    · exact fun holds => ⟨verdict, evaluated, holds⟩

theorem stopsProgram_eq {options : Value} (typed : IsAssertion options) :
    stopsProgram options = .ok (truthOption options "throwOnFail" != some false) := by
  unfold stopsProgram
  rw [typed.option_truth "throwOnFail" (by decide)]
  rcases truthOption options "throwOnFail" with _ | _ | _ <;> rfl

/-- A step ends with whether it passed, unless its pattern or its failure stops the program. -/
theorem result_cases {step : Step} (typed : IsAssertion step.options) :
    (step.outcome.result = .ok true ↔ step.Passes) ∧
    ((∃ passed, step.outcome.result = .ok passed) ↔ step.GoesOn) := by
  unfold outcome GoesOn
  rcases evaluate_cases typed with ⟨fault, fails, evaluated⟩ | ⟨verdict, readable, evaluated, _⟩
  · have unpassed : ¬ step.Passes := by
      rintro ⟨verdict, other, _⟩
      rw [evaluated] at other
      cases other
    rw [evaluated]
    simp only [unpassed, iff_false]
    refine ⟨fun other => ?_, fun ⟨_, other⟩ => ?_, fun goes => (goes.1 ⟨fault, fails⟩).elim⟩
    · cases other
    · cases other
  · rw [evaluated]
    have passes : step.Passes ↔ verdict.passed = true := by
      simp [Passes, evaluated]
    rw [passes]
    simp only [readable, not_false_eq_true, true_and]
    cases passed : verdict.passed with
    | true =>
        obtain ⟨selector, shown, read, displayed⟩ := typed.selector
        simp [settle, passed, read, displayed]
    | false =>
        simp only [settle, passed, stopsProgram_eq typed]
        rcases truthOption step.options "throwOnFail" with _ | _ | _ <;>
          simp [bind, Except.bind, pure, Except.pure, throw, throwThe, MonadExceptOf.throw]

end Step

/-- The outcomes of a run are those of its first steps. -/
theorem outcomes_of_first_steps (steps : List Step) : outcomes steps <+: steps.map Step.outcome := by
  induction steps with
  | nil => exact List.prefix_refl _
  | cons step rest ih =>
      unfold outcomes
      cases step.outcome.result with
      | ok passed => exact List.prefix_cons_inj _ |>.2 ih
      | error fault => exact ⟨rest.map Step.outcome, rfl⟩

/-- A step is reached if the program goes on after all steps before it. -/
theorem reached_iff {steps : List Step} (typed : ∀ step ∈ steps, IsAssertion step.options)
    (index : Nat) :
    index < (outcomes steps).length ↔
      index < steps.length ∧ ∀ earlier ∈ steps.take index, earlier.GoesOn := by
  induction steps generalizing index with
  | nil => simp [outcomes]
  | cons step rest ih =>
      obtain ⟨first, others⟩ := List.forall_mem_cons.1 typed
      have goes := (Step.result_cases first).2
      unfold outcomes
      cases index with
      | zero => cases step.outcome.result <;> simp
      | succ index =>
          cases result : step.outcome.result with
          | ok passed =>
              have on : step.GoesOn := goes.1 ⟨passed, result⟩
              simp [ih others, on]
          | error fault =>
              have stops : ¬ step.GoesOn := fun on => by
                obtain ⟨passed, other⟩ := goes.2 on
                rw [result] at other
                cases other
              simp [stops]

/-- Steps run in order, each as it would run alone. A step is reached if all steps before it could
be evaluated and passed or let the program go on. A missing element passes only where it should not
exist; of an element that is found, the first expectation that is given decides, and two assertions
that share it get the same verdict. -/
theorem assertions_run_in_order (steps : List Step)
    (typed : ∀ step ∈ steps, IsAssertion step.options) :
    outcomes steps <+: steps.map Step.outcome ∧
    (∀ index, index < (outcomes steps).length ↔
      index < steps.length ∧ ∀ earlier ∈ steps.take index, earlier.GoesOn) ∧
    ∀ step ∈ steps,
      (step.outcome.result = .ok true ↔ step.Passes) ∧
      (∀ fault, evaluate step.options step.seen = .error fault ↔ step.FailsByPattern fault) ∧
      (step.seen.found = false → step.Passes → truthOption step.options "exists" = some false) ∧
      (step.seen.found = true → (step.Passes ↔
        ∃ kind, (kinds step.options).head? = some kind ∧ kind.Holds step.seen)) ∧
      ∀ other kind, IsAssertion other → step.seen.found = true →
        (kinds step.options).head? = some kind → (kinds other).head? = some kind →
        evaluate other step.seen = evaluate step.options step.seen := by
  refine ⟨outcomes_of_first_steps steps, reached_iff typed, fun step member => ?_⟩
  have isTyped := typed step member
  refine ⟨(Step.result_cases isTyped).1, Step.evaluate_error_iff isTyped, ?_, ?_, ?_⟩
  · intro unseen passes
    rcases ((Step.passes_iff isTyped).1 passes).1 with found | absent
    · rw [unseen] at found
      cases found
    · exact absent
  · intro found
    rw [Step.passes_iff isTyped]
    exact and_iff_right (.inl found)
  · intro other kind otherTyped found first otherFirst
    rw [(evaluate_considered isTyped (.inl found)).1 kind first,
      (evaluate_considered otherTyped (.inl found)).1 kind otherFirst]

/-- A missing element whose failure is let pass, an element with a pattern that cannot be read, and
a step that is not reached. -/
def brokenRun : List Step :=
  [⟨.map [(.str "contains", .null), (.str "equals", .str "a"), (.str "throwOnFail", .bool false)],
      ⟨false, "", false⟩⟩,
    ⟨.map [(.str "selector", .str "p"), (.str "matches", .str "("), (.str "visible", .bool true)],
      ⟨true, "a", true⟩⟩,
    ⟨.map [(.str "exists", .bool false)], ⟨false, "", false⟩⟩]

theorem brokenRun_typed : ∀ step ∈ brokenRun, IsAssertion step.options := by
  have shown {options : Value} {selector : String}
      (read : options.optionOr "selector" (.str "") = .ok (.str selector)) :
      ∃ selector shown, options.optionOr "selector" (.str "") = .ok selector ∧
        selector.display = .ok shown := ⟨_, _, read, rfl⟩
  intro step member
  simp only [brokenRun, List.mem_cons, List.not_mem_nil, or_false] at member
  rcases member with rfl | rfl | rfl
  · exact ⟨by simp [Value.option_map, Entries.get?_cons, get?_nil],
      by simp [Value.option_map, Entries.get?_cons, get?_nil], shown (by with_unfolding_all rfl)⟩
  · exact ⟨by simp [Value.option_map, Entries.get?_cons, get?_nil],
      by simp [Value.option_map, Entries.get?_cons, get?_nil], shown (by with_unfolding_all rfl)⟩
  · exact ⟨by simp [Value.option_map, Entries.get?_cons, get?_nil],
      by simp [Value.option_map, Entries.get?_cons, get?_nil], shown (by with_unfolding_all rfl)⟩

theorem brokenRun_ends :
    (∀ step ∈ brokenRun, IsAssertion step.options) ∧ 1 < (outcomes brokenRun).length ∧
      ¬ 2 < (outcomes brokenRun).length := by
  obtain ⟨_, reached, _⟩ := assertions_run_in_order brokenRun brokenRun_typed
  refine ⟨brokenRun_typed, (reached 1).2 ⟨by decide, ?_⟩, fun late => ?_⟩
  · intro earlier member
    cases List.mem_singleton.1 member
    refine ⟨?_, .inr (by with_unfolding_all rfl)⟩
    rintro ⟨fault, found | absent, _⟩
    · cases found
    · with_unfolding_all cases absent
  · have goes := ((reached 2).1 late).2 _ (List.mem_cons_of_mem _ List.mem_cons_self)
    have unreadable : ∃ fault, Pattern.read "(".toList = .error fault := ⟨_, by with_unfolding_all rfl⟩
    obtain ⟨fault, failed⟩ := unreadable
    exact goes.1 ⟨fault, .inl rfl, "(", by with_unfolding_all rfl, failed⟩

end BrowserScript.Assertion
