import BrowserScript.Proofs.Baseline.PageScan

/-!
# Marks on every entry

Scripts take the answers of the page one after another, so the script that marks the elements of an
entry meets the answer at the entry's own place, whatever became of the scripts before it. A failure
costs one warning and the mark of one entry. Only the style sheet of the badges must arrive: without
it no entry is tried.
-/

namespace BrowserScript

namespace Page

def Journal.answerAt (journal : Journal) (index : Nat) : Answer :=
  journal.answers.getD index (.result .null)

def Answer.failure? : Answer → Option String
  | .failure text => some text
  | .result _ => none

/-- The call that hands data to a body under each framework: one array where the framework takes a
single argument, and the data one by one elsewhere. -/
def Call.ofFramework (framework body : String) (parameters : List String) (data : List Value) :
    Call where
  method := if framework = "selenium" then "execute_script" else "evaluate"
  script := (Calling.ofFramework framework).script body parameters
  arguments := if framework = "playwright" then [.list data] else data

theorem Effect.script_ofFramework (framework body : String) (parameters : List String)
    (data : List Value) :
    Effect.script (.ofFramework framework) body parameters data =
      .call (.ofFramework framework body parameters data) := by
  unfold Effect.script Call.ofFramework
  by_cases selenium : framework = "selenium"
  · subst selenium
    rfl
  · by_cases playwright : framework = "playwright"
    · subst playwright
      rfl
    · have spread : Calling.ofFramework framework = .spread := by
        unfold Calling.ofFramework
        split
        · exact absurd rfl selenium
        · exact absurd rfl playwright
        · rfl
      rw [if_neg selenium, if_neg playwright, spread]
      rfl

end Page

namespace Baseline

open Page

namespace Highlight

def styleCall (framework : String) : Page.Call :=
  .ofFramework framework styleScript ["styleId"] [.str styleId]

def markCall (framework : String) (entry : ReportEntry) : Page.Call :=
  .ofFramework framework markScript ["selector", "issues"]
    [.str entry.selector, .list (entry.issues.map Issue.toValue)]

def warning (entry : ReportEntry) (text : String) : LogLine :=
  ⟨.warning, "Error highlighting selector " ++ String.ofList (Quoted.encode entry.selector.toList)
    ++ ": " ++ text⟩

def answered (journal : Journal) (place : Nat) (entries : List ReportEntry) :
    List (ReportEntry × Answer) :=
  (entries.zipIdx place).map fun item => (item.1, journal.answerAt item.2)

def warnings (marks : List (ReportEntry × Answer)) : List LogLine :=
  marks.filterMap fun mark => mark.2.failure?.map (warning mark.1)

/-- One script takes one answer; a failure is warned about and is no fault. -/
theorem outcome_mark (calling : Calling) (entry : ReportEntry) (journal : Journal) :
    (mark calling entry).outcome journal =
      (.ok journal.nextAnswer.failure?.isNone,
        { journal.afterScript (markEffect calling entry) with
          log := journal.log ++ (journal.nextAnswer.failure?.map (warning entry)).toList }) := by
  obtain ⟨answers, effects, log⟩ := journal
  cases answers with
  | nil =>
      change _ = (_, Journal.mk _ _ (log ++ []))
      rw [List.append_nil]
      rfl
  | cons answer answers =>
      cases answer with
      | result value =>
          change _ = (_, Journal.mk _ _ (log ++ []))
          rw [List.append_nil]
          rfl
      | failure text => rfl

/-- What a run of marks leaves, given the answers from some place on. -/
theorem outcome_mapM_mark (calling : Calling) (journal : Journal) (entries : List ReportEntry)
    (place : Nat) (effects : List Effect) (log : List LogLine) :
    (entries.mapM (mark calling)).outcome ⟨journal.answers.drop place, effects, log⟩ =
      (.ok ((answered journal place entries).map fun mark => mark.2.failure?.isNone),
        ⟨journal.answers.drop (place + entries.length),
          effects ++ entries.map (markEffect calling),
          log ++ warnings (answered journal place entries)⟩) := by
  induction entries generalizing place effects log with
  | nil =>
      change _ = (_, Journal.mk _ (effects ++ []) (log ++ []))
      rw [List.append_nil, List.append_nil]
      rfl
  | cons entry entries ih =>
      have next : (Journal.mk (journal.answers.drop place) effects log).nextAnswer =
          journal.answerAt place := by
        simp [Journal.nextAnswer, Journal.answerAt, List.headD_eq_head?_getD, List.getD_eq_getElem?_getD]
      have left : (journal.answers.drop place).tail = journal.answers.drop (place + 1) :=
        List.tail_drop
      have pairs : answered journal place (entry :: entries) =
          (entry, journal.answerAt place) :: answered journal (place + 1) entries := rfl
      have lines : warnings ((entry, journal.answerAt place) :: answered journal (place + 1) entries) =
          ((journal.answerAt place).failure?.map (warning entry)).toList ++
            warnings (answered journal (place + 1) entries) := by
        unfold warnings
        rw [List.filterMap_cons]
        cases (journal.answerAt place).failure? <;> rfl
      rw [List.mapM_cons, Visit.outcome_bind, outcome_mark, next, pairs, lines]
      dsimp only [Journal.afterScript]
      rw [Visit.outcome_bind, left, ih]
      dsimp only
      rw [List.append_assoc, List.append_assoc, List.length_cons, Nat.add_right_comm,
        Nat.add_assoc place entries.length 1]
      rfl

/-- The style sheet of the badges takes the first answer. A failure there ends the marking, and
otherwise every entry is tried. -/
theorem outcome_markAll (calling : Calling) (report : List ReportEntry) (journal : Journal) :
    (markAll calling report).outcome journal =
      match journal.nextAnswer with
      | .failure text => (.error (.page text), journal.afterScript (styleEffect calling))
      | .result _ =>
          let marks := answered journal 1 (markedEntries report)
          (.ok (marks.countP (·.2.failure?.isNone)),
            ⟨journal.answers.drop (1 + (markedEntries report).length),
              journal.effects ++ [styleEffect calling] ++
                (markedEntries report).map (markEffect calling),
              journal.log ++ warnings marks⟩) := by
  have marked := outcome_mapM_mark calling journal (markedEntries report) 1
    (journal.effects ++ [styleEffect calling]) journal.log
  rw [List.drop_one] at marked
  unfold markAll
  rw [Visit.outcome_bind, Visit.outcome_evaluate]
  cases journal.nextAnswer with
  | failure text => rfl
  | result value =>
      change ((markedEntries report).mapM (mark calling) >>= _).outcome
        ⟨journal.answers.tail, journal.effects ++ [styleEffect calling], journal.log⟩ = _
      have counted : ((answered journal 1 (markedEntries report)).map
          fun mark => mark.2.failure?.isNone).count true =
            (answered journal 1 (markedEntries report)).countP (·.2.failure?.isNone) := by
        rw [List.count_eq_countP, List.countP_map]
        exact List.countP_congr fun mark _ => by simp
      rw [Visit.outcome_bind, marked]
      dsimp only
      rw [counted]
      rfl

/-- Marking covers every entry in spite of failures. The style sheet of the badges comes first; if it
cannot be added, its failure is the fault and no other script runs. Otherwise there is one script
for each entry that belongs to no at-rule, in the order of the report, which carries the selector
and the issues of the entry under every framework; the entries whose scripts succeeded are counted,
and there is one warning for each of the others. -/
theorem highlighting_covers_every_entry (framework : String) (report : List ReportEntry)
    (journal : Journal) :
    let entries := report.filter (!·.isAtRule)
    let marks := entries.zipIdx.map fun item => (item.1, journal.answerAt (item.2 + 1))
    let run := (markAll (.ofFramework framework) report).outcome journal
    match journal.answerAt 0 with
    | .failure text =>
        run = (.error (.page text),
          { journal with
            answers := journal.answers.drop 1
            effects := journal.effects ++ [.call (styleCall framework)] })
    | .result _ =>
        run = (.ok (marks.countP (·.2.failure?.isNone)),
          { answers := journal.answers.drop (entries.length + 1)
            effects := journal.effects ++
              .call (styleCall framework) :: entries.map fun entry => .call (markCall framework entry)
            log := journal.log ++
              marks.filterMap fun mark => mark.2.failure?.map (warning mark.1) }) := by
  intro entries marks run
  have style : styleEffect (.ofFramework framework) = .call (styleCall framework) :=
    Effect.script_ofFramework ..
  have each : entries.map (markEffect (.ofFramework framework)) =
      entries.map fun entry => .call (markCall framework entry) :=
    List.map_congr_left fun entry _ => Effect.script_ofFramework ..
  have places : answered journal 1 entries = marks := by
    rw [answered, List.zipIdx_succ, List.map_map]
    rfl
  have first : journal.nextAnswer = journal.answerAt 0 := by
    rw [Journal.nextAnswer, Journal.answerAt]
    cases journal.answers <;> rfl
  have ends : run = _ := outcome_markAll (.ofFramework framework) report journal
  rw [first, style, show markedEntries report = entries from rfl, each, places] at ends
  rw [ends]
  cases journal.answerAt 0 with
  | failure text =>
      rw [List.drop_one]
      rfl
  | result value =>
      dsimp only
      rw [List.append_assoc, Nat.add_comm]
      rfl

end Highlight

end Baseline

end BrowserScript
