import BrowserScript.Baseline.PageScan
import BrowserScript.Proofs.Page.Visit
import BrowserScript.Proofs.Value.Literal

/-!
# What a scan does to the world outside

The steps of a scan are laid down by its settings, by what the page answers to the first two
scripts, by the network and by the registry. The scan goes through them up to the first fault; a
fault is logged once and leaves an empty report. Marking elements never ends a scan, whatever the
page answers. Only a fault in the settings themselves, which are read before the first step, is not
held back.
-/

namespace BrowserScript.Baseline

open Page

namespace Highlight

def styleEffect (calling : Calling) : Effect :=
  .script calling styleScript ["styleId"] [.str styleId]

def markEffect (calling : Calling) (entry : ReportEntry) : Effect :=
  .script calling markScript ["selector", "issues"]
    [.str entry.selector, .list (entry.issues.map Issue.toValue)]

def markedEntries (report : List ReportEntry) : List ReportEntry := report.filter (!·.isAtRule)

/-- A selector that the page cannot query is only warned about. -/
theorem mark_takes (calling : Calling) (entry : ReportEntry) (journal : Journal) :
    (mark calling entry).Takes journal [{ effect := some (markEffect calling entry) }]
      fun _ _ => True := by
  have ends : ∃ marked after, (mark calling entry).outcome journal = (.ok marked, after) ∧
      journal.Continues [markEffect calling entry] after := by
    obtain ⟨answers, effects, log⟩ := journal
    match answers with
    | [] => exact ⟨true, _, rfl, rfl, rfl⟩
    | .result _ :: _ => exact ⟨true, _, rfl, rfl, rfl⟩
    | .failure _ :: _ =>
        refine ⟨false, _, rfl, rfl, ?_⟩
        simp [Journal.errors]
  obtain ⟨marked, after, ends, continues⟩ := ends
  have takes := Visit.Takes.single (some (markEffect calling entry)) ends continues
  exact takes.mono fun _ _ _ => trivial

theorem markAll_takes (calling : Calling) (report : List ReportEntry) (journal : Journal) :
    (markAll calling report).Takes journal
      (.ofResult (some (styleEffect calling)) journal.nextAnswer.value ::
        (markedEntries report).map fun entry => { effect := some (markEffect calling entry) })
      fun _ _ => True := by
  unfold markAll
  refine Visit.Takes.bind (.evaluate calling styleScript ["styleId"] [.str styleId] journal) ?_
  intro _ styled _
  have each : ∀ entry journal, True → (mark calling entry).Takes journal
      [{ effect := some (markEffect calling entry) }] fun _ _ => True ∧ True :=
    fun entry journal _ => (mark_takes calling entry journal).mono fun _ _ _ => ⟨trivial, trivial⟩
  have marks := Visit.Takes.mapM (markedEntries report) each styled trivial
  exact marks.andThen fun _ _ _ => .pure trivial

end Highlight

namespace PageScan

variable {journal : Journal} {registry : Registry} (scan : PageScan) {settings : Settings}

def listingEffect (scan : PageScan) : Effect := .script scan.calling sheetScript [] []

def listed (answer : Answer) : Except Fault (List String) := do
  let found ← answer.value
  let addresses ← (found.orElse (.list [])).members
  addresses.mapM Value.display

/-- The text of the style sheet at an address, asked for after a number of requests. -/
def sheetText (scan : PageScan) (request : String × Nat) : Except Fault String :=
  match scan.network request.2 request.1 with
  | .body text => .ok text
  | .failure text => .error (.network text)
  | .interruption text => .error (.network text)

def loading (settings : Settings) : Effect :=
  match settings.registryPath.filter (· != "") with
  | some path => .readFile path
  | none => .fetch settings.registryUrl

def loaded (scan : PageScan) (settings : Settings) (earlier : Nat) :
    Except Fault (Registry × LogLine) :=
  match settings.registryPath.filter (· != "") with
  | some path => Registry.ofFile scan.files path
  | none =>
      match scan.network earlier settings.registryUrl with
      | .body text => Registry.ofAnswer settings.registryUrl text
      | .failure text =>
          .error (.registry ("cannot fetch registry " ++ settings.registryUrl ++ ": " ++ text))
      | .interruption text => .error (.network text)

/-- The registry of a scan: the one that is given, or else the one that is loaded. -/
def registryOf (scan : PageScan) (settings : Settings) (earlier : Nat) : Except Fault Registry :=
  match scan.registry with
  | some registry => .ok registry
  | none => (·.1) <$> scan.loaded settings earlier

def reportOn (scan : PageScan) (settings : Settings) (answer : Answer) :
    Except Fault (List ReportEntry) := do
  let addresses ← listed answer
  let sheets ← addresses.zipIdx.mapM scan.sheetText
  let registry ← scan.registryOf settings addresses.length
  let (lookup, _) ← Lookup.ofRegistry registry scan.config
  let (nodes, _) ← readStylesheet (Text.joinLines sheets)
  return analyze nodes lookup scan.config

def pause (scan : PageScan) : Except Fault Binary64 :=
  Duration.seconds (scan.config.delay.orElse defaultDelay)

theorem sheetAddresses_takes (journal : Journal) :
    scan.sheetAddresses.Takes journal
      [.ofResult (some scan.listingEffect) (listed journal.nextAnswer)]
      fun addresses after => listed journal.nextAnswer = .ok addresses ∧
        after.answers = journal.answers.tail := by
  have ends : scan.sheetAddresses.outcome journal =
      (listed journal.nextAnswer, journal.afterScript scan.listingEffect) := by
    unfold sheetAddresses listed
    rw [Visit.outcome_bind, Visit.outcome_evaluate]
    cases journal.nextAnswer with
    | failure text => rfl
    | result value =>
        change Visit.outcome (liftM (value.orElse (.list [])).members >>= _) _ = _
        rw [Visit.outcome_bind, Visit.outcome_liftM]
        change _ = ((value.orElse (.list [])).members >>= _, _)
        cases (value.orElse (.list [])).members with
        | error fault => rfl
        | ok addresses => exact Visit.outcome_mapM_liftM addresses Value.display _
  refine (Visit.Takes.single (some scan.listingEffect) ends ⟨rfl, rfl⟩).mono ?_
  rintro addresses after ⟨found, rfl⟩
  exact ⟨found, rfl⟩

theorem fetchSheet_takes (request : String × Nat) (journal : Journal) :
    (scan.fetchSheet request.2 request.1).Takes journal
      [.ofResult (some (.fetch request.1)) (scan.sheetText request)]
      fun text after => scan.sheetText request = .ok text ∧ after.answers = journal.answers := by
  have ends : ∃ after, (scan.fetchSheet request.2 request.1).outcome journal =
        (scan.sheetText request, after) ∧
      journal.Continues [.fetch request.1] after ∧ after.answers = journal.answers := by
    unfold fetchSheet sheetText
    rw [Visit.outcome_bind]
    cases scan.network request.2 request.1 with
    | failure text => exact ⟨_, rfl, ⟨rfl, rfl⟩, rfl⟩
    | interruption text => exact ⟨_, rfl, ⟨rfl, rfl⟩, rfl⟩
    | body text =>
        refine ⟨_, rfl, ⟨rfl, ?_⟩, rfl⟩
        simp [Journal.errors]
  obtain ⟨after, ends, continues, same⟩ := ends
  refine (Visit.Takes.single (some (.fetch request.1)) ends continues).mono ?_
  rintro text later ⟨found, rfl⟩
  exact ⟨found, same⟩

theorem debug_harmless (message : String) :
    ∀ line ∈ [LogLine.mk .debug message], line.level ≠ .error :=
  List.forall_mem_singleton.2 nofun

theorem level_of_ofFile {files : Files} {path : String} {line : LogLine}
    (read : Registry.ofFile files path = .ok (registry, line)) : line.level = .debug := by
  unfold Registry.ofFile at read
  dsimp only at read
  split at read
  · cases read
  · split at read
    · obtain ⟨_, _, read⟩ := bind_eq_ok read
      obtain ⟨_, _, read⟩ := bind_eq_ok read
      cases read
      rfl
    · cases read

/-- Reading a registry after an effect is one step; what is logged about it is no error. -/
theorem read_takes (effect : Effect) (read : Except Fault (Registry × LogLine))
    (harmless : ∀ registry line, read = .ok (registry, line) → line.level = .debug)
    (journal : Journal) :
    Visit.Takes
      (do
        Visit.perform effect
        let pair ← liftM read
        Visit.report [pair.2]
        return pair.1)
      journal [.ofResult (some effect) read]
      fun registry after => (·.1) <$> read = .ok registry ∧ after.answers = journal.answers := by
  cases known : read with
  | error fault =>
      exact ⟨⟨rfl, rfl⟩, rfl⟩
  | ok pair =>
      refine ⟨⟨rfl, ?_⟩, rfl, rfl, rfl⟩
      have isDebug := harmless pair.1 pair.2 known
      change (journal.log ++ [pair.2]).filter _ = journal.errors
      simp [Journal.errors, isDebug]

theorem loadRegistry_takes (settings : Settings) (earlier : Nat) (journal : Journal) :
    (scan.loadRegistry settings earlier).Takes journal
      [.ofResult (some (loading settings)) (scan.loaded settings earlier)]
      fun registry after => (·.1) <$> scan.loaded settings earlier = .ok registry ∧
        after.answers = journal.answers := by
  unfold loadRegistry loading loaded
  cases settings.registryPath.filter (· != "") with
  | some path => exact read_takes (.readFile path) _ (fun _ _ => level_of_ofFile) journal
  | none =>
      dsimp only
      cases scan.network earlier settings.registryUrl with
      | body text =>
          refine read_takes (.fetch settings.registryUrl) _ (fun _ _ read => ?_) journal
          obtain ⟨_, _, read⟩ := bind_eq_ok read
          cases read
          rfl
      | failure text => exact read_takes (.fetch settings.registryUrl) (.error _) nofun journal
      | interruption text =>
          exact read_takes (.fetch settings.registryUrl) (.error _) nofun journal

/-- The addresses that are fetched, none if the page does not list any. -/
def addresses (answer : Answer) : List String := (listed answer).toOption.getD []

/-- The report that is published, none if there is a fault before it. -/
def report (scan : PageScan) (settings : Settings) (answer : Answer) : List ReportEntry :=
  (scan.reportOn settings answer).toOption.getD []

def loadSteps (scan : PageScan) (settings : Settings) (earlier : Nat) : List Step :=
  if scan.registry.isNone then
    [.ofResult (some (loading settings)) (scan.loaded settings earlier)]
  else []

def findSteps (scan : PageScan) (settings : Settings) (answer : Answer) : List Step :=
  { effect := some (.connect settings.fetchTimeout) } ::
    .ofResult (some scan.listingEffect) (listed answer) ::
    (((addresses answer).zipIdx.map fun request =>
        .ofResult (some (.fetch request.1)) (scan.sheetText request)) ++
      (scan.loadSteps settings (addresses answer).length ++
        [.ofResult none (scan.reportOn settings answer)]))

def publishSteps (scan : PageScan) (report : List ReportEntry) : List Step :=
  .ofResult none (Report.text report scan.config) ::
    if scan.wordy then [.ofResult none (Report.json report)] else []

/-- The registry is loaded, in one step, if none is given. -/
theorem registry_takes {earlier : Nat} {next : Registry → Visit (List ReportEntry)}
    {later : List Step} {goal : List ReportEntry → Journal → Prop}
    (further : ∀ registry after, scan.registryOf settings earlier = .ok registry →
      after.answers = journal.answers → (next registry).Takes after later goal) :
    Visit.Takes
      (match scan.registry with
        | some registry => pure registry >>= next
        | none => scan.loadRegistry settings earlier >>= next)
      journal (scan.loadSteps settings earlier ++ later) goal := by
  unfold registryOf at further
  unfold loadSteps
  cases given : scan.registry with
  | some registry =>
      rw [given] at further
      exact further registry journal rfl rfl
  | none =>
      rw [given] at further
      refine (scan.loadRegistry_takes settings earlier journal).bind ?_
      rintro registry after ⟨known, kept⟩
      exact further registry after known kept

theorem ofRegistry_harmless {config : Config} {lookup : Lookup}
    {lines : List LogLine} (built : Lookup.ofRegistry registry config = .ok (lookup, lines)) :
    ∀ line ∈ lines, line.level ≠ .error := by
  obtain ⟨⟨skipped, held⟩, _, built⟩ := bind_eq_ok built
  cases built
  refine List.forall_mem_append.2 ⟨?_, debug_harmless _⟩
  split
  · exact List.forall_mem_nil _
  · exact debug_harmless _

theorem readStylesheet_harmless {css : String} {nodes : List Css.Node} {lines : List LogLine}
    (read : readStylesheet css = .ok (nodes, lines)) (report : List ReportEntry) :
    ∀ line ∈ lines ++ [analysisLog report], line.level ≠ .error := by
  refine List.forall_mem_append.2 ⟨?_, debug_harmless _⟩
  unfold readStylesheet at read
  split at read
  · cases read
  · cases read
    split
    · exact List.forall_mem_nil _
    · exact debug_harmless _

theorem mapM_of_forall₂ {scan : PageScan} {requests : List (String × Nat)} {sheets : List String}
    (fetched : List.Forall₂ (fun request text => scan.sheetText request = .ok text)
      requests sheets) :
    requests.mapM scan.sheetText = .ok sheets := by
  induction fetched with
  | nil => rfl
  | cons first _ ih => rw [List.mapM_cons, first, ih]; rfl

/-- Once style sheets and registry are there, only the lookup and the style sheets themselves can
fail. -/
theorem reportOn_eq {scan : PageScan} {answer : Answer} {addresses sheets : List String}
    (found : listed answer = .ok addresses)
    (fetched : addresses.zipIdx.mapM scan.sheetText = .ok sheets)
    (known : scan.registryOf settings addresses.length = .ok registry) :
    scan.reportOn settings answer =
      Lookup.ofRegistry registry scan.config >>= fun built =>
        (fun read => analyze read.1 built.1 scan.config) <$>
          readStylesheet (Text.joinLines sheets) := by
  unfold reportOn
  rw [found]
  change (addresses.zipIdx.mapM scan.sheetText >>= _) = _
  rw [fetched]
  change (scan.registryOf settings addresses.length >>= _) = _
  rw [known]
  rfl

/-- The lookup is built and the style sheets are read in one step, the last one up to the report. -/
theorem analyze_takes (registry : Registry) (css : String) {result : Except Fault (List ReportEntry)}
    (same : result = Lookup.ofRegistry registry scan.config >>= fun built =>
      (fun read => analyze read.1 built.1 scan.config) <$> readStylesheet css)
    (journal : Journal) :
    Visit.Takes
      (do
        let built ← liftM (Lookup.ofRegistry registry scan.config)
        Visit.report built.2
        let read ← liftM (readStylesheet css)
        Visit.report (read.2 ++ [analysisLog (analyze read.1 built.1 scan.config)])
        return analyze read.1 built.1 scan.config)
      journal [.ofResult none result]
      fun report after => result = .ok report ∧ after.answers = journal.answers := by
  cases built : Lookup.ofRegistry registry scan.config with
  | error fault =>
      rw [built] at same
      rw [same]
      refine (Visit.Takes.lift (.error fault) journal).andThen ?_
      rintro _ _ ⟨impossible, _⟩
      cases impossible
  | ok known =>
      rw [built] at same
      have mapped : result = (fun read => analyze read.1 known.1 scan.config) <$>
        readStylesheet css := same
      rw [mapped, Step.ofResult_map]
      refine .known ?_
      refine (Visit.Takes.report (ofRegistry_harmless built) journal).bind ?_
      intro _ afterLookup kept
      refine (Visit.Takes.lift (readStylesheet css) afterLookup).andThen ?_
      rintro ⟨nodes, lines⟩ _ ⟨read, rfl⟩
      refine (Visit.Takes.report (readStylesheet_harmless read _) _).andThen ?_
      intro _ last keptLast
      refine .pure ⟨?_, keptLast.trans kept⟩
      rw [read]
      rfl

theorem findIssues_takes (settings : Settings) (journal : Journal) :
    (scan.findIssues settings).Takes journal (scan.findSteps settings journal.nextAnswer)
      fun report after => scan.reportOn settings journal.nextAnswer = .ok report ∧
        after.answers = journal.answers.tail := by
  unfold findIssues findSteps
  refine (Visit.Takes.perform _ journal).bind ?_
  intro _ connected same
  have sameAnswer : connected.nextAnswer = journal.nextAnswer := by
    rw [Journal.nextAnswer, same, Journal.nextAnswer]
  have listing := scan.sheetAddresses_takes connected
  rw [sameAnswer, same] at listing
  refine listing.bind ?_
  rintro found afterListing ⟨areListed, left⟩
  refine (Visit.Takes.report (debug_harmless _) afterListing).bind ?_
  intro _ reported sameLeft
  have areFetched : addresses journal.nextAnswer = found := by
    rw [addresses, areListed]
    rfl
  rw [areFetched]
  have each : ∀ request journal, journal.answers = reported.answers →
      (scan.fetchSheet request.2 request.1).Takes journal
        [.ofResult (some (.fetch request.1)) (scan.sheetText request)]
        fun text after => scan.sheetText request = .ok text ∧
          after.answers = reported.answers := by
    intro request journal kept
    refine (scan.fetchSheet_takes request journal).mono ?_
    rintro text after ⟨fetched, same⟩
    exact ⟨fetched, same.trans kept⟩
  refine (Visit.Takes.mapM found.zipIdx each reported rfl).bind ?_
  rintro sheets afterFetching ⟨fetched, kept⟩
  refine scan.registry_takes ?_
  intro registry afterLoading known keptLoading
  have computed := reportOn_eq areListed (mapM_of_forall₂ fetched) known
  refine (scan.analyze_takes registry _ computed afterLoading).mono ?_
  rintro report last ⟨isReport, keptLast⟩
  exact ⟨isReport, by rw [keptLast, keptLoading, kept, sameLeft, left]⟩

theorem publish_takes (report : List ReportEntry) (journal : Journal) :
    (scan.publish report).Takes journal (scan.publishSteps report)
      fun _ after => after.answers = journal.answers := by
  unfold publish publishSteps
  refine (Visit.Takes.lift (Report.text report scan.config) journal).bind ?_
  rintro text _ ⟨_, rfl⟩
  have harmless : ∀ line ∈ [LogLine.mk .info text], line.level ≠ .error :=
    List.forall_mem_singleton.2 nofun
  refine (Visit.Takes.report harmless _).bind ?_
  intro _ published same
  cases scan.wordy with
  | false => exact .pure same
  | true =>
      refine (Visit.Takes.lift (Report.json report) published).andThen ?_
      rintro data _ ⟨_, rfl⟩
      exact (Visit.Takes.report (debug_harmless _) _).mono fun _ _ kept => kept.trans same

def markSteps (scan : PageScan) (report : List ReportEntry) (answer : Answer) : List Step :=
  .ofResult (some (Highlight.styleEffect scan.calling)) answer.value ::
    (Highlight.markedEntries report).map fun entry =>
      { effect := some (Highlight.markEffect scan.calling entry) }

/-- The steps of the pause, which is not made if its length cannot be read. -/
def pauseSteps (scan : PageScan) : List Step :=
  [.ofResult none scan.pause, { effect := some (.pause (scan.pause.toOption.getD default)) }]

/-- The steps of a scan, for what the page answers to the first two scripts. -/
def steps (scan : PageScan) (settings : Settings) (first second : Answer) : List Step :=
  scan.findSteps settings first ++ (scan.publishSteps (scan.report settings first) ++
    (scan.markSteps (scan.report settings first) second ++ scan.pauseSteps))

theorem attempt_takes (settings : Settings) (journal : Journal) :
    (scan.attempt settings).Takes journal
      (scan.steps settings journal.nextAnswer (journal.answers.tail.headD (.result .null)))
      fun report _ => scan.reportOn settings journal.nextAnswer = .ok report := by
  unfold attempt steps
  refine (scan.findIssues_takes settings journal).bind ?_
  rintro report afterReport ⟨found, left⟩
  have published : scan.report settings journal.nextAnswer = report := by
    rw [PageScan.report, found]
    rfl
  rw [published]
  refine (scan.publish_takes report afterReport).bind ?_
  intro _ afterPublish kept
  have answered : afterPublish.nextAnswer = journal.answers.tail.headD (.result .null) := by
    rw [Journal.nextAnswer, kept, left]
  rw [← answered]
  refine (Highlight.markAll_takes scan.calling report afterPublish).bind ?_
  intro _ afterMarks _
  refine (Visit.Takes.lift scan.pause afterMarks).bind ?_
  rintro seconds _ ⟨readable, rfl⟩
  rw [readable]
  exact (Visit.Takes.perform (.pause seconds) _).andThen fun _ _ _ => .pure found

/-- The effects up to the report: a connection, the script that lists the style sheets, one request
for each address in order, and the registry if none is given. -/
def findEffects (scan : PageScan) (settings : Settings) (answer : Answer) : List Effect :=
  .connect settings.fetchTimeout :: scan.listingEffect ::
    ((addresses answer).map .fetch ++ if scan.registry.isNone then [loading settings] else [])

/-- The effects of marking: the style sheet of the badges, and one script for each entry in order
that belongs to no at-rule. -/
def markEffects (scan : PageScan) (report : List ReportEntry) : List Effect :=
  Highlight.styleEffect scan.calling ::
    (Highlight.markedEntries report).map (Highlight.markEffect scan.calling)

/-- The effects of a scan that meets no fault. What an earlier fault leaves unknown is left out. -/
def course (scan : PageScan) (settings : Settings) (answer : Answer) : List Effect :=
  scan.findEffects settings answer ++ scan.markEffects (scan.report settings answer) ++
    [.pause (scan.pause.toOption.getD default)]

theorem effects_findSteps (settings : Settings) (answer : Answer) :
    Step.effects (scan.findSteps settings answer) = scan.findEffects settings answer := by
  have fetches : Step.effects ((addresses answer).zipIdx.map fun request =>
      .ofResult (some (.fetch request.1)) (scan.sheetText request)) =
        (addresses answer).map .fetch :=
    calc
      _ = (addresses answer).zipIdx.map fun request => .fetch request.1 :=
          Step.effects_map (fun _ => rfl) _
      _ = ((addresses answer).zipIdx.map Prod.fst).map .fetch := by
          rw [List.map_map]
          rfl
      _ = (addresses answer).map .fetch := by rw [List.zipIdx_map_fst]
  rw [findSteps, Step.effects_cons, Step.effects_cons, Step.effects_append, fetches,
    Step.effects_append, findEffects, loadSteps]
  cases scan.registry <;> rfl

theorem effects_publishSteps (report : List ReportEntry) :
    Step.effects (scan.publishSteps report) = [] := by
  unfold publishSteps
  cases scan.wordy <;> rfl

theorem effects_markSteps (report : List ReportEntry) (answer : Answer) :
    Step.effects (scan.markSteps report answer) = scan.markEffects report := by
  rw [markSteps, Step.effects_cons, Step.effects_map fun _ => rfl]
  rfl

/-- The steps of a scan end with the pause. -/
theorem steps_eq (settings : Settings) (first second : Answer) :
    ∃ before, scan.steps settings first second =
        before ++ [{ effect := some (.pause (scan.pause.toOption.getD default)) }] ∧
      Step.effects before =
        scan.findEffects settings first ++ scan.markEffects (scan.report settings first) := by
  refine ⟨scan.findSteps settings first ++ (scan.publishSteps (scan.report settings first) ++
    (scan.markSteps (scan.report settings first) second ++ [.ofResult none scan.pause])), ?_, ?_⟩
  · simp [steps, pauseSteps, List.append_assoc]
  · rw [Step.effects_append, Step.effects_append, Step.effects_append, effects_findSteps,
      effects_publishSteps, effects_markSteps]
    simp [Step.effects, Step.ofResult]

theorem effects_steps (settings : Settings) (first second : Answer) :
    Step.effects (scan.steps settings first second) = scan.course settings first := by
  obtain ⟨before, split, effects⟩ := scan.steps_eq settings first second
  rw [split, Step.effects_append, effects]
  rfl

/-- Nothing before the end of a scan is a pause. -/
theorem ne_pause_of_mem {scan : PageScan} {answer : Answer} {report : List ReportEntry}
    {effect : Effect}
    (member : effect ∈ scan.findEffects settings answer ++ scan.markEffects report)
    (seconds : Binary64) : effect ≠ .pause seconds := by
  rintro rfl
  have notLoading : .pause seconds ≠ loading settings := by
    unfold loading
    split <;> nofun
  simp only [findEffects, markEffects, listingEffect, Highlight.styleEffect, Highlight.markEffect,
    Effect.script, List.mem_append, List.mem_cons, List.mem_map, reduceCtorEq, and_false,
    exists_false, false_or, or_false] at member
  split at member
  · exact notLoading (List.mem_singleton.1 member)
  · cases member

/-- The pauses among effects. -/
theorem pauses_eq_nil (none : ∀ effect ∈ journal.effects, ∀ seconds, effect ≠ .pause seconds) :
    journal.pauses = [] := by
  refine List.filterMap_eq_nil_iff.2 ?_
  intro effect member
  cases effect with
  | pause seconds => exact absurd rfl (none _ member seconds)
  | _ => rfl

theorem pauses_append (before : List Effect) {seconds : Binary64}
    (split : journal.effects = before ++ [.pause seconds])
    (none : ∀ effect ∈ before, ∀ seconds, effect ≠ .pause seconds) :
    journal.pauses = [seconds] := by
  have earlier : ({ answers := [], effects := before } : Journal).pauses = [] := pauses_eq_nil none
  unfold Journal.pauses at earlier ⊢
  rw [split, List.filterMap_append, earlier]
  rfl

/-- Only the steps before the pause can fail, so after a fault there is none. -/
theorem pauses_of_fault {scan : PageScan} {first second : Answer} {fault : Fault}
    (performed : journal.effects = Step.performed (scan.steps settings first second))
    (failed : Step.fault? (scan.steps settings first second) = some fault) :
    journal.pauses = [] := by
  obtain ⟨before, split, effects⟩ := scan.steps_eq settings first second
  rw [split, Step.fault?_append] at failed
  have failedBefore : Step.fault? before = some fault := by
    rcases Option.or_eq_some_iff.1 failed with early | ⟨_, late⟩
    · exact early
    · cases late
  rw [split, Step.performed_append, failedBefore, Option.isSome_some, if_pos rfl,
    List.append_nil] at performed
  refine pauses_eq_nil ?_
  intro effect member
  rw [performed] at member
  have inEffects := (Step.performed_prefix before).subset member
  rw [effects] at inEffects
  exact ne_pause_of_mem inEffects

/-- A scan without a fault ends in one pause. -/
theorem pauses_of_complete {scan : PageScan} {first second : Answer}
    (performed : journal.effects = scan.course settings first)
    (complete : Step.fault? (scan.steps settings first second) = none) :
    ∃ seconds, scan.pause = .ok seconds ∧ journal.pauses = [seconds] := by
  have readable : (Step.ofResult none scan.pause).fault = none := by
    refine List.findSome?_eq_none_iff.1 complete _ ?_
    simp [steps, pauseSteps]
  cases known : scan.pause with
  | error fault => rw [known] at readable; cases readable
  | ok seconds =>
      refine ⟨seconds, rfl, pauses_append (scan.findEffects settings first ++
        scan.markEffects (scan.report settings first)) ?_ fun effect member =>
          ne_pause_of_mem member⟩
      rw [performed, course, known]
      rfl

def stepsFor (scan : PageScan) (settings : Settings) (answers : List Answer) : List Step :=
  scan.steps settings (answers.headD (.result .null)) (answers.tail.headD (.result .null))

/-- What a scan returns, does and logs, by the first fault of its steps. -/
theorem outcome_of_steps {scan : PageScan} (used : scan.settingsInUse = .ok settings)
    (answers : List Answer) :
    (scan.outcome answers).2.effects = Step.performed (scan.stepsFor settings answers) ∧
      match Step.fault? (scan.stepsFor settings answers) with
      | none =>
          scan.reportOn settings (answers.headD (.result .null)) = (scan.outcome answers).1 ∧
            (∃ report, (scan.outcome answers).1 = .ok report) ∧
            (scan.outcome answers).2.errors = []
      | some fault =>
          (scan.outcome answers).1 = .ok [] ∧ (scan.outcome answers).2.errors =
            [⟨.error, "Error performing baseline_scan: " ++ fault.message⟩] := by
  obtain ⟨⟨effects, errors⟩, ends⟩ := scan.attempt_takes settings { answers := answers }
  unfold outcome
  rw [used]
  rcases attempted : (scan.attempt settings).outcome { answers := answers } with
    ⟨fault | found, after⟩
  · rw [attempted] at effects errors ends
    have failed : Step.fault? (scan.stepsFor settings answers) = some fault := ends
    dsimp only
    rw [failed, attempted]
    refine ⟨effects, rfl, ?_⟩
    have quiet : after.errors = [] := errors
    simp only [Journal.errors, List.filter_append] at quiet ⊢
    rw [quiet]
    rfl
  · rw [attempted] at effects errors ends
    obtain ⟨complete, isReport⟩ := ends
    have done : Step.fault? (scan.stepsFor settings answers) = none := complete
    dsimp only
    rw [done, attempted]
    exact ⟨effects, isReport, ⟨found, rfl⟩, errors⟩

/-- A scan with settings goes through its steps up to the first fault, so its effects are the first
ones of its course. Without a fault it does all of them, pauses once, logs no error and returns the
report; a fault is logged once, and there is no pause and an empty report. What the page answers to
the scripts that mark elements does not matter. -/
structure Contained (scan : PageScan) (settings : Settings) (answers : List Answer)
    (result : Except Fault (List ReportEntry)) (journal : Journal) : Prop where
  performed : journal.effects = Step.performed (scan.stepsFor settings answers)
  in_course : journal.effects <+: scan.course settings (answers.headD (.result .null))
  complete : Step.fault? (scan.stepsFor settings answers) = none →
    (∃ report, result = .ok report) ∧
      scan.reportOn settings (answers.headD (.result .null)) = result ∧
      journal.effects = scan.course settings (answers.headD (.result .null)) ∧
      (∃ seconds, scan.pause = .ok seconds ∧ journal.pauses = [seconds]) ∧ journal.errors = []
  failed : ∀ fault, Step.fault? (scan.stepsFor settings answers) = some fault →
    result = .ok [] ∧ journal.pauses = [] ∧
      journal.errors = [⟨.error, "Error performing baseline_scan: " ++ fault.message⟩]

theorem contained_of_settings {scan : PageScan} (used : scan.settingsInUse = .ok settings)
    (answers : List Answer) :
    scan.Contained settings answers (scan.outcome answers).1 (scan.outcome answers).2 := by
  obtain ⟨performed, ends⟩ := outcome_of_steps used answers
  have course : Step.effects (scan.stepsFor settings answers) =
      scan.course settings (answers.headD (.result .null)) :=
    scan.effects_steps settings _ (answers.tail.headD (.result .null))
  constructor
  · exact performed
  · rw [← course, performed]
    exact Step.performed_prefix (scan.stepsFor settings answers)
  · intro met
    rw [met] at ends
    have whole : (scan.outcome answers).2.effects =
        scan.course settings (answers.headD (.result .null)) := by
      rw [← course, performed]
      exact Step.performed_eq_effects met
    exact ⟨ends.2.1, ends.1, whole, pauses_of_complete whole met, ends.2.2⟩
  · intro fault met
    rw [met] at ends
    exact ⟨ends.1, pauses_of_fault performed met, ends.2⟩

/-- A scan takes its settings from an environment whose time limit is no number. -/
structure UnreadableLimit (scan : PageScan) (text : String) : Prop where
  settings : scan.settings = none
  given : Settings.setting? scan.environment "BASESCRIPT_FETCH_TIMEOUT" = some text
  unreadable : Numeral.readFloat? text.toList = none

/-- Nothing but the time limit can keep settings from being read. -/
theorem settingsInUse_cases (scan : PageScan) :
    (∃ settings, scan.settingsInUse = .ok settings ∧ ∀ text, ¬ scan.UnreadableLimit text) ∨
      ∃ text, scan.UnreadableLimit text ∧
        scan.settingsInUse =
          .error (.invalid (.number (String.ofList (Quoted.encode text.toList)))) := by
  unfold settingsInUse
  cases given : scan.settings with
  | some settings =>
      refine .inl ⟨settings, rfl, fun text unreadable => ?_⟩
      cases given.symm.trans unreadable.settings
  | none =>
      dsimp only
      unfold Settings.ofEnvironment
      cases limit : Settings.setting? scan.environment "BASESCRIPT_FETCH_TIMEOUT" with
      | none =>
          refine .inl ⟨_, rfl, fun text unreadable => ?_⟩
          cases limit.symm.trans unreadable.given
      | some text =>
          dsimp only
          cases read : Numeral.readFloat? text.toList with
          | none => exact .inr ⟨text, ⟨given, limit, read⟩, rfl⟩
          | some seconds =>
              refine .inl ⟨_, rfl, fun other unreadable => ?_⟩
              cases limit.symm.trans unreadable.given
              cases read.symm.trans unreadable.unreadable

/-- A scan is contained, whatever the page, the network and the registry do, unless it takes its
settings from an environment whose time limit is no number. Then it fails before its first step: it
has no effect, and logs and returns nothing. -/
theorem scan_contained_unless_limit_unreadable (scan : PageScan) (answers : List Answer) :
    (∃ settings, scan.settingsInUse = .ok settings ∧ (∀ text, ¬ scan.UnreadableLimit text) ∧
        scan.Contained settings answers (scan.outcome answers).1 (scan.outcome answers).2) ∨
      ∃ text, scan.UnreadableLimit text ∧
        scan.outcome answers =
          (.error (.invalid (.number (String.ofList (Quoted.encode text.toList)))),
            { answers := answers }) := by
  rcases scan.settingsInUse_cases with ⟨settings, used, readable⟩ | ⟨text, unreadable, failed⟩
  · exact .inl ⟨settings, used, readable, contained_of_settings used answers⟩
  · refine .inr ⟨text, unreadable, ?_⟩
    rw [outcome, failed]

def wordLimitScan : PageScan where
  calling := .spread
  config := ⟨true, true, true, none, .str "normal", .null⟩
  registry := none
  settings := none
  environment := [("BASESCRIPT_FETCH_TIMEOUT", "abc")]
  network := fun _ _ => .failure "no route"
  files := []
  wordy := false

/-- A time limit in letters ends a scan with a fault instead of an empty report. -/
theorem word_limit_not_held_back :
    wordLimitScan.outcome [] = (.error (.invalid (.number "'abc'")), { answers := [] }) := by
  with_unfolding_all rfl

end PageScan

end BrowserScript.Baseline
