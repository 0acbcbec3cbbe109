import BrowserScript.Proofs.Program.Source

/-!
# Backends report alike

Which commands of a plan are carried out and which are skipped does not depend on the backend, so
programs of one plan for two backends count the same commands, report them by the same lines in the
same order, and warn at the same commands, with warnings that differ at most in the backend's name.
-/

namespace BrowserScript

namespace Program

open Text

variable {backend : Backend} {plan : Plan}

/-- The plan with its first framework command set to a backend. -/
def forBackend (backend : Backend) : Plan → Plan
  | [] => []
  | command :: rest =>
      if isFramework command then { command with payload := .str backend.tag } :: rest
      else command :: forBackend backend rest

/-- The commands of a plan that a program skips: those outside the vocabulary, and of the framework
commands all but the first. -/
def skipped (opened : Bool) : Plan → List Command
  | [] => []
  | command :: rest =>
      if isFramework command then
        if opened then command :: skipped true rest else skipped true rest
      else if (CommandName.ofValue? command.name).isSome then skipped opened rest
      else command :: skipped opened rest

def warningText (backend : String) (command : Command) : Except Fault String :=
  if isFramework command then do
    return "duplicate framework command " ++ (← command.payload.literalText) ++ " ignored"
  else do
    return backend ++ " backend has no handler for command " ++ (← command.name.literalText)
      ++ "; step skipped"

def reported (plan : Plan) : List CommandName :=
  (carriedOut false plan).filterMap fun command => CommandName.ofValue? command.name

/-! ## The choice of the backend -/

theorem skipped_forBackend (backend : Backend) (plan : Plan) :
    skipped false (forBackend backend plan) = skipped false plan := by
  induction plan with
  | nil => rfl
  | cons command plan ih =>
      rw [forBackend]
      by_cases framework : isFramework command = true
      · have still : isFramework { command with payload := .str backend.tag } = true := framework
        rw [if_pos framework, skipped, if_pos still, skipped, if_pos framework]
        rfl
      · rw [if_neg framework, skipped, if_neg framework, ih, skipped, if_neg framework]

theorem reported_forBackend (backend : Backend) (plan : Plan) :
    reported (forBackend backend plan) = reported plan := by
  unfold reported
  induction plan with
  | nil => rfl
  | cons command plan ih =>
      rw [forBackend]
      by_cases framework : isFramework command = true
      · have still : isFramework { command with payload := .str backend.tag } = true := framework
        rw [if_pos framework, carriedOut, if_pos still, carriedOut, if_pos framework]
        rfl
      · rw [if_neg framework, carriedOut, if_neg framework, carriedOut, if_neg framework]
        split
        · rw [List.filterMap_cons, List.filterMap_cons, ih]
        · exact ih

/-- The first framework command of the plan chooses the backend. -/
theorem find?_forBackend {framework : Command}
    (found : (forBackend backend plan).find? isFramework = some framework) :
    framework.payload = .str backend.tag := by
  induction plan with
  | nil => cases found
  | cons command plan ih =>
      rw [forBackend] at found
      by_cases first : isFramework command = true
      · have still : isFramework { command with payload := .str backend.tag } = true := first
        rw [if_pos first, List.find?_cons_of_pos still] at found
        cases found
        rfl
      · rw [if_neg first, List.find?_cons_of_neg first] at found
        exact ih found

theorem length_reported (plan : Plan) :
    (reported plan).length = (carriedOut false plan).length := by
  have named : ∀ opened, ∀ command ∈ carriedOut opened plan,
      (CommandName.ofValue? command.name).isSome = true := by
    induction plan with
    | nil => exact fun opened => List.forall_mem_nil _
    | cons command plan ih =>
        intro opened
        rw [carriedOut]
        split
        · rename_i framework
          have known := Command.IsNamed.isSome_ofValue? (isFramework_iff.1 framework)
          split
          · exact ih true
          · exact List.forall_mem_cons.2 ⟨known, ih true⟩
        · split
          · rename_i known
            exact List.forall_mem_cons.2 ⟨known, ih opened⟩
          · exact ih opened
  rw [reported, List.length_filterMap_eq_countP, List.countP_eq_length]
  exact named false

/-! ## Counting and warning -/

/-- A draft counts the commands that are carried out and warns at those that are skipped. -/
theorem Draft.warnings_of_foldlM {dialect : Dialect} {draft final : Draft}
    (drafted : plan.foldlM (Draft.add dialect) draft = .ok final) :
    final.stepCount = draft.stepCount + (carriedOut draft.prologue.isSome plan).length ∧
      ∃ warnings, (skipped draft.prologue.isSome plan).mapM (warningText dialect.backend.tag) =
        .ok warnings ∧ final.warnings = draft.warnings ++ warnings := by
  induction plan generalizing draft with
  | nil =>
      cases drafted
      exact ⟨rfl, [], rfl, (List.append_nil _).symm⟩
  | cons command plan ih =>
      rw [List.foldlM_cons] at drafted
      obtain ⟨next, added, drafted⟩ := bind_eq_ok drafted
      obtain ⟨count, warnings, warned, same⟩ := ih drafted
      rw [carriedOut, skipped]
      cases takes_of_add added with
      | @repeated payload named opened shown =>
          have framework := isFramework_iff.2 named
          rw [if_pos framework, if_pos framework, if_pos opened, if_pos opened]
          simp only [warn, opened] at count warned same
          refine ⟨count, _, ?_, by rw [same, List.append_assoc]⟩
          rw [List.mapM_cons, warningText, if_pos framework, shown, warned]
          rfl
      | @unknown name unnamed shown =>
          have other := not_isFramework_of_unnamed unnamed
          rw [other, if_neg Bool.false_ne_true, if_neg Bool.false_ne_true, unnamed,
            Option.isSome_none, if_neg Bool.false_ne_true, if_neg Bool.false_ne_true]
          simp only [warn] at count warned same
          refine ⟨count, _, ?_, by rw [same, List.append_assoc]⟩
          rw [List.mapM_cons, warningText, other, if_neg Bool.false_ne_true, shown, warned]
          rfl
      | opens named fresh =>
          have framework := isFramework_iff.2 named
          rw [if_pos framework, if_pos framework, fresh, Option.isSome_none,
            if_neg Bool.false_ne_true, if_neg Bool.false_ne_true, List.length_cons]
          exact ⟨count.trans (by simp only [Option.isSome_some]; omega), warnings, warned, same⟩
      | adds named other written =>
          rw [named.isFramework, decide_eq_false other, if_neg Bool.false_ne_true,
            if_neg Bool.false_ne_true, if_pos named.isSome_ofValue?, if_pos named.isSome_ofValue?,
            List.length_cons]
          exact ⟨count.trans (by dsimp only; omega), warnings, warned, same⟩

/-! ## The main function -/

/-- The lines of the main function of a program: those that are indented after its opening, which
ends with the head of the function. -/
def mainLines (program : Program) : List (List Char) :=
  ((lines program.source.toList).drop
    (lines (opening program.backend.dialect.prologue)).length).takeWhile indentation.isPrefixOf

def isReport (line : List Char) : Bool := (indentation ++ Piece.reportStart).isPrefixOf line

def reports (program : Program) : List (List Char) := program.mainLines.filter isReport

def reportLine (name : CommandName) : List Char :=
  indentation ++ (Block.acknowledge name.tag).toList

theorem mainLines_of_source {program : Program} {blocks : List Block}
    (source : program.source =
      assemble program.backend.dialect.prologue (blocks.map Block.text))
    (each : ∀ block ∈ blocks, block.HoldsLines) (given : blocks ≠ []) :
    program.mainLines = (blocks.flatten.map String.toList).map (indentation ++ ·) := by
  have indented : ∀ line ∈ (blocks.flatten.map String.toList).map (indentation ++ ·),
      indentation.isPrefixOf line = true := by
    intro line member
    obtain ⟨inner, _, rfl⟩ := List.mem_map.1 member
    exact List.isPrefixOf_iff_prefix.2 (List.prefix_append _ _)
  have stop : (lines ending).takeWhile indentation.isPrefixOf = [] := by
    with_unfolding_all rfl
  rw [mainLines, source, lines_assemble _ each given, List.append_assoc, List.drop_left,
    List.takeWhile_append_of_pos indented, stop, List.append_nil]

theorem isReport_indented (line : List Char) :
    isReport (indentation ++ line) = Piece.reportStart.isPrefixOf line := by
  rw [Bool.eq_iff_iff, isReport, List.isPrefixOf_iff_prefix, List.isPrefixOf_iff_prefix,
    List.prefix_append_right_inj]

theorem isReport_reportLine (name : CommandName) : isReport (reportLine name) = true := by
  rw [reportLine, isReport_indented, List.isPrefixOf_iff_prefix, Block.acknowledge,
    String.toList_append, String.toList_append, List.append_assoc]
  exact List.prefix_append _ _

/-- Of what a command adds to the main function, the last line alone is a report. -/
theorem Adds.reports {command : Command} {blocks : List Block}
    (adds : Adds backend.dialect command blocks) :
    ((blocks.flatten.map String.toList).map (indentation ++ ·)).filter isReport =
      ([command].filterMap fun command => CommandName.ofValue? command.name).map reportLine := by
  have last (name : CommandName) : [reportLine name].filter isReport = [reportLine name] := by
    rw [List.filter_cons_of_pos (isReport_reportLine name), List.filter_nil]
  cases adds with
  | report named =>
      rw [List.filterMap_cons, named, ofValue?_tag]
      exact last .framework
  | @block name lines named other written =>
      obtain ⟨template, _, fits⟩ := backend.block_makes other command.payload lines written
      have none : ((lines.map String.toList).map (indentation ++ ·)).filter isReport = [] := by
        rw [List.filter_eq_nil_iff, List.map_map]
        intro line member
        obtain ⟨inner, listed, rfl⟩ := List.mem_map.1 member
        rw [Function.comp_apply, isReport_indented, fits.not_report inner listed]
        exact Bool.false_ne_true
      rw [List.filterMap_cons, named, ofValue?_tag, List.flatten_cons, List.map_append,
        List.map_append, List.filter_append, none, List.nil_append]
      exact last name

theorem reports_of_adds {commands : List Command}
    {parts : List (List Block)} (listed : List.Forall₂ (Adds backend.dialect) commands parts) :
    ((parts.flatten.flatten.map String.toList).map (indentation ++ ·)).filter isReport =
      (commands.filterMap fun command => CommandName.ofValue? command.name).map reportLine := by
  induction listed with
  | nil => rfl
  | @cons command blocks commands parts adds _ ih =>
      have split : command :: commands = [command] ++ commands := rfl
      rw [List.flatten_cons, List.flatten_append, List.map_append, List.map_append,
        List.filter_append, adds.reports, ih, split, List.filterMap_append, List.map_append]

/-! ## Two backends -/

structure Follows (plan : Plan) (backend : Backend) (program : Program) : Prop where
  chosen : program.backend = backend
  stepCount : program.stepCount = (reported plan).length
  /-- The main function holds the block of each command, directly followed by its report. -/
  main : ∃ parts, List.Forall₂ (Adds backend.dialect) (carriedOut false (forBackend backend plan))
      parts ∧
    program.mainLines = (parts.flatten.flatten.map String.toList).map (indentation ++ ·)
  reports : program.reports = (reported plan).map reportLine
  warnings : (skipped false plan).mapM (warningText backend.tag) = .ok program.warnings

theorem follows_of_ofPlan {program : Program}
    (compiled : ofPlan (forBackend backend plan) = .ok program) : Follows plan backend program := by
  obtain ⟨parts, listed, given, source⟩ := source_of_ofPlan compiled
  unfold ofPlan at compiled
  cases found : (forBackend backend plan).find? isFramework with
  | none =>
      rw [found] at compiled
      cases compiled
  | some framework =>
      rw [found] at compiled
      obtain ⟨dialect, chosen, compiled⟩ := bind_eq_ok compiled
      obtain ⟨draft, drafted, compiled⟩ := bind_eq_ok compiled
      rw [find?_forBackend found, Dialect.ofValue, backendOfValue?_tag] at chosen
      cases chosen
      have same : backend.dialect.backend = backend := by cases backend <;> rfl
      obtain ⟨count, warnings, warned, added⟩ := Draft.warnings_of_foldlM drafted
      have tagged : program.backend = backend := by
        cases compiled
        exact same
      have body := mainLines_of_source source (holdsLines_of_adds listed)
        (ne_nil_of_adds listed given)
      rw [tagged] at listed
      refine ⟨tagged, ?_, ⟨parts, listed, body⟩, ?_, ?_⟩
      · cases compiled
        rw [← reported_forBackend backend plan, length_reported]
        exact count.trans (Nat.zero_add _)
      · rw [reports, body, reports_of_adds listed, ← reported_forBackend backend plan]
        rfl
      · cases compiled
        rw [← skipped_forBackend backend plan]
        rw [same] at warned
        exact warned.trans (congrArg _ added.symm)

/-- Two warnings that are the same but for the name of a backend. -/
def AlikeUpTo (first second : String) (warning other : String) : Prop :=
  warning = other ∨ ∃ rest, warning = first ++ rest ∧ other = second ++ rest

theorem alikeUpTo_of_warningText {first second warning other : String} {command : Command}
    (one : warningText first command = .ok warning)
    (two : warningText second command = .ok other) : AlikeUpTo first second warning other := by
  unfold warningText at one two
  by_cases framework : isFramework command = true
  · rw [if_pos framework] at one two
    rw [one] at two
    exact .inl (Except.ok.inj two)
  · rw [if_neg framework] at one two
    obtain ⟨name, shown, one⟩ := bind_eq_ok one
    rw [shown] at two
    cases one
    cases two
    refine .inr ⟨" backend has no handler for command " ++ (name ++ "; step skipped"), ?_, ?_⟩
    · simp only [String.append_assoc]
    · simp only [String.append_assoc]

theorem alikeUpTo_of_mapM {first second : String} {commands : List Command}
    {warnings others : List String} (one : commands.mapM (warningText first) = .ok warnings)
    (two : commands.mapM (warningText second) = .ok others) :
    List.Forall₂ (AlikeUpTo first second) warnings others := by
  induction commands generalizing warnings others with
  | nil =>
      cases one
      cases two
      exact .nil
  | cons command commands ih =>
      rw [List.mapM_cons] at one two
      obtain ⟨warning, here, one⟩ := bind_eq_ok one
      obtain ⟨rest, there, one⟩ := bind_eq_ok one
      obtain ⟨other, alsoHere, two⟩ := bind_eq_ok two
      obtain ⟨more, alsoThere, two⟩ := bind_eq_ok two
      cases one
      cases two
      exact .cons (alikeUpTo_of_warningText here alsoHere) (ih there alsoThere)

/-- Programs of one plan for two backends count the same commands, report them by the same lines,
each directly after its block, and warn alike at the same commands. -/
theorem backends_report_alike {plan : Plan} {first second : Backend} {one two : Program}
    (compiled : ofPlan (forBackend first plan) = .ok one)
    (alsoCompiled : ofPlan (forBackend second plan) = .ok two) :
    (Follows plan first one ∧ Follows plan second two) ∧
      one.stepCount = two.stepCount ∧
      one.reports = two.reports ∧
      List.Forall₂ (AlikeUpTo first.tag second.tag) one.warnings two.warnings := by
  have follows := follows_of_ofPlan compiled
  have alsoFollows := follows_of_ofPlan alsoCompiled
  exact ⟨⟨follows, alsoFollows⟩, follows.stepCount.trans alsoFollows.stepCount.symm,
    follows.reports.trans alsoFollows.reports.symm,
    alikeUpTo_of_mapM follows.warnings alsoFollows.warnings⟩

/-- A plan with a name outside the vocabulary, a command that one of two backends cannot express, and
a second framework command. -/
def mixedPlan : Plan :=
  [⟨.str "sleep", .null⟩,
   ⟨.str CommandName.framework.tag, .null⟩,
   ⟨.str CommandName.emulate.tag, .map [(.str "device", .str "\nprint()")]⟩,
   ⟨.str CommandName.framework.tag, .int 7⟩,
   ⟨.str CommandName.wait.tag, .map [(.str "timeout", .str "1s")]⟩]

theorem exists_ok_of_toBool {α : Type} {outcome : Except Fault α} (done : outcome.toBool = true) :
    ∃ result, outcome = .ok result := by
  cases outcome with
  | error fault => cases done
  | ok result => exact ⟨result, rfl⟩

theorem mixedPlan_reported_alike :
    ∃ one two, ofPlan (forBackend .playwright mixedPlan) = .ok one ∧
      ofPlan (forBackend .selenium mixedPlan) = .ok two ∧
      reported mixedPlan = [.framework, .emulate, .wait] ∧
      (Follows mixedPlan .playwright one ∧ Follows mixedPlan .selenium two) ∧
      one.stepCount = two.stepCount ∧
      one.reports = two.reports ∧
      List.Forall₂ (AlikeUpTo "playwright" "selenium") one.warnings two.warnings := by
  have first : (ofPlan (forBackend .playwright mixedPlan)).toBool = true := by decide +kernel
  have second : (ofPlan (forBackend .selenium mixedPlan)).toBool = true := by decide +kernel
  obtain ⟨one, compiled⟩ := exists_ok_of_toBool first
  obtain ⟨two, alsoCompiled⟩ := exists_ok_of_toBool second
  exact ⟨one, two, compiled, alsoCompiled, by decide +kernel,
    backends_report_alike compiled alsoCompiled⟩

end Program

end BrowserScript
