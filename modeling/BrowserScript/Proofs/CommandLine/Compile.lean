import BrowserScript.CommandLine.Tool
import BrowserScript.Proofs.Files

/-!
# Compiling is all or nothing

Compiling a script reads it, finds its plan and makes the program, and only then touches the files.
Where one of these stages fails, the run ends with everything as it was. Otherwise the program is
written, which changes no other file, and if it is asked for, it is started once it is written.
-/

namespace BrowserScript.CommandLine

open Effect Files

variable {arguments : Arguments} {run : Bool} {ending : Ending} {files : Files}
  {interpreter : Tool.Interpreter}
  {words : List String} {output input : String}

/-! ## Stages that only read -/

def Ending.isFailure : Ending → Bool
  | .help _ => false
  | .exit _ => false
  | _ => true

/-- A session that leaves everything as it was, and that fails where it has no result. -/
def Stage {α : Type} (session : Session α) (console : Console) : Option α → Prop
  | some value => ends session console = (.ok value, console)
  | none => ∃ ending : Ending, ending.isFailure = true ∧
      ends session console = (.error ending, console)

namespace Stage

variable {α β : Type} {console : Console}

theorem pure (value : α) : Stage (Pure.pure value : Session α) console (some value) := rfl

theorem throw {ending : Ending} (failure : ending.isFailure = true) :
    Stage (MonadExcept.throw ending : Session α) console none := ⟨ending, failure, rfl⟩

/-- A stage ends the run, or it hands its result on. -/
theorem bind_cases {first : Session α} {result : Option α} (stage : Stage first console result)
    (next : α → Session β) :
    (result = none ∧ ∃ ending : Ending, ending.isFailure = true ∧
        ends (first >>= next) console = (.error ending, console)) ∨
      ∃ value, result = some value ∧
        ends (first >>= next) console = ends (next value) console := by
  cases result with
  | none =>
      obtain ⟨ending, failure, run⟩ := stage
      exact .inl ⟨rfl, ending, failure, ends_bind_of_error run⟩
  | some value => exact .inr ⟨value, rfl, ends_bind_of_ok stage⟩

/-- Two stages in a row. -/
theorem bind {first : Session α} {next : α → Session β} {result : Option α}
    {results : α → Option β} (stage : Stage first console result)
    (stages : ∀ value, result = some value → Stage (next value) console (results value)) :
    Stage (first >>= next) console (result.bind results) := by
  rcases stage.bind_cases next with ⟨rfl, ended⟩ | ⟨value, rfl, run⟩
  · exact ended
  · have later := stages value rfl
    rw [Option.bind_some]
    cases shape : results value with
    | none =>
        rw [shape] at later
        obtain ⟨ending, failure, ended⟩ := later
        exact ⟨ending, failure, run.trans ended⟩
    | some answer =>
        rw [shape] at later
        exact run.trans later

theorem get_bind {next : Console → Session β} {result : Option β}
    (stage : Stage (next console) console result) : Stage (get >>= next) console result := by
  cases result with
  | none => exact stage
  | some value => exact stage

theorem lift (result : Except Fault α) : Stage (Session.lift result) console result.toOption := by
  cases result with
  | ok value => rfl
  | error fault => exact throw rfl

end Stage

/-- The plan of a script in some files: it can be read, it is a text, the text is a script that keeps
the rules, and the script has a plan. -/
def planOf? (files : Files) (input : String) : Option Plan := do
  let data ← (files.readBytes input).toOption
  let text ← (Text.Utf8.decode data).toOption
  let document ← (Schema.readScript (String.ofList (plainLines text))).toOption
  (Plan.ofDocument document).toOption

def programOf? (files : Files) (input : String) : Option Program := do
  let plan ← planOf? files input
  (Program.ofPlan plan).toOption

/-- Arguments that name a script and say what to do with its program. -/
structure Asks (arguments : Arguments) (input output : String) (run : Bool) : Prop where
  noHelp : arguments.has Tool.helpSwitch.long = false
  words_eq : arguments.words = [input]
  output_eq : (arguments.valueOf? "--output").getD Tool.defaultOutput = output
  run_eq : arguments.has "--run" = run

/-- The words of a command line that ask for the program of a script. -/
def Invokes (words : List String) (input output : String) (run : Bool) : Prop :=
  ∃ arguments, Arguments.read Tool.compilePage false words = .ok arguments ∧
    Asks arguments input output run

theorem toOption_bind {α β : Type} (first : Except Fault α) (next : α → Except Fault β) :
    (first >>= next).toOption = first.toOption.bind fun value => (next value).toOption := by
  cases first with
  | ok value => rfl
  | error fault => rfl

/-- Reading the plan of a script. -/
theorem stage_readPlan (input : String) (console : Console) :
    Stage (Tool.readPlan input) console (planOf? console.files input) := by
  apply Stage.get_bind
  unfold planOf?
  cases read : console.files.readBytes input with
  | error text => exact Stage.throw rfl
  | ok data =>
      apply Stage.bind (Stage.lift (Text.Utf8.decode data))
      intro text _
      rw [Option.bind_eq_bind, ← toOption_bind]
      dsimp only
      cases Schema.readScript (String.ofList (plainLines text)) >>= Plan.ofDocument with
      | ok plan => exact Stage.pure plan
      | error fault =>
          dsimp only
          split
          · exact Stage.throw rfl
          · exact Stage.throw rfl
          · exact Stage.throw rfl

/-- Reading a command line that names a script, which must be a file. -/
theorem stage_readCommand (read : Arguments.read Tool.compilePage false words = .ok arguments)
    (asks : Asks arguments input output run) (console : Console) :
    Stage (Tool.readCommand Tool.compilePage words) console
      ((console.files.readBytes input).toOption.map fun _ => (arguments, input)) := by
  unfold Tool.readCommand
  rw [read]
  dsimp only
  rw [asks.noHelp, asks.words_eq, if_neg Bool.false_ne_true]
  apply Stage.get_bind
  unfold readBytes
  cases console.files.openPath input with
  | bytes place data => exact Stage.pure (arguments, input)
  | _ => exact Stage.throw rfl

/-! ## Sessions that only print -/

/-- A session that succeeds and changes nothing but what was printed. -/
def Prints (session : Session Unit) : Prop :=
  ∀ console, ∃ after : Console, ends session console = (.ok (), after) ∧
    after.files = console.files ∧ after.started = console.started

namespace Prints

theorem pure : Prints (Pure.pure ()) := fun console => ⟨console, rfl, rfl, rfl⟩

theorem print (line : String) : Prints (Session.print line) := fun _ => ⟨_, rfl, rfl, rfl⟩

theorem warn (line : String) : Prints (Session.warn line) := fun _ => ⟨_, rfl, rfl, rfl⟩

theorem log (part : String) (wordy : Bool) (line : LogLine) :
    Prints (Session.log part wordy line) := by
  unfold Session.log
  split
  next => exact warn _
  next => exact pure

/-- A line for every item of a list. -/
theorem forIn {α : Type} {act : α → Session Unit} (each : ∀ item, Prints (act item))
    (items : List α) :
    Prints (ForIn.forIn items () fun item _ => do
      act item
      Pure.pure (ForInStep.yield ())) := by
  induction items with
  | nil => exact pure
  | cons item items ih =>
      intro console
      obtain ⟨middle, run, files, started⟩ := each item console
      obtain ⟨after, run', files', started'⟩ := ih middle
      refine ⟨after, ?_, files'.trans files, started'.trans started⟩
      rw [List.forIn_cons, bind_assoc, ends_bind_of_ok run, pure_bind]
      exact run'

end Prints

/-! ## Delivering the program -/

section Deliver

variable {console : Console} {after : Files}

theorem ends_write {path : String} {data : List UInt8} {result : Except String Unit}
    (run : ends (Files.write path data) console.files = (result, after)) :
    ends (Session.write path data) console =
      (result.mapError fun problem => .refused ("cannot write " ++ path ++ ": " ++ problem),
        { console with files := after }) := by
  have answer : StateT.run (ExceptT.run (Files.write path data)) console.files =
      (result, after) := run
  rw [Session.write, ends_get_bind, answer]
  cases result <;> rfl

/-- A program either cannot be written, and nothing more happens, or it is written, and started if
that is asked for. -/
theorem deliver_cases {arguments : Arguments} {output : String}
    (named : (arguments.valueOf? "--output").getD Tool.defaultOutput = output)
    (interpreter : Tool.Interpreter) (path : String) (program : Program) (console : Console) :
    ∃ answer last, ends (Tool.deliver interpreter arguments path program) console = (answer, last) ∧
      ((∃ problem ending, answer = .error ending ∧ ending.isFailure = true ∧
          ends (Files.write output program.source.toUTF8.toList) console.files =
            (.error problem, last.files) ∧
          last.started = console.started) ∨
        (answer = (if arguments.has "--run" then .error (.exit interpreter.status) else .ok ()) ∧
          ends (Files.write output program.source.toUTF8.toList) console.files =
            (.ok (), last.files) ∧
          last.started = console.started ++
            if arguments.has "--run" then [⟨[interpreter.path, output], last.files⟩] else [])) := by
  obtain ⟨logged, log, files, started⟩ := Prints.forIn
    (fun warning => Prints.log "basescript.compiler.compiler" (arguments.has "--verbose")
      ⟨.warning, warning⟩) program.warnings console
  unfold Tool.deliver
  rw [← files, ← started]
  cases run : ends (Files.write output program.source.toUTF8.toList) logged.files with
  | mk answer after =>
      cases answer with
      | error problem =>
          refine ⟨.error (.refused ("cannot write " ++ output ++ ": " ++ problem)),
            { logged with files := after }, ?_, .inl ⟨problem, _, rfl, rfl, rfl, rfl⟩⟩
          dsimp only
          rw [ends_bind_of_ok log, named, ends_bind_of_error (ends_write run)]
      | ok =>
          have write := ends_write run
          obtain ⟨printed, print, files, started⟩ := Prints.print
            (Tool.compiledLine path output program) { logged with files := after }
          obtain ⟨told, tell, files', started'⟩ := Prints.forIn
            (fun warning => Prints.warn ("warning: " ++ warning)) program.warnings printed
          dsimp only
          rw [ends_bind_of_ok log, named, ends_bind_of_ok write, ends_bind_of_ok print,
            ends_bind_of_ok tell]
          have kept : told.files = after := files'.trans files
          have before : told.started = logged.started := started'.trans started
          cases arguments.has "--run" with
          | false =>
              refine ⟨.ok (), told, rfl, .inr ⟨rfl, by rw [kept], ?_⟩⟩
              rw [before]
              exact (List.append_nil _).symm
          | true =>
              obtain ⟨last, log, files, started⟩ := Prints.log "basescript.cli"
                (arguments.has "--verbose")
                ⟨.debug, "Running " ++ output ++ " with " ++ interpreter.path⟩ told
              rw [if_pos rfl, ends_bind_of_ok log]
              refine ⟨_, _, rfl, .inr ⟨rfl, ?_, ?_⟩⟩
              · exact Prod.ext rfl (files.trans kept).symm
              · exact congrArg (· ++ [_]) (started.trans before)

end Deliver

/-- Compiling fails before it touches anything, or it delivers the program of the script. -/
theorem compile_cases (read : Arguments.read Tool.compilePage false words = .ok arguments)
    (asks : Asks arguments input output run) (interpreter : Tool.Interpreter) (console : Console) :
    (programOf? console.files input = none ∧ ∃ ending : Ending, ending.isFailure = true ∧
        ends (Tool.compile interpreter words) console = (.error ending, console)) ∨
      ∃ program, programOf? console.files input = some program ∧
        ends (Tool.compile interpreter words) console =
          ends (Tool.deliver interpreter arguments input program) console := by
  unfold Tool.compile
  rcases (stage_readCommand read asks console).bind_cases _ with ⟨none, ended⟩ | ⟨value, some, run⟩
  · apply Or.inl
    refine ⟨?_, ended⟩
    rw [programOf?, planOf?, Option.map_eq_none_iff.1 none]
    rfl
  obtain ⟨data, _, rfl⟩ := Option.map_eq_some_iff.1 some
  rw [run]
  dsimp only
  rcases (stage_readPlan input console).bind_cases _ with ⟨none, ended⟩ | ⟨plan, planned, run⟩
  · apply Or.inl
    refine ⟨?_, ended⟩
    rw [programOf?, none]
    rfl
  rw [run]
  rcases (Stage.lift (Program.ofPlan plan)).bind_cases _ with ⟨none, ended⟩ | ⟨program, made, run⟩
  · apply Or.inl
    refine ⟨?_, ended⟩
    rw [programOf?, planned]
    exact none
  · apply Or.inr
    refine ⟨program, ?_, run⟩
    rw [programOf?, planned]
    exact made

/-! ## The whole run -/

theorem exitCode_of_isFailure (failure : ending.isFailure = true)
    (console : Console) : (Tool.conclude console ending).exitCode ≠ 0 := by
  cases ending with
  | help page => cases failure
  | exit code => cases failure
  | _ => simp [Tool.conclude]

@[simp] theorem conclude_files (console : Console) (ending : Ending) :
    (Tool.conclude console ending).console.files = console.files := by
  cases ending <;> rfl

@[simp] theorem conclude_started (console : Console) (ending : Ending) :
    (Tool.conclude console ending).console.started = console.started := by
  cases ending <;> rfl

/-- The first word takes the tool to the command that compiles. -/
theorem dispatch_compile (interpreter : Tool.Interpreter) (words : List String) :
    Tool.dispatch interpreter ("compile" :: words) = Tool.compile interpreter words := by
  have read : Arguments.read Tool.mainPage true ("compile" :: words) =
      .ok { words := "compile" :: words } := by
    rw [Arguments.read, if_neg (by decide), if_neg (by decide), if_pos rfl]
  rw [Tool.dispatch, read]
  rfl

theorem outcome_of_ok {console : Console}
    (run : ends (Tool.compile interpreter words) { files := files } = (.ok (), console)) :
    Tool.outcome files interpreter ("compile" :: words) = ⟨0, console, none⟩ := by
  have answer : StateT.run (ExceptT.run (Tool.compile interpreter words)) { files := files } =
      (.ok (), console) := run
  rw [Tool.outcome, dispatch_compile, answer]

theorem outcome_of_error {console : Console}
    (run : ends (Tool.compile interpreter words) { files := files } = (.error ending, console)) :
    Tool.outcome files interpreter ("compile" :: words) = Tool.conclude console ending := by
  have answer : StateT.run (ExceptT.run (Tool.compile interpreter words)) { files := files } =
      (.error ending, console) := run
  rw [Tool.outcome, dispatch_compile, answer]

/-- A run that did nothing: no file differs, no program was started, and the exit code tells it. -/
structure Undone (files : Files) (outcome : Tool.Outcome) : Prop where
  frame : Frame [] files outcome.console.files
  started : outcome.console.started = []
  exitCode : outcome.exitCode ≠ 0

/-- A run that did everything: the program was written, and no other file. If that was asked for, the
program was then started, once and with the files as they are left, and the run ended with its
status. -/
structure Done (files : Files) (interpreter : Tool.Interpreter) (output : String) (run : Bool)
    (program : Program) (outcome : Tool.Outcome) : Prop where
  written : Written files output program.source.toUTF8.toList outcome.console.files
  started : outcome.console.started =
    if run then [⟨[interpreter.path, output], outcome.console.files⟩] else []
  exitCode : outcome.exitCode = if run then interpreter.status else 0

structure AllOrNothing (files : Files) (interpreter : Tool.Interpreter) (input output : String)
    (run : Bool) (outcome : Tool.Outcome) : Prop where
  /-- Without a program even the directories are as they were. -/
  failing : programOf? files input = none → outcome.console.files = files ∧ Undone files outcome
  /-- Only a path that leads nowhere keeps a program from being written. -/
  delivering : ∀ program, programOf? files input = some program →
    Done files interpreter output run program outcome ∨
      (files.openPath output).place? = none ∧ Undone files outcome
  succeeding : outcome.exitCode = 0 → ∃ program, programOf? files input = some program ∧
    Done files interpreter output run program outcome

/-- A run that failed and changed no file has done nothing. -/
theorem undone_of_error {console : Console} (failure : ending.isFailure = true)
    (run : ends (Tool.compile interpreter words) { files := files } = (.error ending, console))
    (frame : Frame [] files console.files) (started : console.started = []) :
    Undone files (Tool.outcome files interpreter ("compile" :: words)) := by
  rw [outcome_of_error run]
  constructor
  · rw [conclude_files]
    exact frame
  · rw [conclude_started]
    exact started
  · exact exitCode_of_isFailure failure console

/-- Delivering a program does everything, unless the program cannot be written. -/
theorem done_or_undone {program : Program} (asks : Asks arguments input output run)
    (delivers : ends (Tool.compile interpreter words) { files := files } =
      ends (Tool.deliver interpreter arguments input program) { files := files }) :
    Done files interpreter output run program
        (Tool.outcome files interpreter ("compile" :: words)) ∨
      (files.openPath output).place? = none ∧
        Undone files (Tool.outcome files interpreter ("compile" :: words)) := by
  obtain ⟨answer, last, ended, ⟨problem, ending, rfl, failure, write, started⟩ |
    ⟨rfl, write, started⟩⟩ :=
    deliver_cases asks.output_eq interpreter input program { files := files }
  · apply Or.inr
    constructor
    · -- Where the path leads to a place, the write would have succeeded.
      cases leads : (files.openPath output).place? with
      | none => rfl
      | some place => cases (write_of_leads leads _).symm.trans write
    · exact undone_of_error failure (delivers.trans ended) (frame_of_write_error write) started
  · apply Or.inl
    have written := written_of_write_ok write
    have finished := delivers.trans ended
    rw [asks.run_eq, List.nil_append] at started
    rw [asks.run_eq] at finished
    cases run with
    | false =>
        rw [outcome_of_ok finished]
        exact ⟨written, started, rfl⟩
    | true =>
        rw [outcome_of_error finished]
        exact ⟨written, started, rfl⟩

/-- The arguments in the order in which they are documented. -/
theorem invokes_line (isPath : Arguments.isSwitch input = false) (output : String) (run : Bool) :
    Invokes ([input, "-o", output] ++ if run then ["--run"] else []) input output run := by
  have notEnd : ¬(input == "--") = true := by
    rw [beq_iff_eq]
    rintro rfl
    cases isPath
  have first : ∀ rest, Arguments.read Tool.compilePage false (input :: rest) =
      (Arguments.read Tool.compilePage false rest).map
        fun more => { more with words := input :: more.words } := by
    intro rest
    rw [Arguments.read, if_neg notEnd, isPath]
    cases Arguments.read Tool.compilePage false rest <;> rfl
  cases run with
  | false =>
      refine ⟨_, (first ["-o", output]).trans rfl, ?_⟩
      constructor <;> rfl
  | true =>
      refine ⟨_, (first ["-o", output, "--run"]).trans rfl, ?_⟩
      constructor <;> rfl

/-- Compiling a script writes its program, and starts it if that is asked for, or does nothing. -/
theorem compile_all_or_nothing (files : Files) (interpreter : Tool.Interpreter)
    (input output : String) (run : Bool) :
    (Arguments.isSwitch input = false →
      Invokes ([input, "-o", output] ++ if run then ["--run"] else []) input output run) ∧
    ∀ words, Invokes words input output run →
      AllOrNothing files interpreter input output run
        (Tool.outcome files interpreter ("compile" :: words)) := by
  constructor
  · intro isPath
    exact invokes_line isPath output run
  · rintro words ⟨arguments, read, asks⟩
    rcases compile_cases read asks interpreter { files := files } with
      ⟨none, ending, failure, ended⟩ | ⟨program, found, delivers⟩
    · have undone := undone_of_error failure ended (Frame.refl [] files) rfl
      constructor
      · intro _
        refine ⟨?_, undone⟩
        rw [outcome_of_error ended, conclude_files]
      · intro program found
        cases none.symm.trans found
      · intro success
        exact absurd success undone.exitCode
    · have delivered := done_or_undone asks delivers
      constructor
      · intro none
        cases none.symm.trans found
      · intro other found'
        cases found.symm.trans found'
        exact delivered
      · intro success
        rcases delivered with done | ⟨_, undone⟩
        · exact ⟨program, found, done⟩
        · exact absurd success undone.exitCode

def keyScript : String :=
  "framework: playwright\nbrowser:\n  mode: launch\n  launch:\n    headless: true\n"
    ++ "steps:\n- press:\n    key: Enter\n"

def keyFiles : Files := [("in/key.yaml", .bytes keyScript.toUTF8.toList)]

theorem keyFiles_deliver :
    Invokes ["in/key.yaml", "-o", "in/key.py", "--run"] "in/key.yaml" "in/key.py" true ∧
      ∃ program, programOf? keyFiles "in/key.yaml" = some program ∧
        Done keyFiles ⟨"python3", 3⟩ "in/key.py" true program
          (Tool.outcome keyFiles ⟨"python3", 3⟩
            ["compile", "in/key.yaml", "-o", "in/key.py", "--run"]) := by
  obtain ⟨invokes, run⟩ :=
    compile_all_or_nothing keyFiles ⟨"python3", 3⟩ "in/key.yaml" "in/key.py" true
  have invoked := invokes (by decide)
  refine ⟨invoked, ?_⟩
  have compiles : (programOf? keyFiles "in/key.yaml").isSome = true := by decide +kernel
  obtain ⟨program, found⟩ := Option.isSome_iff_exists.1 compiles
  have leads : (keyFiles.openPath "in/key.py").place?.isSome = true := by decide +kernel
  rcases (run _ invoked).delivering program found with done | ⟨nowhere, _⟩
  · exact ⟨program, found, done⟩
  · rw [nowhere] at leads
    cases leads

end BrowserScript.CommandLine
