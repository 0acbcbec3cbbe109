import BrowserScript.CommandLine.Arguments
import BrowserScript.Fault.Message
import BrowserScript.Files
import BrowserScript.Json.Write
import BrowserScript.Log
import BrowserScript.Program.Compile
import BrowserScript.Schema.Document

/-!
# The command line tool

The tool compiles a script into a program, which it may start, or prints the plan of a script.
What it prints, writes and starts is kept, so that a run is a value.
-/

namespace BrowserScript.CommandLine

structure Start where
  /-- Its command line. -/
  words : List String
  /-- The files as it found them. -/
  files : Files

structure Console where
  files : Files
  output : String := ""
  errors : String := ""
  started : List Start := []

inductive Ending where
  | misuse (page : Page) (misuse : Misuse)
  /-- What was asked for cannot be done, for a reason that is told. -/
  | refused (text : String)
  | help (page : Page)
  /-- The tool was called without any word. -/
  | noWords (page : Page)
  | exit (code : Int)
  | fault (fault : Fault)

abbrev Session := ExceptT Ending (StateM Console)

namespace Session

def print (line : String) : Session Unit :=
  modify fun console => { console with output := console.output ++ line ++ "\n" }

def warn (line : String) : Session Unit :=
  modify fun console => { console with errors := console.errors ++ line ++ "\n" }

def log (part : String) (wordy : Bool) (line : LogLine) : Session Unit :=
  if line.level.isShown wordy then warn (line.level.tag ++ " " ++ part ++ ": " ++ line.message)
  else pure ()

/-- Write a file. A problem with it ends the run. -/
def write (path : String) (data : List UInt8) : Session Unit := do
  let (result, files) := StateT.run (ExceptT.run (Files.write path data)) (← get).files
  modify fun console => { console with files := files }
  match result with
  | .ok _ => return
  | .error text => throw (.refused ("cannot write " ++ path ++ ": " ++ text))

def start (words : List String) : Session Unit :=
  modify fun console => { console with started := console.started ++ [⟨words, console.files⟩] }

def lift {α : Type} (result : Except Fault α) : Session α :=
  match result with
  | .ok value => pure value
  | .error fault => throw (.fault fault)

end Session

namespace Tool

def helpSwitch : Switch := { long := "--help", help := "Show this message and exit." }

def summaries : List (String × String) :=
  [("compile", "Compile INPUT (.bs or .yaml) into a runnable program."),
   ("ir", "Print the intermediate representation of INPUT.")]

def mainPage : Page :=
  { path := "basescript"
    arguments := "[OPTIONS] COMMAND [ARGS]..."
    summary := "Compile BaseScript browser-automation scripts into Python programs."
    switches := [helpSwitch]
    commands := summaries }

/-- The file that a program is written to where none is named. -/
def defaultOutput : String := "output.py"

def commandPage (name : String) (switches : List Switch) : Page :=
  { path := "basescript " ++ name
    arguments := "[OPTIONS] INPUT"
    summary := (summaries.lookup name).getD ""
    switches := switches ++ [helpSwitch] }

def compilePage : Page := commandPage "compile"
  [{ short := some 'o', long := "--output", value := some "TEXT"
     help := "Where to write the program.  [default: " ++ defaultOutput ++ "]" },
   { long := "--run", help := "Run the program after compiling it." },
   { short := some 'v', long := "--verbose", help := "Enable debug logging." }]

def planPage : Page := commandPage "ir" []

/-- What runs compiled programs: the path to it, and the status with which its runs end. -/
structure Interpreter where
  path : String
  status : Int

/-- The words of a command, one of which must name a file, and that file. -/
def readCommand (page : Page) (words : List String) : Session (Arguments × String) := do
  let refuse (misuse : Misuse) : Session (Arguments × String) := throw (.misuse page misuse)
  match Arguments.read page false words with
  | .error misuse => refuse misuse
  | .ok arguments =>
      if arguments.has helpSwitch.long then throw (.help page)
      match arguments.words with
      | [] => refuse (.missingArgument "INPUT")
      | path :: extra =>
          match (← get).files.openPath path with
          | .directory => refuse (.fileIsDirectory "INPUT" path)
          | .bytes _ _ =>
              if extra.isEmpty then return (arguments, path) else refuse (.extraArguments extra)
          | _ => refuse (.absentFile "INPUT" path)

/-- The plan of a script. A script that breaks a rule is refused. -/
def readPlan (path : String) : Session Plan := do
  match (← get).files.readBytes path with
  | .error text => throw (.refused ("cannot read " ++ path ++ ": " ++ text))
  | .ok data =>
      let text ← Session.lift (Text.Utf8.decode data)
      let script := String.ofList (Files.plainLines text)
      match Schema.readScript script >>= Plan.ofDocument with
      | .ok plan => return plan
      | .error fault =>
          match fault with
          | .violation _ => throw (.refused ("invalid script " ++ path ++ ": " ++ fault.message))
          | .unreadable _ => throw (.refused ("invalid script " ++ path ++ ": " ++ fault.message))
          | other => throw (.fault other)

def compiledLine (path output : String) (program : Program) : String :=
  "Compiled " ++ path ++ " → " ++ output ++ " (" ++ program.backend.tag ++ ", "
    ++ String.ofList (natText program.stepCount) ++ " steps)"

/-- Write a program, tell about it, and start it if that is asked for. -/
def deliver (interpreter : Interpreter) (arguments : Arguments) (path : String)
    (program : Program) : Session Unit := do
  let output := (arguments.valueOf? "--output").getD defaultOutput
  let wordy := arguments.has "--verbose"
  for warning in program.warnings do
    Session.log "basescript.compiler.compiler" wordy ⟨.warning, warning⟩
  Session.write output program.source.toUTF8.toList
  Session.print (compiledLine path output program)
  for warning in program.warnings do
    Session.warn ("warning: " ++ warning)
  if arguments.has "--run" then
    Session.log "basescript.cli" wordy
      ⟨.debug, "Running " ++ output ++ " with " ++ interpreter.path⟩
    Session.start [interpreter.path, output]
    throw (.exit interpreter.status)

def compile (interpreter : Interpreter) (words : List String) : Session Unit := do
  let (arguments, path) ← readCommand compilePage words
  let plan ← readPlan path
  let program ← Session.lift (Program.ofPlan plan)
  deliver interpreter arguments path program

def padRight (width : Nat) (text : String) : String :=
  text ++ String.ofList (List.replicate (width - text.length) ' ')

def rowNumber (index : Nat) : String :=
  let digits := natText index
  String.ofList (List.replicate (3 - digits.length) ' ' ++ digits)

def showPlan (words : List String) : Session Unit := do
  let (_, path) ← readCommand planPage words
  let plan ← readPlan path
  let names ← plan.mapM fun command => Session.lift command.name.display
  let width := (names.map String.length).foldl max 0
  Session.print ("  #  " ++ padRight width "command" ++ "  value")
  for ((command, name), index) in (plan.zip names).zipIdx do
    let data ← Session.lift (Json.write ⟨true, none, true⟩ command.payload)
    Session.print (rowNumber index ++ "  " ++ padRight width name ++ "  " ++ data)

def dispatch (interpreter : Interpreter) (words : List String) : Session Unit := do
  if words.isEmpty then throw (.noWords mainPage)
  let refuse (misuse : Misuse) : Session Unit := throw (.misuse mainPage misuse)
  match Arguments.read mainPage true words with
  | .error misuse => refuse misuse
  | .ok arguments =>
      if arguments.has helpSwitch.long then throw (.help mainPage)
      match arguments.words with
      | [] => refuse .missingCommand
      | "compile" :: rest => compile interpreter rest
      | "ir" :: rest => showPlan rest
      | name :: rest =>
          -- A name that looks like a switch is read as one before it is refused.
          match Arguments.read mainPage true (name :: rest) with
          | .error misuse => refuse misuse
          | .ok again =>
              if again.has helpSwitch.long then throw (.help mainPage)
              refuse (.unknownCommand name (Text.closest name (summaries.map (·.1))))

structure Outcome where
  exitCode : Int
  console : Console
  /-- The fault that ended the run without being told. -/
  fault : Option Fault := none

def conclude (console : Console) : Ending → Outcome
  | .misuse page misuse =>
      ⟨2, { console with
        errors := console.errors ++ page.usage ++ "\nTry '" ++ page.path
          ++ " --help' for help.\n\nError: " ++ misuse.message ++ "\n" }, none⟩
  | .refused text => ⟨1, { console with errors := console.errors ++ "Error: " ++ text ++ "\n" }, none⟩
  | .help page => ⟨0, { console with output := console.output ++ page.help }, none⟩
  | .noWords page => ⟨2, { console with errors := console.errors ++ page.help }, none⟩
  | .exit code => ⟨code, console, none⟩
  | .fault fault => ⟨1, console, some fault⟩

/-- Run the tool in a tree of files. -/
def outcome (files : Files) (interpreter : Interpreter) (words : List String) : Outcome :=
  match StateT.run (ExceptT.run (dispatch interpreter words)) { files := files } with
  | (.ok _, console) => ⟨0, console, none⟩
  | (.error ending, console) => conclude console ending

end Tool

end BrowserScript.CommandLine
