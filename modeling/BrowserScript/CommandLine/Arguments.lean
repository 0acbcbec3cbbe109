import BrowserScript.CommandLine.Page
import BrowserScript.Text.Closest
import BrowserScript.Value.Literal

/-!
# Arguments

Words after a command are switches, values of switches, or arguments. A long switch may have its
value behind an equals sign, short ones may be written together, and two dashes end the switches.
-/

namespace BrowserScript.CommandLine

inductive Misuse where
  | unknownSwitch (name : String) (close : List String)
  | needsValue (name : String)
  | takesNoValue (name : String)
  | unknownCommand (name : String) (close : List String)
  | missingCommand
  | missingArgument (name : String)
  | extraArguments (words : List String)
  | absentFile (argument path : String)
  | fileIsDirectory (argument path : String)

namespace Misuse

def quoted (word : String) : String := String.ofList (Quoted.encode word.toList)

def suggestion (close : List String) : String :=
  match close with
  | [] => ""
  | [name] => " Did you mean " ++ quoted name ++ "?"
  | names => " (Did you mean one of: " ++ String.intercalate ", " (names.map quoted) ++ "?)"

def message : Misuse → String
  | unknownSwitch name close => "No such option " ++ quoted name ++ "." ++ suggestion close
  | needsValue name => "Option " ++ quoted name ++ " requires an argument."
  | takesNoValue name => "Option " ++ quoted name ++ " does not take a value."
  | unknownCommand name close => "No such command " ++ quoted name ++ "." ++ suggestion close
  | missingCommand => "Missing command."
  | missingArgument name => "Missing argument '" ++ name ++ "'."
  | extraArguments words =>
      "Got unexpected extra argument" ++ (if words.length == 1 then "" else "s") ++ " ("
        ++ String.intercalate " " words ++ ")"
  | absentFile argument path =>
      "Invalid value for '" ++ argument ++ "': File " ++ quoted path ++ " does not exist."
  | fileIsDirectory argument path =>
      "Invalid value for '" ++ argument ++ "': File " ++ quoted path ++ " is a directory."

end Misuse

/-- A switch that was given, with its value if it takes one. -/
structure Given where
  switch : Switch
  value : Option String := none

structure Arguments where
  given : List Given := []
  words : List String := []

namespace Arguments

def has (arguments : Arguments) (long : String) : Bool :=
  arguments.given.any fun entry => entry.switch.long == long

def valueOf? (arguments : Arguments) (long : String) : Option String :=
  (arguments.given.reverse.find? fun entry => entry.switch.long == long).bind Given.value

/-- The switches in one word, and the name of the last one if its value is the next word. -/
structure Reading where
  given : List Given
  pending : Option (String × Switch) := none

/-- Short switches written together, of which one with a value takes the rest of the word. -/
def readShort (page : Page) : List Char → Except Misuse Reading
  | [] => .ok ⟨[], none⟩
  | letter :: rest =>
      let name := "-" ++ letter.toString
      match page.short? letter with
      | none => .error (.unknownSwitch name [])
      | some switch =>
          if switch.value.isSome then
            if rest.isEmpty then .ok ⟨[], some (name, switch)⟩
            else .ok ⟨[⟨switch, some (String.ofList rest)⟩], none⟩
          else do
            let reading ← readShort page rest
            return { reading with given := ⟨switch, none⟩ :: reading.given }

/-- The part of a word before the first equals sign, and what follows it. -/
def splitValue (word : List Char) : List Char × Option String :=
  match word.dropWhile (· != '=') with
  | [] => (word, none)
  | _ :: value => (word.takeWhile (· != '='), some (String.ofList value))

def readSwitch (page : Page) (word : String) : Except Misuse Reading :=
  let (nameChars, value) := splitValue word.toList
  let name := String.ofList nameChars
  match page.long? name with
  | some switch =>
      if switch.value.isSome then
        match value with
        | some value => .ok ⟨[⟨switch, some value⟩], none⟩
        | none => .ok ⟨[], some (name, switch)⟩
      else if value.isSome then .error (.takesNoValue name)
      else .ok ⟨[⟨switch, none⟩], none⟩
  | none =>
      match word.toList with
      | '-' :: '-' :: _ =>
          .error (.unknownSwitch name (Text.closest name (page.switches.map Switch.long)))
      | _ => readShort page (word.toList.drop 1)

def isSwitch (word : String) : Bool :=
  match word.toList with
  | '-' :: _ :: _ => true
  | _ => false

/-- Read the words of a command line. Where switches must come first, the first other word ends
them. -/
def read (page : Page) (switchesFirst : Bool) : List String → Except Misuse Arguments
  | [] => .ok {}
  | word :: rest =>
      if word == "--" then .ok { words := rest }
      else if isSwitch word then
        match readSwitch page word with
        | .error misuse => .error misuse
        | .ok reading =>
            match reading.pending, rest with
            | none, rest => do
                let more ← read page switchesFirst rest
                return { more with given := reading.given ++ more.given }
            | some (_, switch), value :: rest => do
                let more ← read page switchesFirst rest
                return { more with given := reading.given ++ ⟨switch, some value⟩ :: more.given }
            | some (name, _), [] => .error (.needsValue name)
      else if switchesFirst then .ok { words := word :: rest }
      else do
        let more ← read page switchesFirst rest
        return { more with words := word :: more.words }

end Arguments

end BrowserScript.CommandLine
