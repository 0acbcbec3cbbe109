/-!
# Commands and their switches

A page describes a command: how it is called, what it does, which switches it has and which
commands are below it. The help text is printed from the page.
-/

namespace BrowserScript.CommandLine

structure Switch where
  short : Option Char := none
  long : String
  /-- What stands for the value in the help text, if the switch takes one. -/
  value : Option String := none
  help : String
  deriving DecidableEq

def Switch.heading (switch : Switch) : String :=
  let short := (switch.short.map fun c => "-" ++ c.toString ++ ", ").getD ""
  let value := (switch.value.map (" " ++ ·)).getD ""
  short ++ switch.long ++ value

structure Page where
  /-- The words that call it. -/
  path : String
  arguments : String
  summary : String
  switches : List Switch
  commands : List (String × String) := []

namespace Page

def usage (page : Page) : String := "Usage: " ++ page.path ++ " " ++ page.arguments

def table (title : String) (rows : List (String × String)) : String :=
  let width := (rows.map fun row => row.1.length).foldl max 0
  let line (row : String × String) : String :=
    "  " ++ row.1 ++ String.ofList (List.replicate (width - row.1.length + 2) ' ') ++ row.2 ++ "\n"
  "\n" ++ title ++ ":\n" ++ String.join (rows.map line)

def help (page : Page) : String :=
  page.usage ++ "\n\n  " ++ page.summary ++ "\n"
    ++ table "Options" (page.switches.map fun switch => (switch.heading, switch.help))
    ++ (if page.commands.isEmpty then "" else table "Commands" page.commands)

def long? (page : Page) (name : String) : Option Switch :=
  page.switches.find? fun switch => switch.long == name

def short? (page : Page) (letter : Char) : Option Switch :=
  page.switches.find? fun switch => switch.short == some letter

end Page

end BrowserScript.CommandLine
