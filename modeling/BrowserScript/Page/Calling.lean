import BrowserScript.Value.Basic

/-!
# Scripts in the page

Every framework runs scripts in the page, but each hands the arguments over in its own way: as one
array, one by one, or under a name that the body unpacks. The same body runs in all of them once
it is wrapped in the framework's convention.
-/

namespace BrowserScript.Page

inductive Calling where
  /-- Under the name `arguments`, which the body itself sees. -/
  | named
  /-- As the one array that the function takes. -/
  | gathered
  /-- One by one. -/
  | spread
  deriving DecidableEq

namespace Calling

def ofFramework : String → Calling
  | "selenium" => named
  | "playwright" => gathered
  | _ => spread

def script (calling : Calling) (body : String) (parameters : List String) : String :=
  let names := String.intercalate ", " parameters
  match calling with
  | named => if parameters.isEmpty then body else "const [" ++ names ++ "] = arguments;\n" ++ body
  | gathered => "([" ++ names ++ "]) => \x7b\n" ++ body ++ "\n\x7d"
  | spread => "(" ++ names ++ ") => \x7b\n" ++ body ++ "\n\x7d"

def method : Calling → String
  | named => "execute_script"
  | _ => "evaluate"

def hand (calling : Calling) (arguments : List Value) : List Value :=
  match calling with
  | gathered => [.list arguments]
  | _ => arguments

end Calling

structure Call where
  method : String
  script : String
  arguments : List Value

inductive Answer where
  | result (value : Value)
  | failure (text : String)

end BrowserScript.Page
