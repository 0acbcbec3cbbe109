import BrowserScript.Value.Access

/-!
# Commands

The closed vocabulary of commands, and a command with its payload as it stands in a plan. A plan
may hold names outside the vocabulary.
-/

namespace BrowserScript

inductive CommandName where
  | framework
  | browser
  | newPage
  | emulate
  | goto
  | wait
  | waitForSelector
  | screenshot
  | type
  | click
  | press
  | focus
  | hover
  | scroll
  | assert
  | baselineScan
  | close
  | teardown
  deriving DecidableEq, Inhabited

namespace CommandName

def tag : CommandName → String
  | framework => "framework"
  | browser => "browser"
  | newPage => "newPage"
  | emulate => "emulate"
  | goto => "goto"
  | wait => "wait"
  | waitForSelector => "waitForSelector"
  | screenshot => "screenshot"
  | type => "type"
  | click => "click"
  | press => "press"
  | focus => "focus"
  | hover => "hover"
  | scroll => "scroll"
  | assert => "assert"
  | baselineScan => "baseline_scan"
  | close => "close"
  | teardown => "teardown"

def all : List CommandName :=
  [framework, browser, newPage, emulate, goto, wait, waitForSelector, screenshot, type, click,
   press, focus, hover, scroll, assert, baselineScan, close, teardown]

def ofValue? (value : Value) : Option CommandName := all.find? fun name => value.isText name.tag

/-- Whether a command may be a step: all but those that open and close a program. -/
def isStep : CommandName → Bool
  | framework | browser | teardown => false
  | _ => true

end CommandName

structure Command where
  name : Value
  payload : Value

abbrev Plan := List Command

namespace Plan

/-- The command of a step: the first entry of its mapping. -/
def stepCommand (step : Value) : Except Fault Command :=
  match step with
  | .map ((name, payload) :: _) => .ok ⟨name, payload⟩
  | .map [] => .error .nothingFirst
  | other => .error (.noOperation ("'" ++ other.kindName ++ "' object has no attribute 'items'"))

/-- The command that ends a program: a launched browser is closed, any other only released. -/
def teardown (mode : Value) : Command :=
  let operation := if mode.isText "launch" then "close" else "disconnect"
  ⟨.str "teardown", .map [(.str "operation", .str operation)]⟩

/-- The plan of a document: framework, browser, the steps as declared and the teardown. -/
def ofDocument (document : Value) : Except Fault Plan := do
  let browser ← document.field "browser"
  let framework ← document.field "framework"
  let steps ← ((← document.option "steps").orElse (.list [])).members
  let commands ← steps.mapM stepCommand
  let mode ← browser.optionOr "mode" (.str "launch")
  return ⟨.str "framework", framework⟩ :: ⟨.str "browser", browser⟩ :: commands ++ [teardown mode]

end Plan

end BrowserScript
