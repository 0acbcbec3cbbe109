import BrowserScript.Schema.Shape
import BrowserScript.Script.Command
import BrowserScript.Yaml.Content

/-!
# The grammar of scripts

A script names a framework, says how to reach a browser and lists steps. Each step is a mapping
with one command, and each command has a shape for its payload.
-/

namespace BrowserScript.Schema

def required (name : String) (shape : Shape) : String × Bool × Shape := (name, true, shape)

def absent (name : String) (shape : Shape) : String × Bool × Shape := (name, false, shape)

def nullable (name : String) (shape : Shape) : String × Bool × Shape :=
  (name, false, .optional shape)

def coords : Shape :=
  .record "Coords" [required "x" .number, required "y" .number] .anyFields

def offset : Shape :=
  .record "Offset" [required "dx" .number, required "dy" .number] .anyFields

def viewport : Shape :=
  .record "Viewport" [required "width" .whole, required "height" .whole] .anyFields

def launchConfig : Shape :=
  .record "LaunchConfig"
    [required "mode" (.word ["launch"]),
     required "launch" (.record "LaunchOptions"
       [nullable "executablePath" .text, absent "headless" .truth, nullable "viewport" viewport]
       .anyFields),
     absent "connect" .anything]
    (.notGiven "connect" "'connect' must not be given when mode is 'launch'")

def connectConfig : Shape :=
  .record "ConnectConfig"
    [required "mode" (.word ["connect"]),
     required "connect" (.record "ConnectOptions" [required "wsUrl" .text] .anyFields),
     absent "launch" .anything]
    (.notGiven "launch" "'launch' must not be given when mode is 'connect'")

def document : Shape :=
  .record "ScriptDocument"
    [required "framework" (.word ["puppeteer", "playwright", "selenium"]),
     required "browser" (.choice "mode" [("launch", launchConfig), ("connect", connectConfig)]),
     nullable "steps" (.list .anything)]
    .anyFields

def selector : Shape := .record "SelectorStep" [required "selector" .text] .anyFields

def target (name : String) : Shape :=
  .record name [nullable "selector" .text, nullable "coords" coords]
    (.atLeastOne ["selector", "coords"] "Either selector or coords must be provided")

def assertion : Shape :=
  .record "AssertStep"
    [required "selector" .text, nullable "exists" .truth, nullable "contains" .text,
     nullable "equals" .text, nullable "matches" .text, nullable "visible" .truth,
     nullable "timeout" .duration, nullable "throwOnFail" .truth]
    (.atLeastOne ["exists", "contains", "equals", "matches", "visible"]
      "One of 'exists', 'contains', 'equals', 'matches' or 'visible' must be provided")

def baselineScan : Shape :=
  .record "BaselineScanStep"
    [required "availability" (.list (.wordOrFalse ["high", "low", "false"])),
     required "year" .whole, nullable "delay" .duration, nullable "strictness" .text]
    .anyFields

def payload : CommandName → Shape
  | .newPage => .truth
  | .emulate => .record "EmulateStep" [required "device" .text] .anyFields
  | .goto => .record "GotoStep"
      [required "url" .url,
       absent "waitUntil" (.word ["domcontentloaded", "networkidle0", "networkidle2", "load"])]
      .anyFields
  | .wait => .record "WaitStep" [required "timeout" .duration] .anyFields
  | .waitForSelector => selector
  | .screenshot => .record "ScreenshotStep"
      [required "path" .text, nullable "fullPage" .truth] .anyFields
  | .type => .record "TypeStep"
      [required "selector" .text, required "text" .text, absent "delay" .duration] .anyFields
  | .click => target "ClickStep"
  | .press => .record "PressStep" [required "key" .text] .anyFields
  | .focus => selector
  | .hover => selector
  | .scroll => .record "ScrollStep"
      [nullable "to" (target "ScrollTarget"), nullable "by" offset]
      (.exactlyOne "to" "by" "Exactly one of 'to' or 'by' must be provided")
  | .assert => assertion
  | .baselineScan => baselineScan
  | .close => .truth
  | _ => .anything

def violation (place : List String) (finding : Finding) : Violation :=
  let path := place ++ finding.path
  ⟨if path.isEmpty then "<document>" else String.intercalate "." path, finding.reason⟩

def checkStep (index : Nat) (step : Value) : Except Fault Unit := do
  let place := "steps." ++ String.ofList (natText index)
  match step with
  | .map [(name, value)] =>
      match (CommandName.ofValue? name).filter (·.isStep) with
      | none =>
          throw (.violation ⟨place ++ "." ++ (← name.display),
            "unknown command " ++ (← name.literalText)⟩)
      | some command =>
          match ← (payload command).check value with
          | none => return
          | some finding => throw (.violation (violation [place, command.tag] finding))
  | _ =>
      throw (.violation ⟨place, "each step must be a mapping with exactly one command"⟩)

def checkSteps (index : Nat) : List Value → Except Fault Unit
  | [] => .ok ()
  | step :: steps => do
      checkStep index step
      checkSteps (index + 1) steps

/-- The steps of a document whose other fields are in order. -/
def stepsOf (entries : Entries) : List Value :=
  ((Entries.get? entries "steps").bind listItems?).getD []

def checkDocument (value : Value) : Except Fault Unit :=
  match value with
  | .map entries => do
      match ← document.check value with
      | some finding => throw (.violation (violation [] finding))
      | none => checkSteps 0 (stepsOf entries)
  | _ => .error (.violation ⟨"<document>", "expected a mapping at the top level"⟩)

/-- The document that a script text writes, if it follows the grammar. -/
def readScript (text : String) : Except Fault Value := do
  let value ← Yaml.readDocument text
  checkDocument value
  return value

end BrowserScript.Schema
