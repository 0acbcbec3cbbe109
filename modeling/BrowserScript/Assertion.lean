import BrowserScript.Log
import BrowserScript.Pattern.Read
import BrowserScript.Pattern.Search
import BrowserScript.Value.Access

/-!
# Assertions

An assertion compares what is seen of an element with what is expected. Only the first kind of
expectation counts. A failed assertion stops the program unless it says otherwise.
-/

namespace BrowserScript

structure Sighting where
  found : Bool
  text : String := ""
  visible : Bool := false

/-- Whether an assertion holds, and what is said if it does not. -/
structure Verdict where
  passed : Bool
  message : String

namespace Assertion

def occurs (part : List Char) (text : List Char) : Bool :=
  part.isPrefixOf text ||
    match text with
    | [] => false
    | _ :: rest => occurs part rest

def holdsPart (expected : Value) (text : String) : Except Fault Bool :=
  match expected with
  | .str part => .ok (occurs part.toList text.toList)
  | other => .error (.wrongKind
      ("'in <string>' requires string as left operand, not " ++ other.kindName))

def matchesPattern (expected : Value) (text : String) : Except Fault Bool :=
  match expected with
  | .str pattern => do
      let node ← Pattern.read pattern.toList
      return node.occursIn text.toList
  | .bytes data => do
      let _ ← Pattern.read (data.map fun byte => Char.ofNat byte.toNat)
      throw (.wrongKind "cannot use a bytes pattern on a string-like object")
  | other =>
      if other.isKey then
        .error (.wrongKind "first argument must be string or compiled pattern")
      else .error (.wrongKind ("unhashable type: '" ++ other.kindName ++ "'"))

def given? (options : Value) (name : String) : Except Fault (Option Value) := do
  let value ← options.option name
  return if value.isNull then none else some value

def evaluate (options : Value) (seen : Sighting) : Except Fault Verdict := do
  let selector ← options.optionOr "selector" (.str "")
  let existing ← options.option "exists"
  let got := ", but got: \"" ++ seen.text ++ "\""
  if !seen.found && !(existing matches .bool false) then
    return ⟨false, "Element not found: " ++ (← selector.display)⟩
  if let some expected ← given? options "contains" then
    let passed ← holdsPart expected seen.text
    return ⟨passed, "Expected text to contain \"" ++ (← expected.display) ++ "\"" ++ got⟩
  if let some expected ← given? options "equals" then
    let message := "Expected text to equal \"" ++ (← expected.display) ++ "\"" ++ got
    return ⟨expected.isText seen.text, message⟩
  if let some expected ← given? options "matches" then
    let passed ← matchesPattern expected seen.text
    return ⟨passed, "Expected text to match pattern /" ++ (← expected.display) ++ "/" ++ got⟩
  if let some expected ← given? options "exists" then
    return ⟨seen.found == expected.truthy,
      "Expected element to " ++ (if expected.truthy then "exist" else "not exist")⟩
  if let some expected ← given? options "visible" then
    return ⟨seen.visible == expected.truthy,
      "Expected element to be " ++ (if expected.truthy then "visible" else "hidden")⟩
  return ⟨false, "No assertion kind given for " ++ (← selector.display)⟩

/-- Whether a failure stops the program; only an explicit false lets it go on. -/
def stopsProgram (options : Value) : Except Fault Bool := do
  let value ← options.option "throwOnFail"
  return !(value matches .bool false)

/-- Log a verdict and stop the program after a failure where the options say so. A selector that
cannot be shown costs the line and nothing else. -/
def settle (options : Value) (verdict : Verdict) : List LogLine × Except Fault Bool :=
  if verdict.passed then
    match options.optionOr "selector" (.str "") with
    | .error fault => ([], .error fault)
    | .ok selector =>
        match selector.display with
        | .ok shown => ([⟨.info, "✅ Assertion passed: " ++ shown⟩], .ok true)
        | .error _ => ([], .ok true)
  else
    ([⟨.error, "❌ Assertion failed: " ++ verdict.message⟩], do
      if ← stopsProgram options then
        throw (.assertion ("Assertion failed: " ++ verdict.message))
      else return false)

structure Step where
  options : Value
  seen : Sighting

/-- The outcome of a step: what was logged, and whether it passed. -/
structure Outcome where
  log : List LogLine
  result : Except Fault Bool

def Step.outcome (step : Step) : Outcome :=
  match evaluate step.options step.seen with
  | .ok verdict =>
      let (log, result) := settle step.options verdict
      ⟨log, result⟩
  | .error fault => ⟨[], .error fault⟩

/-- The outcomes of steps in a row, up to the first that stops the program. -/
def outcomes : List Step → List Outcome
  | [] => []
  | step :: rest =>
      match step.outcome.result with
      | .ok _ => step.outcome :: outcomes rest
      | .error _ => [step.outcome]

end Assertion

end BrowserScript
