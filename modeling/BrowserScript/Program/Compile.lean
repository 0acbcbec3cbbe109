import BrowserScript.Digest.Sha256
import BrowserScript.Program.Playwright
import BrowserScript.Program.Puppeteer
import BrowserScript.Program.Selenium

/-!
# Programs

A plan becomes a program: the first framework command picks the dialect and opens the text, every
other command adds its block to the main function, and each is followed by a line that reports it.
Names outside the vocabulary and further framework commands are skipped with a warning.
-/

namespace BrowserScript

def Backend.dialect : Backend → Dialect
  | .puppeteer => Puppeteer.dialect
  | .playwright => Playwright.dialect
  | .selenium => Selenium.dialect

def Dialect.ofValue (value : Value) : Except Fault Dialect :=
  match Backend.ofValue? value with
  | some backend => .ok backend.dialect
  | none => do throw (.invalid (.backend (← value.literalText)))

structure Program where
  backend : Backend
  source : String
  /-- How many commands the program reports, the framework included. -/
  stepCount : Nat
  fingerprint : String
  warnings : List String

namespace Program

def fingerprintOf (source : String) : String := Digest.sha256 source.toUTF8.toList

structure Draft where
  prologue : Option Block := none
  /-- The blocks and reports of the main function. -/
  body : List String := []
  warnings : List String := []
  stepCount : Nat := 0

def isFramework (command : Command) : Bool := command.name.isText CommandName.framework.tag

def Draft.warn (draft : Draft) (warning : String) : Draft :=
  { draft with warnings := draft.warnings ++ [warning] }

def Draft.add (dialect : Dialect) (draft : Draft) (command : Command) : Except Fault Draft := do
  if isFramework command && draft.prologue.isSome then
    return draft.warn ("duplicate framework command " ++ (← command.payload.literalText) ++ " ignored")
  else
    match ← dialect.blockOf? command with
    | none =>
        return draft.warn (dialect.backend.tag ++ " backend has no handler for command "
          ++ (← command.name.literalText) ++ "; step skipped")
    | some block =>
        let report := Block.acknowledge (← command.name.display)
        let draft := { draft with stepCount := draft.stepCount + 1 }
        if isFramework command then
          return { draft with prologue := some block, body := draft.body ++ [report] }
        else return { draft with body := draft.body ++ [block.text, report] }

def assemble (prologue : Block) (body : List String) : String :=
  prologue.text ++ "\n\nasync def main():\n"
    ++ String.ofList (Text.indent (Text.joinLines body).toList)
    ++ "\n\n\nif __name__ == \"__main__\":\n    asyncio.run(main())\n"

def ofPlan (plan : Plan) : Except Fault Program := do
  match plan.find? isFramework with
  | none => throw (.invalid .noFramework)
  | some framework =>
      let dialect ← Dialect.ofValue framework.payload
      let draft ← plan.foldlM (Draft.add dialect) {}
      let source := assemble (draft.prologue.getD []) draft.body
      return {
        backend := dialect.backend
        source := source
        stepCount := draft.stepCount
        fingerprint := fingerprintOf source
        warnings := draft.warnings }

end Program

end BrowserScript
