import BrowserScript.Duration
import BrowserScript.Script.Command
import BrowserScript.Script.ScanOptions
import BrowserScript.Text.Lines

/-!
# Dialects

A program drives the browser through one of three libraries. A dialect says how each command is
written for one of them. Commands act on payloads as they stand in the script, so a block can fail
where an entry is missing or of the wrong kind.
-/

namespace BrowserScript

inductive Backend where
  | puppeteer
  | playwright
  | selenium
  deriving DecidableEq, Inhabited

namespace Backend

def tag : Backend → String
  | puppeteer => "puppeteer"
  | playwright => "playwright"
  | selenium => "selenium"

def all : List Backend := [puppeteer, playwright, selenium]

def ofValue? (value : Value) : Option Backend := all.find? fun backend => value.isText backend.tag

end Backend

abbrev Block := List String

namespace Block

def text (block : Block) : String := Text.joinLines block

/-- Named arguments of a call; absent ones are left out. -/
def arguments (options : Entries) : Except Fault String := do
  let given := options.filter fun option => !option.2.isNull
  let parts ← given.mapM fun option => do
    return (← option.1.display) ++ "=" ++ (← option.2.literalText)
  return String.intercalate ", " parts

def unsupported (command : CommandName) (backend : Backend) : Block :=
  ["# " ++ command.tag ++ ": not supported by the " ++ backend.tag ++ " backend", "pass"]

def disabled (command : CommandName) : Block := ["# " ++ command.tag ++ ": disabled", "pass"]

def acknowledge (name : String) : String :=
  "print(" ++ String.ofList (Quoted.encode ("✅ Step " ++ name).toList) ++ ", flush=True)"

end Block

structure Dialect where
  backend : Backend
  /-- The variable that commands act on. -/
  target : String
  imports : List String
  assertionHelper : List String
  /-- What stands before the call of the assertion helper. -/
  assertionCall : String
  browser : Value → Except Fault Block
  newPage : Block
  emulate : Value → Except Fault Block
  goto : Value → Except Fault Block
  waitForSelector : Value → Except Fault Block
  screenshot : Value → Except Fault Block
  type : Value → Except Fault Block
  click : Value → Except Fault Block
  press : Value → Except Fault Block
  focus : Value → Except Fault Block
  hover : Value → Except Fault Block
  scroll : Value → Except Fault Block
  close : Block
  teardown : Value → Except Fault Block

namespace Dialect

def prologue (dialect : Dialect) : Block :=
  ["\"\"\"Compiled BaseScript program (" ++ dialect.backend.tag ++ " backend).\"\"\"",
   "",
   "import asyncio",
   "import logging",
   ""] ++ dialect.imports ++
  ["",
   "from basescript.baseline import baseline_scan_pipeline",
   "from basescript.durations import parse_timeout, sleep",
   "from basescript.runtime import evaluate_assertion, settle_assertion",
   "",
   "logging.basicConfig(level=logging.INFO, format=\"%(message)s\")",
   "",
   ""] ++ dialect.assertionHelper

def wait (payload : Value) : Except Fault Block := do
  return ["await sleep(" ++ (← (← payload.field "timeout").literalText) ++ ")"]

def assert (dialect : Dialect) (payload : Value) : Except Fault Block := do
  return [dialect.assertionCall ++ "(" ++ dialect.target ++ ", " ++ (← payload.literalText) ++ ")"]

def baselineScan (dialect : Dialect) (payload : Value) : Except Fault Block := do
  let options ← ScanOptions.ofPayload payload
  return ["await baseline_scan_pipeline(" ++ dialect.target ++ ", " ++ (← options.literalText)
    ++ ", " ++ (← (Value.str dialect.backend.tag).literalText) ++ ")"]

def block (dialect : Dialect) (name : CommandName) (payload : Value) : Except Fault Block :=
  match name with
  | .framework => .ok dialect.prologue
  | .browser => dialect.browser payload
  | .newPage =>
      match payload with
      | .bool false => .ok (Block.disabled .newPage)
      | _ => .ok dialect.newPage
  | .emulate => dialect.emulate payload
  | .goto => dialect.goto payload
  | .wait => wait payload
  | .waitForSelector => dialect.waitForSelector payload
  | .screenshot => dialect.screenshot payload
  | .type => dialect.type payload
  | .click => dialect.click payload
  | .press => dialect.press payload
  | .focus => dialect.focus payload
  | .hover => dialect.hover payload
  | .scroll => dialect.scroll payload
  | .assert => dialect.assert payload
  | .baselineScan => dialect.baselineScan payload
  | .close => .ok dialect.close
  | .teardown => dialect.teardown payload

/-- The block of a command, nothing for a name outside the vocabulary. -/
def blockOf? (dialect : Dialect) (command : Command) : Except Fault (Option Block) :=
  match CommandName.ofValue? command.name with
  | some name => some <$> dialect.block name command.payload
  | none => .ok none

end Dialect

end BrowserScript
