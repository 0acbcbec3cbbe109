import BrowserScript.Fault
import BrowserScript.Log
import BrowserScript.Page.Calling

/-!
# A visit to a page

A visit keeps a journal of all that reaches the world outside, in the order in which it happened:
scripts run in the page, connections, files, pauses and log lines. A fault ends the visit and
leaves the journal as it stands.
-/

namespace BrowserScript.Page

inductive Effect where
  /-- A connection is opened with a time limit. -/
  | connect (limit : Value)
  /-- A script is run in the page. -/
  | call (call : Call)
  /-- An address is asked for. -/
  | fetch (address : String)
  /-- A file is read. -/
  | readFile (path : String)
  /-- A pause of so many seconds. -/
  | pause (seconds : Binary64)

/-- What happened during a visit, and what the page has yet to answer. -/
structure Journal where
  /-- The answers to the next scripts; a page out of answers answers nothing. -/
  answers : List Answer
  effects : List Effect := []
  log : List LogLine := []

namespace Journal

def calls (journal : Journal) : List Call :=
  journal.effects.filterMap fun
    | .call call => some call
    | _ => none

def fetched (journal : Journal) : List String :=
  journal.effects.filterMap fun
    | .fetch address => some address
    | _ => none

def pauses (journal : Journal) : List Binary64 :=
  journal.effects.filterMap fun
    | .pause seconds => some seconds
    | _ => none

def limits (journal : Journal) : List Value :=
  journal.effects.filterMap fun
    | .connect limit => some limit
    | _ => none

end Journal

abbrev Visit := ExceptT Fault (StateM Journal)

namespace Visit

def report (lines : List LogLine) : Visit Unit :=
  modify fun journal => { journal with log := journal.log ++ lines }

def perform (effect : Effect) : Visit Unit :=
  modify fun journal => { journal with effects := journal.effects ++ [effect] }

def nextAnswer : Visit Answer := do
  let journal ← get
  set { journal with answers := journal.answers.tail }
  return journal.answers.headD (.result .null)

def evaluate (calling : Calling) (body : String) (parameters : List String)
    (arguments : List Value) : Visit Value := do
  perform (.call ⟨calling.method, calling.script body parameters, calling.hand arguments⟩)
  match ← nextAnswer with
  | .result value => return value
  | .failure text => throw (.page text)

def outcome {α : Type} (visit : Visit α) (journal : Journal) : Except Fault α × Journal :=
  StateT.run (ExceptT.run visit) journal

end Visit

end BrowserScript.Page
