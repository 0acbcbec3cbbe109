import BrowserScript.Value.Access

/-!
# Options of a scan

A scan step names the availabilities to report. The options handed to the scan keep those that are
statuses of their own and say separately whether features without one are wanted; `false` may be
written as a truth value or as a text.
-/

namespace BrowserScript.ScanOptions

/-- An availability as text: the truth value `false` is written in lower case. -/
def availabilityText (item : Value) : Except Fault String :=
  match item with
  | .bool false => .ok "false"
  | other => other.display

def ofPayload (payload : Value) : Except Fault Value := do
  let listed ← (← payload.optionOr "availability" (.list [])).members
  let availability ← listed.mapM availabilityText
  let year ← payload.option "year"
  let strictness ← payload.option "strictness"
  let delay ← payload.option "delay"
  return .map
    [(.str "includeAvailability",
        .list ((availability.filter fun text => text == "low" || text == "high").map .str)),
     (.str "baselineYearThreshold", year),
     (.str "includeNotBaseline", .bool (availability.contains "false")),
     (.str "strictness", strictness.orElse (.str "relaxed")),
     (.str "delay", delay)]

end BrowserScript.ScanOptions
