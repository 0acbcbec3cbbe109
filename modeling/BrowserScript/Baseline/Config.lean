import BrowserScript.Baseline.Feature

/-!
# What a scan reports

A configuration says which statuses are reported and from which year on widely available features
matter.
-/

namespace BrowserScript.Baseline

structure Config where
  low : Bool
  high : Bool
  notBaseline : Bool
  /-- Widely available features of earlier years are left out. -/
  yearThreshold : Option Int
  strictness : Value
  /-- The pause after a scan. -/
  delay : Value

namespace Config

def includes (config : Config) : Status → Bool
  | .notBaseline => config.notBaseline
  | .low => config.low
  | .high => config.high

/-- The availabilities of the configuration by name, in alphabetical order. -/
def availability (config : Config) : List String :=
  (if config.high then ["high"] else []) ++ (if config.low then ["low"] else [])

def ofOptions (options : Value) : Except Fault Config := do
  let year ← options.option "baselineYearThreshold"
  let listed ← options.option "includeAvailability"
  let availability ← if listed.isNull then pure [.str "low"] else listed.members
  let threshold ← if year.truthy then some <$> year.truncate else pure none
  let notBaseline ← options.optionOr "includeNotBaseline" (.bool true)
  let strictness ← options.option "strictness"
  let delay ← options.option "delay"
  return {
    low := availability.any (·.isText "low")
    high := availability.any (·.isText "high")
    notBaseline := notBaseline.truthy
    yearThreshold := threshold
    strictness := strictness.orElse (.str "normal")
    delay := delay }

end Config

end BrowserScript.Baseline
