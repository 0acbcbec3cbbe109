import BrowserScript.Baseline.Analysis
import BrowserScript.Baseline.Registry

/-!
# Features by identifier

The lookup lists the features that a configuration reports by the identifiers of style sheets that
use them. Where two features claim an identifier, the more restrictive one has it, and of two
equally restrictive ones the later.
-/

namespace BrowserScript.Baseline

def Status.ofValue? : Value → Option Status
  | .bool false => some .notBaseline
  | .bool true => some .high
  | .str "low" => some .low
  | .str "high" => some .high
  | _ => none

namespace FeatureDate

def firstYear? : List Char → Option Int
  | [] => none
  | c :: rest =>
      let digits := (c :: rest).take 4
      if digits.length == 4 && digits.all Text.isDigit then
        some (Numeral.ofDigits (Numeral.simplify digits))
      else firstYear? rest

def year? (date : Value) : Except Fault (Option Int) := do
  if date.truthy then return firstYear? (← date.display).toList else return none

/-- The year since which a feature is available: widely, or else newly. -/
def baselineYear (status : Entries) : Except Fault (Option String) := do
  let high := (Entries.get? status "baseline_high_date").getD .null
  let low := (Entries.get? status "baseline_low_date").getD .null
  return (← year? (high.orElse low)).map fun year => String.ofList (intText year)

end FeatureDate

inductive Browser where
  | chrome
  | firefox
  | safari
  | edge
  deriving DecidableEq

namespace Browser

def all : List Browser := [chrome, firefox, safari, edge]

def tag : Browser → String
  | chrome => "chrome"
  | firefox => "firefox"
  | safari => "safari"
  | edge => "edge"

/-- The browser of a release; those for phones count as the browser of their family. -/
def ofRelease? : Value → Option Browser
  | .str "chrome" => some .chrome
  | .str "chrome_android" => some .chrome
  | .str "firefox" => some .firefox
  | .str "firefox_android" => some .firefox
  | .str "safari" => some .safari
  | .str "safari_ios" => some .safari
  | .str "edge" => some .edge
  | _ => none

end Browser

namespace Version

/-- The first number of a version with its fraction, infinite where there is none. -/
def number (version : List Char) : Binary64 :=
  let start := version.dropWhile fun c => !Text.isDigit c
  let whole := start.takeWhile Text.isDigit
  let fraction :=
    match start.drop whole.length with
    | '.' :: rest => rest.takeWhile Text.isDigit
    | _ => []
  if whole.isEmpty then .infinite false
  else
    let digits := Numeral.simplify (whole ++ fraction)
    Binary64.ofDecimal false (Numeral.ofDigits digits) (-fraction.length)

/-- Whether a version is earlier than the one that is known. -/
def isEarlier (version : String) : Option String → Bool
  | none => true
  | some known => (number version.toList).less (number known.toList)

/-- The browser and the version of a release, whose version is a text that is not empty. -/
def ofRelease? (release : Value × Value) : Option (Browser × String) :=
  match Browser.ofRelease? release.1, release.2 with
  | some browser, .str version => if version == "" then none else some (browser, version)
  | _, _ => none

/-- Take up a release: an earlier version replaces the one that is known of its browser. -/
def addRelease (compat : List (Browser × Option String)) (release : Value × Value) :
    List (Browser × Option String) :=
  match ofRelease? release with
  | none => compat
  | some (browser, version) =>
      compat.map fun entry =>
        if entry.1 == browser && isEarlier version entry.2 then (browser, some version) else entry

def compat (status : Entries) : List (Browser × Option String) :=
  let support :=
    match Entries.get? status "support" with
    | some (.map entries) => entries
    | _ => []
  support.foldl addRelease (Browser.all.map fun browser => (browser, none))

def summary (compat : List (Browser × Option String)) : String :=
  let count := compat.countP fun entry => entry.2.isSome
  if count == 0 then "Limited browser support"
  else if 3 ≤ count then "Good browser support"
  else "Partial browser support"

def toEntries (compat : List (Browser × Option String)) : Entries :=
  compat.map fun entry => (.str entry.1.tag, optionalText entry.2)

end Version

namespace CompatKey

/-- The kinds of style sheet syntax that keys name in their second part. -/
def categories : List String := ["properties", "at-rules", "selectors", "types", "functions"]

/-- The identifier that a key stands for: what follows the kind of syntax, in lower case. -/
def identifier? (key : String) : Option String :=
  match key.splitOn "." with
  | _ :: category :: first :: rest =>
      if categories.contains category then
        some (String.ofList (Text.lower (String.intercalate "." (first :: rest)).toList))
      else none
  | _ => none

end CompatKey

namespace Lookup

def admits (config : Config) (status : Status) (data : Entries) : Except Fault Bool := do
  if !config.includes status then return false
  match config.yearThreshold with
  | none => return true
  | some 0 => return true
  | some threshold =>
      let year ← FeatureDate.year? ((Entries.get? data "baseline_high_date").getD .null)
      return !(year.any fun year => year < threshold)

/-- Whether a feature that is more restrictive than a status has an identifier. -/
def isTaken (lookup : Lookup) (identifier : String) (status : Status) : Bool :=
  (lookup.get? identifier).any fun known =>
    status.restrictiveness < known.status.restrictiveness

/-- Give an identifier to a feature; one that is known keeps its place. -/
def store (lookup : Lookup) (identifier : String) (feature : Feature) : Lookup :=
  if (lookup.get? identifier).isSome then
    lookup.map fun entry => if entry.1 == identifier then (identifier, feature) else entry
  else lookup ++ [(identifier, feature)]

/-- The usable parts of a registry entry: its own fields, its status and its keys. -/
def usable? (entry : Value) : Option (Entries × Entries × List Value) :=
  match entry with
  | .map fields =>
      match (Entries.get? fields "status").getD (.map []) with
      | .map status =>
          match (Entries.get? fields "compat_features").getD .null with
          | .null => some (fields, status, [])
          | .list keys => some (fields, status, keys)
          | _ => none
      | _ => none
  | _ => none

def featureOf (id : Value) (status : Status) (fields data : Entries) (year : Option String)
    (compatKey : String) : Feature :=
  { id
    status
    description := ((Entries.get? fields "description").getD .null).orElse (.str "")
    year
    versions := Version.toEntries (Version.compat data)
    summary := Version.summary (Version.compat data)
    compatKey }

/-- Give the identifier of a key to a feature, unless a more restrictive one has it. -/
def claim (id : Value) (status : Status) (fields data : Entries) (lookup : Lookup) (key : Value) :
    Except Fault Lookup := do
  let shown ← key.display
  match CompatKey.identifier? shown with
  | none => return lookup
  | some identifier =>
      if lookup.isTaken identifier status then return lookup
      else
        let year ← FeatureDate.baselineYear data
        return lookup.store identifier (featureOf id status fields data year shown)

def addFeature (config : Config) (id : Value) (fields data : Entries) (keys : List Value)
    (lookup : Lookup) : Except Fault Lookup := do
  match (Entries.get? data "baseline").bind Status.ofValue?, keys with
  | none, _ => return lookup
  | _, [] => return lookup
  | some status, keys =>
      if ← admits config status data then keys.foldlM (claim id status fields data) lookup
      else return lookup

/-- Add an entry, or count it if it is malformed. -/
def addEntry (config : Config) (state : Nat × Lookup) (entry : Value × Value) :
    Except Fault (Nat × Lookup) :=
  match usable? entry.2 with
  | none => .ok (state.1 + 1, state.2)
  | some (fields, data, keys) => do
      let lookup ← addFeature config entry.1 fields data keys state.2
      return (state.1, lookup)

def ofRegistry (registry : Registry) (config : Config) : Except Fault (Lookup × List LogLine) := do
  let (skipped, lookup) ← registry.features.foldlM (addEntry config) (0, [])
  let held := countText "Lookup map holds " lookup.length " identifiers"
  let skippedLines : List LogLine :=
    if skipped == 0 then []
    else [⟨.debug, countText "Skipped " skipped " malformed registry entries"⟩]
  return (lookup, skippedLines ++ [⟨.debug, held⟩])

end Lookup

end BrowserScript.Baseline
