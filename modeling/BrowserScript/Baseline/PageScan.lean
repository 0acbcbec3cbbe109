import BrowserScript.Baseline.Highlight
import BrowserScript.Baseline.Lookup
import BrowserScript.Baseline.Report
import BrowserScript.Baseline.Settings
import BrowserScript.Duration

/-!
# The scan of a page

A scan asks the page for its linked style sheets, fetches them, compares them with the registry,
reports what it finds, marks the elements and pauses. A fault on the way is logged and leaves an
empty report, so that the program around the scan goes on. Settings that are not given are read
from the environment before the first step, and a fault in them is not held back.
-/

namespace BrowserScript.Baseline

inductive Reply where
  | body (text : String)
  /-- The request fails by a fault of the network. -/
  | failure (text : String)
  /-- The request ends otherwise: its time is up, or the body is no text. -/
  | interruption (text : String)

/-- The answers of the network, each to a request for an address after a number of others. One
address may answer differently every time. -/
abbrev Network := Nat → String → Reply

/-- All that a scan needs besides the page. -/
structure PageScan where
  calling : Page.Calling
  config : Config
  /-- A registry that need not be loaded. -/
  registry : Option Registry
  /-- Settings that need not be read from the environment. -/
  settings : Option Settings
  environment : List (String × String)
  network : Network
  files : Files
  /-- Whether the report is logged as data too. -/
  wordy : Bool

namespace PageScan

def sheetScript : String :=
  "return Array.from(document.styleSheets).map((sheet) => sheet.href).filter(Boolean);"

def defaultDelay : Value := .str "1m"

def sheetAddresses (scan : PageScan) : Page.Visit (List String) := do
  let answer ← Page.Visit.evaluate scan.calling sheetScript [] []
  let addresses ← (answer.orElse (.list [])).members
  addresses.mapM fun address => address.display

/-- The text of a style sheet, asked for after a number of requests. -/
def fetchSheet (scan : PageScan) (earlier : Nat) (address : String) : Page.Visit String := do
  Page.Visit.perform (.fetch address)
  match scan.network earlier address with
  | .failure text => throw (.network text)
  | .interruption text => throw (.network text)
  | .body text =>
      Page.Visit.report [⟨.debug, "Fetched stylesheet " ++ address⟩]
      return text

/-- The registry from its file or else from its address. Only a fault of the network is told as
one of the registry. -/
def loadRegistry (scan : PageScan) (settings : Settings) (earlier : Nat) :
    Page.Visit Registry := do
  let url := settings.registryUrl
  let (registry, line) ←
    match settings.registryPath.filter (· != "") with
    | some path => do
        Page.Visit.perform (.readFile path)
        liftM (Registry.ofFile scan.files path)
    | none => do
        Page.Visit.perform (.fetch url)
        match scan.network earlier url with
        | .failure text => throw (.registry ("cannot fetch registry " ++ url ++ ": " ++ text))
        | .interruption text => throw (.network text)
        | .body text => liftM (Registry.ofAnswer url text)
  Page.Visit.report [line]
  return registry

def findIssues (scan : PageScan) (settings : Settings) : Page.Visit (List ReportEntry) := do
  Page.Visit.perform (.connect settings.fetchTimeout)
  let addresses ← scan.sheetAddresses
  Page.Visit.report
    [⟨.debug, "Found " ++ String.ofList (natText addresses.length) ++ " stylesheets"⟩]
  let sheets ← addresses.zipIdx.mapM fun request => scan.fetchSheet request.2 request.1
  let registry ←
    match scan.registry with
    | some registry => pure registry
    | none => scan.loadRegistry settings addresses.length
  let (lookup, lookupLog) ← Lookup.ofRegistry registry scan.config
  Page.Visit.report lookupLog
  let (nodes, sheetLog) ← readStylesheet (Text.joinLines sheets)
  let report := analyze nodes lookup scan.config
  Page.Visit.report (sheetLog ++ [analysisLog report])
  return report

def publish (scan : PageScan) (report : List ReportEntry) : Page.Visit Unit := do
  let text ← Report.text report scan.config
  Page.Visit.report [⟨.info, text⟩]
  if scan.wordy then
    let data ← Report.json report
    Page.Visit.report [⟨.debug, "Report entries: " ++ data⟩]

/-- The steps of a scan, any of which may fail. -/
def attempt (scan : PageScan) (settings : Settings) : Page.Visit (List ReportEntry) := do
  let report ← scan.findIssues settings
  scan.publish report
  let _ ← Highlight.markAll scan.calling report
  let seconds ← Duration.seconds (scan.config.delay.orElse defaultDelay)
  Page.Visit.perform (.pause seconds)
  return report

def settingsInUse (scan : PageScan) : Except Fault Settings :=
  match scan.settings with
  | some settings => .ok settings
  | none => Settings.ofEnvironment scan.environment

/-- The report of a scan, which is empty after a fault, and the journal. Only the settings are read
where a fault is not held back. -/
def outcome (scan : PageScan) (answers : List Page.Answer) :
    Except Fault (List ReportEntry) × Page.Journal :=
  match scan.settingsInUse with
  | .error fault => (.error fault, { answers := answers })
  | .ok settings =>
      match (scan.attempt settings).outcome { answers := answers } with
      | (.ok report, journal) => (.ok report, journal)
      | (.error fault, journal) =>
          (.ok [], { journal with
            log := journal.log ++
              [⟨.error, "Error performing baseline_scan: " ++ fault.message⟩] })

end PageScan

end BrowserScript.Baseline
