import BrowserScript.Baseline.Config
import BrowserScript.Groups
import BrowserScript.Json.Write
import BrowserScript.Text.Casing
import BrowserScript.Text.Lines
import BrowserScript.Text.Percent
import BrowserScript.Text.Wrap

/-!
# Reports as text

A report names the configuration, counts the issues of each status, lists the features in question
with what is known of them and where they are used, and ends with advice.
-/

namespace BrowserScript.Baseline

namespace Status

def icon : Status → String
  | notBaseline => "🔴"
  | low => "🟡"
  | high => "🟢"

def adviceHeading : Status → String
  | notBaseline => "Not Baseline Issues:"
  | low => "Low Baseline Issues:"
  | high => "High Baseline Features:"

def advice : Status → List String
  | notBaseline =>
      ["Consider providing fallbacks for older browsers",
       "Test on the browser versions you target",
       "Watch for support status changes"]
  | low =>
      ["These features only recently became Baseline",
       "Fallbacks may still be needed for older browsers",
       "Prefer progressive enhancement"]
  | high =>
      ["These features are widely supported",
       "Generally safe to use without fallbacks"]

end Status

namespace Report

def rule : String := String.ofList (List.replicate 80 '=')

def sectionRule : String := String.ofList (List.replicate 60 '-')

def number (value : Nat) : String := String.ofList (natText value)

/-- The name under which documentation lists a property: without its value and at-sign. -/
def referenceName (property : String) : List Char :=
  Text.trim ((property.toList.takeWhile (· != ':')).dropWhile (· == '@'))

def shortSelector (selector : String) : String :=
  if 50 < selector.length then String.ofList (selector.toList.take 47) ++ "..." else selector

abbrev Hit := String × Issue

def hits (report : List ReportEntry) : List Hit :=
  report.flatMap fun entry => entry.issues.map fun issue => (entry.selector, issue)

def hitsOf (report : List ReportEntry) (status : Status) : List Hit :=
  (hits report).filter fun hit => hit.2.feature.status == status

/-- The description of a feature in lines; it must be a text that is not blank. -/
def descriptionLines (description : Value) : Except Fault (List String) :=
  match description with
  | .str text =>
      match Text.Wrap.wrap 70 text.toList with
      | [] => .error .outOfBounds
      | first :: others =>
          .ok (("   📝 " ++ String.ofList first)
            :: others.map fun line => "      " ++ String.ofList line)
  | .bytes _ => .error (.wrongKind "a bytes-like object is required, not 'dict'")
  | other =>
      .error (.noOperation ("'" ++ other.kindName ++ "' object has no attribute 'expandtabs'"))

/-- Bytes with a capital letter at the start and small ones after it. -/
def capitalizeBytes (data : List UInt8) : List UInt8 :=
  let withCase (change : Char → Char) (byte : UInt8) : UInt8 :=
    UInt8.ofNat (change (Char.ofNat byte.toNat)).toNat
  match data with
  | [] => []
  | first :: rest => withCase Char.toUpper first :: rest.map (withCase Char.toLower)

def versionTexts : Entries → Except Fault (List String)
  | [] => .ok []
  | (browser, version) :: entries => do
      if version.truthy then
        match browser with
        | .str name =>
            let first := String.ofList (Text.capitalize name.toList) ++ " " ++ (← version.display)
              ++ "+"
            return first :: (← versionTexts entries)
        | .bytes data =>
            let first := (← (Value.bytes (capitalizeBytes data)).display) ++ " "
              ++ (← version.display) ++ "+"
            return first :: (← versionTexts entries)
        | other =>
            throw (.noOperation ("'" ++ other.kindName ++ "' object has no attribute 'capitalize'"))
      else versionTexts entries

def lineOf (label text : String) : List String := if text == "" then [] else [label ++ text]

def placeLines (hits : List Hit) : List String :=
  let groups := Groups.ofPairs (· == ·) (hits.map fun hit => (hit.1, hit.2.property))
  ("   📍 Found in " ++ number groups.length ++ " selector(s):")
    :: groups.flatMap fun group =>
      ["      • " ++ shortSelector group.1,
       "        Properties: " ++ String.intercalate ", " group.2]

/-- Links to what is written elsewhere about a feature. A text without lone surrogates can always be
part of a link. -/
def referenceLines (id : String) (property : String) : List String :=
  let name := referenceName property
  ["   🔗 References:",
   "      MDN: https://developer.mozilla.org/en-US/docs/Web/CSS/" ++ String.ofList name,
   "      Web Features: https://web-platform-dx.github.io/web-features/" ++ id,
   "      Can I Use: https://caniuse.com/?search=" ++ String.ofList (Text.Percent.encode name)]

/-- All lines about a feature, whose first use says what is known of it. -/
def featureLines (index : Nat) (id : Value) (first : Issue) (hits : List Hit) :
    Except Fault (List String) := do
  let feature := first.feature
  let name ← id.display
  let description ←
    if feature.description.truthy then descriptionLines feature.description else pure []
  let versions ← versionTexts feature.versions
  return ["", number index ++ ". Feature: " ++ name]
    ++ description
    ++ lineOf "   📅 Baseline since: " (feature.year.getD "")
    ++ lineOf "   🌐 Browser support: " feature.summary
    ++ lineOf "   🔑 Compat key: " feature.compatKey
    ++ lineOf "   🌐 Browser versions: " (String.intercalate ", " versions)
    ++ referenceLines name first.property
    ++ placeLines hits

def featuresLines (index : Nat) : Groups Value Hit → Except Fault (List String)
  | [] => .ok []
  | (id, hits) :: groups => do
      let lines ←
        match hits with
        | [] => pure []
        | first :: _ => featureLines index id first.2 hits
      return lines ++ (← featuresLines (index + 1) groups)

def statusLines (status : Status) (hits : List Hit) : Except Fault (List String) := do
  if hits.isEmpty then return []
  match hits.find? fun hit => !hit.2.feature.id.isKey with
  | some hit =>
      throw (.wrongKind ("unhashable type: '" ++ hit.2.feature.id.kindName ++ "'"))
  | none =>
      let groups := Groups.ofPairs Value.equals (hits.map fun hit => (hit.2.feature.id, hit))
      let title := String.ofList (Text.upper status.tag.toList)
      return ["", sectionRule,
          status.icon ++ " " ++ title ++ " (" ++ number hits.length ++ " issues)", sectionRule]
        ++ (← featuresLines 1 groups)

def adviceLines (status : Status) (hits : List Hit) : List String :=
  if hits.isEmpty then []
  else ["", status.icon ++ " " ++ status.adviceHeading]
    ++ status.advice.map fun item => "   • " ++ item

def configLines (config : Config) : Except Fault (List String) := do
  let availability := String.intercalate ", " config.availability
  let threshold ←
    match config.yearThreshold with
    | some year => if year == 0 then pure "None" else (Value.int year).display
    | none => pure "None"
  return ["📋 Configuration:",
    "   Include Availability: " ++ (if availability == "" then "none" else availability),
    "   Baseline Year Threshold: " ++ threshold,
    "   Include Not Baseline: " ++ (if config.notBaseline then "True" else "False"),
    "   Strictness: " ++ (← config.strictness.display)]

def resourceLines : List String :=
  ["",
   "📚 Resources:",
   "   • MDN Web Docs: https://developer.mozilla.org/",
   "   • Can I Use: https://caniuse.com/",
   "   • Web Features: https://web-platform-dx.github.io/web-features/",
   "   • Baseline: https://web.dev/baseline/",
   "",
   rule]

def text (report : List ReportEntry) (config : Config) : Except Fault String := do
  let settings ← configLines config
  let total := (hits report).length
  let counts := Status.all.map fun status =>
    "   " ++ status.icon ++ " " ++ status.tag ++ ": " ++ number (hitsOf report status).length
  let sections ← Status.all.mapM fun status => statusLines status (hitsOf report status)
  let advice := Status.all.flatMap fun status => adviceLines status (hitsOf report status)
  return Text.joinLines
    (["", rule, "🎯 BASELINE ANALYSIS REPORT", rule, ""] ++ settings
      ++ ["", "📊 Summary:",
          "   Total Selectors Analyzed: " ++ number report.length,
          "   Total Issues Found: " ++ number total]
      ++ counts ++ sections.flatten
      ++ ["", rule, "💡 RECOMMENDATIONS", rule] ++ advice
      ++ (if total == 0 then
            ["", "No compatibility issues matched the current configuration."]
          else [])
      ++ resourceLines)

def json (report : List ReportEntry) : Except Fault String :=
  Json.write ⟨false, some 2, false⟩ (.list (report.map ReportEntry.toValue))

end Report

end BrowserScript.Baseline
