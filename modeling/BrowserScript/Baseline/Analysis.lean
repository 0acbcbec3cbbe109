import BrowserScript.Baseline.Config
import BrowserScript.Css.Rule
import BrowserScript.Css.Serialize
import BrowserScript.Groups
import BrowserScript.Log
import BrowserScript.Text.Blank
import BrowserScript.Text.Casing

/-!
# Finding features in style sheets

One walk takes up the known features depth first and from left to right: the pseudo-classes of a
selector before its block, the name of an at-rule before its content, the property of a declaration
before the functions and keywords of its value. Issues are collected under their selectors, each
feature and syntax once, and filtered by the configuration at the end.
-/

namespace BrowserScript.Baseline

open Css

abbrev Lookup := List (String × Feature)

def Lookup.get? (lookup : Lookup) (identifier : String) : Option Feature :=
  (lookup.find? fun entry => entry.1 == identifier).map (·.2)

/-- Keywords that nearly every property takes, and units. -/
def ignoredIdentifiers : List String :=
  ["inherit", "initial", "unset", "revert", "revert-layer",
   "auto", "none", "normal", "transparent", "currentcolor",
   "solid", "dashed", "dotted", "hidden", "visible",
   "absolute", "relative", "fixed", "static",
   "block", "inline", "inline-block",
   "left", "right", "center", "top", "bottom",
   "bold", "italic", "both", "pointer", "default",
   "black", "white",
   "px", "em", "rem", "%", "vh", "vw", "vmin", "vmax",
   "s", "ms", "deg", "rad", "turn", "fr",
   "pt", "pc", "in", "cm", "mm", "ch", "ex", "dpi", "dppx"]

/-- At-rules whose block holds rules rather than declarations. -/
def groupingAtRules : List String :=
  ["media", "supports", "container", "layer", "document", "-moz-document", "scope",
   "starting-style"]

def styleQueryKeys : List String :=
  ["container.style_queries_for_custom_properties", "container-style-queries"]

def lowerName (name : String) : String := String.ofList (Text.lowerAscii name.toList)

/-- The text of components with single spaces between its words. -/
def collapse (components : List Component) : String :=
  String.intercalate " " ((Text.words (serialize components).toList).map String.ofList)

/-- The names found so far in a selector, and whether a colon came last. -/
structure PseudoScan where
  names : List String := []
  afterColon : Bool := false

def PseudoScan.take (scan : PseudoScan) (name : String) : List String :=
  if scan.afterColon then scan.names ++ [name] else scan.names

mutual

def PseudoScan.step (scan : PseudoScan) : Component → PseudoScan
  | .ident name => { names := scan.take name }
  | .function name arguments =>
      { names := scan.take name ++ (PseudoScan.scan {} arguments).names }
  | component => { scan with afterColon := component.isLiteral ":" }

def PseudoScan.scan (scan : PseudoScan) : List Component → PseudoScan
  | [] => scan
  | component :: rest => PseudoScan.scan (scan.step component) rest

end

/-- The names after a colon in a selector, those inside arguments included. -/
def pseudoNames (components : List Component) : List String := (PseudoScan.scan {} components).names

def isTelling (identifier : String) : Bool :=
  !("--".toList.isPrefixOf identifier.toList) && !ignoredIdentifiers.contains identifier

def conditionText (condition : List Component) : String :=
  String.ofList (Text.lower (collapse condition).toList)

def atRuleSelector (name : String) (condition : List Component) : String :=
  String.ofList (Text.trim ("@" ++ name ++ " " ++ conditionText condition).toList)

def occursIn (part : List Char) : List Char → Bool
  | [] => part.isEmpty
  | c :: rest => part.isPrefixOf (c :: rest) || occursIn part rest

def atRuleKeys (name : String) (condition : List Component) : List String :=
  let text := (conditionText condition).toList
  if name == "container" && (occursIn "style(".toList text || occursIn "--".toList text) then
    styleQueryKeys
  else [name]

/-- The issues collected so far, and the identities already seen under each selector. -/
structure Analysis where
  issues : Groups String Issue := []
  seen : Groups String (Value × String) := []

namespace Analysis

def sameSelector (left right : String) : Bool := left == right

/-- Take up a use of a feature unless its selector has one of the same identity. -/
def add (analysis : Analysis) (selector : String) (feature : Feature) (property : String) :
    Analysis :=
  let issue : Issue := ⟨property, feature⟩
  let seen := analysis.seen.get sameSelector selector
  if seen.any (Issue.sameIdentity issue.identity) then analysis
  else
    { issues := analysis.issues.add sameSelector selector issue
      seen := analysis.seen.add sameSelector selector issue.identity }

def addFound (analysis : Analysis) (selector : String) (found : Option Feature)
    (property : String) : Analysis :=
  match found with
  | some feature => analysis.add selector feature property
  | none => analysis

mutual

def component (lookup : Lookup) (selector property : String) (analysis : Analysis) :
    Component → Analysis
  | .function name arguments =>
      value lookup selector property
        (analysis.addFound selector (lookup.get? (lowerName name))
          (property ++ ": " ++ lowerName name ++ "()"))
        arguments
  | .ident name =>
      if isTelling (lowerName name) then
        analysis.addFound selector (lookup.get? (lowerName name))
          (property ++ ": " ++ lowerName name)
      else analysis
  | .block _ content => value lookup selector property analysis content
  | _ => analysis

def value (lookup : Lookup) (selector property : String) (analysis : Analysis) :
    List Component → Analysis
  | [] => analysis
  | first :: rest =>
      value lookup selector property (component lookup selector property analysis first) rest

end

/-- Take up a declaration, unless it is of a custom property. -/
def declaration (lookup : Lookup) (selector name : String) (content : List Component)
    (analysis : Analysis) : Analysis :=
  let property := lowerName name
  if "--".toList.isPrefixOf property.toList then analysis
  else
    value lookup selector property
      (analysis.addFound selector (lookup.get? property) property) content

def selector (lookup : Lookup) (components : List Component) (analysis : Analysis) : Analysis :=
  (pseudoNames components).foldl
    (fun analysis name =>
      analysis.addFound (collapse components)
        (lookup.get? (String.ofList (Text.lower name.toList))) (":" ++ name))
    analysis

def atRule (lookup : Lookup) (name : String) (condition : List Component) (analysis : Analysis) :
    Analysis :=
  analysis.addFound (atRuleSelector name condition)
    ((atRuleKeys name condition).findSome? lookup.get?) ("@" ++ name)

mutual

def node (lookup : Lookup) (rule : Node) (analysis : Analysis) : Analysis :=
  match rule with
  | .qualified components content =>
      block lookup (collapse components) content (selector lookup components analysis)
  | .atRule keyword condition none => atRule lookup (lowerName keyword) condition analysis
  | .atRule keyword condition (some content) =>
      let name := lowerName keyword
      let analysis := atRule lookup name condition analysis
      if groupingAtRules.contains name then
        (readNodes .group content).attach.foldl
          (fun analysis inner =>
            have := weight_lt_of_mem_readNodes inner.2
            node lookup inner.1 analysis)
          analysis
      else block lookup (atRuleSelector name condition) content analysis
  | .declaration .. => analysis
  | .unparsable => analysis
termination_by (rule.weight, 1)
decreasing_by all_goals grind [Node.weight]

/-- Take up the declarations of a block and the rules nested in it. Content read again from a block
weighs less than the block. -/
def block (lookup : Lookup) (selector : String) (content : List Component) (analysis : Analysis) :
    Analysis :=
  (readNodes .block content).attach.foldl
    (fun analysis item =>
      have := weight_lt_of_mem_readNodes item.2
      match item.1 with
      | .declaration name value => declaration lookup selector name value analysis
      | _ => node lookup item.1 analysis)
    analysis
termination_by (Component.totalWeight content, 0)
decreasing_by grind

end

def walk (lookup : Lookup) (analysis : Analysis) (nodes : List Node) : Analysis :=
  nodes.foldl (fun analysis rule => node lookup rule analysis) analysis

def report (config : Config) (analysis : Analysis) : List ReportEntry :=
  analysis.issues.filterMap fun group =>
    let kept := group.2.filter fun issue => config.includes issue.feature.status
    if kept.isEmpty then none else some ⟨group.1, kept⟩

end Analysis

def countText (before : String) (count : Nat) (after : String) : String :=
  before ++ String.ofList (natText count) ++ after

def isUnparsable : Node → Bool
  | .unparsable => true
  | _ => false

def sheetRules (css : String) : List Node :=
  (readNodes .sheet (components css)).filter (!isUnparsable ·)

/-- The rules of a style sheet, and what is logged about the rest. -/
def readStylesheet (css : String) : Except Fault (List Node × List LogLine) :=
  match overlong? css with
  | some digits => .error (.invalid (.integerTooLong (some digits)))
  | none =>
      let damaged := (readNodes .sheet (components css)).filter isUnparsable
      .ok (sheetRules css,
        if damaged.isEmpty then []
        else [⟨.debug, countText "Skipped " damaged.length " unparsable CSS fragments"⟩])

def analyze (nodes : List Node) (lookup : Lookup) (config : Config) : List ReportEntry :=
  (Analysis.walk lookup {} nodes).report config

def analysisLog (report : List ReportEntry) : LogLine :=
  ⟨.debug, countText "Analysis found issues under " report.length " selectors"⟩

end BrowserScript.Baseline
