import BrowserScript.Value.Access

/-!
# Features and issues

A feature of the web platform has a Baseline status: it is not available everywhere, newly
available, or widely available. An issue is a place in a style sheet that uses a feature; issues
are reported under the selector of the rule they stand in.
-/

namespace BrowserScript.Baseline

inductive Status where
  | notBaseline
  | low
  | high
  deriving DecidableEq, Inhabited

namespace Status

def tag : Status → String
  | notBaseline => "Not Baseline"
  | low => "Low Baseline"
  | high => "High Baseline"

def all : List Status := [notBaseline, low, high]

/-- Grows as availability shrinks. -/
def restrictiveness : Status → Nat
  | high => 0
  | low => 1
  | notBaseline => 2

end Status

structure Feature where
  id : Value
  status : Status
  description : Value := .str ""
  year : Option String := none
  /-- The first supporting version of each browser. -/
  versions : Entries := []
  summary : String := ""
  compatKey : String := ""
  deriving Inhabited

structure Issue where
  property : String
  feature : Feature
  deriving Inhabited

structure ReportEntry where
  selector : String
  issues : List Issue
  deriving Inhabited

def optionalText : Option String → Value
  | some text => .str text
  | none => .null

namespace Issue

/-- Two issues of one selector are the same if they have one identity. -/
def sameIdentity (left right : Value × String) : Bool :=
  left.1.equals right.1 && left.2 == right.2

def identity (issue : Issue) : Value × String := (issue.feature.id, issue.property)

def toValue (issue : Issue) : Value :=
  .map
    [(.str "property", .str issue.property),
     (.str "status", .str issue.feature.status.tag),
     (.str "featureId", issue.feature.id),
     (.str "baselineYear", optionalText issue.feature.year),
     (.str "description", issue.feature.description),
     (.str "browserCompat", .map issue.feature.versions),
     (.str "browserCompatSummary", .str issue.feature.summary),
     (.str "compatKey", .str issue.feature.compatKey)]

end Issue

namespace ReportEntry

/-- Whether an entry belongs to an at-rule, which no element matches. -/
def isAtRule (entry : ReportEntry) : Bool := entry.selector.toList.head? == some '@'

def toValue (entry : ReportEntry) : Value :=
  .map
    [(.str "selector", .str entry.selector),
     (.str "issues", .list (entry.issues.map Issue.toValue))]

end ReportEntry

end BrowserScript.Baseline
