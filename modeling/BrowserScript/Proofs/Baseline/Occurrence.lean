import BrowserScript.Baseline.Analysis

/-!
# The uses of features, listed

What a walk through a style sheet takes up can be listed without the walk: for every rule, its own
uses, then those of what it encloses, from left to right and at any depth. The walk takes up the
members of this list one after another and nothing else.
-/

namespace BrowserScript.Baseline

open Css

structure Occurrence where
  selector : String
  feature : Feature
  property : String

namespace Occurrence

def issue (occurrence : Occurrence) : Issue := ⟨occurrence.property, occurrence.feature⟩

def ofFound (selector : String) (found : Option Feature) (property : String) : List Occurrence :=
  found.toList.map fun feature => ⟨selector, feature, property⟩

end Occurrence

mutual

def componentNames (afterColon : Bool) : Component → List String
  | .ident name => if afterColon then [name] else []
  | .function name arguments =>
      (if afterColon then [name] else []) ++ selectorNames false arguments
  | _ => []

/-- The names after a colon in a selector, those inside arguments included. -/
def selectorNames (afterColon : Bool) : List Component → List String
  | [] => []
  | component :: rest =>
      componentNames afterColon component ++ selectorNames (component.isLiteral ":") rest

end

mutual

def componentUses (lookup : Lookup) (selector property : String) : Component → List Occurrence
  | .function name arguments =>
      Occurrence.ofFound selector (lookup.get? (lowerName name))
          (property ++ ": " ++ lowerName name ++ "()")
        ++ valueUses lookup selector property arguments
  | .ident name =>
      if isTelling (lowerName name) then
        Occurrence.ofFound selector (lookup.get? (lowerName name))
          (property ++ ": " ++ lowerName name)
      else []
  | .block _ content => valueUses lookup selector property content
  | _ => []

def valueUses (lookup : Lookup) (selector property : String) : List Component → List Occurrence
  | [] => []
  | component :: rest =>
      componentUses lookup selector property component ++ valueUses lookup selector property rest

end

/-- The uses in a declaration. Custom properties have none. -/
def declarationUses (lookup : Lookup) (selector name : String) (value : List Component) :
    List Occurrence :=
  if "--".toList.isPrefixOf (lowerName name).toList then []
  else
    Occurrence.ofFound selector (lookup.get? (lowerName name)) (lowerName name)
      ++ valueUses lookup selector (lowerName name) value

def selectorUses (lookup : Lookup) (components : List Component) : List Occurrence :=
  (selectorNames false components).flatMap fun name =>
    Occurrence.ofFound (collapse components) (lookup.get? (String.ofList (Text.lower name.toList)))
      (":" ++ name)

/-- The use of an at-rule itself, under the first of its identifiers that is known. -/
def atRuleUses (lookup : Lookup) (name : String) (condition : List Component) : List Occurrence :=
  Occurrence.ofFound (atRuleSelector name condition)
    ((atRuleKeys name condition).findSome? lookup.get?) ("@" ++ name)

mutual

/-- All uses in a rule: its own, then those of its content. -/
def nodeUses (lookup : Lookup) (rule : Node) : List Occurrence :=
  match rule with
  | .qualified components content =>
      selectorUses lookup components ++ blockUses lookup (collapse components) content
  | .atRule keyword condition none => atRuleUses lookup (lowerName keyword) condition
  | .atRule keyword condition (some content) =>
      atRuleUses lookup (lowerName keyword) condition
        ++ if groupingAtRules.contains (lowerName keyword) then
            (readNodes .group content).attach.flatMap fun inner =>
              have := weight_lt_of_mem_readNodes inner.2
              nodeUses lookup inner.1
          else blockUses lookup (atRuleSelector (lowerName keyword) condition) content
  | .declaration .. => []
  | .unparsable => []
termination_by (rule.weight, 1)
decreasing_by all_goals grind [Node.weight]

def blockUses (lookup : Lookup) (selector : String) (content : List Component) :
    List Occurrence :=
  (readNodes .block content).attach.flatMap fun item =>
    have := weight_lt_of_mem_readNodes item.2
    match item.1 with
    | .declaration name value => declarationUses lookup selector name value
    | _ => nodeUses lookup item.1
termination_by (Component.totalWeight content, 0)
decreasing_by grind

end

def uses (lookup : Lookup) (nodes : List Node) : List Occurrence :=
  nodes.flatMap (nodeUses lookup)

mutual

theorem PseudoScan.step_eq (scan : PseudoScan) (component : Component) :
    scan.step component =
      ⟨scan.names ++ componentNames scan.afterColon component, component.isLiteral ":"⟩ := by
  cases component with
  | ident name =>
      cases colon : scan.afterColon <;>
        simp [PseudoScan.step, PseudoScan.take, componentNames, Component.isLiteral, colon]
  | function name arguments =>
      have inner := PseudoScan.scan_names {} arguments
      rw [List.nil_append] at inner
      cases colon : scan.afterColon <;>
        simp [PseudoScan.step, PseudoScan.take, componentNames, Component.isLiteral, colon, inner]
  | _ => simp [PseudoScan.step, componentNames, Component.isLiteral]

theorem PseudoScan.scan_names (scan : PseudoScan) (components : List Component) :
    (scan.scan components).names = scan.names ++ selectorNames scan.afterColon components := by
  cases components with
  | nil => simp [PseudoScan.scan, selectorNames]
  | cons component rest =>
      rw [PseudoScan.scan, PseudoScan.scan_names, PseudoScan.step_eq, selectorNames,
        List.append_assoc]

end

theorem pseudoNames_eq (components : List Component) :
    pseudoNames components = selectorNames false components :=
  PseudoScan.scan_names {} components

example :
    pseudoNames [.ident "a", .literal ":", .function "is" [.literal ":", .ident "hover"]] =
      ["is", "hover"] := by
  decide

namespace Analysis

def take (analysis : Analysis) (occurrence : Occurrence) : Analysis :=
  analysis.add occurrence.selector occurrence.feature occurrence.property

theorem addFound_eq (analysis : Analysis) (selector : String) (found : Option Feature)
    (property : String) :
    analysis.addFound selector found property =
      (Occurrence.ofFound selector found property).foldl take analysis := by
  cases found <;> rfl

mutual

theorem component_eq (lookup : Lookup) (selector property : String) (analysis : Analysis)
    (first : Component) :
    component lookup selector property analysis first =
      (componentUses lookup selector property first).foldl take analysis := by
  cases first with
  | function name arguments =>
      rw [component, componentUses, List.foldl_append, value_eq, addFound_eq]
  | ident name =>
      rw [component, componentUses]
      split
      · exact addFound_eq ..
      · rfl
  | block bracket content =>
      rw [component, componentUses, value_eq]
  | _ => rfl

theorem value_eq (lookup : Lookup) (selector property : String) (analysis : Analysis)
    (components : List Component) :
    value lookup selector property analysis components =
      (valueUses lookup selector property components).foldl take analysis := by
  cases components with
  | nil => rfl
  | cons first rest =>
      rw [value, valueUses, List.foldl_append, value_eq, component_eq]

end

theorem declaration_eq (lookup : Lookup) (selector name : String) (content : List Component)
    (analysis : Analysis) :
    declaration lookup selector name content analysis =
      (declarationUses lookup selector name content).foldl take analysis := by
  simp only [declaration, declarationUses]
  split
  · rfl
  · rw [List.foldl_append, value_eq, addFound_eq]

theorem atRule_eq (lookup : Lookup) (name : String) (condition : List Component)
    (analysis : Analysis) :
    atRule lookup name condition analysis =
      (atRuleUses lookup name condition).foldl take analysis := by
  rw [atRule, atRuleUses, addFound_eq]

theorem selector_eq (lookup : Lookup) (components : List Component) (analysis : Analysis) :
    selector lookup components analysis = (selectorUses lookup components).foldl take analysis := by
  rw [selector, selectorUses, List.foldl_flatMap, pseudoNames_eq]
  simp only [addFound_eq]

mutual

/-- A walk through a rule takes up its listed uses. The content of a rule is read again, so the
induction is on its weight and not on the rule. -/
theorem node_eq (lookup : Lookup) (rule : Node) (analysis : Analysis) :
    node lookup rule analysis = (nodeUses lookup rule).foldl take analysis := by
  cases rule with
  | qualified components content =>
      rw [node, nodeUses, List.foldl_append, selector_eq, block_eq]
  | atRule keyword condition content =>
      cases content with
      | none => rw [node, nodeUses, atRule_eq]
      | some content =>
          rw [node, nodeUses, List.foldl_append]
          simp only [atRule_eq]
          split
          · rw [List.foldl_flatMap]
            congr 1
            funext analysis inner
            exact node_eq lookup inner.1 analysis
          · exact block_eq ..
  | declaration name value => rw [node, nodeUses]; rfl
  | unparsable => rw [node, nodeUses]; rfl
termination_by (rule.weight, 1)
decreasing_by all_goals grind [Node.weight, weight_lt_of_mem_readNodes]

theorem block_eq (lookup : Lookup) (selector : String) (content : List Component)
    (analysis : Analysis) :
    block lookup selector content analysis =
      (blockUses lookup selector content).foldl take analysis := by
  rw [block, blockUses, List.foldl_flatMap]
  congr 1
  funext analysis ⟨item, member⟩
  cases item with
  | declaration name value => exact declaration_eq ..
  | _ => exact node_eq ..
termination_by (Component.totalWeight content, 0)
decreasing_by all_goals grind [weight_lt_of_mem_readNodes]

end

/-- A walk takes up exactly the listed uses, in their order. -/
theorem walk_eq (lookup : Lookup) (analysis : Analysis) (nodes : List Node) :
    walk lookup analysis nodes = (uses lookup nodes).foldl take analysis := by
  rw [walk, uses, List.foldl_flatMap]
  simp only [node_eq]

end Analysis

end BrowserScript.Baseline
