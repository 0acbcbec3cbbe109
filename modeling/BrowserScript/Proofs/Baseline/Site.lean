import BrowserScript.Proofs.Baseline.Occurrence

/-!
# The places that are looked up

Which parts of a style sheet are looked up, and under which identifiers, does not depend on the
features that are known. The places are listed once for a style sheet; the uses that a lookup finds
are those of its places, so that two lookups can be compared place by place.
-/

namespace BrowserScript.Baseline

open Css

inductive Construct where
  | pseudoClass (name : String)
  | atRule (name : String) (condition : List Component)
  | property (name : String)
  | function (property name : String)
  | keyword (property name : String)

namespace Construct

def text : Construct → String
  | .pseudoClass name => ":" ++ name
  | .atRule name _ => "@" ++ name
  | .property name => name
  | .function declared name => declared ++ ": " ++ name ++ "()"
  | .keyword declared name => declared ++ ": " ++ name

/-- The identifiers that the syntax is looked up under, in the order in which they are tried. -/
def keys : Construct → List String
  | .pseudoClass name => [String.ofList (Text.lower name.toList)]
  | .atRule name condition => atRuleKeys name condition
  | .property name => [name]
  | .function _ name => [name]
  | .keyword _ name => [name]

end Construct

/-- A construct under the selector that its issues are reported under. -/
structure Site where
  selector : String
  construct : Construct

namespace Site

def found? (lookup : Lookup) (site : Site) : Option Feature :=
  site.construct.keys.findSome? lookup.get?

/-- The use at a place, if the lookup has a feature for it. -/
def uses (lookup : Lookup) (site : Site) : List Occurrence :=
  Occurrence.ofFound site.selector (site.found? lookup) site.construct.text

theorem mem_uses {lookup : Lookup} {site : Site} {use : Occurrence} :
    use ∈ site.uses lookup ↔
      ∃ feature, site.found? lookup = some feature ∧
        use = ⟨site.selector, feature, site.construct.text⟩ := by
  simp only [uses, Occurrence.ofFound, List.mem_map, Option.mem_toList, eq_comm]

theorem uses_of_keys_singleton {lookup : Lookup} {site : Site} {key : String}
    (single : site.construct.keys = [key]) :
    site.uses lookup =
      Occurrence.ofFound site.selector (lookup.get? key) site.construct.text := by
  rw [uses, found?, single, List.findSome?_singleton]

end Site

mutual

def componentSites (selector property : String) : Component → List Site
  | .function name arguments =>
      ⟨selector, .function property (lowerName name)⟩ :: valueSites selector property arguments
  | .ident name =>
      if isTelling (lowerName name) then [⟨selector, .keyword property (lowerName name)⟩] else []
  | .block _ content => valueSites selector property content
  | _ => []

def valueSites (selector property : String) : List Component → List Site
  | [] => []
  | component :: rest =>
      componentSites selector property component ++ valueSites selector property rest

end

/-- The places in a declaration. Custom properties have none. -/
def declarationSites (selector name : String) (value : List Component) : List Site :=
  if "--".toList.isPrefixOf (lowerName name).toList then []
  else ⟨selector, .property (lowerName name)⟩ :: valueSites selector (lowerName name) value

def selectorSites (components : List Component) : List Site :=
  (selectorNames false components).map fun name => ⟨collapse components, .pseudoClass name⟩

def atRuleSite (name : String) (condition : List Component) : Site :=
  ⟨atRuleSelector name condition, .atRule name condition⟩

mutual

/-- All places in a rule: its own, then those of its content. -/
def nodeSites (rule : Node) : List Site :=
  match rule with
  | .qualified components content =>
      selectorSites components ++ blockSites (collapse components) content
  | .atRule keyword condition none => [atRuleSite (lowerName keyword) condition]
  | .atRule keyword condition (some content) =>
      atRuleSite (lowerName keyword) condition ::
        if groupingAtRules.contains (lowerName keyword) then
          (readNodes .group content).attach.flatMap fun inner =>
            have := weight_lt_of_mem_readNodes inner.2
            nodeSites inner.1
        else blockSites (atRuleSelector (lowerName keyword) condition) content
  | .declaration .. => []
  | .unparsable => []
termination_by (rule.weight, 1)
decreasing_by all_goals grind [Node.weight]

def blockSites (selector : String) (content : List Component) : List Site :=
  (readNodes .block content).attach.flatMap fun item =>
    have := weight_lt_of_mem_readNodes item.2
    match item.1 with
    | .declaration name value => declarationSites selector name value
    | _ => nodeSites item.1
termination_by (Component.totalWeight content, 0)
decreasing_by grind

end

def sites (nodes : List Node) : List Site := nodes.flatMap nodeSites

mutual

theorem componentUses_eq (lookup : Lookup) (selector property : String) (component : Component) :
    componentUses lookup selector property component =
      (componentSites selector property component).flatMap (Site.uses lookup) := by
  cases component with
  | function name arguments =>
      rw [componentUses, componentSites, List.flatMap_cons, valueUses_eq,
        Site.uses_of_keys_singleton rfl]
      rfl
  | ident name =>
      rw [componentUses, componentSites]
      split
      · rw [List.flatMap_singleton, Site.uses_of_keys_singleton rfl]
        rfl
      · rfl
  | block bracket content => rw [componentUses, componentSites, valueUses_eq]
  | _ => rfl

theorem valueUses_eq (lookup : Lookup) (selector property : String) (components : List Component) :
    valueUses lookup selector property components =
      (valueSites selector property components).flatMap (Site.uses lookup) := by
  cases components with
  | nil => rfl
  | cons component rest =>
      rw [valueUses, valueSites, List.flatMap_append, componentUses_eq, valueUses_eq]

end

theorem declarationUses_eq (lookup : Lookup) (selector name : String) (value : List Component) :
    declarationUses lookup selector name value =
      (declarationSites selector name value).flatMap (Site.uses lookup) := by
  rw [declarationUses, declarationSites]
  split
  · rfl
  · rw [List.flatMap_cons, valueUses_eq, Site.uses_of_keys_singleton rfl]
    rfl

theorem selectorUses_eq (lookup : Lookup) (components : List Component) :
    selectorUses lookup components = (selectorSites components).flatMap (Site.uses lookup) := by
  rw [selectorUses, selectorSites, List.flatMap_map]
  congr 1
  funext name
  rw [Site.uses_of_keys_singleton rfl]
  rfl

theorem atRuleUses_eq (lookup : Lookup) (name : String) (condition : List Component) :
    atRuleUses lookup name condition = (atRuleSite name condition).uses lookup := rfl

mutual

theorem nodeUses_eq (lookup : Lookup) (rule : Node) :
    nodeUses lookup rule = (nodeSites rule).flatMap (Site.uses lookup) := by
  cases rule with
  | qualified components content =>
      rw [nodeUses, nodeSites, List.flatMap_append, selectorUses_eq, blockUses_eq]
  | atRule keyword condition content =>
      cases content with
      | none => rw [nodeUses, nodeSites, List.flatMap_singleton, atRuleUses_eq]
      | some content =>
          rw [nodeUses, nodeSites, List.flatMap_cons, atRuleUses_eq]
          congr 1
          split
          · rw [List.flatMap_assoc]
            congr 1
            funext inner
            exact nodeUses_eq lookup inner.1
          · exact blockUses_eq ..
  | declaration name value => rw [nodeUses, nodeSites]; rfl
  | unparsable => rw [nodeUses, nodeSites]; rfl
termination_by (rule.weight, 1)
decreasing_by all_goals grind [Node.weight, weight_lt_of_mem_readNodes]

theorem blockUses_eq (lookup : Lookup) (selector : String) (content : List Component) :
    blockUses lookup selector content =
      (blockSites selector content).flatMap (Site.uses lookup) := by
  rw [blockUses, blockSites, List.flatMap_assoc]
  congr 1
  funext ⟨item, member⟩
  cases item with
  | declaration name value => exact declarationUses_eq ..
  | _ => exact nodeUses_eq ..
termination_by (Component.totalWeight content, 0)
decreasing_by all_goals grind [weight_lt_of_mem_readNodes]

end

/-- The uses that a lookup finds are those at the places of the style sheet, in their order. -/
theorem uses_eq_flatMap_sites (lookup : Lookup) (nodes : List Node) :
    uses lookup nodes = (sites nodes).flatMap (Site.uses lookup) := by
  rw [uses, sites, List.flatMap_assoc]
  congr 1
  funext rule
  exact nodeUses_eq lookup rule

end BrowserScript.Baseline
