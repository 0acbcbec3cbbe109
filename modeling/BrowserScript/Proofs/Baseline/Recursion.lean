import BrowserScript.Proofs.Baseline.Sheets
import BrowserScript.Proofs.Baseline.Site
import BrowserScript.Proofs.Css.Share
import Mathlib.Logic.Function.Iterate

/-!
# The recursion of the walk

The walk through a style sheet calls itself: a rule has its selector and its block walked, a block is
read again into declarations and rules, a value and a selector descend into their brackets. Here the
calls are data and the recursion is run on a stack, one action at a time, so that nothing about its
end is taken for granted. Every rule that is read from a block encloses less than the block; hence
calls do not nest for ever, and a call is over after a number of actions that is linear in the
components it is given. What it has then taken up is what the walk takes up.
-/

namespace BrowserScript.Baseline

open Css Css.Component

/-- A call of one of the functions that walk through a style sheet. -/
inductive Call where
  | walk (nodes : List Node)
  | rule (selector content : List Component)
  | atRule (keyword : String) (condition : List Component) (content : Option (List Component))
  | block (selector : String) (content : List Component)
  | declaration (selector name : String) (value : List Component)
  | value (selector property : String) (components : List Component)
  /-- The names after a colon, which are looked up as they are found. -/
  | pseudoClasses (selector : String) (components : List Component)

/-- What a call does on its way: look up a place, or call another function. -/
inductive Action where
  | visit (site : Site)
  | call (call : Call)

namespace Call

def nodeActions : Node → List Action
  | .qualified selector content => [.call (.rule selector content)]
  | .atRule keyword condition content => [.call (.atRule keyword condition content)]
  | _ => []

def itemActions (selector : String) : Node → List Action
  | .declaration name content => [.call (.declaration selector name content)]
  | .unparsable => []
  | other => [.call (.walk [other])]

def componentActions (selector property : String) : Component → List Action
  | .function name arguments =>
      [.visit ⟨selector, .function property (lowerName name)⟩,
        .call (.value selector property arguments)]
  | .ident name =>
      if isTelling (lowerName name) then [.visit ⟨selector, .keyword property (lowerName name)⟩]
      else []
  | .block _ content => [.call (.value selector property content)]
  | _ => []

def nameActions (selector : String) (afterColon : Bool) : Component → List Action
  | .ident name => if afterColon then [.visit ⟨selector, .pseudoClass name⟩] else []
  | .function name arguments =>
      (if afterColon then [.visit ⟨selector, .pseudoClass name⟩] else [])
        ++ [.call (.pseudoClasses selector arguments)]
  | _ => []

def namesActions (selector : String) (afterColon : Bool) : List Component → List Action
  | [] => []
  | component :: rest =>
      nameActions selector afterColon component
        ++ namesActions selector (component.isLiteral ":") rest

/-- The actions of a call, in order. Only actions descend: the list itself is made without
recursion into brackets. -/
def body : Call → List Action
  | .walk nodes => nodes.flatMap nodeActions
  | .rule selector content =>
      [.call (.pseudoClasses (collapse selector) selector),
        .call (.block (collapse selector) content)]
  | .atRule keyword condition content =>
      .visit (atRuleSite (lowerName keyword) condition) ::
        match content with
        | none => []
        | some content =>
            if groupingAtRules.contains (lowerName keyword) then
              [.call (.walk (readNodes .group content))]
            else [.call (.block (atRuleSelector (lowerName keyword) condition) content)]
  | .block selector content => (readNodes .block content).flatMap (itemActions selector)
  | .declaration selector name content =>
      if "--".toList.isPrefixOf (lowerName name).toList then []
      else
        [.visit ⟨selector, .property (lowerName name)⟩,
          .call (.value selector (lowerName name) content)]
  | .value selector property components =>
      components.flatMap (componentActions selector property)
  | .pseudoClasses selector components => namesActions selector false components

def effect (lookup : Lookup) (analysis : Analysis) : Call → Analysis
  | .walk nodes => analysis.walk lookup nodes
  | .rule selector content => analysis.node lookup (.qualified selector content)
  | .atRule keyword condition content => analysis.node lookup (.atRule keyword condition content)
  | .block selector content => analysis.block lookup selector content
  | .declaration selector name content => analysis.declaration lookup selector name content
  | .value selector property components => analysis.value lookup selector property components
  | .pseudoClasses selector components =>
      (pseudoNames components).foldl
        (fun analysis name =>
          analysis.addFound selector (lookup.get? (String.ofList (Text.lower name.toList)))
            (":" ++ name))
        analysis

def nodeCost : Node → Nat
  | .qualified selector content => 2 * totalWeight selector + 4 * totalWeight content + 3
  | .atRule _ _ none => 2
  | .atRule _ _ (some content) => 4 * totalWeight content + 3
  | _ => 0

/-- The actions that a call costs, its own and those of the calls inside it. -/
def cost : Call → Nat
  | .walk nodes => (nodes.map nodeCost).sum + 1
  | .rule selector content => 2 * totalWeight selector + 4 * totalWeight content + 3
  | .atRule _ _ none => 2
  | .atRule _ _ (some content) => 4 * totalWeight content + 3
  | .block _ content => 4 * totalWeight content + 1
  | .declaration _ _ content => 2 * totalWeight content + 3
  | .value _ _ components => 2 * totalWeight components + 1
  | .pseudoClasses _ components => 2 * totalWeight components + 1

end Call

namespace Action

def cost : Action → Nat
  | .visit _ => 1
  | .call inner => inner.cost

def totalCost (actions : List Action) : Nat := (actions.map cost).sum

@[simp] theorem totalCost_nil : totalCost [] = 0 := rfl

@[simp] theorem totalCost_cons (action : Action) (actions : List Action) :
    totalCost (action :: actions) = action.cost + totalCost actions := List.sum_cons

theorem totalCost_append (first second : List Action) :
    totalCost (first ++ second) = totalCost first + totalCost second := by
  rw [totalCost, List.map_append, List.sum_append, totalCost, totalCost]

theorem cost_le_totalCost {action : Action} {actions : List Action} (member : action ∈ actions) :
    action.cost ≤ totalCost actions := by
  obtain ⟨before, after, rfl⟩ := List.append_of_mem member
  rw [totalCost_append, totalCost_cons]
  omega

/-- If each item costs at most a number of actions for each unit of its size, so do all together. -/
theorem totalCost_flatMap_le {α : Type} {actions : α → List Action} {size : α → Nat} {factor : Nat}
    (each : ∀ item, totalCost (actions item) ≤ factor * size item) (items : List α) :
    totalCost (items.flatMap actions) ≤ factor * (items.map size).sum := by
  induction items with
  | nil => exact Nat.zero_le _
  | cons item items ih =>
      rw [List.flatMap_cons, totalCost_append, List.map_cons, List.sum_cons, Nat.mul_add]
      exact Nat.add_le_add (each item) ih

end Action

namespace Call

open Baseline.Action

variable (selector : String)

/-! ## The cost of a call covers its actions -/

theorem totalCost_nodeActions_le (node : Node) :
    totalCost (nodeActions node) ≤ 1 * nodeCost node := by
  rw [Nat.one_mul]
  cases node with
  | atRule keyword condition content => cases content <;> exact Nat.le_refl _
  | _ => exact Nat.le_refl _

/-- A rule costs less than four actions for each of its components. -/
theorem nodeCost_le (node : Node) : nodeCost node ≤ 4 * node.size - 1 := by
  cases node with
  | atRule keyword condition content =>
      cases content <;> simp only [nodeCost, Node.size] <;> omega
  | _ => simp only [nodeCost, Node.size]; omega

theorem cost_walk_singleton (node : Node) : (walk [node]).cost = nodeCost node + 1 := rfl

theorem totalCost_itemActions_le (item : Node) :
    totalCost (itemActions selector item) ≤ 4 * item.size := by
  have bound := nodeCost_le item
  cases item with
  | declaration name value =>
      simp only [itemActions, totalCost_cons, totalCost_nil, Action.cost, cost, Node.size]
      omega
  | unparsable => exact Nat.le_refl 0
  | qualified components content =>
      simp only [itemActions, totalCost_cons, totalCost_nil, Action.cost, cost_walk_singleton,
        Node.size] at bound ⊢
      omega
  | atRule keyword condition content =>
      have positive : 0 < (Node.atRule keyword condition content).size := by
        cases content <;> exact Nat.succ_pos _
      simp only [itemActions, totalCost_cons, totalCost_nil, Action.cost, cost_walk_singleton]
      omega

theorem totalCost_componentActions_le (selector property : String) (component : Component) :
    totalCost (componentActions selector property component) ≤ 2 * component.weight := by
  cases component with
  | function name arguments =>
      simp only [componentActions, totalCost_cons, totalCost_nil, Action.cost, cost, Component.weight]
      omega
  | ident name =>
      simp only [componentActions]
      split
      · exact Nat.le_succ 1
      · exact Nat.zero_le _
  | block bracket content =>
      simp only [componentActions, totalCost_cons, totalCost_nil, Action.cost, cost, Component.weight]
      omega
  | _ => exact Nat.zero_le _

theorem totalCost_nameActions_le (afterColon : Bool) (component : Component) :
    totalCost (nameActions selector afterColon component) ≤ 2 * component.weight := by
  cases component with
  | ident name => cases afterColon <;> exact Nat.le_of_ble_eq_true rfl
  | function name arguments =>
      cases afterColon <;>
        simp only [nameActions, totalCost_cons, totalCost_nil, Bool.false_eq_true, if_true, if_false,
          List.nil_append, List.cons_append, Action.cost, cost, Component.weight] <;>
        omega
  | _ => exact Nat.zero_le _

theorem totalCost_namesActions_le (afterColon : Bool) (components : List Component) :
    totalCost (namesActions selector afterColon components) ≤ 2 * totalWeight components := by
  induction components generalizing afterColon with
  | nil => exact Nat.zero_le _
  | cons component rest ih =>
      have first := totalCost_nameActions_le selector afterColon component
      have later := ih (component.isLiteral ":")
      rw [namesActions, totalCost_append, totalWeight]
      omega

/-- The rules of a list cost less than four actions for each component. -/
theorem cost_walk_le (nodes : List Node) : (walk nodes).cost ≤ 4 * Node.totalSize nodes + 1 := by
  rw [cost, Node.totalSize]
  refine Nat.add_le_add_right ?_ 1
  induction nodes with
  | nil => exact Nat.le_refl 0
  | cons node nodes ih =>
      have bound := nodeCost_le node
      simp only [List.map_cons, List.sum_cons]
      omega

/-- A call costs more than all its actions: what a block is read into takes disjoint parts of it. -/
theorem totalCost_body_lt (call : Call) : totalCost call.body < call.cost := by
  cases call with
  | walk nodes =>
      have bound := totalCost_flatMap_le totalCost_nodeActions_le nodes
      simp only [body, cost]
      omega
  | rule selector content =>
      simp only [body, totalCost_cons, totalCost_nil, Action.cost, cost]
      omega
  | atRule keyword condition content =>
      cases content with
      | none => exact Nat.lt_succ_self 1
      | some content =>
          have reread := totalSize_readNodes_le .group content
          have bound := cost_walk_le (readNodes .group content)
          simp only [body]
          split
          · simp only [totalCost_cons, totalCost_nil, Action.cost, cost] at bound ⊢
            omega
          · simp only [totalCost_cons, totalCost_nil, Action.cost, cost]
            omega
  | block selector content =>
      have reread := totalSize_readNodes_le .block content
      have bound := totalCost_flatMap_le (totalCost_itemActions_le selector)
        (readNodes .block content)
      rw [← Node.totalSize] at bound
      simp only [body, cost]
      omega
  | declaration selector name value =>
      simp only [body]
      split
      · exact Nat.succ_pos _
      · simp only [totalCost_cons, totalCost_nil, Action.cost, cost]
        omega
  | value selector property components =>
      have bound := totalCost_flatMap_le (totalCost_componentActions_le selector property)
        components
      rw [← totalWeight_eq_sum] at bound
      simp only [body, cost]
      omega
  | pseudoClasses selector components =>
      have bound := totalCost_namesActions_le selector false components
      simp only [body, cost]
      omega

/-! ## The places of a call are those of its actions -/

def sites : Call → List Site
  | .walk nodes => Baseline.sites nodes
  | .rule selector content => nodeSites (.qualified selector content)
  | .atRule keyword condition content => nodeSites (.atRule keyword condition content)
  | .block selector content => blockSites selector content
  | .declaration selector name content => declarationSites selector name content
  | .value selector property components => valueSites selector property components
  | .pseudoClasses selector components =>
      (selectorNames false components).map fun name => ⟨selector, .pseudoClass name⟩

end Call

namespace Action

def sites : Action → List Site
  | .visit site => [site]
  | .call inner => inner.sites

end Action

namespace Call

variable (selector : String)

theorem sites_nodeActions (node : Node) :
    (nodeActions node).flatMap Action.sites = nodeSites node := by
  cases node with
  | declaration name value => rw [nodeSites]; rfl
  | unparsable => rw [nodeSites]; rfl
  | _ => exact List.flatMap_singleton ..

theorem sites_componentActions (selector property : String) (component : Component) :
    (componentActions selector property component).flatMap Action.sites =
      componentSites selector property component := by
  cases component with
  | function name arguments =>
      rw [componentSites, componentActions, List.flatMap_cons, List.flatMap_singleton]
      rfl
  | ident name =>
      rw [componentSites, componentActions]
      split <;> rfl
  | block bracket content =>
      rw [componentSites, componentActions, List.flatMap_singleton]
      rfl
  | _ => rfl

theorem sites_namesActions (afterColon : Bool) (components : List Component) :
    (namesActions selector afterColon components).flatMap Action.sites =
      (selectorNames afterColon components).map fun name => ⟨selector, .pseudoClass name⟩ := by
  induction components generalizing afterColon with
  | nil => rfl
  | cons component rest ih =>
      rw [namesActions, selectorNames, List.flatMap_append, ih, List.map_append]
      congr 1
      cases component with
      | ident name => cases afterColon <;> rfl
      | function name arguments =>
          rw [nameActions, componentNames, List.flatMap_append, List.map_append,
            List.flatMap_singleton]
          cases afterColon <;> rfl
      | _ => rfl

def itemSites (selector : String) : Node → List Site
  | .declaration name content => declarationSites selector name content
  | other => nodeSites other

theorem sites_itemActions (item : Node) :
    (itemActions selector item).flatMap Action.sites = itemSites selector item := by
  cases item with
  | declaration name value => exact List.flatMap_singleton ..
  | unparsable =>
      rw [itemSites, nodeSites]
      · rfl
      · intro _ _ impossible
        cases impossible
  | _ =>
      dsimp only [itemActions]
      rw [List.flatMap_singleton]
      exact List.flatMap_singleton ..

theorem blockSites_eq (content : List Component) :
    blockSites selector content = (readNodes .block content).flatMap (itemSites selector) := by
  have nodes := List.unattach_attach (l := readNodes .block content)
  rw [blockSites, ← congrArg (List.flatMap (itemSites selector)) nodes]
  refine List.flatMap_subtype fun item _ => ?_
  cases item <;> rfl

/-- A call looks up what its actions look up, in their order. -/
theorem sites_eq_flatMap_body (call : Call) : call.sites = call.body.flatMap Action.sites := by
  cases call with
  | walk nodes =>
      simp only [sites, body, List.flatMap_assoc, sites_nodeActions]
      rfl
  | rule selector content =>
      simp only [sites, body, List.flatMap_cons, List.flatMap_nil, List.append_nil, Action.sites]
      rw [nodeSites]
      rfl
  | atRule keyword condition content =>
      cases content with
      | none =>
          simp only [sites, body]
          rw [nodeSites]
          rfl
      | some content =>
          simp only [sites, body, List.flatMap_cons]
          rw [nodeSites]
          refine congrArg (atRuleSite (lowerName keyword) condition :: ·) ?_
          split
          · rw [List.flatMap_singleton, List.flatMap_subtype fun _ _ => rfl, List.unattach_attach]
            rfl
          · rw [List.flatMap_singleton]
            rfl
  | block selector content =>
      simp only [sites, body, List.flatMap_assoc, sites_itemActions, blockSites_eq]
  | declaration selector name value =>
      simp only [sites, body]
      unfold declarationSites
      split
      · rfl
      · rw [List.flatMap_cons, List.flatMap_singleton]
        rfl
  | value selector property components =>
      simp only [sites, body, List.flatMap_assoc, sites_componentActions]
      induction components with
      | nil => rfl
      | cons component rest ih => rw [valueSites, ih, List.flatMap_cons]
  | pseudoClasses selector components => exact (sites_namesActions selector false components).symm

/-- The walk takes up what it finds at the places of a call. -/
theorem effect_eq (lookup : Lookup) (analysis : Analysis) (call : Call) :
    call.effect lookup analysis =
      (call.sites.flatMap (Site.uses lookup)).foldl Analysis.take analysis := by
  cases call with
  | walk nodes => rw [effect, Analysis.walk_eq, uses_eq_flatMap_sites]; rfl
  | block selector content => rw [effect, Analysis.block_eq, blockUses_eq]; rfl
  | declaration selector name value =>
      rw [effect, Analysis.declaration_eq, declarationUses_eq]; rfl
  | value selector property components => rw [effect, Analysis.value_eq, valueUses_eq]; rfl
  | pseudoClasses selector components =>
      rw [effect, sites, pseudoNames_eq, List.flatMap_map, List.foldl_flatMap]
      congr 1
      funext analysis name
      rw [Analysis.addFound_eq, Site.uses_of_keys_singleton rfl]
      rfl
  | _ => rw [effect, Analysis.node_eq, nodeUses_eq]; rfl

end Call

/-! ## Running the recursion -/

/-- A run of the recursion: the actions that are left, and what has been taken up. -/
structure Progress where
  stack : List Action
  analysis : Analysis

namespace Progress

variable (lookup : Lookup)

/-- The first action that is left is done. A call puts its own actions in its place. -/
def next (lookup : Lookup) : Progress → Progress
  | ⟨[], analysis⟩ => ⟨[], analysis⟩
  | ⟨.visit site :: later, analysis⟩ =>
      ⟨later, analysis.addFound site.selector (site.found? lookup) site.construct.text⟩
  | ⟨.call call :: later, analysis⟩ => ⟨call.body ++ later, analysis⟩

def outcome (lookup : Lookup) (progress : Progress) : Analysis :=
  ((progress.stack.flatMap Action.sites).flatMap (Site.uses lookup)).foldl Analysis.take
    progress.analysis

theorem totalCost_next_lt {progress : Progress} (left : progress.stack ≠ []) :
    Action.totalCost (progress.next lookup).stack < Action.totalCost progress.stack := by
  obtain ⟨stack, analysis⟩ := progress
  cases stack with
  | nil => exact absurd rfl left
  | cons action later =>
      cases action with
      | visit site =>
          simp only [next, Action.totalCost_cons, Action.cost]
          omega
      | call call =>
          have less := call.totalCost_body_lt
          simp only [next, Action.totalCost_append, Action.totalCost_cons, Action.cost]
          omega

theorem outcome_next (progress : Progress) :
    (progress.next lookup).outcome lookup = progress.outcome lookup := by
  obtain ⟨stack, analysis⟩ := progress
  cases stack with
  | nil => rfl
  | cons action later =>
      cases action with
      | visit site =>
          simp only [next, outcome, List.flatMap_cons, List.flatMap_append, List.foldl_append,
            Action.sites, List.flatMap_nil, List.append_nil, Analysis.addFound_eq]
          rfl
      | call call =>
          simp only [next, outcome, List.flatMap_append, List.flatMap_cons, Action.sites,
            call.sites_eq_flatMap_body]

/-- A run is over after as many steps as its actions cost. -/
theorem run_of_totalCost_le {steps : Nat} {progress : Progress}
    (bound : Action.totalCost progress.stack ≤ steps) :
    (next lookup)^[steps] progress = ⟨[], progress.outcome lookup⟩ := by
  induction steps generalizing progress with
  | zero =>
      obtain ⟨stack, analysis⟩ := progress
      cases stack with
      | nil => rfl
      | cons action later =>
          exact absurd (Nat.lt_of_lt_of_le
            (totalCost_next_lt lookup (List.cons_ne_nil action later)) bound) (Nat.not_lt_zero _)
  | succ steps ih =>
      rw [Function.iterate_succ_apply, ← outcome_next]
      -- A run without actions stays as it is, so the bound is kept in either case.
      by_cases ended : progress.stack = []
      · refine ih ?_
        obtain ⟨stack, analysis⟩ := progress
        cases ended
        exact Nat.zero_le steps
      · exact ih (Nat.le_of_lt_succ
          (Nat.lt_of_lt_of_le (totalCost_next_lt lookup ended) bound))

end Progress

/-- The walk ends on every style sheet. What is read from a block encloses less than the block; so
no chain of calls inside calls is endless, whichever function it starts with. Run action by action,
a call is over after as many actions as it costs, and has then taken up what the walk takes up. A
list of rules costs at most four actions for each component and one more. -/
theorem walk_ends (lookup : Lookup) (call : Call) (analysis : Analysis) :
    (∀ place content, ∀ node ∈ readNodes place content,
        node.weight < totalWeight content) ∧
      (WellFounded fun callee caller : Call => Action.call callee ∈ caller.body) ∧
      (Progress.next lookup)^[call.cost] ⟨[.call call], analysis⟩ =
        ⟨[], call.effect lookup analysis⟩ ∧
      ∀ nodes, (Call.walk nodes).cost ≤ 4 * Node.totalSize nodes + 1 := by
  refine ⟨fun _ _ _ member => weight_lt_of_mem_readNodes member, ?_, ?_, Call.cost_walk_le⟩
  · refine Subrelation.wf ?_ (measure Call.cost).wf
    intro callee caller nested
    exact Nat.lt_of_le_of_lt (Action.cost_le_totalCost nested) caller.totalCost_body_lt
  · have alone : Action.totalCost [.call call] ≤ call.cost := Nat.le_refl _
    rw [Progress.run_of_totalCost_le lookup alone, call.effect_eq]
    simp only [Progress.outcome, List.flatMap_singleton, Action.sites]

def nestedContent : List Component := [.ident "b", .block .curly gapContent]

theorem nestedContent_ends :
    Node.qualified [.ident "b"] gapContent ∈ readNodes .block nestedContent ∧
      totalWeight gapContent < totalWeight nestedContent ∧
      (Progress.next gapLookup)^[37] ⟨[.call (.rule [.ident "a"] nestedContent)], {}⟩ =
        ⟨[], Analysis.node gapLookup (.qualified [.ident "a"] nestedContent) {}⟩ := by
  have nested : Node.qualified [.ident "b"] gapContent ∈ readNodes .block nestedContent := by
    have items : readNodes .block nestedContent = [.qualified [.ident "b"] gapContent] := by
      with_unfolding_all rfl
    rw [items]
    exact List.mem_cons_self
  obtain ⟨less, _, ends, _⟩ := walk_ends gapLookup (.rule [.ident "a"] nestedContent) {}
  exact ⟨nested, less _ _ _ nested, ends⟩

end BrowserScript.Baseline
