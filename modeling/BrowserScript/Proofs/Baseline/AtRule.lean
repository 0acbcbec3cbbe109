import BrowserScript.Proofs.Baseline.Provenance
import BrowserScript.Proofs.Baseline.Sheets

/-!
# The blocks of at-rules

The block of an at-rule is scanned like the block of a rule, unless the at-rule is a grouping one:
then its block is read as a list of rules. The two readings agree where the block holds rules alone.
A grouping rule may also stand inside another rule and hold declarations of its own; these are not
read as such, and a block of declarations alone is lost.
-/

namespace BrowserScript

namespace Css

variable {component : Component} {components content : List Component}

def Node.isRule : Node → Bool
  | .qualified .. => true
  | .atRule .. => true
  | _ => false

/-- Whether a block holds rules alone, with nothing but gaps between them. -/
def holdsRules (components : List Component) : Bool :=
  match components with
  | [] => true
  | component :: rest =>
      if component.isGap then holdsRules rest
      else
        have := readNode_length .block component rest
        (readNode .block component rest).1.isRule && holdsRules (readNode .block component rest).2
termination_by components.length

def isFlat (components : List Component) : Bool :=
  components.all fun component =>
    match component with
    | .block .curly _ => false
    | .atKeyword _ => false
    | _ => true

/-! ## Two readings of a block -/

/-- A split that a block ends does not depend on semicolons. -/
theorem splitAtBlock_of_block (ends : (splitAtBlock true components).2.1 = .block content) :
    splitAtBlock false components = splitAtBlock true components := by
  fun_induction splitAtBlock true components with
  | case1 => cases ends
  | case2 inner rest => rw [splitAtBlock]
  | case3 component rest _ semicolon => cases ends
  | case4 component rest other goes before opening after found ih =>
      rw [found] at ih
      rw [splitAtBlock, ih ends]
      · rfl
      · exact other

theorem readQualified_of_isRule (isRule : (readQualified true components).1.isRule = true) :
    readQualified false components = readQualified true components := by
  unfold readQualified at isRule ⊢
  split at isRule
  · rename_i selector content after found
    have same := splitAtBlock_of_block (show _ = Opening.block content by rw [found])
    rw [same, found]
  · cases isRule

theorem readDeclaration?_not_isRule {node : Node}
    (found : readDeclaration? components = some node) : node.isRule = false := by
  unfold readDeclaration? at found
  split at found
  · split at found
    · obtain ⟨value, _, rfl⟩ := Option.map_eq_some_iff.1 found
      rfl
    · cases found
  · cases found

/-- An item of a block that is a rule is read as in a list of rules. -/
theorem readItem_of_isRule (isRule : (readItem components).1.isRule = true) :
    readQualified false components = readItem components := by
  unfold readItem at isRule ⊢
  split at isRule
  · rfl
  · split at isRule
    · rename_i declaration found
      rw [readDeclaration?_not_isRule found] at isRule
      cases isRule
    · rw [readQualified_of_isRule isRule]

theorem readNode_of_isRule {rest : List Component}
    (isRule : (readNode .block component rest).1.isRule = true) :
    readNode .group component rest = readNode .block component rest := by
  cases component with
  | atKeyword name => rfl
  | _ => exact readItem_of_isRule isRule

/-- A semicolon starts no rule. -/
theorem not_semicolon_of_isRule {rest : List Component}
    (isRule : (readNode .block component rest).1.isRule = true) :
    component.isLiteral ";" = false := by
  rw [← Bool.not_eq_true]
  intro semicolon
  cases component with
  | literal text =>
      have same : text = ";" := of_decide_eq_true semicolon
      subst same
      cases isRule
  | _ => cases semicolon

/-- What is not skipped starts a node. -/
theorem readNodes_cons {place : Place}
    (keeps : place.skips component = false) (rest : List Component) :
    readNodes place (component :: rest) =
      (readNode place component rest).1 :: readNodes place (readNode place component rest).2 := by
  rw [readNodes, keeps, if_neg Bool.false_ne_true]

/-- A block of rules alone is read as a list of rules. -/
theorem readNodes_of_holdsRules (holds : holdsRules content = true) :
    readNodes .group content = readNodes .block content ∧
      ∀ node ∈ readNodes .block content, node.isRule = true := by
  fun_induction holdsRules content with
  | case1 =>
      rw [readNodes, readNodes]
      exact ⟨rfl, List.forall_mem_nil _⟩
  | case2 component rest blank ih =>
      have skips (place : Place) : place.skips component = true := by
        unfold Place.skips
        rw [blank, Bool.true_or]
      rw [readNodes, if_pos (skips .group), readNodes, if_pos (skips .block)]
      exact ih holds
  | case3 component rest blank _ ih =>
      obtain ⟨isRule, others⟩ := Bool.and_eq_true_iff.1 holds
      obtain ⟨same, rules⟩ := ih others
      have keeps : Place.block.skips component = false := by
        rw [Place.skips, Bool.eq_false_iff.2 blank, not_semicolon_of_isRule isRule]
        rfl
      have keepsGroup : Place.group.skips component = false := by
        rw [Place.skips, Bool.eq_false_iff.2 blank]
        rfl
      rw [readNodes_cons keepsGroup, readNodes_cons keeps, readNode_of_isRule isRule, same]
      exact ⟨rfl, List.forall_mem_cons.2 ⟨isRule, rules⟩⟩

theorem readQualified_not_declaration (stopsAtSemicolon : Bool) (components : List Component)
    (name : String) (value : List Component) :
    (readQualified stopsAtSemicolon components).1 ≠ .declaration name value := by
  unfold readQualified
  split <;> exact fun impossible => nomatch impossible

/-- A list of rules holds no declarations. -/
theorem not_declaration_of_mem_group {node : Node}
    (member : node ∈ readNodes .group content) (name : String) (value : List Component) :
    node ≠ .declaration name value := by
  fun_induction readNodes Place.group content with
  | case1 => cases member
  | case2 component rest _ ih => exact ih member
  | case3 component rest _ _ ih =>
      rcases List.mem_cons.1 member with rfl | later
      · unfold readNode
        split
        · unfold readAtRule
          split
          · intro impossible
            cases impossible
          · intro impossible
            cases impossible
        · exact readQualified_not_declaration false _ name value
      · exact ih later

theorem splitAtBlock_of_isFlat (flat : isFlat components = true) :
    (splitAtBlock false components).2 = (.endOfList, []) := by
  induction components with
  | nil => rfl
  | cons component components ih =>
      obtain ⟨here, others⟩ := Bool.and_eq_true_iff.1 flat
      rw [splitAtBlock]
      · exact ih others
      · rintro content rfl
        cases here

/-- Read as a list of rules, components without a block hold none. -/
theorem readNodes_of_isFlat (flat : isFlat content = true) :
    ∀ node ∈ readNodes .group content, node = .unparsable := by
  induction content with
  | nil =>
      rw [readNodes]
      exact List.forall_mem_nil _
  | cons component content ih =>
      obtain ⟨here, others⟩ := Bool.and_eq_true_iff.1 flat
      cases skipped : Place.group.skips component with
      | true =>
          rw [readNodes, if_pos skipped]
          exact ih others
      | false =>
          have split := splitAtBlock_of_isFlat flat
          have damaged : readNode .group component content = (.unparsable, []) := by
            cases component with
            | atKeyword name => cases here
            | _ =>
                simp only [readNode, readQualified]
                generalize splitAtBlock false _ = parts at split ⊢
                obtain ⟨before, opening, after⟩ := parts
                cases split
                rfl
          rw [readNodes_cons skipped, damaged, readNodes]
          exact List.forall_mem_singleton.2 rfl

end Css

namespace Baseline

open Css

variable {condition content : List Component} {nodes : List Node} {lookup : Lookup}
  {use : Occurrence} {selector keyword : String}

/-! ## Rules that are reached -/

inductive Reached (nodes : List Node) : Node → Prop where
  | top {rule : Node} (listed : rule ∈ nodes) : Reached nodes rule
  | nested {selector content : List Component} {rule : Node}
      (outer : Reached nodes (.qualified selector content))
      (inside : rule ∈ readNodes .block content) : Reached nodes rule
  | within {keyword : String} {condition content : List Component} {rule : Node}
      (outer : Reached nodes (.atRule keyword condition (some content)))
      (plain : groupingAtRules.contains (lowerName keyword) = false)
      (inside : rule ∈ readNodes .block content) : Reached nodes rule
  | grouped {keyword : String} {condition content : List Component} {rule : Node}
      (outer : Reached nodes (.atRule keyword condition (some content)))
      (grouping : groupingAtRules.contains (lowerName keyword) = true)
      (inside : rule ∈ readNodes .group content) : Reached nodes rule

theorem mem_blockUses_of_declaration {name : String} {value : List Component}
    (inside : .declaration name value ∈ readNodes .block content)
    (used : use ∈ declarationUses lookup selector name value) :
    use ∈ blockUses lookup selector content := by
  rw [blockUses]
  exact List.mem_flatMap.2 ⟨⟨_, inside⟩, List.mem_attach _ _, used⟩

theorem mem_blockUses_of_rule {rule : Node} (inside : rule ∈ readNodes .block content)
    (used : use ∈ nodeUses lookup rule) : use ∈ blockUses lookup selector content := by
  rw [blockUses]
  refine List.mem_flatMap.2 ⟨⟨rule, inside⟩, List.mem_attach _ _, ?_⟩
  cases rule with
  | declaration name value =>
      rw [nodeUses] at used
      cases used
  | _ => exact used

/-- The uses in a rule that is reached are taken up. -/
theorem Reached.uses_subset {rule : Node} (reached : Reached nodes rule)
    (lookup : Lookup) : nodeUses lookup rule ⊆ uses lookup nodes := by
  induction reached with
  | @top rule listed => exact fun use used => List.mem_flatMap.2 ⟨rule, listed, used⟩
  | nested outer inside ih =>
      intro use used
      refine ih ?_
      rw [nodeUses]
      exact List.mem_append_right _ (mem_blockUses_of_rule inside used)
  | within outer plain inside ih =>
      intro use used
      refine ih ?_
      rw [nodeUses, plain, if_neg Bool.false_ne_true]
      exact List.mem_append_right _ (mem_blockUses_of_rule inside used)
  | grouped outer grouping inside ih =>
      intro use used
      refine ih ?_
      rw [nodeUses, grouping, if_pos rfl]
      exact List.mem_append_right _
        (List.mem_flatMap.2 ⟨⟨_, inside⟩, List.mem_attach _ _, used⟩)

/-- A property contributes an issue: every configuration that asks for its status reports it. Its
feature is the one that was found, or another one with the same identifier. -/
def Contributes (lookup : Lookup) (nodes : List Node) (selector property : String)
    (feature : Feature) : Prop :=
  ∃ issue : Issue, issue.property = property ∧
    (issue.feature = feature ∨ feature.id.equals issue.feature.id = true) ∧
    ∀ config : Config, config.includes issue.feature.status = true →
      Reports (analyze nodes lookup config) selector issue

/-- A block is scanned: its declarations contribute issues, and the rules in it are reached. -/
structure Scanned (lookup : Lookup) (nodes : List Node) (selector : String)
    (content : List Component) : Prop where
  declarations : ∀ name value, .declaration name value ∈ readNodes .block content →
    "--".toList.isPrefixOf (lowerName name).toList = false →
    ∀ feature, lookup.get? (lowerName name) = some feature →
      Contributes lookup nodes selector (lowerName name) feature
  rules : ∀ rule ∈ readNodes .block content, Reached nodes rule

theorem contributes_of_used (used : use ∈ uses lookup nodes) :
    Contributes lookup nodes use.selector use.property use.feature := by
  obtain ⟨issue, listed, property, feature⟩ := exists_issue_of_used used
  exact ⟨issue, property, feature, fun config asked => reports_analyze.2 ⟨listed, asked⟩⟩

theorem contributes_of_declaration {name : String}
    {value : List Component} (taken : blockUses lookup selector content ⊆ uses lookup nodes)
    (inside : .declaration name value ∈ readNodes .block content)
    (plain : "--".toList.isPrefixOf (lowerName name).toList = false) {feature : Feature}
    (found : lookup.get? (lowerName name) = some feature) :
    Contributes lookup nodes selector (lowerName name) feature := by
  have used : ⟨selector, feature, lowerName name⟩ ∈ declarationUses lookup selector name value := by
    rw [declarationUses, plain, if_neg Bool.false_ne_true, found]
    exact List.mem_append_left _ List.mem_cons_self
  exact contributes_of_used (taken (mem_blockUses_of_declaration inside used))

/-- The block of a rule is scanned under its selector. -/
theorem Reached.scanned_of_qualified {selector : List Component}
    (reached : Reached nodes (.qualified selector content)) (lookup : Lookup) :
    Scanned lookup nodes (collapse selector) content := by
  have taken : blockUses lookup (collapse selector) content ⊆ uses lookup nodes := by
    intro use used
    refine reached.uses_subset lookup ?_
    rw [nodeUses]
    exact List.mem_append_right _ used
  exact ⟨fun _ _ inside plain _ found => contributes_of_declaration taken inside plain found,
    fun _ inside => .nested reached inside⟩

/-- The block of an at-rule that groups nothing is scanned under the at-rule. -/
theorem Reached.scanned_of_atRule
    (reached : Reached nodes (.atRule keyword condition (some content)))
    (other : groupingAtRules.contains (lowerName keyword) = false) (lookup : Lookup) :
    Scanned lookup nodes (atRuleSelector (lowerName keyword) condition) content := by
  have taken : blockUses lookup (atRuleSelector (lowerName keyword) condition) content ⊆
      uses lookup nodes := by
    intro use used
    refine reached.uses_subset lookup ?_
    rw [nodeUses, other, if_neg Bool.false_ne_true]
    exact List.mem_append_right _ used
  exact ⟨fun _ _ inside plain _ found => contributes_of_declaration taken inside plain found,
    fun _ inside => .within reached other inside⟩

/-- The block of a grouping rule is scanned if it holds rules alone. -/
theorem Reached.scanned_of_holdsRules
    (reached : Reached nodes (.atRule keyword condition (some content)))
    (grouping : groupingAtRules.contains (lowerName keyword) = true)
    (holds : holdsRules content = true) (lookup : Lookup) :
    Scanned lookup nodes (atRuleSelector (lowerName keyword) condition) content := by
  obtain ⟨same, rules⟩ := readNodes_of_holdsRules holds
  refine ⟨fun name value inside => ?_, fun rule inside => ?_⟩
  · cases rules _ inside
  · exact .grouped reached grouping (same ▸ inside)

/-- A grouping rule around components without a block is taken up as if it had none itself. -/
theorem node_of_isFlat
    (grouping : groupingAtRules.contains (lowerName keyword) = true) (flat : isFlat content = true)
    (analysis : Analysis) :
    analysis.node lookup (.atRule keyword condition (some content)) =
      analysis.node lookup (.atRule keyword condition none) := by
  have nothing : (readNodes .group content).attach.flatMap (fun inner => nodeUses lookup inner.1) =
      [] := by
    rw [List.flatMap_eq_nil_iff]
    intro inner _
    rw [readNodes_of_isFlat flat inner.1 inner.2, nodeUses]
  rw [Analysis.node_eq, Analysis.node_eq, nodeUses, nodeUses, grouping, if_pos rfl, nothing,
    List.append_nil]

/-- The block of an at-rule is scanned like that of a rule if the at-rule groups nothing, or groups
rules alone. Otherwise its block is walked as a list of rules, none of which is a declaration, and
declarations alone are lost. -/
theorem atRule_block_scanned {nodes : List Node} {keyword : String}
    {condition content : List Component}
    (reached : Reached nodes (.atRule keyword condition (some content))) (lookup : Lookup) :
    (groupingAtRules.contains (lowerName keyword) = false ∨ holdsRules content = true →
      Scanned lookup nodes (atRuleSelector (lowerName keyword) condition) content) ∧
    (groupingAtRules.contains (lowerName keyword) = true →
      (∀ rule ∈ readNodes .group content,
        Reached nodes rule ∧ ∀ name value, rule ≠ .declaration name value) ∧
      (isFlat content = true → ∀ analysis : Analysis,
        analysis.node lookup (.atRule keyword condition (some content)) =
          analysis.node lookup (.atRule keyword condition none))) ∧
    ∀ selector inner, Reached nodes (.qualified selector inner) →
      Scanned lookup nodes (collapse selector) inner := by
  refine ⟨fun either => ?_, fun grouping => ⟨fun rule inside => ?_, fun flat => ?_⟩,
    fun selector inner qualified => qualified.scanned_of_qualified lookup⟩
  · cases grouping : groupingAtRules.contains (lowerName keyword) with
    | false => exact reached.scanned_of_atRule grouping lookup
    | true =>
        have holds := either.resolve_left (ne_false_of_eq_true grouping)
        exact reached.scanned_of_holdsRules grouping holds lookup
  · exact ⟨.grouped reached grouping inside, not_declaration_of_mem_group inside⟩
  · exact node_of_isFlat grouping flat

def pageInRule : List Node :=
  [.qualified [.ident "a"]
    [.atKeyword "page", .block .curly gapContent,
     .atKeyword "media", .block .curly [.ident "b", .block .curly gapContent]]]

theorem pageInRule_scanned :
    Reached pageInRule (.atRule "page" [] (some gapContent)) ∧
      Contributes gapLookup pageInRule "@page" "gap"
        { id := .str "flexbox-gap", status := .low, description := .str "" } ∧
      Contributes gapLookup pageInRule "b" "gap"
        { id := .str "flexbox-gap", status := .low, description := .str "" } := by
  have items : readNodes .block
        [.atKeyword "page", .block .curly gapContent,
         .atKeyword "media", .block .curly [.ident "b", .block .curly gapContent]] =
      [.atRule "page" [] (some gapContent),
       .atRule "media" [] (some [.ident "b", .block .curly gapContent])] := by
    with_unfolding_all rfl
  have rules : readNodes .block [.ident "b", .block .curly gapContent] =
      [.qualified [.ident "b"] gapContent] := by
    with_unfolding_all rfl
  have outer : Reached pageInRule _ := .top List.mem_cons_self
  have page : Reached pageInRule (.atRule "page" [] (some gapContent)) := by
    refine .nested outer ?_
    rw [items]
    exact List.mem_cons_self
  have media : Reached pageInRule
      (.atRule "media" [] (some [.ident "b", .block .curly gapContent])) := by
    refine .nested outer ?_
    rw [items]
    exact List.mem_cons_of_mem _ List.mem_cons_self
  have declared : Node.declaration "gap"
      [.whitespace " ", .dimension "1" "px", .whitespace " "] ∈ readNodes .block gapContent := by
    rw [readNodes_gapContent]
    exact List.mem_cons_self
  obtain ⟨scanned, _⟩ := atRule_block_scanned page gapLookup
  obtain ⟨grouped, _, qualified⟩ := atRule_block_scanned media gapLookup
  have inner : Reached pageInRule (.qualified [.ident "b"] gapContent) := by
    refine (grouped (.inr (by decide +kernel))).rules _ ?_
    rw [rules]
    exact List.mem_cons_self
  have selectors : atRuleSelector (lowerName "page") [] = "@page" ∧ collapse [.ident "b"] = "b" ∧
      lowerName "gap" = "gap" := by decide +kernel
  have underPage := (scanned (.inl (by decide +kernel))).declarations "gap" _ declared
    (by decide +kernel) _ (by with_unfolding_all rfl)
  have underRule := (qualified _ _ inner).declarations "gap" _ declared
    (by decide +kernel) _ (by with_unfolding_all rfl)
  rw [selectors.1, selectors.2.2] at underPage
  rw [selectors.2.1, selectors.2.2] at underRule
  exact ⟨page, underPage, underRule⟩

/-- A grouping rule inside a rule, with a declaration of its own. -/
def mediaInRule : String := "a \x7b @media (x) \x7b gap: 1px \x7d \x7d"

/-- The declaration in a nested grouping rule is reported nowhere. -/
theorem nested_media_declaration_lost :
    ∃ nodes, readStylesheet mediaInRule = .ok (nodes, []) ∧
      Reached nodes
        (.atRule "media" [.whitespace " ", .block .round [.ident "x"], .whitespace " "]
          (some gapContent)) ∧
      readNodes .block gapContent =
        [.declaration "gap" [.whitespace " ", .dimension "1" "px", .whitespace " "]] ∧
      (gapLookup.get? "gap").isSome = true ∧
      analyze nodes gapLookup fullScan = [] := by
  have sheet : readStylesheet mediaInRule =
      .ok ([.qualified [.ident "a", .whitespace " "]
        [.whitespace " ", .atKeyword "media", .whitespace " ", .block .round [.ident "x"],
         .whitespace " ", .block .curly gapContent, .whitespace " "]], []) := by
    with_unfolding_all rfl
  have items : readNodes .block
        [.whitespace " ", .atKeyword "media", .whitespace " ", .block .round [.ident "x"],
         .whitespace " ", .block .curly gapContent, .whitespace " "] =
      [.atRule "media" [.whitespace " ", .block .round [.ident "x"], .whitespace " "]
        (some gapContent)] := by
    with_unfolding_all rfl
  have grouping : groupingAtRules.contains (lowerName "media") = true := by decide +kernel
  refine ⟨_, sheet, ?_, readNodes_gapContent, by decide +kernel, ?_⟩
  · refine .nested (.top List.mem_cons_self) ?_
    rw [items]
    exact List.mem_cons_self
  · rw [analyze, Analysis.walk, List.foldl_cons, Analysis.node, Analysis.block_eq_foldl, items,
      List.foldl_cons, Analysis.item, node_of_isFlat grouping (by decide), Analysis.node]
    · decide +kernel
    · intro _ _ impossible
      cases impossible

end Baseline

end BrowserScript
