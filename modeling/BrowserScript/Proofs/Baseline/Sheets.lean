import BrowserScript.Baseline.Analysis
import BrowserScript.Proofs.Css.Sheet
import BrowserScript.Text.Lines

/-!
# Sheets that are read together

A scan joins the style sheets of a page by line feeds and reads them as one. The report is the one
on the sheets read apart if every sheet but the last is whole. A sheet that leaves something open
takes the start of the next one with it.
-/

namespace BrowserScript.Baseline

open Css

/-- A walk through a style sheet after what was found before. -/
def Analysis.walkSheet (lookup : Lookup) (analysis : Analysis) (css : String) :
    Except Fault Analysis :=
  (fun read => analysis.walk lookup read.1) <$> readStylesheet css

/-- The report on style sheets that are read one by one and walked through in their order. -/
def analyzeApart (sheets : List String) (lookup : Lookup) (config : Config) :
    Except Fault (List ReportEntry) :=
  (fun analysis => analysis.report config) <$> sheets.foldlM (Analysis.walkSheet lookup) {}

theorem sheetRules_join {css : String} (whole : isWhole css = true) (more : String) :
    sheetRules (css ++ "\n" ++ more) = sheetRules css ++ sheetRules more := by
  rw [sheetRules, readNodes_join whole, List.filter_append, ← sheetRules, ← sheetRules]

namespace Analysis

variable {lookup : Lookup} {analysis : Analysis} {css : String}

theorem walkSheet_of_overlong {digits : Nat} (long : overlong? css = some digits) :
    walkSheet lookup analysis css = .error (.invalid (.integerTooLong (some digits))) := by
  rw [walkSheet, readStylesheet, long]
  rfl

theorem walkSheet_of_readable (readable : overlong? css = none) :
    walkSheet lookup analysis css = .ok (analysis.walk lookup (sheetRules css)) := by
  rw [walkSheet, readStylesheet, readable]
  rfl

/-- Text on a new line after a whole sheet is walked through after the sheet. -/
theorem walkSheet_join (whole : isWhole css = true) (more : String) :
    walkSheet lookup analysis (css ++ "\n" ++ more) =
      (walkSheet lookup analysis css).bind fun found => walkSheet lookup found more := by
  have joined := overlong?_join whole more
  cases first : overlong? css with
  | some digits =>
      rw [first, Option.some_or] at joined
      rw [walkSheet_of_overlong joined, walkSheet_of_overlong first]
      rfl
  | none =>
      rw [first, Option.none_or] at joined
      rw [walkSheet_of_readable first, Except.bind]
      cases second : overlong? more with
      | some digits =>
          rw [walkSheet_of_overlong (joined.trans second), walkSheet_of_overlong second]
      | none =>
          rw [walkSheet_of_readable (joined.trans second), walkSheet_of_readable second,
            sheetRules_join whole, walk, List.foldl_append]
          rfl

theorem walkSheet_empty : walkSheet lookup analysis "" = .ok analysis := by
  have readable : overlong? "" = none := by simp [overlong?, normalizeText]
  have none : sheetRules "" = [] := by
    simp [sheetRules, components, normalizeText, nest, readNodes]
  rw [walkSheet_of_readable readable, none]
  rfl

end Analysis

/-- A walk through joined sheets is a walk through one sheet after the other. -/
theorem walkSheet_joinLines {sheets : List String}
    (whole : ∀ sheet ∈ sheets.dropLast, isWhole sheet = true) (lookup : Lookup)
    (analysis : Analysis) :
    analysis.walkSheet lookup (Text.joinLines sheets) =
      sheets.foldlM (Analysis.walkSheet lookup) analysis := by
  induction sheets generalizing analysis with
  | nil => exact Analysis.walkSheet_empty
  | cons sheet sheets ih =>
      cases sheets with
      | nil =>
          have alone : Text.joinLines [sheet] = sheet := String.intercalate_singleton
          rw [alone, List.foldlM_cons]
          exact (bind_pure _).symm
      | cons next sheets =>
          have first : isWhole sheet = true := whole sheet (by simp)
          have others : ∀ sheet ∈ (next :: sheets).dropLast, isWhole sheet = true := by
            intro other member
            exact whole other (by simp [member])
          have joined : Text.joinLines (sheet :: next :: sheets) =
              sheet ++ "\n" ++ Text.joinLines (next :: sheets) :=
            String.intercalate_cons_of_ne_nil (List.cons_ne_nil _ _)
          rw [joined, Analysis.walkSheet_join first, List.foldlM_cons]
          exact congrArg _ (funext fun found => ih others found)

/-- The report on joined sheets is the report on the sheets read apart, if no sheet but the last
leaves a comment, a bracket or a rule open at its end. -/
theorem joined_sheets_read_apart (sheets : List String)
    (whole : ∀ sheet ∈ sheets.dropLast, isWhole sheet = true) (lookup : Lookup)
    (config : Config) :
    (fun read => analyze read.1 lookup config) <$> readStylesheet (Text.joinLines sheets) =
      analyzeApart sheets lookup config := by
  rw [analyzeApart, ← walkSheet_joinLines whole, Analysis.walkSheet, Functor.map_map]
  rfl

def gapLookup : Lookup :=
  [("gap", { id := .str "flexbox-gap", status := .low, description := .str "" })]

def fullScan : Config := ⟨true, true, true, none, .str "normal", .null⟩

def wholeThenOpen : List String := ["a \x7b gap: 1px \x7d", "b \x7b gap: 2px"]

theorem wholeThenOpen_read_apart :
    (∀ sheet ∈ wholeThenOpen.dropLast, isWhole sheet = true) ∧
      (fun read => analyze read.1 gapLookup fullScan) <$>
          readStylesheet (Text.joinLines wholeThenOpen) =
        analyzeApart wholeThenOpen gapLookup fullScan := by
  have whole : ∀ sheet ∈ wholeThenOpen.dropLast, isWhole sheet = true := by decide +kernel
  exact ⟨whole, joined_sheets_read_apart wholeThenOpen whole gapLookup fullScan⟩

def importThenRule : List String := ["@import 'x.css'", "b \x7b gap: 1px \x7d"]

def gapContent : List Component :=
  [.whitespace " ", .ident "gap", .literal ":", .whitespace " ", .dimension "1" "px",
   .whitespace " "]

theorem readNodes_gapContent :
    readNodes .block gapContent =
      [.declaration "gap" [.whitespace " ", .dimension "1" "px", .whitespace " "]] := by
  with_unfolding_all rfl

def Analysis.item (lookup : Lookup) (selector : String) (analysis : Analysis) (item : Node) :
    Analysis :=
  match item with
  | .declaration name value => analysis.declaration lookup selector name value
  | _ => analysis.node lookup item

theorem Analysis.block_eq_foldl (lookup : Lookup) (selector : String) (content : List Component)
    (analysis : Analysis) :
    analysis.block lookup selector content =
      (readNodes .block content).foldl (Analysis.item lookup selector) analysis := by
  rw [block]
  exact List.foldl_attach (f := item lookup selector)

/-- The rule of the second sheet becomes the block of the at-rule, and is reported under it. -/
theorem unfinishedImport_takes_next_sheet :
    (fun read => (analyze read.1 gapLookup fullScan).map (·.selector)) <$>
        readStylesheet (Text.joinLines importThenRule) = .ok ["@import \"x.css\" b"] ∧
      (fun report => report.map (·.selector)) <$> analyzeApart importThenRule gapLookup fullScan =
        .ok ["b"] := by
  have joined : readStylesheet (Text.joinLines importThenRule) =
      .ok ([.atRule "import"
        [.whitespace " ", .string "x.css" true, .whitespace "\n", .ident "b", .whitespace " "]
        (some gapContent)], []) := by
    with_unfolding_all rfl
  have first : readStylesheet "@import 'x.css'" =
      .ok ([.atRule "import" [.whitespace " ", .string "x.css" true] none], []) := by
    with_unfolding_all rfl
  have second : readStylesheet "b \x7b gap: 1px \x7d" =
      .ok ([.qualified [.ident "b", .whitespace " "] gapContent], []) := by
    with_unfolding_all rfl
  constructor
  · have plain : ¬ groupingAtRules.contains (lowerName "import") = true := by decide +kernel
    rw [joined]
    refine congrArg Except.ok ?_
    dsimp only
    rw [analyze, Analysis.walk, List.foldl_cons, Analysis.node, if_neg plain,
      Analysis.block_eq_foldl, readNodes_gapContent]
    decide +kernel
  · have walked : importThenRule.foldlM (Analysis.walkSheet gapLookup) {} =
        .ok ((Analysis.walk gapLookup {}
            [.atRule "import" [.whitespace " ", .string "x.css" true] none]).walk gapLookup
          [.qualified [.ident "b", .whitespace " "] gapContent]) := by
      simp only [importThenRule, List.foldlM_cons, List.foldlM_nil, Analysis.walkSheet, first,
        second]
      rfl
    rw [analyzeApart, walked]
    refine congrArg Except.ok ?_
    simp only [Analysis.walk, List.foldl_cons, List.foldl_nil]
    rw [Analysis.node, Analysis.node, Analysis.block_eq_foldl, readNodes_gapContent]
    decide +kernel

end BrowserScript.Baseline
