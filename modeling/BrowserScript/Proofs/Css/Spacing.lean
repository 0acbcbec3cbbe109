import BrowserScript.Proofs.Css.Sheet
import BrowserScript.Text.Blank

/-!
# White space in style sheets

White space that is read from a text is blank and not empty. So is all white space in the selectors
of a sheet, at any depth and inside rules of any kind: neither brackets nor rules add to what the
scanner finds.
-/

namespace BrowserScript.Css

mutual

/-- All white space inside a component is blank and not empty. -/
def Component.Spaced : Component → Prop
  | .whitespace text => text ≠ "" ∧ ∀ c ∈ text.toList, Text.isBlank c = true
  | .block _ content => AllSpaced content
  | .function _ arguments => AllSpaced arguments
  | _ => True

def AllSpaced : List Component → Prop
  | [] => True
  | component :: rest => component.Spaced ∧ AllSpaced rest

end

theorem allSpaced_iff {components : List Component} :
    AllSpaced components ↔ ∀ component ∈ components, component.Spaced := by
  induction components with
  | nil => simp [AllSpaced]
  | cons component rest ih => rw [AllSpaced, ih, List.forall_mem_cons]

theorem AllSpaced.reverse {components : List Component} (spaced : AllSpaced components) :
    AllSpaced components.reverse :=
  allSpaced_iff.2 fun component member =>
    allSpaced_iff.1 spaced component (List.mem_reverse.1 member)

/-! ## Lexemes -/

def Lexeme.Spaced : Lexeme → Prop
  | .leaf component => component.Spaced
  | _ => True

theorem scanUnicodeRange_spaced (text : List Char) : (scanUnicodeRange text).1.Spaced := by
  unfold scanUnicodeRange
  dsimp only
  repeat' split
  all_goals trivial

theorem scanIdent_spaced (text : List Char) : ∀ lexeme ∈ (scanIdent text).1, lexeme.Spaced := by
  rw [scanIdent_eq]
  dsimp only
  repeat' split
  all_goals simp [Lexeme.Spaced, Component.Spaced]

theorem scanQuantity_spaced (shown tail : List Char) : (scanQuantity shown tail).1.Spaced := by
  unfold scanQuantity
  repeat' split
  all_goals trivial

theorem scanMark_spaced (c : Char) (rest : List Char) :
    ∀ lexeme ∈ (scanMark c rest).1, lexeme.Spaced := by
  unfold scanMark scanQuoted punctuation
  dsimp only
  repeat' split
  all_goals simp [Lexeme.Spaced, Component.Spaced]

theorem isBlank_of_isSpace {c : Char} (space : isSpace c = true) : Text.isBlank c = true := by
  simp only [isSpace, Bool.or_eq_true, beq_iff_eq] at space
  rcases space with (rfl | rfl) | rfl <;> decide

theorem scanLexemes_spaced (c : Char) (rest : List Char) :
    ∀ lexeme ∈ (scanLexemes c rest).1, lexeme.Spaced := by
  rw [scanLexemes_eq]
  split
  · rename_i space
    have spaces : ∀ d ∈ c :: rest.takeWhile isSpace, isSpace d = true :=
      List.forall_mem_cons.2 ⟨space, List.all_eq_true.1 List.all_takeWhile⟩
    refine List.forall_mem_singleton.2 ⟨by simp, fun d member => ?_⟩
    rw [String.toList_ofList] at member
    exact isBlank_of_isSpace (spaces d member)
  · split
    · exact List.forall_mem_singleton.2 (scanUnicodeRange_spaced _)
    · split
      · exact List.forall_mem_singleton.2 trivial
      · split
        · exact scanIdent_spaced _
        · split
          · exact List.forall_mem_singleton.2 (scanQuantity_spaced _ _)
          · exact scanMark_spaced c rest

theorem lexemes_spaced (text : List Char) : ∀ lexeme ∈ lexemes text, lexeme.Spaced := by
  fun_induction lexemes text with
  | case1 => exact List.forall_mem_nil _
  | case2 c rest found after scanned _ ih =>
      have here := scanLexemes_spaced c rest
      rw [scanned] at here
      exact List.forall_mem_append.2 ⟨here, ih⟩
  | case3 c rest found after scanned _ =>
      have here := scanLexemes_spaced c rest
      rw [scanned] at here
      exact here

/-! ## Brackets -/

theorem Frame.allSpaced_close {frame : Frame} {content : List Component}
    (before : AllSpaced frame.before) (inside : AllSpaced content) :
    AllSpaced (frame.close content) := by
  unfold Frame.close
  split
  · exact ⟨inside, before⟩
  · exact ⟨inside, before⟩
  · exact before

structure Nesting.Spaced (nesting : Nesting) : Prop where
  frames : ∀ frame ∈ nesting.frames, AllSpaced frame.before
  current : AllSpaced nesting.current

namespace Nesting.Spaced

theorem take {nesting : Nesting} (spaced : nesting.Spaced) {lexeme : Lexeme}
    (found : lexeme.Spaced) : (nesting.take lexeme).Spaced := by
  obtain ⟨frames, current⟩ := nesting
  cases lexeme with
  | leaf component => exact ⟨spaced.frames, found, spaced.current⟩
  | openBracket bracket =>
      exact ⟨List.forall_mem_cons.2 ⟨spaced.current, spaced.frames⟩, trivial⟩
  | openFunction name =>
      exact ⟨List.forall_mem_cons.2 ⟨spaced.current, spaced.frames⟩, trivial⟩
  | closeBracket bracket =>
      cases frames with
      | nil => exact ⟨spaced.frames, trivial, spaced.current⟩
      | cons frame outer =>
          obtain ⟨before, others⟩ := List.forall_mem_cons.1 spaced.frames
          simp only [Nesting.take]
          split
          · exact ⟨others, Frame.allSpaced_close before spaced.current.reverse⟩
          · exact ⟨spaced.frames, trivial, spaced.current⟩

theorem takeAll {nesting : Nesting} (spaced : nesting.Spaced) {lexemes : List Lexeme}
    (found : ∀ lexeme ∈ lexemes, lexeme.Spaced) : (nesting.takeAll lexemes).Spaced := by
  induction lexemes generalizing nesting with
  | nil => exact spaced
  | cons lexeme rest ih =>
      obtain ⟨here, later⟩ := List.forall_mem_cons.1 found
      exact ih (spaced.take here) later

theorem finish {nesting : Nesting} (spaced : nesting.Spaced) : AllSpaced nesting.finish := by
  obtain ⟨frames, current⟩ := nesting
  induction frames generalizing current with
  | nil => exact spaced.current.reverse
  | cons frame outer ih =>
      obtain ⟨before, others⟩ := List.forall_mem_cons.1 spaced.frames
      exact ih _ ⟨others, Frame.allSpaced_close before spaced.current.reverse⟩

end Nesting.Spaced

theorem allSpaced_components (text : String) : AllSpaced (components text) := by
  have start : ({} : Nesting).Spaced := ⟨List.forall_mem_nil _, trivial⟩
  rw [components, nest_eq_finish]
  exact (start.takeAll (lexemes_spaced _)).finish

/-! ## Rules -/

def Node.content? : Node → Option (List Component)
  | .qualified _ content => some content
  | .atRule _ _ content => content
  | _ => none

/-- All white space in the selector of a rule, and in what it encloses, is blank and not empty. -/
def Node.Spaced : Node → Prop
  | .qualified selector content => AllSpaced selector ∧ AllSpaced content
  | .atRule _ _ (some content) => AllSpaced content
  | _ => True

theorem Node.Spaced.content {node : Node} (spaced : node.Spaced) {content : List Component}
    (encloses : node.content? = some content) : AllSpaced content := by
  cases node with
  | qualified selector inside =>
      cases encloses
      exact spaced.2
  | atRule name condition inside =>
      cases encloses
      exact spaced
  | declaration name value => cases encloses
  | unparsable => cases encloses

theorem splitAtBlock_spaced (stopsAtSemicolon : Bool) {components : List Component}
    (spaced : AllSpaced components) :
    AllSpaced (splitAtBlock stopsAtSemicolon components).1 ∧
      (∀ content, (splitAtBlock stopsAtSemicolon components).2.1 = .block content →
        AllSpaced content) ∧
      AllSpaced (splitAtBlock stopsAtSemicolon components).2.2 := by
  fun_induction splitAtBlock stopsAtSemicolon components with
  | case1 => exact ⟨trivial, by simp, trivial⟩
  | case2 content rest =>
      refine ⟨trivial, fun inside equal => ?_, spaced.2⟩
      cases equal
      exact spaced.1
  | case3 component rest _ _ => exact ⟨trivial, by simp, spaced.2⟩
  | case4 component rest _ _ before opening after found ih =>
      rw [found] at ih
      obtain ⟨first, inside, later⟩ := ih spaced.2
      exact ⟨⟨spaced.1, first⟩, inside, later⟩

theorem readAtRule_spaced (name : String) {components : List Component}
    (spaced : AllSpaced components) :
    (readAtRule name components).1.Spaced ∧ AllSpaced (readAtRule name components).2 := by
  have parts := splitAtBlock_spaced true spaced
  unfold readAtRule
  split <;> rename_i found <;> rw [found] at parts
  · exact ⟨parts.2.1 _ rfl, parts.2.2⟩
  · exact ⟨trivial, parts.2.2⟩

theorem readQualified_spaced (stopsAtSemicolon : Bool) {components : List Component}
    (spaced : AllSpaced components) :
    (readQualified stopsAtSemicolon components).1.Spaced ∧
      AllSpaced (readQualified stopsAtSemicolon components).2 := by
  have parts := splitAtBlock_spaced stopsAtSemicolon spaced
  unfold readQualified
  split <;> rename_i found <;> rw [found] at parts
  · exact ⟨⟨parts.1, parts.2.1 _ rfl⟩, parts.2.2⟩
  · exact ⟨trivial, parts.2.2⟩

theorem readDeclaration?_spaced {components : List Component} {node : Node}
    (found : readDeclaration? components = some node) : node.Spaced := by
  unfold readDeclaration? at found
  split at found
  · split at found
    · obtain ⟨value, _, rfl⟩ := Option.map_eq_some_iff.1 found
      exact trivial
    · cases found
  · cases found

theorem readItem_spaced {components : List Component} (spaced : AllSpaced components) :
    (readItem components).1.Spaced ∧ AllSpaced (readItem components).2 := by
  unfold readItem
  split
  · exact ⟨⟨trivial, spaced.1⟩, spaced.2⟩
  · split
    · rename_i found
      exact ⟨readDeclaration?_spaced found, (splitAtBlock_spaced true spaced).2.2⟩
    · exact readQualified_spaced true spaced

theorem readNode_spaced (place : Place) {component : Component} {rest : List Component}
    (spaced : AllSpaced (component :: rest)) :
    (readNode place component rest).1.Spaced ∧ AllSpaced (readNode place component rest).2 := by
  unfold readNode
  split
  · exact readAtRule_spaced _ spaced.2
  · split
    · exact readItem_spaced spaced
    · exact readQualified_spaced false spaced

theorem readNodes_spaced (place : Place) {components : List Component}
    (spaced : AllSpaced components) : ∀ node ∈ readNodes place components, node.Spaced := by
  fun_induction readNodes place components with
  | case1 => exact List.forall_mem_nil _
  | case2 component rest _ ih => exact ih spaced.2
  | case3 component rest _ _ ih =>
      obtain ⟨here, after⟩ := readNode_spaced place spaced
      exact List.forall_mem_cons.2 ⟨here, ih after⟩

/-- The nodes of a style sheet, those that rules enclose included. -/
inductive InSheet (css : String) : Node → Prop where
  | top {node : Node} (member : node ∈ readNodes .sheet (components css)) : InSheet css node
  | enclosed {outer node : Node} {content : List Component} {place : Place}
      (inside : InSheet css outer) (encloses : outer.content? = some content)
      (member : node ∈ readNodes place content) : InSheet css node

theorem InSheet.spaced {css : String} {node : Node} (inside : InSheet css node) : node.Spaced := by
  induction inside with
  | top member => exact readNodes_spaced _ (allSpaced_components css) _ member
  | enclosed _ encloses member ih => exact readNodes_spaced _ (ih.content encloses) _ member

end BrowserScript.Css
