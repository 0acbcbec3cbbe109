import BrowserScript.Baseline.Analysis
import BrowserScript.Proofs.Css.ReadBack
import BrowserScript.Proofs.Css.Spacing

/-!
# Selectors that are grouped together

Selectors are grouped by their text with its white space collapsed. White space between tokens, at
any depth, does not tell selectors apart there. The text of a selector is read as this selector
again, so that no other one shares it, if every token ends where its text ends and if no token has
white space of its own to collapse.
-/

namespace BrowserScript.Text

/-- Two texts hold the same words, whatever stands before and after them. -/
def SameWords (left right : List Char) : Prop :=
  ∀ before after, words (before ++ left ++ after) = words (before ++ right ++ after)

theorem words_append_cons {c : Char} (blank : isBlank c = true) (before after : List Char) :
    words (before ++ c :: after) = words before ++ words after := by
  rw [words, List.splitOnP_append_cons before after blank, List.filter_append]
  rfl

theorem words_blank_append {blanks : List Char} (all : ∀ c ∈ blanks, isBlank c = true)
    (after : List Char) : words (blanks ++ after) = words after := by
  induction blanks with
  | nil => rfl
  | cons c blanks ih =>
      obtain ⟨blank, others⟩ := List.forall_mem_cons.1 all
      exact (words_append_cons blank [] _).trans (ih others)

/-- Blanks separate words, however many they are. -/
theorem words_append_blank {blanks : List Char} (all : ∀ c ∈ blanks, isBlank c = true)
    (filled : blanks ≠ []) (before after : List Char) :
    words (before ++ blanks ++ after) = words before ++ words after := by
  obtain ⟨c, others, rfl⟩ := List.exists_cons_of_ne_nil filled
  obtain ⟨blank, all⟩ := List.forall_mem_cons.1 all
  rw [List.append_assoc, List.cons_append, words_append_cons blank, words_blank_append all]

namespace SameWords

variable {left right left' right' : List Char}

theorem refl (text : List Char) : SameWords text text := fun _ _ => rfl

theorem blanks (all : ∀ c ∈ left, isBlank c = true) (filled : left ≠ [])
    (all' : ∀ c ∈ right, isBlank c = true) (filled' : right ≠ []) : SameWords left right := by
  intro before after
  rw [words_append_blank all filled, words_append_blank all' filled']

theorem append (same : SameWords left right) (same' : SameWords left' right') :
    SameWords (left ++ left') (right ++ right') := by
  intro before after
  have first := same before (left' ++ after)
  have second := same' (before ++ right) after
  simp only [List.append_assoc] at first second ⊢
  rw [first, second]

theorem trans {other : List Char} (same : SameWords left right) (same' : SameWords right other) :
    SameWords left other := fun before after => (same before after).trans (same' before after)

theorem words_eq (same : SameWords left right) : words left = words right := by
  simpa using same [] []

end SameWords

end BrowserScript.Text

namespace BrowserScript.Css

open Text

/-! ## White space between tokens -/

def startsBlank (components : List Component) : Bool := components.head?.any Component.isWhitespace

mutual

/-- A component with every run of white space inside it as one space. -/
def Component.squeezed : Component → Component
  | .whitespace _ => .whitespace " "
  | .block bracket content => .block bracket (squeezeRuns content)
  | .function name arguments => .function name (squeezeRuns arguments)
  | token => token

def squeezeRuns : List Component → List Component
  | [] => []
  | component :: rest =>
      if component.isWhitespace && startsBlank (squeezeRuns rest) then squeezeRuns rest
      else component.squeezed :: squeezeRuns rest

end

/-- Components without white space at their ends, and with every other run as one space. -/
def squeeze (components : List Component) : List Component :=
  (((squeezeRuns components).dropWhile Component.isWhitespace).reverse.dropWhile
    Component.isWhitespace).reverse

theorem squeezeRuns_ne_nil {components : List Component} (filled : components ≠ []) :
    squeezeRuns components ≠ [] := by
  cases components with
  | nil => exact absurd rfl filled
  | cons component rest =>
      rw [squeezeRuns]
      split
      · rename_i merged
        intro none
        simp [none, startsBlank] at merged
      · exact List.cons_ne_nil _ _

theorem endsInString_cons (component : Component) {rest : List Component} (filled : rest ≠ []) :
    endsInString (component :: rest) = endsInString rest := by
  cases rest with
  | nil => exact absurd rfl filled
  | cons _ _ => rfl

mutual

theorem endsInString_squeezeRuns : ∀ components : List Component,
    endsInString (squeezeRuns components) = endsInString components
  | [] => rfl
  | [last] => by
      rw [squeezeRuns, squeezeRuns, if_neg (by simp [startsBlank])]
      exact cutInString_squeezed last
  | component :: second :: rest => by
      have filled := squeezeRuns_ne_nil (List.cons_ne_nil second rest)
      rw [endsInString_cons component (List.cons_ne_nil second rest),
        ← endsInString_squeezeRuns (second :: rest), squeezeRuns]
      split
      · rfl
      · exact endsInString_cons _ filled

theorem cutInString_squeezed (component : Component) :
    cutInString component.squeezed = cutInString component := by
  cases component with
  | function _ arguments => exact endsInString_squeezeRuns arguments
  | _ => rfl

end

/-- Nothing but blanks is set before white space. -/
theorem separator_blank (left text : String) :
    ∀ c ∈ (separator left (.whitespace text)).toList, isBlank c = true := by
  have apart : wouldJoin left (Component.whitespace text).kind = false := by
    simp [wouldJoin, Component.kind]
  unfold separator
  rw [if_neg (ne_true_of_eq_false apart)]
  dsimp only
  split
  · split
    · simp
    · exact List.all_eq_true.1 (by decide)
  · simp

/-- Nothing is set after white space, or before the first component. -/
theorem separator_after_blank (right : Component) :
    separator "whitespace" right = "" ∧ separator "" right = "" := by
  constructor <;> unfold separator <;> simp [wouldJoin, endsName]

theorem sameWords_block (bracket : Bracket) {content squeezed : List Component}
    (same : SameWords (serializeAfter "" content).toList (serializeAfter "" squeezed).toList) :
    SameWords (Component.block bracket content).text.toList
      (Component.block bracket squeezed).text.toList := by
  cases bracket <;> simp only [Component.text, String.toList_append] <;>
    exact ((SameWords.refl _).append same).append (.refl _)

/-- Every run of white space became one space. -/
theorem eq_space_of_mem_squeezeRuns : ∀ {components : List Component} {component : Component},
    component ∈ squeezeRuns components → component.isWhitespace = true → component = .whitespace " "
  | first :: rest, component, member, blank => by
      rw [squeezeRuns] at member
      split at member
      · exact eq_space_of_mem_squeezeRuns member blank
      · rcases List.mem_cons.1 member with rfl | later
        · cases first <;> first | rfl | cases blank
        · exact eq_space_of_mem_squeezeRuns later blank

theorem separator_squeezed {component : Component} (printed : component.isWhitespace = false)
    (left : String) : separator left component.squeezed = separator left component ∧
      component.squeezed.kind = component.kind := by
  cases component with
  | whitespace _ => cases printed
  | block bracket _ => cases bracket <;> exact ⟨rfl, rfl⟩
  | _ => exact ⟨rfl, rfl⟩

/-- White space and what is set before it are blanks. -/
theorem blank_whitespace {text : String} (spaced : (Component.whitespace text).Spaced)
    (left : String) :
    ∀ c ∈ (separator left (.whitespace text)).toList ++ text.toList, isBlank c = true :=
  List.forall_mem_append.2 ⟨separator_blank left text, spaced.2⟩

/-- White space with what is set before it is as good as any other. -/
theorem sameWords_whitespace {text text' : String} (spaced : (Component.whitespace text).Spaced)
    (spaced' : (Component.whitespace text').Spaced) (left left' : String) :
    SameWords ((separator left (.whitespace text)).toList ++ text.toList)
      ((separator left' (.whitespace text')).toList ++ text'.toList) := by
  refine .blanks (blank_whitespace spaced left) ?_ (blank_whitespace spaced' left') ?_
  · exact List.append_ne_nil_of_right_ne_nil _ (mt String.toList_eq_nil_iff.1 spaced.1)
  · exact List.append_ne_nil_of_right_ne_nil _ (mt String.toList_eq_nil_iff.1 spaced'.1)

theorem spaced_space : (Component.whitespace " ").Spaced :=
  ⟨by decide, List.all_eq_true.1 (by decide)⟩

/-- White space before a space is one run with it. -/
theorem sameWords_merged {text : String} (spaced : (Component.whitespace text).Spaced)
    (left : String) {rest later : List Component}
    (others : SameWords (serializeAfter "whitespace" rest).toList
      (serializeAfter "whitespace" (.whitespace " " :: later)).toList) :
    SameWords ((separator left (.whitespace text)).toList ++ text.toList
        ++ (serializeAfter "whitespace" rest).toList)
      (serializeAfter left (.whitespace " " :: later)).toList := by
  have run : SameWords ((separator left (.whitespace text)).toList ++ text.toList ++ " ".toList)
      ((separator left (.whitespace " ")).toList ++ " ".toList) :=
    .blanks (List.forall_mem_append.2 ⟨blank_whitespace spaced left, spaced_space.2⟩) (by simp)
      (blank_whitespace spaced_space left) (by simp)
  rw [serializeAfter, (separator_after_blank _).1, String.toList_append] at others
  have joined := (SameWords.refl ((separator left (.whitespace text)).toList ++ text.toList)).append
    others
  rw [← List.append_assoc] at joined
  rw [serializeAfter, String.toList_append, String.toList_append]
  exact joined.trans (run.append (.refl _))

mutual

theorem sameWords_text (component : Component) (spaced : component.Spaced) :
    SameWords component.text.toList component.squeezed.text.toList := by
  cases component with
  | whitespace text => exact sameWords_whitespace spaced spaced_space "" ""
  | block bracket content =>
      exact sameWords_block bracket (sameWords_serializeAfter content spaced "")
  | function name arguments =>
      have same := sameWords_serializeAfter arguments spaced ""
      simp only [Component.squeezed, Component.text, endsInString_squeezeRuns, String.toList_append]
      exact ((SameWords.refl _).append same).append (.refl _)
  | _ => exact .refl _

/-- The words of components do not depend on the white space between their tokens. -/
theorem sameWords_serializeAfter : ∀ components : List Component, AllSpaced components →
    ∀ left, SameWords (serializeAfter left components).toList
      (serializeAfter left (squeezeRuns components)).toList
  | [], _, _ => .refl _
  | component :: rest, spaced, left => by
      have others := sameWords_serializeAfter rest spaced.2 component.kind
      rw [squeezeRuns, serializeAfter, String.toList_append, String.toList_append]
      cases blank : component.isWhitespace with
      | false =>
          have text := sameWords_text component spaced.1
          obtain ⟨before, kind⟩ := separator_squeezed blank left
          rw [if_neg (by simp), serializeAfter, before, kind, String.toList_append,
            String.toList_append]
          exact ((SameWords.refl _).append text).append others
      | true =>
          obtain ⟨text, rfl⟩ : ∃ text, component = .whitespace text := by
            cases component <;> first | exact ⟨_, rfl⟩ | cases blank
          split
          · -- The run goes on: its first part is absorbed by the space that stands for the rest.
            rename_i merged
            obtain ⟨_, starts⟩ := Bool.and_eq_true _ _ ▸ merged
            cases runs : squeezeRuns rest with
            | nil => simp [runs, startsBlank] at starts
            | cons first later =>
                have member : first ∈ squeezeRuns rest := runs ▸ List.mem_cons_self
                obtain rfl := eq_space_of_mem_squeezeRuns member
                  (by simpa [runs, startsBlank] using starts)
                rw [runs] at others
                exact sameWords_merged spaced.1 left others
          · rw [Component.squeezed, serializeAfter, String.toList_append, String.toList_append]
            exact (sameWords_whitespace spaced.1 spaced_space left left).append others

end

/-! ## White space at the ends -/

theorem words_dropWhile {components : List Component}
    (spaces : ∀ component ∈ components,
      component.isWhitespace = true → component = .whitespace " ") :
    words (serialize (components.dropWhile Component.isWhitespace)).toList =
      words (serialize components).toList := by
  induction components with
  | nil => rfl
  | cons component rest ih =>
      obtain ⟨here, later⟩ := List.forall_mem_cons.1 spaces
      cases blank : component.isWhitespace with
      | false => rw [List.dropWhile_cons_of_neg (by simp [blank])]
      | true =>
          obtain rfl := here blank
          have unset : serializeAfter "whitespace" rest = serialize rest := by
            cases rest with
            | nil => rfl
            | cons next _ =>
                rw [serialize, serializeAfter, serializeAfter, (separator_after_blank next).1,
                  (separator_after_blank next).2]
          have text : (serialize (.whitespace " " :: rest)).toList =
              " ".toList ++ (serialize rest).toList := by
            rw [serialize, serializeAfter, (separator_after_blank _).2, ← unset]
            simp [Component.text, Component.kind]
          rw [List.dropWhile_cons_of_pos blank, ih later, text, words_blank_append spaced_space.2]

theorem exists_serializeAfter_concat (components : List Component) (last : Component)
    (left : String) :
    ∃ before, serializeAfter left (components ++ [last]) =
      serializeAfter left components ++ (separator before last ++ last.text) := by
  induction components generalizing left with
  | nil => exact ⟨left, by simp [serializeAfter]⟩
  | cons component rest ih =>
      obtain ⟨before, text⟩ := ih component.kind
      refine ⟨before, ?_⟩
      rw [List.cons_append, serializeAfter, text, serializeAfter]
      simp only [String.append_assoc]

theorem words_dropWhile_reverse (components : List Component)
    (spaces : ∀ component ∈ components,
      component.isWhitespace = true → component = .whitespace " ") :
    words (serialize (components.dropWhile Component.isWhitespace).reverse).toList =
      words (serialize components.reverse).toList := by
  induction components with
  | nil => rfl
  | cons component rest ih =>
      obtain ⟨here, later⟩ := List.forall_mem_cons.1 spaces
      cases blank : component.isWhitespace with
      | false => rw [List.dropWhile_cons_of_neg (by simp [blank])]
      | true =>
          obtain rfl := here blank
          obtain ⟨before, text⟩ := exists_serializeAfter_concat rest.reverse (.whitespace " ") ""
          have ends := words_append_blank (blank_whitespace spaced_space before) (by simp)
            (serialize rest.reverse).toList []
          rw [List.append_nil, show words [] = [] by decide, List.append_nil] at ends
          rw [List.dropWhile_cons_of_pos blank, ih later, List.reverse_cons, ← ends]
          simp only [serialize, text, String.toList_append]
          rfl

end BrowserScript.Css

namespace BrowserScript.Baseline

open Css Text

/-- Collapsing the text of components is blind to the white space between their tokens. -/
theorem collapse_squeeze {components : List Component} (spaced : AllSpaced components) :
    collapse (squeeze components) = collapse components := by
  have spaces (component : Component) (member : component ∈ squeezeRuns components) :=
    eq_space_of_mem_squeezeRuns member
  have front := words_dropWhile spaces
  have back := words_dropWhile_reverse
    ((squeezeRuns components).dropWhile Component.isWhitespace).reverse fun component member =>
      spaces component (List.dropWhile_subset _ (List.mem_reverse.1 member))
  rw [List.reverse_reverse] at back
  have same := (sameWords_serializeAfter components spaced "").words_eq
  rw [collapse, squeeze, back, front, serialize, ← same]
  rfl

/-! ## Selectors that share no text -/

/-- A selector whose tokens, without the white space between them, keep their spelling: each ends
where its text ends, none has white space of its own to collapse, and reading leaves the text as it is. -/
structure Faithful (selector : List Component) : Prop where
  legible : Legible none [] (squeeze selector)
  tight : collapse (squeeze selector) = serialize (squeeze selector)
  plain : normalizeText (serialize (squeeze selector)).toList =
    (serialize (squeeze selector)).toList

theorem Faithful.components_collapse {selector : List Component} (faithful : Faithful selector)
    (spaced : AllSpaced selector) : components (collapse selector) = squeeze selector := by
  rw [components, ← collapse_squeeze spaced, faithful.tight, faithful.plain]
  exact nest_serialize faithful.legible

/-- Rules whose selectors differ in white space only are grouped together. A faithful selector is
what is read from the text of its group, and rules with faithful selectors in one group differ in
white space only. -/
theorem collapse_separates_selectors {css css' : String}
    {first second content content' : List Component}
    (inside : InSheet css (.qualified first content))
    (inside' : InSheet css' (.qualified second content')) :
    (squeeze first = squeeze second → collapse first = collapse second) ∧
      (Faithful first →
        components (collapse first) = squeeze first ∧
          (Faithful second → collapse first = collapse second →
            squeeze first = squeeze second)) := by
  have spaced := inside.spaced.1
  have spaced' := inside'.spaced.1
  refine ⟨fun same => ?_, fun faithful => ⟨faithful.components_collapse spaced, ?_⟩⟩
  · rw [← collapse_squeeze spaced, same, collapse_squeeze spaced']
  · intro faithful' same
    rw [← faithful.components_collapse spaced, ← faithful'.components_collapse spaced', same]

def childSelector (blank : String) : List Component :=
  [.literal ".", .ident "1a", .whitespace blank, .literal ">", .whitespace " ",
   .block .square [.ident "t", .literal "=", .string "x y" true], .whitespace blank]

theorem faithful_childSelector (blank : String) : Faithful (childSelector blank) := by
  have squeezed : squeeze (childSelector blank) = squeeze (childSelector " ") := rfl
  have spaces : ∀ c ∈ " ".toList, Css.isSpace c = true := List.all_eq_true.1 (by decide)
  refine ⟨?_, ?_, ?_⟩
  · change Legible none [] [.literal ".", .ident "1a", .whitespace " ", .literal ">",
      .whitespace " ", .block .square [.ident "t", .literal "=", .string "x y" true]]
    refine .token (by decide) ⟨_, _, rfl, rfl⟩ ?_
    refine .token (by decide) ⟨by decide, by decide, by decide, by decide⟩ ?_
    refine .token (by decide) ⟨by decide, spaces, by decide⟩ ?_
    refine .token (by decide) ⟨_, _, rfl, rfl⟩ ?_
    refine .token (by decide) ⟨by decide, spaces, by decide⟩ ?_
    refine .block ?_ .nil
    refine .token (by decide) ⟨by decide, by decide, by decide, by decide⟩ ?_
    refine .token (by decide) ⟨_, _, rfl, rfl⟩ ?_
    exact .token (by decide) rfl .nil
  · rw [squeezed]
    decide +kernel
  · rw [squeezed]
    decide +kernel

def childSheet (blank : String) : String :=
  ".\\31 a" ++ blank ++ "> [t=\"x y\"]" ++ blank ++ "\x7b\x7d"

theorem childSelector_inSheet :
    InSheet (childSheet "\n\t") (.qualified (childSelector "\n\t") []) ∧
      InSheet (childSheet " ") (.qualified (childSelector " ") []) := by
  have broad : readNodes .sheet (components (childSheet "\n\t")) =
      [.qualified (childSelector "\n\t") []] := by
    with_unfolding_all rfl
  have narrow : readNodes .sheet (components (childSheet " ")) =
      [.qualified (childSelector " ") []] := by
    with_unfolding_all rfl
  exact ⟨.top (broad ▸ List.mem_singleton_self _), .top (narrow ▸ List.mem_singleton_self _)⟩

theorem childSelector_reads_back :
    collapse (childSelector "\n\t") = collapse (childSelector " ") ∧
      components (collapse (childSelector "\n\t")) = squeeze (childSelector "\n\t") ∧
      squeeze (childSelector "\n\t") = squeeze (childSelector " ") := by
  obtain ⟨joined, separated⟩ :=
    collapse_separates_selectors childSelector_inSheet.1 childSelector_inSheet.2
  obtain ⟨reads, apart⟩ := separated (faithful_childSelector _)
  exact ⟨joined rfl, reads, apart (faithful_childSelector _) (joined rfl)⟩

/-- White space inside a string is collapsed as well, so that two selectors share a text. -/
theorem collapse_joins_strings :
    collapse [.block .square [.ident "t", .literal "=", .string "a  b" true]] =
      collapse [.block .square [.ident "t", .literal "=", .string "a b" true]] ∧
    squeeze [.block .square [.ident "t", .literal "=", .string "a  b" true]] ≠
      squeeze [.block .square [.ident "t", .literal "=", .string "a b" true]] := by
  refine ⟨by decide +kernel, fun same => ?_⟩
  have different : [Component.block .square [.ident "t", .literal "=", .string "a  b" true]] =
    [.block .square [.ident "t", .literal "=", .string "a b" true]] := same
  simp at different

end BrowserScript.Baseline
