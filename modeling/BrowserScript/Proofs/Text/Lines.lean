import BrowserScript.Text.Lines
import Mathlib.Data.List.TakeWhile

/-!
# Lines stay lines

Lines that hold no line break, joined by line feeds, are the lines of the joined text. If none of
them is blank, indenting the text moves every line, and nothing but the indentation has to be taken
off again to get the text back.
-/

namespace BrowserScript.Text

def Unbroken (text : List Char) : Prop := ∀ c ∈ text, isLineBreak c = false

instance (text : List Char) : Decidable (Unbroken text) :=
  decidable_of_iff (text.all (!isLineBreak ·) = true) (by simp [Unbroken])

@[simp] theorem unbroken_nil : Unbroken [] := List.forall_mem_nil _

@[simp] theorem unbroken_cons {c : Char} {text : List Char} :
    Unbroken (c :: text) ↔ isLineBreak c = false ∧ Unbroken text := List.forall_mem_cons

@[simp] theorem unbroken_append {left right : List Char} :
    Unbroken (left ++ right) ↔ Unbroken left ∧ Unbroken right := List.forall_mem_append

/-- A text that is one line: it holds no line break, and it is not blank. -/
structure IsLine (line : List Char) : Prop where
  unbroken : Unbroken line
  visible : line.all isBlank = false

instance (line : List Char) : Decidable (IsLine line) :=
  decidable_of_iff (Unbroken line ∧ line.all isBlank = false)
    ⟨fun both => ⟨both.1, both.2⟩, fun isLine => ⟨isLine.unbroken, isLine.visible⟩⟩

theorem IsLine.ne_nil {line : List Char} (isLine : IsLine line) : line ≠ [] := by
  rintro rfl
  cases isLine.visible

theorem IsLine.append {start rest : List Char} (isLine : IsLine start) (unbroken : Unbroken rest) :
    IsLine (start ++ rest) := by
  refine ⟨unbroken_append.2 ⟨isLine.unbroken, unbroken⟩, ?_⟩
  rw [List.all_append, isLine.visible, Bool.false_and]

theorem IsLine.indented {line : List Char} (isLine : IsLine line) : IsLine (indentation ++ line) := by
  refine ⟨unbroken_append.2 ⟨by decide, isLine.unbroken⟩, ?_⟩
  rw [List.all_append, isLine.visible, Bool.and_false]

/-! ## Cutting a text into lines -/

/-- A character that is no line break belongs to the first line of what follows it. -/
theorem brokenLines_cons {c : Char} (plain : isLineBreak c = false) (rest : List Char) :
    brokenLines (c :: rest) =
      match brokenLines rest with
      | [] => [[c]]
      | line :: lines => (c :: line) :: lines := by
  rewrite [brokenLines, plain, if_neg Bool.false_ne_true]
  · rfl
  · rintro _ rfl
    cases plain

theorem brokenLines_unbroken {line : List Char} (unbroken : Unbroken line) (given : line ≠ []) :
    brokenLines line = [line] := by
  induction line with
  | nil => exact absurd rfl given
  | cons c line ih =>
      obtain ⟨plain, unbroken⟩ := unbroken_cons.1 unbroken
      rw [brokenLines_cons plain]
      cases line with
      | nil => rfl
      | cons next line => rw [ih unbroken (List.cons_ne_nil next line)]

/-- A line feed after a line ends it. -/
theorem brokenLines_ended {line : List Char} (unbroken : Unbroken line) (rest : List Char) :
    brokenLines (line ++ '\n' :: rest) = (line ++ ['\n']) :: brokenLines rest := by
  induction line with
  | nil => rfl
  | cons c line ih =>
      obtain ⟨plain, unbroken⟩ := unbroken_cons.1 unbroken
      rw [List.cons_append, brokenLines_cons plain, ih unbroken]
      rfl

/-- The lines of a text make up the text. -/
theorem flatten_brokenLines (text : List Char) : (brokenLines text).flatten = text := by
  fun_induction brokenLines text with
  | case1 => rfl
  | case2 rest ih => rw [List.flatten_cons, ih]; rfl
  | case3 c rest _ isBreak ih => rw [List.flatten_cons, ih]; rfl
  | case4 c rest _ plain none ih =>
      rw [none] at ih
      rw [← ih]
      rfl
  | case5 c rest _ plain line lines some ih =>
      rw [some] at ih
      rw [← ih]
      rfl

/-- A line break is a line of its own, unless it is a carriage return before a line feed. -/
theorem brokenLines_break {c : Char} (isBreak : isLineBreak c = true) {rest : List Char}
    (alone : c = '\r' → rest.head? ≠ some '\n') :
    brokenLines (c :: rest) = [c] :: brokenLines rest := by
  rw [brokenLines, isBreak, if_pos rfl]
  rintro _ isReturn rfl
  exact alone isReturn rfl

theorem brokenLines_ne_nil {text : List Char} (given : text ≠ []) : brokenLines text ≠ [] := by
  intro none
  have whole := flatten_brokenLines text
  rw [none] at whole
  exact given whole.symm

/-- A character that is no line break changes the first line only. -/
theorem brokenLines_cons_append {c : Char} (plain : isLineBreak c = false) {text rest : List Char}
    (split : brokenLines (text ++ '\n' :: rest) =
      brokenLines (text ++ ['\n']) ++ brokenLines rest) :
    brokenLines (c :: (text ++ '\n' :: rest)) =
      brokenLines (c :: (text ++ ['\n'])) ++ brokenLines rest := by
  rw [brokenLines_cons plain, split, brokenLines_cons plain]
  cases first : brokenLines (text ++ ['\n']) with
  | nil => exact absurd first (brokenLines_ne_nil (List.append_ne_nil_of_right_ne_nil text (by simp)))
  | cons line lines => rfl

/-- What follows a line feed is cut into lines on its own. -/
theorem brokenLines_append (text rest : List Char) :
    brokenLines (text ++ '\n' :: rest) = brokenLines (text ++ ['\n']) ++ brokenLines rest := by
  fun_induction brokenLines text with
  | case1 => rfl
  | case2 more ih => simp only [List.cons_append, brokenLines, ih]
  | case3 c more other isBreak ih =>
      -- Only a carriage return at the end of the text takes the line feed into its line.
      by_cases last : c = '\r' ∧ more = []
      · obtain ⟨rfl, rfl⟩ := last
        rfl
      · have alone : ∀ tail, c = '\r' → (more ++ '\n' :: tail).head? ≠ some '\n' := by
          intro tail isReturn found
          cases more with
          | nil => exact last ⟨isReturn, rfl⟩
          | cons next more =>
              cases found
              exact other more isReturn rfl
        rw [List.cons_append, List.cons_append, brokenLines_break isBreak (alone rest), ih,
          brokenLines_break isBreak (alone [])]
        rfl
  | case4 c more _ plain _ ih => exact brokenLines_cons_append (Bool.eq_false_iff.2 plain) ih
  | case5 c more _ plain _ _ _ ih => exact brokenLines_cons_append (Bool.eq_false_iff.2 plain) ih

/-! ## Joining lines -/

/-- Lines with a line feed after each of them but the last. -/
def ended : List (List Char) → List (List Char)
  | [] => []
  | [line] => [line]
  | line :: next :: lines => (line ++ ['\n']) :: ended (next :: lines)

theorem flatten_ended (lines : List (List Char)) :
    (ended lines).flatten = ['\n'].intercalate lines := by
  fun_induction ended lines with
  | case1 => rfl
  | case2 line => simp
  | case3 line next lines ih => rw [List.flatten_cons, ih, List.intercalate_cons_cons]

theorem ended_map_append (start : List Char) (lines : List (List Char)) :
    ended (lines.map (start ++ ·)) = (ended lines).map (start ++ ·) := by
  fun_induction ended lines with
  | case1 => rfl
  | case2 line => rfl
  | case3 line next lines ih =>
      rw [List.map_cons] at ih
      rw [List.map_cons, List.map_cons, ended, ih, List.map_cons, List.append_assoc]

theorem visible_of_mem_ended {lines : List (List Char)} (each : ∀ line ∈ lines, IsLine line)
    {line : List Char} (member : line ∈ ended lines) : line.all isBlank = false := by
  fun_induction ended lines with
  | case1 => cases member
  | case2 single =>
      rw [List.mem_singleton.1 member]
      exact (each single List.mem_cons_self).visible
  | case3 first next lines ih =>
      rcases List.mem_cons.1 member with same | member
      · rw [same, List.all_append, (each first List.mem_cons_self).visible, Bool.false_and]
      · exact ih (fun other member => each other (List.mem_cons_of_mem first member)) member

/-- Joined lines are cut into the same lines again. -/
theorem brokenLines_intercalate {lines : List (List Char)} (each : ∀ line ∈ lines, IsLine line) :
    brokenLines (['\n'].intercalate lines) = ended lines := by
  fun_induction ended lines with
  | case1 => rfl
  | case2 line =>
      have isLine := each line List.mem_cons_self
      rw [List.intercalate_singleton, brokenLines_unbroken isLine.unbroken isLine.ne_nil]
  | case3 line next lines ih =>
      rw [List.intercalate_cons_cons, List.append_assoc, List.singleton_append,
        brokenLines_ended (each line List.mem_cons_self).unbroken,
        ih fun other member => each other (List.mem_cons_of_mem line member)]

theorem indent_intercalate {lines : List (List Char)} (each : ∀ line ∈ lines, IsLine line) :
    indent (['\n'].intercalate lines) = ['\n'].intercalate (lines.map (indentation ++ ·)) := by
  have moved : ∀ line ∈ ended lines,
      (if line.all isBlank then line else indentation ++ line) = indentation ++ line := by
    intro line member
    rw [visible_of_mem_ended each member, if_neg Bool.false_ne_true]
  rw [indent, brokenLines_intercalate each, ← flatten_ended, ended_map_append, List.flatMap_def,
    List.map_congr_left moved]

/-- A line feed after joined lines ends the last of them too. -/
theorem brokenLines_intercalate_append {lines : List (List Char)}
    (each : ∀ line ∈ lines, Unbroken line) (given : lines ≠ []) (rest : List Char) :
    brokenLines (['\n'].intercalate lines ++ '\n' :: rest) =
      lines.map (· ++ ['\n']) ++ brokenLines rest := by
  fun_induction ended lines with
  | case1 => exact absurd rfl given
  | case2 line =>
      rw [List.intercalate_singleton, brokenLines_ended (each line List.mem_cons_self)]
      rfl
  | case3 line next lines ih =>
      rw [List.intercalate_cons_cons, List.append_assoc, List.append_assoc, List.singleton_append,
        brokenLines_ended (each line List.mem_cons_self),
        ih (fun other member => each other (List.mem_cons_of_mem line member))
          (List.cons_ne_nil next lines)]
      rfl

/-- Joined groups of lines, joined once more, are all their lines joined. -/
theorem joinLines_map_joinLines {groups : List (List String)} (given : [] ∉ groups) :
    joinLines (groups.map joinLines) = joinLines groups.flatten := by
  induction groups with
  | nil => rfl
  | cons group groups ih =>
      obtain ⟨nonempty, given⟩ := not_or.1 (mt List.mem_cons.2 given)
      cases groups with
      | nil => simp [joinLines]
      | cons next groups =>
          have more : (next :: groups).flatten ≠ [] := by
            rw [List.flatten_cons]
            exact List.append_ne_nil_of_left_ne_nil (fun none => given (none ▸ List.mem_cons_self)) _
          calc
            joinLines (joinLines group :: (next :: groups).map joinLines) =
                joinLines group ++ "\n" ++ joinLines ((next :: groups).map joinLines) :=
              String.intercalate_cons_of_ne_nil (List.cons_ne_nil _ _)
            _ = joinLines group ++ "\n" ++ joinLines (next :: groups).flatten := by rw [ih given]
            _ = joinLines (group ++ (next :: groups).flatten) :=
              (String.intercalate_append_of_ne_nil (Ne.symm nonempty) more).symm

/-! ## Lines without their line breaks -/

def lines (text : List Char) : List (List Char) :=
  (brokenLines text).map fun line => line.takeWhile (!isLineBreak ·)

theorem lines_append (text rest : List Char) :
    lines (text ++ '\n' :: rest) = lines (text ++ ['\n']) ++ lines rest := by
  rw [lines, brokenLines_append, List.map_append]
  rfl

/-- The lines of joined lines that a line feed ends are these lines, and then those after it. -/
theorem lines_intercalate_append {given : List (List Char)} (each : ∀ line ∈ given, Unbroken line)
    (nonempty : given ≠ []) (rest : List Char) :
    lines (['\n'].intercalate given ++ '\n' :: rest) = given ++ lines rest := by
  have cut : ∀ line ∈ given, (line ++ ['\n']).takeWhile (!isLineBreak ·) = line := by
    intro line member
    have plain : ∀ c ∈ line, (!isLineBreak c) = true := by
      intro c inLine
      rw [each line member c inLine, Bool.not_false]
    rw [List.takeWhile_append_of_pos plain]
    simp [isLineBreak]
  rw [lines, brokenLines_intercalate_append each nonempty, List.map_append, List.map_map,
    Function.comp_def, List.map_congr_left cut, List.map_id']
  rfl

def outerLines (text : List Char) : List (List Char) :=
  (lines text).filter fun line => !indentation.isPrefixOf line

theorem filter_indented (given : List (List Char)) :
    (given.map (indentation ++ ·)).filter (fun line => !indentation.isPrefixOf line) = [] := by
  rw [List.filter_eq_nil_iff]
  intro line member
  obtain ⟨inner, _, rfl⟩ := List.mem_map.1 member
  simp

/-- Every line of an indented text starts with the indentation, and without it the text is as it
was. -/
theorem brokenLines_indent {given : List (List Char)} (each : ∀ line ∈ given, IsLine line) :
    (∀ line ∈ brokenLines (indent (['\n'].intercalate given)), indentation <+: line) ∧
      (brokenLines (indent (['\n'].intercalate given))).flatMap (List.drop indentation.length) =
        ['\n'].intercalate given := by
  have indented : ∀ line ∈ given.map (indentation ++ ·), IsLine line := by
    intro line member
    obtain ⟨inner, listed, rfl⟩ := List.mem_map.1 member
    exact (each inner listed).indented
  have cut : brokenLines (indent (['\n'].intercalate given)) =
      (ended given).map (indentation ++ ·) := by
    rw [indent_intercalate each, brokenLines_intercalate indented, ended_map_append]
  refine ⟨?_, ?_⟩
  · rw [cut]
    intro line member
    obtain ⟨inner, _, rfl⟩ := List.mem_map.1 member
    exact List.prefix_append _ _
  · rw [cut, List.flatMap_map, ← flatten_ended, List.flatMap_def]
    simp only [List.drop_left, List.map_id']

end BrowserScript.Text
