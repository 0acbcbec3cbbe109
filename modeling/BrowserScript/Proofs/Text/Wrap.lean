import BrowserScript.Text.Wrap

/-!
# When wrapping leaves nothing

Every line of a wrapped text but the first may lose a blank chunk at its start, and every line one
at its end; a line that has nothing else is left out. So a text with a character that is not blank
has a line, and a text of spaces, tabs and line breaks alone has none.
-/

namespace BrowserScript.Text.Wrap

variable {text : List Char} {width : Nat}

/-! ## Chunks -/

theorem flatten_chunks (before : List Char) {rest : List Char} {rounds : Nat}
    (enough : rest.length ≤ rounds) : (chunks before rest rounds).flatten = rest := by
  induction rounds generalizing before rest with
  | zero =>
      rw [List.eq_nil_of_length_eq_zero (Nat.le_zero.1 enough)]
      rfl
  | succ rounds ih =>
      rw [chunks]
      split
      · rename_i empty
        rw [List.isEmpty_iff.1 empty]
        rfl
      · rename_i given
        have shorter : (rest.drop (max 1 (chunkLength before rest))).length ≤ rounds := by
          rw [List.length_drop]
          omega
        rw [List.flatten_cons, ih _ shorter, List.take_append_drop]

theorem length_chunks_le (before rest : List Char) (rounds : Nat) :
    (chunks before rest rounds).length ≤ rounds := by
  induction rounds generalizing before rest with
  | zero => exact Nat.le_refl 0
  | succ rounds ih =>
      rw [chunks]
      split
      · exact Nat.zero_le _
      · rw [List.length_cons]
        exact Nat.succ_le_succ (ih _ _)

/-! ## Lines -/

/-- What is left to be laid out: the characters, and the chunks they stand in. -/
def size (chunks : List (List Char)) : Nat := chunks.flatten.length + chunks.length

theorem size_cons (chunk : List Char) (chunks : List (List Char)) :
    size (chunk :: chunks) = chunk.length + 1 + size chunks := by
  simp only [size, List.flatten_cons, List.length_append, List.length_cons]
  omega

theorem size_append (first second : List (List Char)) :
    size (first ++ second) = size first + size second := by
  simp only [size, List.flatten_append, List.length_append]
  omega

theorem size_pos {chunks : List (List Char)} (given : chunks ≠ []) : 0 < size chunks := by
  cases chunks with
  | nil => exact absurd rfl given
  | cons chunk chunks =>
      rw [size_cons]
      omega

theorem fitting_append (width : Nat) (chunks : List (List Char)) :
    (fitting width chunks).1 ++ (fitting width chunks).2 = chunks := by
  induction chunks generalizing width with
  | nil => rfl
  | cons chunk chunks ih =>
      rw [fitting]
      split
      · exact congrArg (chunk :: ·) (ih (width - chunk.length))
      · rfl

/-- A first chunk that is not too long for a line fits. -/
theorem fitting_ne_nil {chunk : List Char} {chunks : List (List Char)}
    (short : chunk.length ≤ width) : (fitting width (chunk :: chunks)).1 ≠ [] := by
  rw [fitting, if_pos short]
  exact List.cons_ne_nil _ _

theorem cutLength_pos {space : Nat} (some : 0 < space) (chunk : List Char) :
    0 < cutLength space chunk := by
  unfold cutLength
  dsimp only
  split
  · exact Nat.succ_pos _
  · exact some

/-- A line takes up chunks from the front and leaves the rest. -/
theorem line_flatten (width : Nat) (chunks : List (List Char)) :
    (line width chunks).1.flatten ++ (line width chunks).2.flatten = chunks.flatten := by
  have whole := congrArg List.flatten (fitting_append width chunks)
  rw [List.flatten_append] at whole
  unfold line
  dsimp only
  split
  · rename_i chunk rest left
    rw [left, List.flatten_cons] at whole
    split
    · simp only [List.flatten_append, List.flatten_cons, List.flatten_nil, List.append_nil,
        List.append_assoc]
      rw [← List.append_assoc (chunk.take _), List.take_append_drop, whole]
    · rw [left, List.flatten_cons, whole]
  · rename_i left
    rw [left] at whole
    exact whole

/-- A line takes up something. -/
theorem line_ne_nil (width : Nat) {chunks : List (List Char)} (given : chunks ≠ []) :
    (line width chunks).1 ≠ [] := by
  have whole := fitting_append width chunks
  unfold line
  dsimp only
  split
  · rename_i chunk rest left
    split
    · simp
    · rename_i short
      cases chunks with
      | nil => exact absurd rfl given
      | cons first others =>
          intro none
          dsimp only at none
          rw [none, left] at whole
          cases whole
          exact fitting_ne_nil (Nat.not_lt.1 short) none
  · rename_i left
    rw [left, List.append_nil] at whole
    rw [whole]
    exact given

/-- A line leaves less than there was. -/
theorem size_line_lt (some : 0 < width) {chunks : List (List Char)}
    (given : chunks ≠ []) : size (line width chunks).2 < size chunks := by
  have whole := fitting_append width chunks
  have sizes := congrArg size whole
  rw [size_append] at sizes
  unfold line
  dsimp only
  split
  · rename_i chunk rest left
    rw [left] at sizes whole
    by_cases none : (fitting width chunks).1 = []
    · -- Nothing fits, so the first chunk is cut.
      rw [none] at whole
      have long : width < chunk.length := by
        refine Nat.not_le.1 fun short => ?_
        rw [List.nil_append] at whole
        rw [← whole] at none
        exact fitting_ne_nil short none
      have cut := cutLength_pos some chunk
      rw [if_pos long, none]
      rw [none, size_cons] at sizes
      simp only [List.flatten_nil, List.length_nil, Nat.sub_zero, size_cons, List.length_drop]
      omega
    · have taken := size_pos none
      rw [size_cons] at sizes
      split
      · simp only [size_cons, List.length_drop]
        omega
      · rw [left, size_cons]
        omega
  · exact size_pos given

/-- A character that is not blank stands on a line. -/
theorem fill_ne_nil (some : 0 < width) {chunks : List (List Char)} {rounds : Nat}
    (visible : ∃ c ∈ chunks.flatten, isBlank c = false) (enough : size chunks < rounds) :
    fill width true chunks rounds ≠ [] := by
  induction rounds generalizing chunks with
  | zero => omega
  | succ rounds ih =>
      cases chunks with
      | nil =>
          obtain ⟨c, member, _⟩ := visible
          cases member
      | cons chunk rest =>
          have taken := line_ne_nil width (List.cons_ne_nil chunk rest)
          have content := line_flatten width (chunk :: rest)
          have less := size_line_lt some (List.cons_ne_nil chunk rest)
          rw [fill]
          simp only [Bool.not_true, Bool.false_and, Bool.false_eq_true, if_false]
          generalize line width (chunk :: rest) = taking at taken content less
          obtain ⟨parts, left⟩ := taking
          dsimp only at taken content less ⊢
          rw [List.getLast?_eq_some_getLast taken]
          dsimp only
          split
          · split
            · -- Only a blank part was taken up, so the character is in what is left.
              rename_i blank none
              refine ih ?_ (by omega)
              have single := List.isEmpty_iff.1 none
              obtain ⟨c, member, seen⟩ := visible
              refine ⟨c, ?_, seen⟩
              rw [← content, List.mem_append] at member
              refine member.resolve_left fun inParts => ?_
              rw [← List.dropLast_concat_getLast taken, single, List.nil_append,
                List.flatten_singleton] at inParts
              have hidden := List.all_eq_true.1 blank c inParts
              rw [seen] at hidden
              cases hidden
            · exact List.cons_ne_nil _ _
          · rw [List.isEmpty_eq_false_iff.2 taken]
            exact List.cons_ne_nil _ _

/-! ## Visible text -/

theorem isBlank_of_isPlainBlank {c : Char} (plain : isPlainBlank c = true) : isBlank c = true := by
  simp only [isPlainBlank, Bool.or_eq_true, beq_iff_eq, Bool.and_eq_true, decide_eq_true_eq] at plain
  rcases plain with rfl | between
  · rfl
  · simp [isBlank, blankRanges, Ranges.has, between.1, between.2]

theorem mem_expandTabs {c : Char} (other : c ≠ '\t') (member : c ∈ text)
    (column : Nat) : c ∈ expandTabs column text := by
  induction text generalizing column with
  | nil => cases member
  | cons first text ih =>
      rw [expandTabs]
      rcases List.mem_cons.1 member with rfl | later
      · rw [if_neg (by simpa using other)]
        split <;> exact List.mem_cons_self
      · split
        · exact List.mem_append_right _ (ih later _)
        · split <;> exact List.mem_cons_of_mem _ (ih later _)

/-- A text with a character that is not blank has a line. -/
theorem wrap_ne_nil (some : 0 < width) {c : Char}
    (member : c ∈ text) (visible : isBlank c = false) : wrap width text ≠ [] := by
  have plain : isPlainBlank c = false := by
    rw [← Bool.not_eq_true]
    intro blank
    rw [isBlank_of_isPlainBlank blank] at visible
    cases visible
  have other : c ≠ '\t' := by
    rintro rfl
    cases plain
  have kept : c ∈ flatten text :=
    List.mem_map.2 ⟨c, mem_expandTabs other member 0, by rw [plain, if_neg Bool.false_ne_true]⟩
  have whole := flatten_chunks [] (Nat.le_refl (flatten text).length)
  have few := length_chunks_le [] (flatten text) (flatten text).length
  refine fill_ne_nil some ⟨c, by rw [whole]; exact kept, visible⟩ ?_
  rw [size, whole]
  omega

/-! ## Blank text -/

theorem all_expandTabs (plain : text.all isPlainBlank = true) (column : Nat) :
    (expandTabs column text).all isPlainBlank = true := by
  induction text generalizing column with
  | nil => rfl
  | cons first text ih =>
      obtain ⟨here, others⟩ := Bool.and_eq_true_iff.1 plain
      rw [expandTabs]
      split
      · rw [List.all_append, ih others, Bool.and_true, List.all_replicate]
        split <;> rfl
      · split <;> rw [List.all_cons, here, ih others] <;> rfl

theorem flatten_of_plain (plain : text.all isPlainBlank = true) :
    ∃ count, flatten text = List.replicate count ' ' := by
  refine ⟨(flatten text).length, List.eq_replicate_iff.2 ⟨rfl, fun c member => ?_⟩⟩
  obtain ⟨given, inText, rfl⟩ := List.mem_map.1 member
  rw [List.all_eq_true.1 (all_expandTabs plain 0) given inText, if_pos rfl]

/-- Spaces alone form one chunk. -/
theorem chunks_replicate (count : Nat) :
    chunks [] (List.replicate (count + 1) ' ') (count + 1) = [List.replicate (count + 1) ' '] := by
  have whole : chunkLength [] (List.replicate (count + 1) ' ') = count + 1 := by
    rw [List.replicate_succ, chunkLength, if_pos (by rfl), ← List.replicate_succ,
      List.takeWhile_replicate_eq_filter, List.filter_replicate_of_pos (by rfl),
      List.length_replicate]
  have long : max 1 (count + 1) = count + 1 := by omega
  rw [chunks, whole, long, List.take_of_length_le (by simp), List.drop_of_length_le (by simp)]
  cases count <;> rfl

/-- A line takes up spaces alone from a chunk of spaces, and leaves spaces or nothing. -/
theorem line_replicate (width count : Nat) :
    ∃ taken left, line width [List.replicate count ' '] = ([List.replicate taken ' '], left) ∧
      (left = [] ∨ ∃ more, left = [List.replicate more ' ']) := by
  unfold line
  by_cases short : (List.replicate count ' ').length ≤ width
  · rw [fitting, if_pos short]
    exact ⟨count, [], rfl, .inl rfl⟩
  · rw [fitting, if_neg short]
    dsimp only
    rw [if_pos (Nat.not_le.1 short), List.take_replicate, List.drop_replicate]
    exact ⟨_, _, rfl, .inr ⟨_, rfl⟩⟩

theorem fill_replicate (width count rounds : Nat) :
    fill width true [List.replicate count ' '] rounds = [] := by
  induction rounds generalizing count with
  | zero => rfl
  | succ rounds ih =>
      obtain ⟨taken, left, lined, rest⟩ := line_replicate width count
      have blank : isBlankChunk (List.replicate taken ' ') = true :=
        List.all_eq_true.2 fun c member => by rw [List.eq_of_mem_replicate member]; rfl
      rw [fill]
      simp only [Bool.not_true, Bool.false_and, Bool.false_eq_true, if_false, lined,
        List.getLast?_singleton, blank, if_true, List.dropLast_singleton, List.isEmpty_nil]
      rcases rest with rfl | ⟨more, rfl⟩
      · cases rounds <;> rfl
      · exact ih more

/-- A text of spaces, tabs and line breaks alone has no line. -/
theorem wrap_eq_nil (plain : text.all isPlainBlank = true) (width : Nat) :
    wrap width text = [] := by
  obtain ⟨count, same⟩ := flatten_of_plain plain
  unfold wrap
  dsimp only
  rw [same, List.length_replicate]
  cases count with
  | zero => rfl
  | succ count =>
      rw [chunks_replicate]
      exact fill_replicate width _ _

end BrowserScript.Text.Wrap
