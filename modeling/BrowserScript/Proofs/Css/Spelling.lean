import BrowserScript.Css.Scan
import BrowserScript.Css.Serialize
import BrowserScript.Proofs.Css.Continuation
import BrowserScript.Proofs.Value.Quoted

/-!
# Spelled names and strings read back

Names and strings are spelled so that a scan finds them again, whatever follows them as long as it
does not go on as a name. A character that may not stand as it is has an escape, which stands for
that character in names and strings alike.
-/

namespace BrowserScript.Css

variable {c : Char} {belongs : Char → Bool} {rest text : List Char}

/-! ## Classes of characters by code point -/

theorem isAlpha_iff_toNat :
    c.isAlpha = true ↔ 65 ≤ c.toNat ∧ c.toNat ≤ 90 ∨ 97 ≤ c.toNat ∧ c.toNat ≤ 122 := by
  change (decide (c.val ≥ 'A'.val ∧ c.val ≤ 'Z'.val)
    || (decide (c.val ≥ 'a'.val) && decide (c.val ≤ 'z'.val))) = true ↔ _
  rw [Bool.or_eq_true, Bool.and_eq_true, decide_eq_true_iff, decide_eq_true_iff,
    decide_eq_true_iff]
  exact Iff.rfl

theorem isHexDigit_iff_toNat :
    Text.isHexDigit c = true ↔
      48 ≤ c.toNat ∧ c.toNat ≤ 57 ∨ 97 ≤ c.toNat ∧ c.toNat ≤ 102 ∨
        65 ≤ c.toNat ∧ c.toNat ≤ 70 := by
  have bound {low high : Char} : (decide (low ≤ c) && decide (c ≤ high)) = true ↔
      low.toNat ≤ c.toNat ∧ c.toNat ≤ high.toNat := by
    rw [Bool.and_eq_true, decide_eq_true_iff, decide_eq_true_iff]
    exact Iff.rfl
  unfold Text.isHexDigit Text.hexDigit?
  simp only [bound, Char.reduceToNat]
  split
  · simp_all
  · split
    · simp_all
    · split <;> simp_all

/-- A hexadecimal digit may stand inside a name. -/
theorem isNameChar_of_isHexDigit (digit : Text.isHexDigit c = true) : isNameChar c = true := by
  simp only [isNameChar, isNameStart, Bool.or_eq_true, isAlpha_iff_toNat, Char.isDigit_iff_toNat,
    Char.reduceToNat]
  rw [isHexDigit_iff_toNat] at digit
  omega

/-! ## Runs -/

def StartsOutside (belongs : Char → Bool) (text : List Char) : Prop :=
  ∀ c ∈ text.head?, belongs c = false

instance (belongs : Char → Bool) (text : List Char) : Decidable (StartsOutside belongs text) :=
  decidable_of_iff (text.head?.any belongs = false) (by cases text <;> simp [StartsOutside])

theorem startsOutside_cons : StartsOutside belongs (c :: rest) ↔ belongs c = false := by
  simp [StartsOutside]

theorem takeRun_append {limit : Nat} {run : List Char}
    (all : ∀ c ∈ run, belongs c = true) (short : run.length ≤ limit)
    (stops : run.length < limit → StartsOutside belongs rest) :
    takeRun limit belongs (run ++ rest) = (run, rest) := by
  induction run generalizing limit with
  | nil =>
      cases rest with
      | nil => simp [takeRun]
      | cons c rest =>
          cases limit with
          | zero => rfl
          | succ limit =>
              have outside := startsOutside_cons.1 (stops (Nat.succ_pos limit))
              simp [takeRun, outside]
  | cons c run ih =>
      obtain ⟨belong, others⟩ := List.forall_mem_cons.1 all
      cases limit with
      | zero => cases short
      | succ limit =>
          have tail := ih others (Nat.le_of_succ_le_succ short)
            fun below => stops (Nat.succ_lt_succ below)
          simp [takeRun, belong, tail]

theorem takeWhile_append_outside {run : List Char}
    (all : ∀ c ∈ run, belongs c = true) (stops : StartsOutside belongs rest) :
    (run ++ rest).takeWhile belongs = run ∧ (run ++ rest).dropWhile belongs = rest := by
  rw [List.takeWhile_append_of_pos all, List.dropWhile_append_of_pos all]
  cases rest with
  | nil => simp
  | cons c rest => simp [startsOutside_cons.1 stops]

/-! ## Escapes -/

def Escapes (text : List Char) (c : Char) : Prop :=
  ∃ first others, text = '\\' :: first :: others ∧ first ≠ '\n' ∧
    ∀ rest, scanEscape (first :: (others ++ rest)) = (c, rest)

theorem isEscape_backslash (visible : c ≠ '\n') (rest : List Char) :
    isEscape ('\\' :: c :: rest) = true := by
  unfold isEscape
  split
  · rename_i broken
    cases broken
    exact absurd rfl visible
  · rfl
  · rename_i other
    exact absurd rfl (other _)

/-- A character that is no hexadecimal digit is escaped by a backslash alone. -/
theorem escapes_bare (plain : Text.isHexDigit c = false) (visible : c ≠ '\n') :
    Escapes ['\\', c] c := by
  refine ⟨c, [], rfl, visible, fun rest => ?_⟩
  have none : takeRun 6 Text.isHexDigit ([] ++ c :: rest) = ([], c :: rest) :=
    takeRun_append (List.forall_mem_nil _) (Nat.zero_le 6) fun _ => startsOutside_cons.2 plain
  rw [List.nil_append] at none ⊢
  simp [scanEscape, none]

/-- Hexadecimal digits of the code point of a character, as many as an escape takes. -/
structure SpellsPoint (digits : List Char) (c : Char) : Prop where
  all : ∀ digit ∈ digits, Text.isHexDigit digit = true
  some : digits ≠ []
  short : digits.length ≤ 6
  point : Text.ofHex digits = c.toNat
  positive : c.toNat ≠ 0

/-- A code point in hexadecimal digits and a blank after them escape its character. -/
theorem SpellsPoint.escapes {digits : List Char} (spells : SpellsPoint digits c) :
    Escapes ('\\' :: digits ++ [' ']) c := by
  obtain ⟨all, some, short, point, positive⟩ := spells
  cases digits with
  | nil => exact absurd rfl some
  | cons first others =>
      have visible : first ≠ '\n' := by
        rintro rfl
        cases isHexDigit_lineBreak.symm.trans (all _ List.mem_cons_self)
      refine ⟨first, others ++ [' '], rfl, visible, fun rest => ?_⟩
      have run : takeRun 6 Text.isHexDigit (first :: others ++ ' ' :: rest) =
          (first :: others, ' ' :: rest) :=
        takeRun_append all short fun _ => startsOutside_cons.2 (by decide)
      rw [List.cons_append] at run
      rw [List.append_assoc, List.singleton_append]
      simp [scanEscape, run, point, positive, dropSpace, isSpace]

theorem escapes_escapeNameChar (plain : Text.isHexDigit c = false) :
    Escapes (escapeNameChar c).toList c := by
  have lineFeed : SpellsPoint ['A'] '\n' :=
    ⟨List.all_eq_true.1 (by decide), by decide, by decide, by decide, by decide⟩
  have carriageReturn : SpellsPoint ['D'] '\r' :=
    ⟨List.all_eq_true.1 (by decide), by decide, by decide, by decide, by decide⟩
  have formFeed : SpellsPoint ['C'] '\x0c' :=
    ⟨List.all_eq_true.1 (by decide), by decide, by decide, by decide, by decide⟩
  unfold escapeNameChar
  split
  · rename_i found
    rw [beq_iff_eq.1 found]
    exact lineFeed.escapes
  · split
    · rename_i found
      rw [beq_iff_eq.1 found]
      exact carriageReturn.escapes
    · split
      · rename_i found
        rw [beq_iff_eq.1 found]
        exact formFeed.escapes
      · rename_i visible _ _
        rw [String.toList_ofList]
        exact escapes_bare plain (by simpa using visible)

/-! ## Names -/

theorem scanName_char (member : isNameChar c = true) (rest : List Char) :
    scanName (c :: rest) = (c :: (scanName rest).1, (scanName rest).2) := by
  rw [scanName, if_pos member]

theorem scanName_escape (escapes : Escapes text c) (rest : List Char) :
    scanName (text ++ rest) = (c :: (scanName rest).1, (scanName rest).2) := by
  obtain ⟨first, others, rfl, visible, reads⟩ := escapes
  rw [List.cons_append, List.cons_append, scanName, if_neg (by decide),
    if_pos (isEscape_backslash visible _), reads]

/-- The text does not go on as a name. -/
theorem scanName_of_not_starts (ends : startsHashName rest = false) :
    scanName rest = ([], rest) := by
  cases rest with
  | nil => rw [scanName]
  | cons c rest =>
      simp only [startsHashName, Bool.or_eq_false_iff] at ends
      rw [scanName, if_neg (by simp [ends.1]), if_neg (by simp [ends.2])]

/-- A character stands in a name as it is, or as an escape. -/
theorem nameCharText_cases (c : Char) :
    isNameChar c = true ∧ (nameCharText c).toList = [c] ∨
      isNameChar c = false ∧ Escapes (nameCharText c).toList c := by
  have bare : (c.isAlphanum || c == '-' || c == '_' || decide (0x7f < c.toNat)) = isNameChar c := by
    rw [Bool.eq_iff_iff]
    simp only [isNameChar, isNameStart, Char.isAlphanum, Bool.or_eq_true]
    grind
  rw [nameCharText, bare]
  cases member : isNameChar c with
  | true => exact .inl ⟨rfl, by simp⟩
  | false =>
      refine .inr ⟨rfl, escapes_escapeNameChar ?_⟩
      cases digit : Text.isHexDigit c with
      | true => cases member.symm.trans (isNameChar_of_isHexDigit digit)
      | false => rfl

theorem toList_nameText (name : List Char) :
    (nameText name).toList = name.flatMap fun c => (nameCharText c).toList := by
  rw [nameText, String.toList_join, List.flatMap_map]

theorem scanName_nameText_append (name rest : List Char) :
    scanName ((nameText name).toList ++ rest) = (name ++ (scanName rest).1, (scanName rest).2) := by
  rw [toList_nameText]
  induction name with
  | nil => rfl
  | cons c name ih =>
      rw [List.flatMap_cons, List.append_assoc]
      rcases nameCharText_cases c with ⟨member, text⟩ | ⟨_, escapes⟩
      · rw [text, List.singleton_append, scanName_char member, ih]
        rfl
      · rw [scanName_escape escapes, ih]
        rfl

theorem spellsPoint_hexFixed (digit : c.isDigit = true) :
    SpellsPoint (Text.hexFixed 2 c.toNat) c := by
  rw [Char.isDigit_iff_toNat] at digit
  simp only [Char.reduceToNat] at digit
  have length := Quoted.hexFixed_length 2 c.toNat
  refine ⟨List.all_eq_true.1 (Quoted.hexFixed_all 2 c.toNat), ?_, ?_, ?_, ?_⟩
  · exact List.ne_nil_of_length_eq_add_one length
  · omega
  · rw [Quoted.ofHex_hexFixed]
    omega
  · omega

/-- The first character of an identifier stands as it is, or as an escape. -/
theorem firstCharText_cases (c : Char) :
    isNameStart c = true ∧ (firstCharText c).toList = [c] ∨
      isNameStart c = false ∧ Escapes (firstCharText c).toList c := by
  have bare : (c.isAlpha || c == '_' || decide (0x7f < c.toNat)) = isNameStart c := rfl
  rw [firstCharText, bare]
  cases start : isNameStart c with
  | true => exact .inl ⟨rfl, by simp⟩
  | false =>
      refine .inr ⟨rfl, ?_⟩
      rw [if_neg Bool.false_ne_true]
      split
      · rename_i digit
        simpa using (spellsPoint_hexFixed digit).escapes
      · rename_i other
        refine escapes_escapeNameChar ?_
        -- A hexadecimal digit is a digit or a letter, and letters start names.
        simp only [isNameStart, Bool.or_eq_false_iff] at start
        have letter := start.1.1
        rw [Bool.eq_false_iff, ne_eq, isAlpha_iff_toNat] at letter
        rw [Char.isDigit_iff_toNat] at other
        simp only [Char.reduceToNat] at other
        rw [Bool.eq_false_iff, ne_eq, isHexDigit_iff_toNat]
        omega

theorem isIdentStart_of_isNameStart (start : isNameStart c = true) (rest : List Char) :
    isIdentStart (c :: rest) = true := by
  unfold isIdentStart
  split
  · rename_i nil
    cases nil
  · rename_i hyphen
    cases hyphen
    cases start
  · rename_i found
    cases found
    simp [start]

theorem isIdentStart_escape (escapes : Escapes text c)
    (rest : List Char) : isIdentStart (text ++ rest) = true := by
  obtain ⟨first, others, rfl, visible, _⟩ := escapes
  simp [isIdentStart, isEscape_backslash visible]

/-- An identifier may start with the text of a first character. -/
theorem isIdentStart_firstCharText (c : Char) (rest : List Char) :
    isIdentStart ((firstCharText c).toList ++ rest) = true := by
  rcases firstCharText_cases c with ⟨start, text⟩ | ⟨_, escapes⟩
  · rw [text]
    exact isIdentStart_of_isNameStart start rest
  · exact isIdentStart_escape escapes rest

theorem isIdentStart_hyphen_firstCharText (c : Char) (rest : List Char) :
    isIdentStart ('-' :: ((firstCharText c).toList ++ rest)) = true := by
  rcases firstCharText_cases c with ⟨start, text⟩ | ⟨_, escapes⟩
  · rw [text]
    simp [isIdentStart, start]
  · obtain ⟨first, others, text, visible, _⟩ := escapes
    rw [text]
    simp [isIdentStart, isEscape_backslash visible]

theorem scanName_firstCharText (c : Char) (rest : List Char) :
    scanName ((firstCharText c).toList ++ rest) = (c :: (scanName rest).1, (scanName rest).2) := by
  rcases firstCharText_cases c with ⟨start, text⟩ | ⟨_, escapes⟩
  · rw [text, List.singleton_append]
    exact scanName_char (by simp [isNameChar, start]) rest
  · exact scanName_escape escapes rest

theorem escapes_hyphen : Escapes ['\\', '-'] '-' := escapes_bare (by decide) (by decide)

/-- A name that is not empty reads back from the text of an identifier. -/
theorem scanName_identText_append (name : String) (rest : List Char) :
    scanName ((identText name).toList ++ rest) =
      (name.toList ++ (scanName rest).1, (scanName rest).2) := by
  unfold identText
  split
  · rename_i whole
    rw [whole]
    exact scanName_escape escapes_hyphen rest
  · rename_i others whole
    rw [whole, String.toList_append, List.append_assoc]
    change scanName ('-' :: '-' :: ((nameText others).toList ++ rest)) = _
    rw [scanName_char (by decide), scanName_char (by decide), scanName_nameText_append]
    rfl
  · rename_i c others _ whole
    rw [whole, String.toList_append, String.toList_append, List.append_assoc, List.append_assoc]
    change scanName ('-' :: ((firstCharText c).toList ++ ((nameText others).toList ++ rest))) = _
    rw [scanName_char (by decide), scanName_firstCharText, scanName_nameText_append]
    rfl
  · rename_i c others _ _ _ whole
    rw [whole, String.toList_append, List.append_assoc, scanName_firstCharText,
      scanName_nameText_append]
    rfl
  · rename_i whole
    rw [whole]
    rfl

theorem scanName_identText (name : String) (ends : startsHashName rest = false) :
    scanName ((identText name).toList ++ rest) = (name.toList, rest) := by
  rw [scanName_identText_append, scanName_of_not_starts ends, List.append_nil]

theorem scanName_nameText (name : List Char) (ends : startsHashName rest = false) :
    scanName ((nameText name).toList ++ rest) = (name, rest) := by
  rw [scanName_nameText_append, scanName_of_not_starts ends, List.append_nil]

theorem isIdentStart_identText {name : String} (some : name ≠ "") (rest : List Char) :
    isIdentStart ((identText name).toList ++ rest) = true := by
  unfold identText
  split
  · exact isIdentStart_escape escapes_hyphen rest
  · rw [String.toList_append]
    rfl
  · rename_i c others _ _
    rw [String.toList_append, String.toList_append, List.append_assoc, List.append_assoc]
    exact isIdentStart_hyphen_firstCharText c _
  · rename_i c others _ _ _ _
    rw [String.toList_append, List.append_assoc]
    exact isIdentStart_firstCharText c _
  · rename_i empty
    exact absurd (String.toList_eq_nil_iff.1 empty) some

/-! ## Strings -/

/-- A character stands in a string as it is, or as an escape. -/
theorem stringCharText_cases (c : Char) :
    (c ≠ '"' ∧ c ≠ '\\' ∧ c ≠ '\n') ∧ (stringCharText c).toList = [c] ∨
      Escapes (stringCharText c).toList c := by
  unfold stringCharText
  split
  · rename_i mark
    rw [beq_iff_eq.1 mark]
    exact .inr (escapes_bare (by decide) (by decide))
  · rename_i mark
    split
    · rename_i backslash
      rw [beq_iff_eq.1 backslash]
      exact .inr (escapes_bare (by decide) (by decide))
    · rename_i backslash
      split
      · rename_i breaks
        refine .inr (escapes_escapeNameChar ?_)
        simp only [Bool.or_eq_true, beq_iff_eq] at breaks
        rcases breaks with (rfl | rfl) | rfl <;> decide
      · rename_i breaks
        simp only [Bool.or_eq_true, beq_iff_eq, not_or] at mark backslash breaks
        exact .inl ⟨⟨mark, backslash, breaks.1.1⟩, by simp⟩

theorem scanString_escape (escapes : Escapes text c) (rest : List Char) :
    scanString '"' (text ++ rest) = (c :: (scanString '"' rest).1, (scanString '"' rest).2) := by
  obtain ⟨first, others, rfl, visible, reads⟩ := escapes
  rw [List.cons_append, List.cons_append, scanString.eq_def]
  simp [reads]

theorem scanString_mark (rest : List Char) :
    scanString '"' ('"' :: rest) = ([], .closed, rest) := by
  rw [scanString.eq_def]
  rfl

/-- A string reads back from its text. -/
theorem scanString_text (value rest : List Char) :
    scanString '"' ((value.flatMap fun c => (stringCharText c).toList) ++ '"' :: rest) =
      (value, .closed, rest) := by
  induction value with
  | nil => exact scanString_mark rest
  | cons c value ih =>
      rw [List.flatMap_cons, List.append_assoc]
      rcases stringCharText_cases c with ⟨⟨mark, backslash, breaks⟩, text⟩ | escapes
      · rw [text, List.singleton_append, scanString.eq_def]
        simp [mark, backslash, breaks, ih]
      · rw [scanString_escape escapes, ih]

end BrowserScript.Css
