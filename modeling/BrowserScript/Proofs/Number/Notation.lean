import BrowserScript.Number.Notation
import BrowserScript.Proofs.Number.Rounding

/-!
# Readings of one text

An integer and a floating-point number may be read from the same text. White space and digits of
other scripts are the concern of the first reading only, exponents and fractions of the second. On
a text that both accept, they agree up to rounding.
-/

namespace BrowserScript

namespace Text

/-! ## White space around a text -/

/-- A text between white space. -/
theorem trimSpace_between (text : List Char) :
    ∃ before after, text = before ++ trimSpace text ++ after ∧
      before.all isSpace = true ∧ after.all isSpace = true := by
  refine ⟨text.takeWhile isSpace, ((text.dropWhile isSpace).reverse.takeWhile isSpace).reverse,
    ?_, List.all_takeWhile, ?_⟩
  · have ends := congrArg List.reverse
      (List.takeWhile_append_dropWhile (p := isSpace) (l := (text.dropWhile isSpace).reverse))
    rw [List.reverse_append, List.reverse_reverse] at ends
    unfold trimSpace
    rw [List.append_assoc, ends, List.takeWhile_append_dropWhile]
  · rw [List.all_reverse]
    exact List.all_takeWhile

theorem dropWhile_isSpace_append {before : List Char} (blank : before.all isSpace = true)
    (rest : List Char) : (before ++ rest).dropWhile isSpace = rest.dropWhile isSpace :=
  List.dropWhile_append_of_pos (List.all_eq_true.1 blank)

theorem dropWhile_isSpace_visible {text : List Char} (visible : ∀ c ∈ text, isSpace c = false)
    (given : text ≠ []) (rest : List Char) : (text ++ rest).dropWhile isSpace = text ++ rest := by
  cases text with
  | nil => exact absurd rfl given
  | cons c text =>
      rw [List.cons_append, List.dropWhile_cons_of_neg]
      rw [visible c List.mem_cons_self]
      exact Bool.false_ne_true

/-- White space around a text without any is all that is taken away. -/
theorem trimSpace_surrounded {before text after : List Char} (start : before.all isSpace = true)
    (visible : ∀ c ∈ text, isSpace c = false) (ending : after.all isSpace = true) :
    trimSpace (before ++ text ++ after) = text := by
  have ending' : after.reverse.all isSpace = true := by rwa [List.all_reverse]
  unfold trimSpace
  rw [List.append_assoc, dropWhile_isSpace_append start]
  by_cases given : text = []
  · subst given
    have gone := dropWhile_isSpace_append ending []
    rw [List.append_nil] at gone
    rw [List.nil_append, gone]
    rfl
  · have given' : text.reverse ≠ [] := by simpa using given
    have visible' : ∀ c ∈ text.reverse, isSpace c = false := by simpa using visible
    rw [dropWhile_isSpace_visible visible given, List.reverse_append,
      dropWhile_isSpace_append ending']
    have same := dropWhile_isSpace_visible visible' given' []
    rw [List.append_nil] at same
    rw [same, List.reverse_reverse]

/-- White space is no digit of any script. -/
theorem digit?_of_isSpace {c : Char} (blank : isSpace c = true) : digit? c = none := by
  have apart : ∀ start ∈ zeros, ∀ interval ∈ blankRanges,
      start + 10 ≤ interval.1 ∨ interval.2 < start := by decide
  unfold isSpace at blank
  obtain ⟨interval, member, inside⟩ := List.any_eq_true.1 (Bool.and_eq_true_iff.1 blank).1
  have inside : interval.1 ≤ c.toNat ∧ c.toNat ≤ interval.2 := by simpa using inside
  unfold digit?
  rw [Option.map_eq_none_iff, List.find?_eq_none]
  intro start listed
  have far := apart start listed interval member
  simp only [Bool.and_eq_true, decide_eq_true_eq]
  omega

end Text

namespace Numeral

variable {negative : Bool} {c : Char} {body digits text : List Char}

/-! ## Plain characters -/

/-- Whether a character is of the kind of which numbers are made: a seven-bit letter or digit, a
sign, a point or an underscore. -/
def isPlain (c : Char) : Bool := c.isAlphanum || c == '+' || c == '-' || c == '.' || c == '_'

def simplifyChar (c : Char) : Char :=
  match Text.digit? c with
  | some value => Char.ofNat (48 + value)
  | none => if Text.isSpace c then ' ' else c

theorem simplify_eq_map (text : List Char) : simplify text = text.map simplifyChar := rfl

/-- Plain characters are seven-bit ones. -/
theorem toNat_lt_of_isPlain (plain : isPlain c = true) : c.toNat < 128 := by
  have upper : 'Z'.val.toNat = 90 := rfl
  have lower : 'z'.val.toNat = 122 := rfl
  have digit : '9'.val.toNat = 57 := rfl
  have point : c.toNat = c.val.toNat := rfl
  simp only [isPlain, Bool.or_eq_true, beq_iff_eq] at plain
  rcases plain with (((alphanumeric | rfl) | rfl) | rfl) | rfl
  · have ranges : (decide (c.val ≥ 'A'.val ∧ c.val ≤ 'Z'.val)
        || c.val ≥ 'a'.val && c.val ≤ 'z'.val || c.val ≥ '0'.val && c.val ≤ '9'.val) = true :=
      alphanumeric
    simp only [Bool.or_eq_true, Bool.and_eq_true, decide_eq_true_eq, UInt32.le_iff_toNat_le,
      ge_iff_le] at ranges
    omega
  all_goals decide

/-- What holds of all seven-bit characters holds of a plain one. -/
theorem of_isPlain (holds : Char → Prop) (each : ∀ point < 128, holds (Char.ofNat point))
    (plain : isPlain c = true) : holds c := by
  have found := each c.toNat (toNat_lt_of_isPlain plain)
  rwa [Char.ofNat_toNat] at found

theorem simplifyChar_of_isPlain (plain : isPlain c = true) :
    simplifyChar c = c ∧ Text.isSpace c = false :=
  of_isPlain (fun c => isPlain c = true → simplifyChar c = c ∧ Text.isSpace c = false)
    (by decide +kernel) plain plain

theorem isSpace_simplifyChar (blank : Text.isSpace c = true) :
    Text.isSpace (simplifyChar c) = true := by
  unfold simplifyChar
  rw [Text.digit?_of_isSpace blank]
  dsimp only
  rw [if_pos blank]
  decide

/-- A text that is plain between its white space is read as it stands. -/
theorem trimSpace_simplify (plain : (Text.trimSpace text).all isPlain = true) :
    Text.trimSpace (simplify text) = Text.trimSpace text := by
  obtain ⟨before, after, split, start, ending⟩ := Text.trimSpace_between text
  have each (c : Char) (member : c ∈ Text.trimSpace text) :
      simplifyChar c = c ∧ Text.isSpace c = false :=
    simplifyChar_of_isPlain (List.all_eq_true.1 plain c member)
  have blank {side : List Char} (spaces : side.all Text.isSpace = true) :
      (side.map simplifyChar).all Text.isSpace = true := by
    rw [List.all_map, List.all_eq_true]
    exact fun c member => isSpace_simplifyChar (List.all_eq_true.1 spaces c member)
  have kept : (Text.trimSpace text).map simplifyChar = Text.trimSpace text := by
    rw [List.map_congr_left fun c member => (each c member).1, List.map_id']
  calc Text.trimSpace (simplify text)
      = Text.trimSpace ((before ++ Text.trimSpace text ++ after).map simplifyChar) := by
        rw [← split]
        rfl
    _ = Text.trimSpace
          (before.map simplifyChar ++ Text.trimSpace text ++ after.map simplifyChar) := by
        rw [List.map_append, List.map_append, kept]
    _ = Text.trimSpace text :=
        Text.trimSpace_surrounded (blank start) (fun c member => (each c member).2) (blank ending)

/-! ## Integers -/

def isDigitOrUnderscore (c : Char) : Bool := c.isDigit || c == '_'

def digitsOf (text : List Char) : List Char := text.filter (· != '_')

theorem digitsOf_of_not_mem (none : '_' ∉ text) : digitsOf text = text := by
  unfold digitsOf
  rw [List.filter_eq_self]
  intro c member
  rw [bne_iff_ne]
  rintro rfl
  exact none member

theorem all_isPlain_of_digitsOf (all : (digitsOf text).all isPlain = true) :
    text.all isPlain = true := by
  rw [List.all_eq_true] at all ⊢
  intro c member
  by_cases underscore : c = '_'
  · rw [underscore]
    rfl
  · exact all c (List.mem_filter.2 ⟨member, bne_iff_ne.2 underscore⟩)

theorem eq_digitsOf_of_dropUnderscores? {previous : Bool}
    (found : dropUnderscores? previous text = some digits) : digits = digitsOf text := by
  fun_induction dropUnderscores? previous text generalizing digits with
  | case1 => exact (Option.some.inj found).symm
  | case2 => cases found
  | case3 previous next rest between ih => exact ih found
  | case4 => cases found
  | case5 previous c rest other ih =>
      obtain ⟨rest', foundRest, rfl⟩ := Option.map_eq_some_iff.1 found
      have kept : (c != '_') = true := by simpa using other
      rw [ih foundRest, digitsOf, digitsOf, List.filter_cons, if_pos kept]

/-- A text spells out an integer: a sign and digits with underscores between them. -/
structure Spells (text : List Char) (negative : Bool) (body : List Char) : Prop where
  sign : splitSign text = (negative, body)
  digits : body.all isDigitOrUnderscore = true
  some_digit : digitsOf body ≠ []

/-- An integer is read from the text between white space if it spells one out. -/
theorem spells_of_readInt {whole : Int} (read : readInt text = .value whole) :
    ∃ negative body, Spells (Text.trimSpace (simplify text)) negative body ∧
      whole = Binary64.signed negative (ofDigits (digitsOf body)) := by
  unfold readInt at read
  rcases sign : splitSign (Text.trimSpace (simplify text)) with ⟨negative, body⟩
  rw [sign] at read
  dsimp only at read
  split at read
  · cases read
  · rename_i digits found
    split at read
    · cases read
    · split at read
      · cases read
      · rename_i complete
        have complete : digits ≠ [] ∧ body.length ≤
            (body.takeWhile fun c => c.isDigit || c == '_').length := by
          simpa [Nat.not_lt] using complete
        have all : (body.takeWhile fun c => c.isDigit || c == '_') = body :=
          (List.takeWhile_prefix _).eq_of_length
            (Nat.le_antisymm (List.takeWhile_prefix _).length_le complete.2)
        rw [all] at found
        have same := eq_digitsOf_of_dropUnderscores? found
        refine ⟨negative, body, ⟨sign, ?_, ?_⟩, ?_⟩
        · rw [← all]
          exact List.all_takeWhile
        · rw [← same]
          exact complete.1
        · rw [← same]
          cases read
          rfl

/-! ## Signs -/

/-- A text starts with the sign that is split off, or there is none. -/
theorem splitSign_cases (text : List Char) :
    (∃ body, text = '-' :: body ∧ splitSign text = (true, body)) ∨
      (∃ body, text = '+' :: body ∧ splitSign text = (false, body)) ∨
      (text.head? ≠ some '-' ∧ text.head? ≠ some '+' ∧ splitSign text = (false, text)) := by
  unfold splitSign
  split
  · exact .inl ⟨_, rfl, rfl⟩
  · exact .inr (.inl ⟨_, rfl, rfl⟩)
  · rename_i noMinus noPlus
    refine .inr (.inr ⟨?_, ?_, rfl⟩)
    · intro minus
      obtain ⟨rest, same⟩ := List.head?_eq_some_iff.1 minus
      exact noMinus rest same
    · intro plus
      obtain ⟨rest, same⟩ := List.head?_eq_some_iff.1 plus
      exact noPlus rest same

/-- What holds of the signs and of a text without its sign holds of the whole text. -/
theorem all_of_splitSign {holds : Char → Bool}
    (sign : splitSign text = (negative, body)) (minus : holds '-' = true) (plus : holds '+' = true)
    (rest : body.all holds = true) : text.all holds = true := by
  rcases splitSign_cases text with ⟨_, rfl, split⟩ | ⟨_, rfl, split⟩ | ⟨_, _, split⟩
  · cases sign.symm.trans split
    rw [List.all_cons, minus, rest]
    rfl
  · cases sign.symm.trans split
    rw [List.all_cons, plus, rest]
    rfl
  · cases sign.symm.trans split
    exact rest

theorem all_isDigit_digitsOf (all : body.all isDigitOrUnderscore = true) :
    (digitsOf body).all Char.isDigit = true := by
  rw [List.all_eq_true] at all ⊢
  intro c member
  obtain ⟨inside, other⟩ := List.mem_filter.1 member
  have kind := all c inside
  unfold isDigitOrUnderscore at kind
  simpa [bne_iff_ne.1 other] using kind

theorem splitSign_of_digits (all : digits.all Char.isDigit = true) :
    splitSign digits = (false, digits) := by
  rcases splitSign_cases digits with ⟨_, rfl, _⟩ | ⟨_, rfl, _⟩ | ⟨_, _, split⟩
  · cases all
  · cases all
  · exact split

/-- Only the sign stands in front of the digits. -/
theorem splitSign_digitsOf
    (spells : Spells text negative body) : splitSign (digitsOf text) = (negative, digitsOf body) := by
  rcases splitSign_cases text with ⟨_, rfl, split⟩ | ⟨_, rfl, split⟩ | ⟨_, _, split⟩
  · cases spells.sign.symm.trans split
    rfl
  · cases spells.sign.symm.trans split
    rfl
  · cases spells.sign.symm.trans split
    exact splitSign_of_digits (all_isDigit_digitsOf spells.digits)

theorem Spells.all_isPlain (spells : Spells text negative body) : text.all isPlain = true := by
  refine all_of_splitSign spells.sign rfl rfl ?_
  rw [List.all_eq_true]
  intro c member
  have kind := List.all_eq_true.1 spells.digits c member
  simp only [isDigitOrUnderscore, Bool.or_eq_true, beq_iff_eq] at kind
  rcases kind with digit | rfl
  · simp [isPlain, Char.isAlphanum, digit]
  · rfl

/-! ## Floating-point numbers -/

/-- Whether a character occurs in numbers that are written without underscores. -/
def isNumberChar (c : Char) : Bool := isPlain c && c != '_'

theorem all_isPlain_of_isNumberChar (all : text.all isNumberChar = true) :
    text.all isPlain = true := by
  rw [List.all_eq_true] at all ⊢
  exact fun c member => (Bool.and_eq_true_iff.1 (all c member)).1

theorem not_mem_underscore (all : text.all isNumberChar = true) : '_' ∉ text :=
  fun member => absurd (List.all_eq_true.1 all '_' member) (by decide)

theorem isNumberChar_of_isAlphanum (alphanumeric : c.isAlphanum = true) :
    isNumberChar c = true := by
  have other : c ≠ '_' := by
    rintro rfl
    exact absurd alphanumeric (by decide)
  simp [isNumberChar, isPlain, alphanumeric, other]

theorem all_isNumberChar_of_digits (all : digits.all Char.isDigit = true) :
    digits.all isNumberChar = true := by
  rw [List.all_eq_true] at all ⊢
  intro c member
  exact isNumberChar_of_isAlphanum (by simp [Char.isAlphanum, all c member])

theorem all_isNumberChar_of_exponent {exponent : Int}
    (read : readExponent? text = some exponent) : text.all isNumberChar = true := by
  unfold readExponent? at read
  split at read
  · rfl
  · rename_i c rest
    split at read
    · rename_i mark
      have mark : c = 'e' ∨ c = 'E' := by simpa using mark
      rcases sign : splitSign rest with ⟨negative, digits⟩
      rw [sign] at read
      dsimp only at read
      split at read
      · rename_i run
        have run := (Bool.and_eq_true_iff.1 run).2
        have tail := all_of_splitSign sign rfl rfl (all_isNumberChar_of_digits run)
        rw [List.all_cons, tail, Bool.and_true]
        rcases mark with rfl | rfl
        · rfl
        · rfl
      · cases read
    · cases read

theorem all_isNumberChar_of_decimal {number : Binary64}
    (read : readDecimal? negative text = some number) : text.all isNumberChar = true := by
  have whole : (text.takeWhile Char.isDigit).all isNumberChar = true :=
    all_isNumberChar_of_digits List.all_takeWhile
  rw [← List.takeWhile_append_dropWhile (p := Char.isDigit) (l := text), List.all_append, whole,
    Bool.true_and]
  unfold readDecimal? at read
  dsimp only at read
  split at read
  · rename_i tail point
    have fraction : (tail.takeWhile Char.isDigit).all isNumberChar = true :=
      all_isNumberChar_of_digits List.all_takeWhile
    split at read
    · cases read
    · obtain ⟨exponent, found, _⟩ := Option.map_eq_some_iff.1 read
      rw [point, List.all_cons, ← List.takeWhile_append_dropWhile (p := Char.isDigit) (l := tail),
        List.all_append, fraction, all_isNumberChar_of_exponent found]
      rfl
  · split at read
    · cases read
    · obtain ⟨exponent, found, _⟩ := Option.map_eq_some_iff.1 read
      exact all_isNumberChar_of_exponent found

theorem isAlphanum_of_toLower (letter : c.toLower.isAlpha = true) : c.isAlphanum = true := by
  unfold Char.toLower at letter
  split at letter
  · rename_i upper
    have upper : c.isUpper = true := decide_eq_true upper
    change (c.isUpper || c.isLower || c.isDigit) = true
    rw [upper]
    rfl
  · simp [Char.isAlphanum, letter]

/-- A number that is read is written in plain characters without underscores. -/
theorem all_isNumberChar_of_readPlain? {number : Binary64}
    (read : readPlain? text = some number) : text.all isNumberChar = true := by
  unfold readPlain? at read
  rcases sign : splitSign text with ⟨negative, body⟩
  rw [sign] at read
  dsimp only at read
  refine all_of_splitSign sign rfl rfl ?_
  have word {letters : String} (same : String.ofList (body.map Char.toLower) = letters)
      (alphabetic : letters.toList.all Char.isAlpha = true) : body.all isNumberChar = true := by
    rw [← same, String.toList_ofList, List.all_map] at alphabetic
    rw [List.all_eq_true] at alphabetic ⊢
    intro c member
    exact isNumberChar_of_isAlphanum (isAlphanum_of_toLower (alphabetic c member))
  split at read
  · rename_i infinite
    rcases Bool.or_eq_true_iff.1 infinite with same | same
    · exact word (by simpa using same) (by decide)
    · exact word (by simpa using same) (by decide)
  · split at read
    · rename_i notNumber
      exact word (by simpa using notNumber) (by decide)
    · exact all_isNumberChar_of_decimal read

theorem isAlpha_toLower_of_isDigit (digit : c.isDigit = true) : c.toLower.isAlpha = false := by
  have plain : isPlain c = true := by simp [isPlain, Char.isAlphanum, digit]
  exact of_isPlain (fun c => c.isDigit = true → c.toLower.isAlpha = false) (by decide +kernel)
    plain digit

/-- A sign and digits are read as a whole number. -/
theorem readPlain?_digits (sign : splitSign text = (negative, digits)) (given : digits ≠ [])
    (all : digits.all Char.isDigit = true) :
    readPlain? text = some (Binary64.ofQuotient negative (ofDigits digits) 1) := by
  have whole : (digits ++ []).takeWhile Char.isDigit = digits ++ [] :=
    List.takeWhile_append_of_pos (List.all_eq_true.1 all)
  have rest : (digits ++ []).dropWhile Char.isDigit = [] :=
    List.dropWhile_append_of_pos (List.all_eq_true.1 all)
  rw [List.append_nil] at whole rest
  have noWord {letters : String} (alphabetic : letters.toList.all Char.isAlpha = true) :
      (String.ofList (digits.map Char.toLower) == letters) = false := by
    rw [beq_eq_false_iff_ne]
    rintro rfl
    obtain ⟨c, member⟩ := List.exists_mem_of_ne_nil digits given
    rw [String.toList_ofList, List.all_map, List.all_eq_true] at alphabetic
    have letter : c.toLower.isAlpha = true := alphabetic c member
    rw [isAlpha_toLower_of_isDigit (List.all_eq_true.1 all c member)] at letter
    cases letter
  have decimal : readDecimal? negative digits =
      some (Binary64.ofQuotient negative (ofDigits digits) 1) := by
    unfold readDecimal?
    rw [whole, rest]
    dsimp only
    rw [if_neg (by simp [given]), List.append_nil, ← Binary64.ofDecimal_whole]
    rfl
  unfold readPlain?
  rw [sign]
  dsimp only
  rw [noWord (by decide), noWord (by decide), noWord (by decide)]
  exact decimal

end Numeral

end BrowserScript
