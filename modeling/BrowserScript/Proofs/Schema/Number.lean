import Mathlib.Data.Nat.Digits.Defs
import BrowserScript.Proofs.Number.Notation
import BrowserScript.Proofs.Schema.Truth

/-!
# Numbers as they are validated

A field for a number accepts texts in notations of its own: a number may have an exponent, a whole
number a fraction of zeros, and both may have underscores. Here is the number that an accepted value
is validated as, next to the integer that programs read from the value again.
-/

namespace BrowserScript.Schema

open Numeral

variable {number : Binary64} {whole : Int} {text : List Char} {value : Value}

/-! ## Validated numbers -/

def numberOfText? (text : List Char) : Option Binary64 :=
  match readPlain? (Text.trimSpace text) with
  | some number => some number
  | none => if text.contains '_' then readPlain? (WholeText.dropUnderscores text) else none

def numberOf? (value : Value) : Option Binary64 :=
  match value with
  | .bool truth => some (.ofInt (if truth then 1 else 0))
  | .int whole => some (.ofInt whole) |>.filter Binary64.isFinite
  | .float number => some number
  | _ => (textOf? value).join.bind numberOfText?

def wholeOfText? (text : List Char) : Option Int :=
  (WholeText.clean? text).bind fun plain =>
    if integerDigitLimit < plain.length then none
    else
      let (negative, digits) := splitSign plain
      some (Binary64.signed negative (ofDigits digits))

def wholeOf? (value : Value) : Option Int :=
  match value with
  | .bool truth => some (if truth then 1 else 0)
  | .int whole => some whole
  | .float number => wholeFloat? number
  | _ => (textOf? value).join.bind wholeOfText?

theorem exists_of_bind_textOf? {α : Type} {read : List Char → Option α} {result : α}
    (found : (textOf? value).join.bind read = some result) :
    ∃ text, textOf? value = some (some text) ∧ read text = some result := by
  obtain ⟨text, joined, done⟩ := Option.bind_eq_some_iff.1 found
  exact ⟨text, Option.join_eq_some_iff.1 joined, done⟩

theorem numberOf?_textual (textual : isTextual value = true)
    (found : numberOf? value = some number) :
    ∃ text, textOf? value = some (some text) ∧ numberOfText? text = some number := by
  cases value with
  | str text => exact exists_of_bind_textOf? found
  | bytes data => exact exists_of_bind_textOf? found
  | _ => cases textual

theorem wholeOf?_textual (textual : isTextual value = true) (found : wholeOf? value = some whole) :
    ∃ text, textOf? value = some (some text) ∧ wholeOfText? text = some whole := by
  cases value with
  | str text => exact exists_of_bind_textOf? found
  | bytes data => exact exists_of_bind_textOf? found
  | _ => cases textual

theorem numberOfText?_isSome (text : List Char) :
    (numberOfText? text).isSome = isNumberText text := by
  unfold numberOfText? isNumberText
  cases readPlain? (Text.trimSpace text) with
  | some number => rfl
  | none =>
      cases text.contains '_' with
      | true => rfl
      | false => rfl

theorem wholeOfText?_isSome (text : List Char) :
    (wholeOfText? text).isSome =
      (WholeText.clean? text).any fun plain => !decide (integerDigitLimit < plain.length) := by
  unfold wholeOfText?
  cases WholeText.clean? text with
  | none => rfl
  | some plain =>
      rw [Option.bind_some, Option.any_some]
      split
      · rename_i long
        simp [long]
      · rename_i short
        simp [short]

/-- The values that are accepted as a number are those that are validated as one. -/
theorem numberReason_eq_none : numberReason value = none ↔ (numberOf? value).isSome = true := by
  have ofText (text : List Char) :
      (if isNumberText text = true then none
        else some "Input should be a valid number, unable to parse string as a number") = none ↔
      (numberOfText? text).isSome = true := by
    rw [numberOfText?_isSome]
    cases isNumberText text <;> simp
  cases value with
  | bool truth => simp [numberReason, numberOf?]
  | float number => simp [numberReason, numberOf?]
  | int whole =>
      simp only [numberReason, numberOf?, Option.filter_some]
      cases (Binary64.ofInt whole).isFinite <;> simp
  | str text =>
      simp only [numberReason, numberOf?, textOf?, Option.join_some, Option.bind_some]
      exact ofText text.toList
  | bytes data =>
      simp only [numberReason, numberOf?, textOf?, Option.join_some]
      cases String.fromUTF8? ⟨data.toArray⟩ with
      | none => simp
      | some text =>
          simp only [Option.map_some, Option.bind_some]
          exact ofText text.toList
  | _ => simp [numberReason, numberOf?, textOf?]

theorem wholeReason_str {text : String} :
    wholeReason (.str text) = none ↔ (wholeOfText? text.toList).isSome = true := by
  rw [wholeOfText?_isSome]
  simp only [wholeReason, textOf?]
  cases WholeText.clean? text.toList with
  | none => simp
  | some plain => simp

/-- The values that are accepted as a whole number are those that are validated as one. -/
theorem wholeReason_eq_none : wholeReason value = none ↔ (wholeOf? value).isSome = true := by
  cases value with
  | bool truth => simp [wholeReason, wholeOf?]
  | int whole => simp [wholeReason, wholeOf?]
  | float number =>
      simp only [wholeReason, wholeOf?]
      cases found : wholeFloat? number with
      | none => cases number.isFinite <;> cases number.whole?.isNone <;> simp
      | some whole =>
          obtain ⟨isWhole, _⟩ := Option.filter_eq_some_iff.1 found
          cases number with
          | finite negative significand exponent => simp [isWhole, Binary64.isFinite]
          | _ => cases isWhole
  | str text => exact wholeReason_str
  | bytes data =>
      simp only [wholeReason, wholeOf?, textOf?]
      cases String.fromUTF8? ⟨data.toArray⟩ with
      | none => simp
      | some text => exact wholeReason_str
  | _ => simp [wholeReason, wholeOf?, textOf?]

theorem Shape.admits_number :
    Shape.number.Admits value ↔ ∃ number, numberOf? value = some number := by
  rw [← Option.isSome_iff_exists, ← numberReason_eq_none]
  exact reasoned_iff

theorem Shape.admits_whole : Shape.whole.Admits value ↔ ∃ whole, wholeOf? value = some whole := by
  rw [← Option.isSome_iff_exists, ← wholeReason_eq_none]
  exact reasoned_iff

/-! ## Texts that spell out an integer -/

/-- A text that is read as an integer spells it out between its white space, if it is plain
there. -/
theorem spells_trimSpace (read : readInt text = .value whole)
    (plain : (Text.trimSpace text).all isPlain = true) :
    ∃ negative body, Spells (Text.trimSpace text) negative body ∧
      whole = Binary64.signed negative (ofDigits (digitsOf body)) := by
  have spelled := spells_of_readInt read
  rwa [trimSpace_simplify plain] at spelled

/-- The underscores of a text are kept, or all of them are dropped. -/
theorem dropUnderscores_cases (text : List Char) :
    WholeText.dropUnderscores text = text ∨ WholeText.dropUnderscores text = digitsOf text := by
  unfold WholeText.dropUnderscores
  split
  · exact .inl rfl
  · exact .inr rfl

theorem trimSpace_of_plain (plain : text.all isPlain = true) : Text.trimSpace text = text := by
  have visible : ∀ c ∈ text, Text.isSpace c = false := fun c member =>
    (simplifyChar_of_isPlain (List.all_eq_true.1 plain c member)).2
  have same : Text.trimSpace ([] ++ text ++ []) = text :=
    Text.trimSpace_surrounded rfl visible rfl
  rwa [List.nil_append, List.append_nil] at same

/-- Without its underscores, a text that spells out an integer is read as a number. -/
theorem readPlain?_digitsOf {body : List Char} {negative : Bool}
    (spells : Spells text negative body) :
    readPlain? (digitsOf text) = some (.ofQuotient negative (ofDigits (digitsOf body)) 1) :=
  readPlain?_digits (splitSign_digitsOf spells) spells.some_digit
    (all_isDigit_digitsOf spells.digits)

/-- The number that a text is validated as is the integer that is read from it, rounded. -/
theorem numberOfText?_of_readInt
    (found : numberOfText? text = some number) (read : readInt text = .value whole) :
    ∃ negative magnitude, number = .ofQuotient negative magnitude 1 ∧
      whole = Binary64.signed negative magnitude := by
  unfold numberOfText? at found
  split at found
  · rename_i direct
    obtain rfl := Option.some.inj found
    have chars := all_isNumberChar_of_readPlain? direct
    obtain ⟨negative, body, spells, same⟩ :=
      spells_trimSpace read (all_isPlain_of_isNumberChar chars)
    refine ⟨negative, _, ?_, same⟩
    have again := readPlain?_digitsOf spells
    rw [digitsOf_of_not_mem (not_mem_underscore chars), direct] at again
    exact Option.some.inj again
  · split at found
    · rename_i underscored
      have chars := all_isNumberChar_of_readPlain? found
      have dropped : WholeText.dropUnderscores text = digitsOf text := by
        rcases dropUnderscores_cases text with same | same
        · rw [same] at chars
          exact absurd (List.contains_iff_mem.1 underscored) (not_mem_underscore chars)
        · exact same
      rw [dropped] at chars found
      have plain := all_isPlain_of_digitsOf (all_isPlain_of_isNumberChar chars)
      have bare := trimSpace_of_plain plain
      obtain ⟨negative, body, spells, same⟩ := spells_trimSpace read (by rwa [bare])
      rw [bare] at spells
      exact ⟨negative, _, Option.some.inj (found.symm.trans (readPlain?_digitsOf spells)), same⟩
    · cases found

/-! ## The form of a whole number -/

namespace WholeText

variable {rest text : List Char}

/-- A sign and digits have no underscores. -/
theorem all_of_isPlain (plain : isPlain text = true) : text.all isNumberChar = true := by
  unfold isPlain at plain
  simp only [Bool.and_eq_true] at plain
  obtain ⟨⟨_, digits⟩, _⟩ := plain
  split at digits
  · rename_i minus
    obtain ⟨rest, rfl⟩ := List.head?_eq_some_iff.1 (beq_iff_eq.1 minus)
    have tail := all_isNumberChar_of_digits digits
    rw [List.drop_succ_cons, List.drop_zero] at tail
    rw [List.all_cons, tail]
    rfl
  · exact all_isNumberChar_of_digits digits

theorem all_of_dropUnderscores (all : (dropUnderscores text).all Numeral.isPlain = true) :
    text.all Numeral.isPlain = true := by
  rcases dropUnderscores_cases text with same | same
  · rwa [same] at all
  · rw [same] at all
    exact all_isPlain_of_digitsOf all

/-- A fraction of zeros is dropped, or nothing is. -/
theorem dropFraction_cases (text : List Char) :
    dropFraction text = text ∨
      ∃ zeros, text = dropFraction text ++ '.' :: zeros ∧ zeros.all (· == '0') = true := by
  have split := List.takeWhile_append_dropWhile (p := fun c => c != '.') (l := text)
  have stops := List.head?_dropWhile_not (fun c => c != '.') text
  unfold dropFraction
  dsimp only
  cases rest : text.dropWhile fun c => c != '.' with
  | nil =>
      rw [rest, List.append_nil] at split
      rw [split, ite_self]
      exact .inl rfl
  | cons point zeros =>
      rw [rest, List.head?_cons] at stops
      obtain rfl : point = '.' := by simpa using stops
      rw [rest] at split
      have beyond (before : List Char) :
          (before ++ '.' :: zeros).drop (before.length + 1) = zeros := by simp
      have after := beyond (text.takeWhile fun c => c != '.')
      rw [split] at after
      rw [after]
      cases all : zeros.all (· == '0') with
      | true => exact .inr ⟨zeros, split.symm, all⟩
      | false => exact .inl rfl

theorem all_of_dropFraction
    (all : (dropFraction text).all Numeral.isPlain = true) : text.all Numeral.isPlain = true := by
  rcases dropFraction_cases text with same | ⟨zeros, split, areZeros⟩
  · rwa [same] at all
  · have plain : zeros.all Numeral.isPlain = true := by
      rw [List.all_eq_true] at areZeros ⊢
      intro c member
      rw [beq_iff_eq.1 (areZeros c member)]
      rfl
    rw [split, List.all_append, all, List.all_cons, plain]
    rfl

theorem all_of_dropZeros? {previous : Char}
    (found : dropZeros? previous text = some rest) (all : rest.all Numeral.isPlain = true) :
    text.all Numeral.isPlain = true := by
  induction text generalizing previous with
  | nil => rfl
  | cons c text ih =>
      unfold dropZeros? at found
      split at found
      · rename_i zero
        have zero : c = '0' ∨ c = '_' := by simpa using zero
        rw [List.all_cons, ih found]
        rcases zero with rfl | rfl
        · rfl
        · rfl
      · split at found
        · cases found
          exact (Bool.and_eq_true_iff.1 all).2
        · split at found
          · cases found
            exact all
          · cases found

theorem all_of_leading? (found : leading? text = some rest)
    (all : rest.all Numeral.isPlain = true) : text.all Numeral.isPlain = true := by
  unfold leading? at found
  split at found
  · cases found
  · split at found
    · rename_i c tail zero
      obtain rfl : c = '0' := by simpa using zero
      rw [List.all_cons, all_of_dropZeros? found all]
      rfl
    · split at found
      · cases found
        exact all
      · cases found

/-- The sign that a whole number may have in front of another one is a plus. -/
theorem all_of_clean? {plain : List Char} (found : clean? text = some plain) :
    (Text.trimSpace text).all Numeral.isPlain = true := by
  unfold clean? at found
  dsimp only at found
  obtain ⟨leading, foundLeading, found⟩ := Option.bind_eq_some_iff.1 found
  split at found
  · rename_i form
    have tail := all_of_leading? foundLeading
      (all_of_dropFraction (all_of_dropUnderscores (all_isPlain_of_isNumberChar (all_of_isPlain form))))
    split at tail
    · exact tail
    · rename_i rest _ same
      rw [same, List.all_cons, tail]
      rfl
    · exact tail
  · cases found

/-- Digits without a point keep all but their underscores. -/
theorem form_eq_digitsOf (noPoint : '.' ∉ text)
    (form : isPlain (dropUnderscores (dropFraction text)) = true) :
    dropUnderscores (dropFraction text) = digitsOf text := by
  have whole : dropFraction text = text := by
    rcases dropFraction_cases text with same | ⟨zeros, split, _⟩
    · exact same
    · rw [split] at noPoint
      exact absurd (List.mem_append_right _ List.mem_cons_self) noPoint
  rw [whole] at form ⊢
  rcases dropUnderscores_cases text with same | same
  · rw [same] at form ⊢
    exact (digitsOf_of_not_mem (not_mem_underscore (all_of_isPlain form))).symm
  · exact same

theorem ofDigits_dropZeros? {previous : Char}
    (zero : previous = '0' ∨ previous = '_') (digits : text.all isDigitOrUnderscore = true)
    (found : dropZeros? previous text = some rest) :
    rest.all isDigitOrUnderscore = true ∧
      ofDigits (digitsOf rest) = ofDigits (digitsOf text) := by
  induction text generalizing previous with
  | nil =>
      cases found
      rcases zero with rfl | rfl
      · exact ⟨rfl, rfl⟩
      · exact ⟨rfl, rfl⟩
  | cons c text ih =>
      obtain ⟨first, others⟩ := Bool.and_eq_true_iff.1 digits
      unfold dropZeros? at found
      split at found
      · rename_i zero'
        have zero' : c = '0' ∨ c = '_' := by simpa using zero'
        obtain ⟨all, value⟩ := ih zero' others found
        refine ⟨all, value.trans ?_⟩
        rcases zero' with rfl | rfl
        · rfl
        · rfl
      · split at found
        · rename_i point
          obtain rfl : c = '.' := by simpa using point
          cases first
        · split at found
          · cases found
            exact ⟨digits, rfl⟩
          · cases found

theorem ofDigits_leading? (digits : text.all isDigitOrUnderscore = true)
    (found : leading? text = some rest) :
    rest.all isDigitOrUnderscore = true ∧
      ofDigits (digitsOf rest) = ofDigits (digitsOf text) := by
  unfold leading? at found
  split at found
  · cases found
  · split at found
    · rename_i c tail zero
      obtain rfl : c = '0' := by simpa using zero
      obtain ⟨all, value⟩ :=
        ofDigits_dropZeros? (.inl rfl) (Bool.and_eq_true_iff.1 digits).2 found
      exact ⟨all, value⟩
    · split at found
      · cases found
        exact ⟨digits, rfl⟩
      · cases found

theorem not_mem_point {body : List Char} (digits : body.all isDigitOrUnderscore = true) :
    '.' ∉ body :=
  fun member => absurd (List.all_eq_true.1 digits '.' member) (by decide)

/-- The form of a text that spells out an integer has its sign and its value. -/
theorem splitSign_clean? {plain body : List Char} {negative : Bool}
    (spells : Spells (Text.trimSpace text) negative body) (found : clean? text = some plain) :
    ∃ digits, splitSign plain = (negative, digits) ∧
      ofDigits digits = ofDigits (digitsOf body) := by
  unfold clean? at found
  dsimp only at found
  obtain ⟨leading, foundLeading, found⟩ := Option.bind_eq_some_iff.1 found
  split at found
  · rename_i form
    obtain rfl := Option.some.inj found
    have unsigned (leads : leading? body = some leading) :
        ∃ digits, splitSign (dropUnderscores (dropFraction leading)) = (false, digits) ∧
          ofDigits digits = ofDigits (digitsOf body) := by
      obtain ⟨all, value⟩ := ofDigits_leading? spells.digits leads
      rw [form_eq_digitsOf (not_mem_point all) form]
      exact ⟨_, splitSign_of_digits (all_isDigit_digitsOf all), value⟩
    have digits := spells.digits
    rcases splitSign_cases (Text.trimSpace text) with
      ⟨_, same, sign⟩ | ⟨_, same, sign⟩ | ⟨noMinus, noPlus, sign⟩
    · cases spells.sign.symm.trans sign
      rw [same] at foundLeading
      cases foundLeading
      have noPoint : '.' ∉ '-' :: body := by
        simpa using not_mem_point digits
      rw [form_eq_digitsOf noPoint form]
      exact ⟨digitsOf body, rfl, rfl⟩
    · cases spells.sign.symm.trans sign
      rw [same] at foundLeading
      split at foundLeading
      · rename_i minus
        cases minus
        cases digits
      · rename_i same'
        cases same'
        exact unsigned foundLeading
      · rename_i noPlus
        exact absurd rfl (noPlus body)
    · cases spells.sign.symm.trans sign
      split at foundLeading
      · rename_i same
        rw [same] at noPlus
        exact absurd rfl noPlus
      · rename_i same
        rw [same] at noPlus
        exact absurd rfl noPlus
      · exact unsigned foundLeading
  · cases found

end WholeText

/-- The whole number that a text is validated as is the integer that is read from it. -/
theorem wholeOfText?_of_readInt {validated : Int}
    (found : wholeOfText? text = some validated) (read : readInt text = .value whole) :
    validated = whole := by
  obtain ⟨plain, clean, found⟩ := Option.bind_eq_some_iff.1 found
  split at found
  · cases found
  · obtain ⟨negative, body, spells, same⟩ := spells_trimSpace read (WholeText.all_of_clean? clean)
    obtain ⟨digits, sign, value⟩ := WholeText.splitSign_clean? spells clean
    rw [sign] at found
    dsimp only at found
    rw [value, ← same] at found
    exact (Option.some.inj found).symm

/-! ## Integers given by bytes -/

/-- Bytes that spell out an integer are seven-bit ones. -/
theorem lt_of_readInt {data : List UInt8}
    (read : readInt (data.map Value.truncate.byteChar) = .value whole) {byte : UInt8}
    (member : byte ∈ data) : byte < 0x80 := by
  refine Decidable.byContradiction fun large => ?_
  obtain ⟨negative, body, spells, _⟩ := spells_of_readInt read
  obtain ⟨before, after, split, start, ending⟩ :=
    Text.trimSpace_between (simplify (data.map Value.truncate.byteChar))
  have shown : simplifyChar (Value.truncate.byteChar byte) = '\uFFFD' := by
    unfold Value.truncate.byteChar
    rw [if_neg large]
    rfl
  have inside : '\uFFFD' ∈ simplify (data.map Value.truncate.byteChar) := by
    rw [simplify_eq_map, List.map_map, ← shown]
    exact List.mem_map_of_mem member
  rw [split, List.mem_append, List.mem_append] at inside
  rcases inside with (member | member) | member
  · exact absurd (List.all_eq_true.1 start _ member) (by decide)
  · exact absurd (List.all_eq_true.1 spells.all_isPlain _ member) (by decide)
  · exact absurd (List.all_eq_true.1 ending _ member) (by decide)

theorem utf8EncodeChar_byteChar {byte : UInt8} (small : byte < 0x80) :
    String.utf8EncodeChar (Value.truncate.byteChar byte) = [byte] := by
  have each : ∀ point < 128,
      String.utf8EncodeChar (Char.ofNat point) = [UInt8.ofNat point] := by decide +kernel
  unfold Value.truncate.byteChar
  rw [if_pos small, each byte.toNat (UInt8.lt_iff_toNat_lt.1 small), UInt8.ofNat_toNat]

/-- Seven-bit bytes are the text of their characters. -/
theorem toList_of_fromUTF8? {data : List UInt8} {text : String}
    (decoded : String.fromUTF8? ⟨data.toArray⟩ = some text)
    (sevenBit : ∀ byte ∈ data, byte < 0x80) : text.toList = data.map Value.truncate.byteChar := by
  have encoded : (data.map Value.truncate.byteChar).flatMap String.utf8EncodeChar = data := by
    clear decoded
    induction data with
    | nil => rfl
    | cons byte data ih =>
        rw [List.map_cons, List.flatMap_cons,
          utf8EncodeChar_byteChar (sevenBit byte List.mem_cons_self),
          ih fun other member => sevenBit other (List.mem_cons_of_mem _ member)]
        rfl
  have bytes : text.toByteArray =
      (String.ofList (data.map Value.truncate.byteChar)).toByteArray := by
    rw [toByteArray_of_fromUTF8? decoded, ← String.utf8Encode_toList, String.toList_ofList,
      List.utf8Encode, encoded]
    exact ByteArray.ext (Array.toList_inj.1 List.toList_data_toByteArray.symm)
  rw [String.toByteArray_inj.1 bytes, String.toList_ofList]

/-! ## Integers that values spell out -/

def integer? : IntReading → Option Int
  | .value whole => some whole
  | _ => none

def spelled? : Value → Option Int
  | .bool truth => some (if truth then 1 else 0)
  | .int whole => some whole
  | .str text => integer? (readInt text.toList)
  | .bytes data => integer? (readInt (data.map Value.truncate.byteChar))
  | _ => none

theorem integer?_eq_some {reading : IntReading} :
    integer? reading = some whole ↔ reading = .value whole := by
  cases reading <;> simp [integer?]

/-- A value with a text spells out the integer that is read from the text. -/
theorem readInt_of_spelled?
    (found : textOf? value = some (some text)) (spelled : spelled? value = some whole) :
    readInt text = .value whole := by
  rcases textOf?_eq_some found with rfl | ⟨data, rfl, decoded⟩
  · have read := integer?_eq_some.1 spelled
    rwa [String.toList_ofList] at read
  · have read := integer?_eq_some.1 spelled
    have same := toList_of_fromUTF8? decoded fun byte member => lt_of_readInt read member
    rw [String.toList_ofList] at same
    rwa [same]

theorem ofDigits_eq_ok {shown : Value} :
    Value.truncate.ofDigits shown text = .ok whole ↔ readInt text = .value whole := by
  unfold Value.truncate.ofDigits
  cases readInt text with
  | value result => simp
  | tooLong digits => simp
  | malformed => cases shown.literalText <;> simp [bind, Except.bind]

/-- An integer part is that of a floating-point number, or an integer that is spelled out. -/
theorem truncate_eq_ok :
    value.truncate = .ok whole ↔
      (∃ number, value = .float number ∧ number.truncate? = some whole) ∨
        spelled? value = some whole := by
  cases value with
  | bool truth => simp [Value.truncate, spelled?]
  | int given => simp [Value.truncate, spelled?]
  | float number =>
      cases number with
      | finite negative significand exponent =>
          simp [Value.truncate, spelled?, Binary64.truncate?]
      | _ => simp [Value.truncate, spelled?, Binary64.truncate?]
  | str text => simp [Value.truncate, spelled?, ofDigits_eq_ok, integer?_eq_some]
  | bytes data => simp [Value.truncate, spelled?, ofDigits_eq_ok, integer?_eq_some]
  | _ => simp [Value.truncate, spelled?]

/-- The number that a value is validated as has the integer that the value spells out for its
integer part exactly if the format holds that integer. -/
theorem truncate?_of_spelled?
    (found : numberOf? value = some number) (spelled : spelled? value = some whole) :
    number.truncate? = some whole ↔ Binary64.Holds whole.natAbs := by
  have ofText (textual : isTextual value = true) :
      number.truncate? = some whole ↔ Binary64.Holds whole.natAbs := by
    obtain ⟨text, decoded, validated⟩ := numberOf?_textual textual found
    obtain ⟨negative, magnitude, rfl, rfl⟩ :=
      numberOfText?_of_readInt validated (readInt_of_spelled? decoded spelled)
    rw [Binary64.truncate?_ofQuotient, Binary64.natAbs_signed]
  cases value with
  | bool truth =>
      cases found
      cases spelled
      exact Binary64.truncate?_ofInt _
  | int given =>
      cases spelled
      have kept : Option.filter Binary64.isFinite (some (.ofInt whole)) = some number := found
      obtain ⟨same, _⟩ := Option.filter_eq_some_iff.1 kept
      cases same
      exact Binary64.truncate?_ofInt whole
  | str text => exact ofText rfl
  | bytes data => exact ofText rfl
  | _ => cases spelled

theorem wholeOf?_of_spelled? {validated : Int}
    (found : wholeOf? value = some validated) (spelled : spelled? value = some whole) :
    validated = whole := by
  have ofText (textual : isTextual value = true) : validated = whole := by
    obtain ⟨text, decoded, read⟩ := wholeOf?_textual textual found
    exact wholeOfText?_of_readInt read (readInt_of_spelled? decoded spelled)
  cases value with
  | bool truth => exact Option.some.inj (found.symm.trans spelled)
  | int given => exact Option.some.inj (found.symm.trans spelled)
  | str text => exact ofText rfl
  | bytes data => exact ofText rfl
  | _ => cases spelled

/-! ## Numbers that keep their meaning -/

/-- The values whose integer part is that of the number they are validated as: finite numbers, and
integers that the format holds, also where a text spells them out. Every number of the format is
short enough to be written. -/
def KeepsInteger (value : Value) : Prop :=
  (∃ number whole, value = .float number ∧ number.truncate? = some whole ∧
      Value.isShort whole = true) ∨
    ∃ whole, spelled? value = some whole ∧ Binary64.Holds whole.natAbs

/-- The values of which a year is read that is the one they are validated as: numbers, and texts
that spell out an integer other than zero. -/
def KeepsYear (value : Value) : Prop :=
  isTextual value = true → ∃ whole, spelled? value = some whole ∧ whole ≠ 0

/-- An integer has no more digits than bits. -/
theorem isShort_of_lt {bits : Nat} (few : bits ≤ integerDigitLimit)
    (small : whole.natAbs < 2 ^ bits) : Value.isShort whole = true := by
  unfold Value.isShort natText
  rw [decide_eq_true_eq]
  refine Nat.toDigits_length 10 whole.natAbs integerDigitLimit (by decide) ?_
  calc whole.natAbs < 2 ^ bits := small
    _ ≤ 10 ^ bits := Nat.pow_le_pow_left (by decide) bits
    _ ≤ 10 ^ integerDigitLimit := Nat.pow_le_pow_right (by decide) few

theorem isShort_of_holds (holds : Binary64.Holds whole.natAbs) : Value.isShort whole = true := by
  obtain ⟨significand, exponent, bound, small, same⟩ := holds
  have few : 53 + exponent ≤ integerDigitLimit := by
    unfold integerDigitLimit
    omega
  refine isShort_of_lt few ?_
  rw [Binary64.two_mul_leastNormal] at bound
  rw [same, Nat.pow_add]
  exact Nat.mul_lt_mul_of_pos_right bound (Nat.pow_pos (by decide))

/-- The integer part of a value is that of the number it is validated as exactly for the values that
keep it. -/
theorem truncate_iff_keepsInteger (found : numberOf? value = some number) :
    (∃ whole, number.truncate? = some whole ∧ value.truncate = .ok whole ∧
      Value.isShort whole = true) ↔ KeepsInteger value := by
  constructor
  · rintro ⟨whole, part, read, short⟩
    rcases truncate_eq_ok.1 read with ⟨given, rfl, same⟩ | spelled
    · exact .inl ⟨given, whole, rfl, same, short⟩
    · exact .inr ⟨whole, spelled, (truncate?_of_spelled? found spelled).1 part⟩
  · rintro (⟨given, whole, rfl, part, short⟩ | ⟨whole, spelled, holds⟩)
    · obtain rfl : given = number := Option.some.inj found
      exact ⟨whole, part, truncate_eq_ok.2 (.inl ⟨given, rfl, part⟩), short⟩
    · exact ⟨whole, (truncate?_of_spelled? found spelled).2 holds,
        truncate_eq_ok.2 (.inr spelled), isShort_of_holds holds⟩

/-- Every finite number of the format keeps its integer part. -/
theorem keepsInteger_finite (negative : Bool) {significand : Nat} {exponent : Int}
    (bound : significand < 2 * Binary64.leastNormal)
    (small : exponent ≤ Binary64.greatestExponent) :
    KeepsInteger (.float (.finite negative significand exponent)) := by
  have part : (Binary64.finite negative significand exponent).truncate? =
      some (Binary64.signed negative ((Binary64.ratio significand exponent).1 /
        (Binary64.ratio significand exponent).2)) := rfl
  refine .inl ⟨_, _, rfl, part, ?_⟩
  unfold Binary64.greatestExponent at small
  have few : 53 + exponent.toNat ≤ integerDigitLimit := by
    unfold integerDigitLimit
    omega
  refine isShort_of_lt few ?_
  rw [Binary64.natAbs_signed]
  refine Nat.lt_of_le_of_lt (Nat.div_le_self _ _) ?_
  have larger : 0 < 2 ^ exponent.toNat := Nat.pow_pos (by decide)
  rw [Binary64.two_mul_leastNormal] at bound
  rw [Nat.pow_add]
  unfold Binary64.ratio
  split
  · exact Nat.lt_of_lt_of_le bound (Nat.le_mul_of_pos_right _ larger)
  · exact Nat.mul_lt_mul_of_pos_right bound larger

/-- The year that a value gives: none for a value that counts as false. -/
def yearOf (value : Value) : Except Fault (Option Int) :=
  if value.truthy then some <$> value.truncate else pure none

theorem truthy_of_wholeOf? (textual : isTextual value = true)
    (found : wholeOf? value = some whole) : value.truthy = true :=
  truthy_of_read wholeOf? (by with_unfolding_all rfl) (by with_unfolding_all rfl) textual found

/-- A number gives the year that it is validated as. -/
theorem yearOf_of_not_textual (plain : isTextual value = false)
    (found : wholeOf? value = some whole) :
    yearOf value = .ok (if whole = 0 then none else some whole) := by
  unfold yearOf
  cases value with
  | bool truth =>
      cases found
      cases truth with
      | true => rfl
      | false => rfl
  | int given =>
      cases found
      by_cases zero : whole = 0
      · subst zero
        rfl
      · simp [Value.truthy, Value.truncate, zero]
  | float number =>
      obtain ⟨isWhole, _⟩ := Option.filter_eq_some_iff.1 found
      have part := truncate_eq_ok.2 (.inl ⟨number, rfl, Binary64.truncate?_of_whole? isWhole⟩)
      have zero := Binary64.isZero_of_whole? isWhole
      rw [part]
      by_cases isZero : whole = 0
      · subst isZero
        simp [Value.truthy, zero, pure, Except.pure]
      · simp [Value.truthy, zero, isZero]
  | str text => cases plain
  | bytes data => cases plain
  | _ => cases found

/-- A year is read from every accepted value but the texts that spell out no integer. -/
theorem yearOf_eq_ok (found : wholeOf? value = some whole) :
    (∃ year, yearOf value = .ok year) ↔
      (isTextual value = true → ∃ given, spelled? value = some given) := by
  cases textual : isTextual value with
  | false =>
      refine iff_of_true ⟨_, yearOf_of_not_textual textual found⟩ ?_
      intro impossible
      cases impossible
  | true =>
      unfold yearOf
      rw [truthy_of_wholeOf? textual found, if_pos rfl]
      constructor
      · rintro ⟨year, gives⟩ _
        cases read : value.truncate with
        | error fault =>
            rw [read] at gives
            cases gives
        | ok given =>
            rcases truncate_eq_ok.1 read with ⟨number, rfl, _⟩ | spelled
            · cases textual
            · exact ⟨given, spelled⟩
      · intro spells
        obtain ⟨given, spelled⟩ := spells rfl
        rw [truncate_eq_ok.2 (.inr spelled)]
        exact ⟨some given, rfl⟩

/-- The year that a value gives is the one it is validated as, none for zero, exactly for the values
that keep it. -/
theorem yearOf_iff_keepsYear (found : wholeOf? value = some whole) :
    yearOf value = .ok (if whole = 0 then none else some whole) ↔ KeepsYear value := by
  cases textual : isTextual value with
  | false =>
      refine iff_of_true (yearOf_of_not_textual textual found) ?_
      intro impossible
      cases textual.symm.trans impossible
  | true =>
      have given {spelled : Int} (spells : spelled? value = some spelled) :
          yearOf value = .ok (some whole) := by
        obtain rfl := wholeOf?_of_spelled? found spells
        unfold yearOf
        rw [truthy_of_wholeOf? textual found, if_pos rfl, truncate_eq_ok.2 (.inr spells)]
        rfl
      constructor
      · intro gives _
        obtain ⟨spelled, spells⟩ := (yearOf_eq_ok found).1 ⟨_, gives⟩ textual
        refine ⟨spelled, spells, ?_⟩
        rintro rfl
        obtain rfl := wholeOf?_of_spelled? found spells
        cases gives.symm.trans (given spells)
      · intro keeps
        obtain ⟨spelled, spells, nonzero⟩ := keeps textual
        rw [given spells, wholeOf?_of_spelled? found spells, if_neg nonzero]

end BrowserScript.Schema
