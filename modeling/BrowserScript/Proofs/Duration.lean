import BrowserScript.Duration
import BrowserScript.Proofs.Fault
import BrowserScript.Proofs.Schema.Acceptance

/-!
# Which accepted durations can be read

A duration is accepted for a digit in its text, or in the text whose bytes it is. Bytes are read in
their literal, where a digit of a distant script stands as the numbers of its bytes. In all scripts
one of those numbers shows a digit again. A text is not read if the later tables alone know its
digits.
-/

namespace BrowserScript

namespace Duration

variable {text : List Char} {token : Value}

/-- A text without a digit is not read. -/
theorem read?_eq_none (plain : text.any Text.isDigit = false) : read? text = none := by
  have none : text.dropWhile (!Text.isDigit ·) = [] := by
    induction text with
    | nil => rfl
    | cons c rest ih =>
        obtain ⟨first, others⟩ := Bool.or_eq_false_iff.1 plain
        rw [List.dropWhile_cons, first]
        exact ih others
  unfold read?
  simp only [none]
  rfl

theorem read?_ne_none (digits : text.any Text.isDigit = true) : read? text ≠ none := by
  have start : ∃ c rest, text.dropWhile (!Text.isDigit ·) = c :: rest ∧ Text.isDigit c = true := by
    induction text with
    | nil => cases digits
    | cons c rest ih =>
        cases digit : Text.isDigit c with
        | true => exact ⟨c, rest, by simp [digit], digit⟩
        | false =>
            rw [List.any_cons, digit, Bool.false_or] at digits
            simpa [digit] using ih digits
  obtain ⟨c, rest, found, digit⟩ := start
  unfold read?
  simp only [found, List.takeWhile_cons, digit, if_true, List.isEmpty_cons]
  split
  · rename_i impossible
    cases impossible
  · split
    · exact Option.some_ne_none _
    · exact Option.some_ne_none _

def showsDigit (byte : UInt8) : Bool :=
  (0x30 ≤ byte.toNat && byte.toNat ≤ 0x39)
    || (0x80 ≤ byte.toNat && (byte.toNat / 16 < 10 || byte.toNat % 16 < 10))

-- Both tables are finite: 256 bytes, and ten digits for each zero.
theorem escapes_show_digits :
    ((List.range 256).all fun value =>
      !showsDigit (UInt8.ofNat value) ||
        (Quoted.escapeByte '\'' (UInt8.ofNat value)).any Text.isDigit
          && (Quoted.escapeByte '"' (UInt8.ofNat value)).any Text.isDigit) = true := by
  decide +kernel

theorem zeros_show_digits :
    ((Text.zeros ++ Text.laterZeros).all fun start => (List.range 10).all fun worth =>
      (String.utf8EncodeChar (Char.ofNat (start + worth))).any showsDigit) = true := by
  decide +kernel

theorem escapeByte_any_isDigit {byte : UInt8} (shows : showsDigit byte = true) :
    (Quoted.escapeByte '\'' byte).any Text.isDigit = true ∧
      (Quoted.escapeByte '"' byte).any Text.isDigit = true := by
  have all := List.all_eq_true.1 escapes_show_digits byte.toNat
    (List.mem_range.2 byte.toNat_lt)
  rw [UInt8.ofNat_toNat, shows, Bool.not_true, Bool.false_or] at all
  exact (Bool.and_eq_true _ _).mp all

theorem exists_zero {c : Char} (digit : Schema.isPatternDigit c = true) :
    ∃ start ∈ Text.zeros ++ Text.laterZeros, start ≤ c.toNat ∧ c.toNat < start + 10 := by
  unfold Schema.isPatternDigit Text.isDigit Text.digit? at digit
  rw [Bool.or_eq_true, Option.isSome_map] at digit
  rcases digit with known | later
  · obtain ⟨start, found⟩ := Option.isSome_iff_exists.1 known
    have range := List.find?_some found
    simp only [Bool.and_eq_true, decide_eq_true_eq] at range
    exact ⟨start, List.mem_append_left _ (List.mem_of_find?_eq_some found), range⟩
  · obtain ⟨start, member, range⟩ := List.any_eq_true.1 later
    simp only [Bool.and_eq_true, decide_eq_true_eq] at range
    exact ⟨start, List.mem_append_right _ member, range⟩

theorem digit_shows_digit {c : Char} (digit : Schema.isPatternDigit c = true) :
    (String.utf8EncodeChar c).any showsDigit = true := by
  obtain ⟨start, member, lower, upper⟩ := exists_zero digit
  have all := List.all_eq_true.1 (List.all_eq_true.1 zeros_show_digits start member)
    (c.toNat - start) (List.mem_range.2 (by omega))
  have same : Char.ofNat (start + (c.toNat - start)) = c := by
    rw [Nat.add_sub_cancel' lower]
    exact Char.ofNat_toNat c
  rwa [same] at all

theorem mem_of_fromUTF8? {data : List UInt8} {text : String}
    (decoded : String.fromUTF8? ⟨data.toArray⟩ = some text) {c : Char} (member : c ∈ text.toList)
    {byte : UInt8} (part : byte ∈ String.utf8EncodeChar c) : byte ∈ data := by
  have bytes := Schema.toByteArray_of_fromUTF8? decoded
  rw [← String.utf8Encode_toList, List.utf8Encode] at bytes
  have lists := congrArg (fun array : ByteArray => array.data.toList) bytes
  simp only [List.toList_data_toByteArray] at lists
  rw [← lists]
  exact List.mem_flatMap.2 ⟨c, member, part⟩

/-- The literal of bytes shows a digit where their text has one. -/
theorem encodeBytes_any_isDigit {data : List UInt8} {text : String}
    (decoded : String.fromUTF8? ⟨data.toArray⟩ = some text)
    (digits : text.toList.any Schema.isPatternDigit = true) :
    (Quoted.encodeBytes data).any Text.isDigit = true := by
  obtain ⟨c, member, digit⟩ := List.any_eq_true.1 digits
  obtain ⟨byte, part, shows⟩ := List.any_eq_true.1 (digit_shows_digit digit)
  have inside := mem_of_fromUTF8? decoded member part
  obtain ⟨single, double⟩ := escapeByte_any_isDigit shows
  unfold Quoted.encodeBytes
  have marked : (Quoted.escapeByte (Quoted.mark (data.map fun byte => Char.ofNat byte.toNat))
      byte).any Text.isDigit = true := by
    unfold Quoted.mark
    split
    · exact double
    · exact single
  obtain ⟨shown, place, digit⟩ := List.any_eq_true.1 marked
  refine List.any_eq_true.2 ⟨shown, ?_, digit⟩
  exact List.mem_cons_of_mem _ (List.mem_cons_of_mem _ (List.mem_append_left _
    (List.mem_flatMap.2 ⟨byte, inside, place⟩)))

/-- The only fault of a text with a digit is a number of too many digits. -/
theorem read?_error {cause : InvalidValue}
    (reading : read? text = some (.error cause)) : (Fault.invalid cause).isNumeric = true := by
  unfold read? at reading
  dsimp only at reading
  split at reading
  · cases reading
  · split at reading
    · cases reading
      rfl
    · cases reading

theorem milliseconds_of_digits {shown : String}
    (displayed : token.display = .ok shown) (digits : shown.toList.any Text.isDigit = true) :
    OnlyNumeric (milliseconds token) := by
  unfold milliseconds
  split
  · exact .ok _
  · exact .ok _
  · rw [displayed]
    dsimp only [bind, Except.bind]
    cases reading : read? shown.toList with
    | none => exact absurd reading (read?_ne_none digits)
    | some outcome =>
        cases outcome with
        | ok value => exact .ok _
        | error cause =>
            intro fault failed
            cases failed
            exact read?_error reading

/-- A text without a digit that a reader of durations knows. -/
def IsUnread (token : Value) : Prop :=
  ∃ text, token = .str text ∧ text.toList.any Text.isDigit = false

theorem milliseconds_unread (unread : IsUnread token) :
    ∃ shown, token.literalText = .ok shown ∧
      milliseconds token = .error (.invalid (.duration shown)) := by
  obtain ⟨text, rfl, plain⟩ := unread
  refine ⟨_, rfl, ?_⟩
  have shown : (Value.str text).display = .ok text := rfl
  simp only [milliseconds, shown, bind, Except.bind, read?_eq_none plain]
  rfl

/-- An accepted duration is read, unless it has too many digits or none that is known. -/
theorem milliseconds_onlyNumeric (admitted : Schema.Shape.duration.Admits token)
    (known : ¬ IsUnread token) : OnlyNumeric (milliseconds token) := by
  obtain ⟨text, found, digits⟩ := admitted.duration
  rcases Schema.textOf?_eq_some found with same | ⟨data, same, decoded⟩
  · subst same
    refine milliseconds_of_digits rfl (Bool.of_not_eq_false fun plain => known ⟨_, rfl, plain⟩)
  · subst same
    have shown : (String.ofList text).toList.any Schema.isPatternDigit = true := by
      rwa [String.toList_ofList]
    have literal : (Value.bytes data).display = .ok (String.ofList (Quoted.encodeBytes data)) := rfl
    refine milliseconds_of_digits literal ?_
    rw [String.toList_ofList]
    exact encodeBytes_any_isDigit decoded shown

end Duration

end BrowserScript
