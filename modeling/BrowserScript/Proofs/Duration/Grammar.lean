import BrowserScript.Proofs.Duration
import BrowserScript.Proofs.Number.Notation
import Mathlib.Data.List.TakeWhile

/-!
# The grammar of durations

The first run of digits in a text decides which duration the text denotes, and what follows the run
names the unit. A text without such a run denotes none. The pattern by which durations are accepted
and their reader were made with different tables of characters: up to the digits of the later one,
and up to runs that are too long for a number, they agree on every text.
-/

namespace BrowserScript

/-! ## Numbers of digits -/

namespace Numeral

theorem simplifyChar_digit {c : Char} {worth : Nat} (digit : Text.digit? c = some worth) :
    (simplifyChar c).isDigit = true ∧ (simplifyChar c).toNat - 48 = worth := by
  have small : worth < 10 := by
    obtain ⟨start, found, rfl⟩ := Option.map_eq_some_iff.1 digit
    have range := List.find?_some found
    simp only [Bool.and_eq_true, decide_eq_true_eq] at range
    omega
  have each : ∀ value < 10, (Char.ofNat (48 + value)).isDigit = true ∧
      (Char.ofNat (48 + value)).toNat - 48 = value := by decide
  unfold simplifyChar
  rw [digit]
  exact each worth small

theorem dropUnderscores?_digits {text : List Char} (digits : ∀ c ∈ text, c.isDigit = true)
    (previous : Bool) : dropUnderscores? previous text = some text := by
  induction text generalizing previous with
  | nil => rfl
  | cons c rest ih =>
      obtain ⟨first, others⟩ := List.forall_mem_cons.1 digits
      unfold dropUnderscores?
      split
      · rename_i empty
        cases empty
      · rename_i same
        obtain ⟨rfl, -⟩ := List.cons.inj same
        cases first
      · rename_i same
        obtain ⟨rfl, rfl⟩ := List.cons.inj same
        rw [ih others]
        rfl

theorem ofDigits_simplify {digits : List Char} (run : ∀ c ∈ digits, Text.isDigit c = true) :
    ofDigits (simplify digits) = Duration.ofDigits digits := by
  have fold (total : Nat) :
      (simplify digits).foldl (fun total c => 10 * total + (c.toNat - 48)) total =
        digits.foldl (fun total c => 10 * total + (Text.digit? c).getD 0) total := by
    rw [simplify_eq_map]
    induction digits generalizing total with
    | nil => rfl
    | cons c rest ih =>
        obtain ⟨first, others⟩ := List.forall_mem_cons.1 run
        obtain ⟨worth, digit⟩ := Option.isSome_iff_exists.1 first
        rw [List.map_cons, List.foldl_cons, List.foldl_cons, (simplifyChar_digit digit).2, digit]
        exact ih others _
  exact fold 0

/-- A run of digits of any scripts is read as the integer that it writes. -/
theorem readInt_digits {digits : List Char} (nonempty : digits ≠ [])
    (run : ∀ c ∈ digits, Text.isDigit c = true) (short : digits.length ≤ integerDigitLimit) :
    readInt digits = .value (Duration.ofDigits digits) := by
  have plain : ∀ c ∈ simplify digits, c.isDigit = true := by
    intro c member
    obtain ⟨original, inside, rfl⟩ := List.mem_map.1 member
    obtain ⟨worth, digit⟩ := Option.isSome_iff_exists.1 (run original inside)
    exact (simplifyChar_digit digit).1
  have visible : ∀ c ∈ simplify digits, Text.isSpace c = false := by
    intro c member
    refine (simplifyChar_of_isPlain ?_).2
    simp [isPlain, Char.isAlphanum, plain c member]
  have trimmed : Text.trimSpace (simplify digits) = simplify digits := by
    have surrounded : Text.trimSpace ([] ++ simplify digits ++ []) = simplify digits :=
      Text.trimSpace_surrounded rfl visible rfl
    simpa using surrounded
  have unsigned : splitSign (simplify digits) = (false, simplify digits) := by
    rcases splitSign_cases (simplify digits) with ⟨_, same, _⟩ | ⟨_, same, _⟩ | ⟨_, _, split⟩
    · cases plain '-' (same ▸ List.mem_cons_self)
    · cases plain '+' (same ▸ List.mem_cons_self)
    · exact split
  have all : (simplify digits).takeWhile (fun c => c.isDigit || c == '_') = simplify digits := by
    rw [List.takeWhile_eq_self_iff]
    intro c member
    rw [plain c member]
    rfl
  have count : (simplify digits).length = digits.length := List.length_map _
  unfold readInt
  rw [trimmed, unsigned]
  dsimp only
  rw [all, dropUnderscores?_digits plain]
  dsimp only
  rw [count, if_neg (Nat.not_lt.2 short), ofDigits_simplify run]
  have some_digit : (simplify digits).isEmpty = false := by
    rw [List.isEmpty_eq_false_iff, ← List.length_pos_iff, count]
    exact List.length_pos_iff.2 nonempty
  simp [some_digit]

end Numeral

namespace Duration

/-! ## The first run of digits -/

structure Cut (text before digits after : List Char) : Prop where
  whole : text = before ++ digits ++ after
  plain : ∀ c ∈ before, Text.isDigit c = false
  nonempty : digits ≠ []
  run : ∀ c ∈ digits, Text.isDigit c = true
  stops : ∀ c ∈ after.head?, Text.isDigit c = false

/-- A text with a digit has a first run of digits. -/
theorem exists_cut {text : List Char} (found : ∃ c ∈ text, Text.isDigit c = true) :
    ∃ before digits after, Cut text before digits after := by
  induction text with
  | nil =>
      obtain ⟨c, member, _⟩ := found
      cases member
  | cons c rest ih =>
      cases first : Text.isDigit c with
      | false =>
          -- The run stands in the rest, and the character goes before it.
          obtain ⟨other, member, digit⟩ := found
          have inside : other ∈ rest := by
            rcases List.mem_cons.1 member with rfl | inside
            · rw [first] at digit
              cases digit
            · exact inside
          obtain ⟨before, digits, after, cut⟩ := ih ⟨other, inside, digit⟩
          exact ⟨c :: before, digits, after, by rw [cut.whole]; rfl,
            List.forall_mem_cons.2 ⟨first, cut.plain⟩, cut.nonempty, cut.run, cut.stops⟩
      | true =>
          refine ⟨[], (c :: rest).takeWhile Text.isDigit, (c :: rest).dropWhile Text.isDigit,
            ?_, List.forall_mem_nil _, ?_, fun other member => List.mem_takeWhile_imp member, ?_⟩
          · rw [List.nil_append, List.takeWhile_append_dropWhile]
          · rw [List.takeWhile_cons, first]
            exact List.cons_ne_nil _ _
          · intro other head
            have stops := List.head?_dropWhile_not Text.isDigit (c :: rest)
            rw [head] at stops
            exact stops

/-- A text is read by its first run of digits and what follows it. -/
theorem read?_of_cut {text before digits after : List Char} (cut : Cut text before digits after)
    (short : digits.length ≤ integerDigitLimit) :
    read? text = some (.ok (ofDigits digits * unitFactor after)) := by
  obtain ⟨rfl, plain, nonempty, run, stops⟩ := cut
  have start : (before ++ digits ++ after).dropWhile (!Text.isDigit ·) = digits ++ after := by
    rw [List.append_assoc, List.dropWhile_append_of_pos fun c member => by simp [plain c member]]
    obtain ⟨first, others, rfl⟩ := List.exists_cons_of_ne_nil nonempty
    rw [List.cons_append, List.dropWhile_cons, run first List.mem_cons_self]
    rfl
  have ends : after.takeWhile Text.isDigit = [] ∧ after.dropWhile Text.isDigit = after := by
    cases after with
    | nil => exact ⟨rfl, rfl⟩
    | cons c rest => simp [stops c rfl]
  unfold read?
  simp only [start, List.takeWhile_append_of_pos run, List.dropWhile_append_of_pos run, ends,
    List.append_nil]
  rw [if_neg (by simpa using nonempty), if_neg (Nat.not_lt.2 short)]

/-! ## Units -/

inductive UnitOf (text : List Char) : Nat → Prop where
  | milliseconds (starts : ['m', 's'] <+: text) : UnitOf text 1
  | seconds (starts : ['s'] <+: text) : UnitOf text 1000
  | minutes (starts : ['m'] <+: text) (other : ¬ ['m', 's'] <+: text) : UnitOf text 60000
  /-- No unit stands there. -/
  | bare (noMinutes : ¬ ['m'] <+: text) (noSeconds : ¬ ['s'] <+: text) : UnitOf text 1

theorem unitFactor_spec (text : List Char) : UnitOf text (unitFactor text) := by
  unfold unitFactor
  split
  · exact .milliseconds ⟨_, rfl⟩
  · exact .seconds ⟨_, rfl⟩
  · rename_i rest other
    refine .minutes ⟨_, rfl⟩ ?_
    rintro ⟨tail, same⟩
    exact other tail (List.cons.inj same).2.symm
  · rename_i noSeconds noMinutes
    refine .bare ?_ ?_
    · rintro ⟨tail, rfl⟩
      exact noMinutes tail rfl
    · rintro ⟨tail, rfl⟩
      exact noSeconds tail rfl

/-! ## Acceptance and reading -/

theorem milliseconds_of_cut {text before digits after : List Char}
    (cut : Cut text before digits after) (short : digits.length ≤ integerDigitLimit) :
    milliseconds (.str (String.ofList text)) =
      .ok (.int (ofDigits digits * unitFactor after : Nat)) := by
  have shown : (Value.str (String.ofList text)).display = .ok (String.ofList text) := rfl
  simp only [milliseconds, shown, bind, Except.bind, String.toList_ofList, read?_of_cut cut short]
  rfl

theorem isUnread_of_plain {text : List Char} (plain : ∀ c ∈ text, Text.isDigit c = false) :
    IsUnread (.str (String.ofList text)) := by
  refine ⟨_, rfl, ?_⟩
  rw [String.toList_ofList, List.any_eq_false]
  intro c member
  rw [plain c member]
  decide

theorem durationReason_eq_none_iff {text : List Char} :
    Schema.durationReason (.str (String.ofList text)) = none ↔
      ∃ c ∈ text, Text.isDigit c = true ∨ Text.isLaterDigit c = true := by
  have accepted : Schema.durationReason (.str (String.ofList text)) =
      if text.any Schema.isPatternDigit then none else some "String should match pattern '\\d+'" := by
    unfold Schema.durationReason Schema.textOf?
    dsimp only
    rw [String.toList_ofList]
  rw [accepted]
  cases found : text.any Schema.isPatternDigit with
  | true => simpa [Schema.isPatternDigit] using List.any_eq_true.1 found
  | false => simpa [Schema.isPatternDigit] using List.any_eq_false.1 found

/-- A text denotes the number of its first run of digits in the unit that follows the run, and a
text without a digit denotes no duration. Among the texts whose first run is not too long, those
that are read are the accepted ones with a digit that the reader knows; the pattern accepts the
digits of the later tables as well. -/
theorem first_digits_decide_duration (text : List Char) :
    (∀ before digits after, Cut text before digits after → digits.length ≤ integerDigitLimit →
      ∃ number factor : Nat, Numeral.readInt digits = .value number ∧ UnitOf after factor ∧
        milliseconds (.str (String.ofList text)) = .ok (.int (number * factor : Nat))) ∧
    ((∀ c ∈ text, Text.isDigit c = false) →
      ∃ shown, (Value.str (String.ofList text)).literalText = .ok shown ∧
        milliseconds (.str (String.ofList text)) = .error (.invalid (.duration shown))) ∧
    ((∀ before digits after, Cut text before digits after → digits.length ≤ integerDigitLimit) →
      ((∃ value, milliseconds (.str (String.ofList text)) = .ok value) ↔
        Schema.durationReason (.str (String.ofList text)) = none ∧
          ∃ c ∈ text, Text.isDigit c = true)) ∧
    (Schema.durationReason (.str (String.ofList text)) = none ↔
      ∃ c ∈ text, Text.isDigit c = true ∨ Text.isLaterDigit c = true) := by
  refine ⟨?_, ?_, ?_, durationReason_eq_none_iff⟩
  · intro before digits after cut short
    exact ⟨_, _, Numeral.readInt_digits cut.nonempty cut.run short, unitFactor_spec after,
      milliseconds_of_cut cut short⟩
  · intro plain
    exact milliseconds_unread (isUnread_of_plain plain)
  · intro short
    constructor
    · rintro ⟨value, read⟩
      by_cases found : ∃ c ∈ text, Text.isDigit c = true
      · obtain ⟨c, member, digit⟩ := found
        exact ⟨durationReason_eq_none_iff.2 ⟨c, member, .inl digit⟩, c, member, digit⟩
      · have plain : ∀ c ∈ text, Text.isDigit c = false := by
          intro c member
          exact Bool.of_not_eq_true fun digit => found ⟨c, member, digit⟩
        obtain ⟨_, _, failed⟩ := milliseconds_unread (isUnread_of_plain plain)
        rw [read] at failed
        cases failed
    · rintro ⟨_, found⟩
      obtain ⟨before, digits, after, cut⟩ := exists_cut found
      exact ⟨_, milliseconds_of_cut cut (short _ _ _ cut)⟩

/-- A digit of another script in the middle of a text, followed by the unit of seconds. -/
theorem arabic_seconds_read :
    Cut "after ٣s".toList "after ".toList ['٣'] ['s'] ∧
      milliseconds (.str "after ٣s") = .ok (.int 3000) := by
  have cut : Cut "after ٣s".toList "after ".toList ['٣'] ['s'] :=
    { whole := rfl
      plain := by
        have all : "after ".toList.all (!Text.isDigit ·) = true := by decide
        simpa using List.all_eq_true.1 all
      nonempty := List.cons_ne_nil _ _
      run := List.all_eq_true.1 (by decide)
      stops := by
        intro c head
        cases head
        decide }
  obtain ⟨number, factor, worth, unit, read⟩ :=
    (first_digits_decide_duration "after ٣s".toList).1 _ _ _ cut (by decide)
  have three : number = 3 := by
    have same : Numeral.readInt ['٣'] = .value 3 := by with_unfolding_all rfl
    rw [same] at worth
    cases worth
    rfl
  have seconds : factor = 1000 := by
    cases unit with
    | seconds => rfl
    | milliseconds starts => exact absurd starts (by decide)
    | minutes starts => exact absurd starts (by decide)
    | bare _ noSeconds => exact absurd (List.prefix_refl ['s']) noSeconds
  subst three seconds
  exact ⟨cut, read⟩

/-- A duration whose only digit is one of the later tables. -/
def laterSeconds : String := String.ofList [Char.ofNat 0x11f50, 's']

/-- A step waits for a duration that is accepted and that cannot be read. -/
theorem laterSeconds_accepted_unread :
    Schema.checkStep 0 (.map [(.str CommandName.wait.tag,
      .map [(.str "timeout", .str laterSeconds)])]) = .ok () ∧
    ∃ shown, milliseconds (.str laterSeconds) = .error (.invalid (.duration shown)) := by
  refine ⟨by with_unfolding_all rfl, ?_⟩
  obtain ⟨shown, _, failed⟩ := milliseconds_unread ⟨laterSeconds, rfl, by decide⟩
  exact ⟨shown, failed⟩

end Duration

end BrowserScript
