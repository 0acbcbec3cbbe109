import BrowserScript.Yaml.Cursor
import BrowserScript.Text.Digit
import BrowserScript.Number.Notation

/-!
# Why a text is not read

Reading moves through a text and may be refused. Nearly all refusals say at which stage the text is
unreadable. Two do not: an escape in a quoted scalar may name a code point beyond the last one, and
the number of a version may be too long to be read. What explains such a fault is part of the text,
so readings are described by what they keep of their state and by the faults that they end with.
-/

namespace BrowserScript.Yaml

/-! ## Readings -/

section

variable {σ α β : Type} {explains : Fault → Prop}

/-- From a state that is as it should be before, a reading ends in one that is as it should be after
its result, or with a fault that is explained. -/
def Brings (explains : Fault → Prop) (before : σ → Prop) (reading : StateT σ (Except Fault) α)
    (after : α → σ → Prop) : Prop :=
  ∀ state, before state →
    match reading.run state with
    | .ok (result, next) => after result next
    | .error fault => explains fault

/-- A reading leaves its state as it should be, or ends with a fault that is explained. -/
def Keeps (explains : Fault → Prop) (holds : σ → Prop) (reading : StateT σ (Except Fault) α) : Prop :=
  Brings explains holds reading fun _ => holds

namespace Brings

variable {before : σ → Prop}

theorem bind {reading : StateT σ (Except Fault) α} {next : α → StateT σ (Except Fault) β}
    {between : α → σ → Prop} {after : β → σ → Prop} (first : Brings explains before reading between)
    (second : ∀ result, Brings explains (between result) (next result) after) :
    Brings explains before (reading >>= next) after := by
  intro state fits
  have done := first state fits
  rw [StateT.run_bind]
  cases run : reading.run state with
  | error fault =>
      rw [run] at done
      exact done
  | ok answer =>
      obtain ⟨result, middle⟩ := answer
      rw [run] at done
      exact second result middle done

theorem pure {after : α → σ → Prop} {result : α} (fits : ∀ state, before state → after result state) :
    Brings explains before (Pure.pure result) after := fits

theorem throw {after : α → σ → Prop} {fault : Fault} (explained : explains fault) :
    Brings explains before (throw fault : StateT σ (Except Fault) α) after := fun _ _ => explained

theorem ite {condition : Prop} [Decidable condition] {first second : StateT σ (Except Fault) α}
    {after : α → σ → Prop} (yes : condition → Brings explains before first after)
    (no : Brings explains before second after) :
    Brings explains before (if condition then first else second) after := by
  split
  · rename_i met
    exact yes met
  · exact no

/-- Looking at the state tells that the state is the one looked at. -/
theorem get : Brings explains before (get : StateT σ (Except Fault) σ)
    fun seen state => before state ∧ seen = state := fun _ fits => ⟨fits, rfl⟩

theorem modify {after : Unit → σ → Prop} {change : σ → σ}
    (fits : ∀ state, before state → after () (change state)) :
    Brings explains before (modify change : StateT σ (Except Fault) Unit) after := fits

theorem set {after : Unit → σ → Prop} {next : σ} (fits : ∀ state, before state → after () next) :
    Brings explains before (set next : StateT σ (Except Fault) Unit) after := fits

theorem weaken {reading : StateT σ (Except Fault) α} {between after : α → σ → Prop}
    (brings : Brings explains before reading between)
    (fits : ∀ result state, between result state → after result state) :
    Brings explains before reading after := by
  intro state start
  have done := brings state start
  cases run : reading.run state with
  | error fault =>
      rw [run] at done
      exact done
  | ok answer =>
      rw [run] at done
      exact fits _ _ done

/-- What every state tells that is as it should be before may be relied on. -/
theorem knowing {reading : StateT σ (Except Fault) α} {after : α → σ → Prop} {fact : Prop}
    (known : ∀ state, before state → fact) (brings : fact → Brings explains before reading after) :
    Brings explains before reading after :=
  fun state start => brings (known state start) state start

theorem strengthen {reading : StateT σ (Except Fault) α} {stronger : σ → Prop}
    {after : α → σ → Prop} (brings : Brings explains before reading after)
    (fits : ∀ state, stronger state → before state) : Brings explains stronger reading after :=
  fun state start => brings state (fits state start)

end Brings

namespace Keeps

variable {holds : σ → Prop}

theorem bind {reading : StateT σ (Except Fault) α} {next : α → StateT σ (Except Fault) β}
    (first : Keeps explains holds reading) (second : ∀ result, Keeps explains holds (next result)) :
    Keeps explains holds (reading >>= next) := Brings.bind first second

theorem pure (result : α) : Keeps explains holds (Pure.pure result) := Brings.pure fun _ fits => fits

theorem throw {fault : Fault} (explained : explains fault) :
    Keeps explains holds (throw fault : StateT σ (Except Fault) α) := Brings.throw explained

theorem ite {condition : Prop} [Decidable condition] {first second : StateT σ (Except Fault) α}
    (yes : Keeps explains holds first) (no : Keeps explains holds second) :
    Keeps explains holds (if condition then first else second) := Brings.ite (fun _ => yes) no

/-- What is done with the state that a reading looks at may rely on its being as it should be. -/
theorem get_bind {next : σ → StateT σ (Except Fault) β}
    (second : ∀ state, holds state → Keeps explains holds (next state)) :
    Keeps explains holds (MonadState.get >>= next) :=
  fun state fits => second state fits state fits

theorem modify {change : σ → σ} (fits : ∀ state, holds state → holds (change state)) :
    Keeps explains holds (modify change : StateT σ (Except Fault) Unit) := Brings.modify fits

theorem set {next : σ} (fits : holds next) :
    Keeps explains holds (set next : StateT σ (Except Fault) Unit) := Brings.set fun _ _ => fits

end Keeps

end

/-! ## Faults of a text -/

/-- The fault of a code point that is beyond the last one. -/
def codePointFault (point : Nat) : Fault :=
  if point < 0x80000000 then .invalid (.other "chr() arg not in range(0x110000)")
  else .overflow .codePoint

def leadsVersion (c : Char) : Bool := c == ' ' || c.isDigit || c == '.'

inductive Misread (text : List Char) : Fault → Prop where
  /-- The text is unreadable at some stage. -/
  | unreadable (stage : Unreadable) : Misread text (.unreadable stage)
  /-- An escape of eight digits names no code point. -/
  | escape {before digits after : List Char}
      (written : text = before ++ '\\' :: 'U' :: digits ++ after) (width : digits.length = 8)
      (hexadecimal : digits.all Text.isHexDigit = true) (beyond : 0x110000 ≤ Text.ofHex digits) :
      Misread text (codePointFault (Text.ofHex digits))
  /-- A version has a number that is too long. -/
  | version {before lead digits after : List Char}
      (written : text = before ++ "%YAML".toList ++ lead ++ digits ++ after)
      (leads : lead.all leadsVersion = true) (decimal : digits.all Char.isDigit = true)
      (long : integerDigitLimit < digits.length) :
      Misread text (.invalid (.integerTooLong (some digits.length)))

def Within (text : List Char) (cursor : Cursor) : Prop := cursor.rest <:+ text

/-- A reading stays in its text, which explains the fault that it may end with. -/
abbrev StaysIn {α : Type} (text : List Char) (reading : Scan α) : Prop :=
  Keeps (Misread text) (Within text) reading

def AtMark (text : List Char) (mark : Char) (cursor : Cursor) : Prop :=
  Within text cursor ∧ some mark = cursor.at? 0

/-- Some characters of a text stand right before the place of a cursor. -/
def Behind (text seen : List Char) (cursor : Cursor) : Prop := seen ++ cursor.rest <:+ text

theorem Behind.within {text seen : List Char} {cursor : Cursor} (behind : Behind text seen cursor) :
    Within text cursor := (List.suffix_append seen cursor.rest).trans behind

namespace Cursor

theorem rest_next (cursor : Cursor) : cursor.next.rest = cursor.rest.drop 1 := by
  unfold next
  split
  · rename_i done
    rw [done]
    rfl
  · rename_i c rest same
    rw [same]
    split
    · rfl
    · split
      · rfl
      · rfl

/-- Moving forward drops characters. -/
theorem rest_forward (cursor : Cursor) (count : Nat) :
    (cursor.forward count).rest = cursor.rest.drop count := by
  induction count generalizing cursor with
  | zero => rfl
  | succ count ih =>
      rw [forward, ih, rest_next, List.drop_drop, Nat.add_comm]

end Cursor

/-! ## Readings of characters -/

namespace Scan

variable {text : List Char} {α : Type}

theorem refuse_keeps : StaysIn text (refuse : Scan α) :=
  .throw (.unreadable .token)

theorem require_brings {before : Cursor → Prop} (condition : Bool) :
    Brings (Misread text) before (require condition) fun _ cursor =>
      before cursor ∧ condition = true := by
  unfold require
  cases condition with
  | true => exact .pure fun _ fits => ⟨fits, rfl⟩
  | false => exact .throw (.unreadable .token)

theorem require_keeps (condition : Bool) : StaysIn text (require condition) :=
  (require_brings condition).weaken fun _ _ fits => fits.1

theorem skip_brings {before : Cursor → Prop} {after : Unit → Cursor → Prop} {count : Nat}
    (fits : ∀ cursor, before cursor → after () (cursor.forward count)) :
    Brings (Misread text) before (skip count) after := .modify fits

theorem skip_keeps (count : Nat) : StaysIn text (skip count) := by
  refine skip_brings fun cursor within => ?_
  unfold Within
  rw [Cursor.rest_forward]
  exact (List.drop_suffix count cursor.rest).trans within

theorem peek_brings {before : Cursor → Prop} (distance : Nat) :
    Brings (Misread text) before (peek distance) fun seen cursor =>
      before cursor ∧ seen = cursor.at? distance :=
  fun _ fits => ⟨fits, rfl⟩

theorem peek_keeps (distance : Nat) : StaysIn text (peek distance) :=
  (peek_brings distance).weaken fun _ _ fits => fits.1

/-- A run of characters is taken off the text. -/
theorem span_brings {before : Cursor → Prop} {after : List Char → Cursor → Prop}
    {accepts : Char → Bool}
    (fits : ∀ cursor, before cursor → ∀ next : Cursor,
      cursor.rest = cursor.rest.takeWhile accepts ++ next.rest →
      after (cursor.rest.takeWhile accepts) next) :
    Brings (Misread text) before (span accepts) after := by
  intro cursor start
  refine fits cursor start _ ?_
  rw [Cursor.rest_forward]
  -- The cursor moves by the length of the run, which is the start of the text.
  have taken := List.prefix_iff_eq_take.1 (List.takeWhile_prefix (l := cursor.rest) accepts)
  conv => rhs; lhs; rw [taken]
  exact (List.take_append_drop _ _).symm

theorem span_keeps (accepts : Char → Bool) : StaysIn text (span accepts) :=
  span_brings fun _ within _ parts => (parts ▸ List.suffix_append _ _).trans within

/-- A character that is moved over stands behind the place. -/
theorem skip_behind {seen : List Char} (c : Char) :
    Brings (Misread text) (fun cursor => Behind text seen cursor ∧ some c = cursor.at? 0) (skip 1)
      fun _ => Behind text (seen ++ [c]) := by
  refine skip_brings fun cursor fits => ?_
  obtain ⟨behind, here⟩ := fits
  obtain ⟨rest, same⟩ := List.head?_eq_some_iff.1 here.symm
  rw [List.drop_zero] at same
  unfold Behind at behind ⊢
  rw [same] at behind
  rwa [Cursor.rest_forward, same, List.drop_one, List.tail_cons, List.append_assoc]

theorem skip_first (c : Char) :
    Brings (Misread text) (AtMark text c) (skip 1) fun _ => Behind text [c] := by
  have moved : Brings (Misread text) (fun cursor => Behind text [] cursor ∧ some c = cursor.at? 0)
      (skip 1) fun _ => Behind text ([] ++ [c]) := skip_behind c
  exact moved

/-- So does a run of characters. -/
theorem span_behind {seen : List Char} (accepts : Char → Bool) :
    Brings (Misread text) (Behind text seen) (span accepts) fun taken cursor =>
      taken.all accepts = true ∧ Behind text (seen ++ taken) cursor := by
  refine span_brings fun cursor behind next parts => ⟨List.all_takeWhile, ?_⟩
  unfold Behind at behind ⊢
  rwa [List.append_assoc, ← parts]

theorem lineEnd_keeps : StaysIn text lineEnd := by
  unfold lineEnd
  refine .get_bind fun cursor _ => ?_
  split
  · exact (skip_keeps 2).bind fun _ => .pure _
  · split
    · exact (skip_keeps 1).bind fun _ => .pure _
    · split
      · exact (skip_keeps 1).bind fun _ => .pure _
      · exact .pure _
  · exact .pure _

theorem comment_keeps : StaysIn text comment := by
  unfold comment
  refine (span_keeps _).bind fun _ => (peek_keeps 0).bind fun _ => ?_
  split
  · exact (span_keeps _).bind fun _ => .pure _
  · exact .pure _

theorem emptyLine_keeps : StaysIn text emptyLine := by
  unfold emptyLine
  refine comment_keeps.bind fun _ => (peek_keeps 0).bind fun _ => ?_
  exact (require_keeps _).bind fun _ => lineEnd_keeps.bind fun _ => .pure _

theorem gap_keeps (lines : Nat) : StaysIn text (gap lines) := by
  induction lines with
  | zero => exact .pure _
  | succ lines ih =>
      unfold gap
      refine comment_keeps.bind fun _ => lineEnd_keeps.bind fun ending => ?_
      split
      · exact .pure _
      · exact ih.bind fun _ => .pure _

end Scan

end BrowserScript.Yaml
