import BrowserScript.Proofs.Text.Lines
import BrowserScript.Proofs.Value.Reader

/-!
# Literals stand on one line

A literal holds no line break, whatever text or bytes its value holds and however deep: between
quotation marks, all that is not printable is escaped, and no line break is printable. Numbers,
days and moments are written with seven-bit characters only.
-/

namespace BrowserScript

def Returns {α : Type} (property : α → Prop) (outcome : Except Fault α) : Prop :=
  ∀ result, outcome = .ok result → property result

namespace Returns

variable {α β : Type} {property : α → Prop} {final : β → Prop}

theorem ok {result : α} (holds : property result) : Returns property (.ok result) := by
  intro other same
  cases same
  exact holds

theorem pure {result : α} (holds : property result) : Returns property (Pure.pure result) :=
  ok holds

theorem error (fault : Fault) : Returns property (.error fault) := by
  intro other same
  cases same

theorem bind {outcome : Except Fault α} {next : α → Except Fault β}
    (first : Returns property outcome)
    (second : ∀ result, property result → Returns final (next result)) :
    Returns final (outcome >>= next) := by
  intro result done
  obtain ⟨middle, reached, done⟩ := bind_eq_ok done
  exact second middle (first middle reached) result done

/-- Nothing has to be known about the first result. -/
theorem after {outcome : Except Fault α} {next : α → Except Fault β}
    (second : ∀ result, Returns final (next result)) : Returns final (outcome >>= next) := by
  intro result done
  obtain ⟨middle, _, done⟩ := bind_eq_ok done
  exact second middle result done

end Returns

namespace Text

variable {c : Char}

/-! ## Characters without line breaks -/

theorem isLineBreak_cases (isBreak : isLineBreak c = true) :
    c.toNat ∈ [10, 11, 12, 13, 0x1c, 0x1d, 0x1e, 0x85, 0x2028, 0x2029] := by
  simp only [isLineBreak, Bool.or_eq_true, Bool.and_eq_true, decide_eq_true_eq, beq_iff_eq]
    at isBreak
  simp only [List.mem_cons, List.not_mem_nil, or_false]
  omega

/-- A class without the ten line breaks holds none. -/
theorem isLineBreak_of_class {isMember : Char → Bool}
    (absent : [10, 11, 12, 13, 0x1c, 0x1d, 0x1e, 0x85, 0x2028, 0x2029].all
      (fun point => !isMember (Char.ofNat point)) = true) (member : isMember c = true) :
    isLineBreak c = false := by
  rw [Bool.eq_false_iff]
  intro isBreak
  have impossible := List.all_eq_true.1 absent c.toNat (isLineBreak_cases isBreak)
  rw [Char.ofNat_toNat, member] at impossible
  cases impossible

/-- No line break is shown as itself. -/
theorem isLineBreak_of_isPrintable (printable : isPrintable c = true) : isLineBreak c = false :=
  isLineBreak_of_class (by decide +kernel) printable

theorem Unbroken.take {text : List Char} (unbroken : Unbroken text) (count : Nat) :
    Unbroken (text.take count) := fun c member => unbroken c (List.mem_of_mem_take member)

theorem Unbroken.drop {text : List Char} (unbroken : Unbroken text) (count : Nat) :
    Unbroken (text.drop count) := fun c member => unbroken c (List.mem_of_mem_drop member)

theorem unbroken_replicate (plain : isLineBreak c = false) (count : Nat) :
    Unbroken (List.replicate count c) := by
  intro other member
  rw [List.eq_of_mem_replicate member]
  exact plain

theorem unbroken_flatMap {α : Type} {items : List α} {write : α → List Char}
    (each : ∀ item ∈ items, Unbroken (write item)) : Unbroken (items.flatMap write) := by
  intro c member
  obtain ⟨item, listed, inItem⟩ := List.mem_flatMap.1 member
  exact each item listed c inItem

end Text

open Text

/-! ## Numbers -/

theorem natText_unbroken (number : Nat) : Unbroken (natText number) := by
  intro c member
  exact isLineBreak_of_class rfl
    (List.all_eq_true.1 (Reader.all_isDigit_natText number) c member)

theorem intText_unbroken (number : Int) : Unbroken (intText number) := by
  unfold intText
  split
  · exact unbroken_cons.2 ⟨rfl, natText_unbroken _⟩
  · exact natText_unbroken _

namespace Binary64

theorem exponentText_unbroken (exponent : Int) : Unbroken (exponentText exponent) := by
  have digits := natText_unbroken exponent.natAbs
  refine unbroken_cons.2 ⟨?_, ?_⟩
  · split <;> rfl
  · split
    · exact unbroken_cons.2 ⟨rfl, digits⟩
    · exact digits

theorem decimalText_unbroken (decimal : Decimal) : Unbroken (decimalText decimal) := by
  have digits := natText_unbroken decimal.digits
  have zeros := fun count => unbroken_replicate (c := '0') rfl count
  unfold decimalText
  dsimp only
  split
  · split
    · exact unbroken_append.2 ⟨unbroken_cons.2 ⟨rfl, unbroken_cons.2 ⟨rfl, zeros _⟩⟩, digits⟩
    · split
      · exact unbroken_append.2 ⟨unbroken_append.2 ⟨digits, zeros _⟩, by decide⟩
      · exact unbroken_append.2 ⟨digits.take _, unbroken_cons.2 ⟨rfl, digits.drop _⟩⟩
  · refine unbroken_append.2 ⟨unbroken_append.2 ⟨digits.take _, ?_⟩, ?_⟩
    · split
      · exact unbroken_nil
      · exact unbroken_cons.2 ⟨rfl, digits.drop _⟩
    · exact unbroken_cons.2 ⟨rfl, exponentText_unbroken _⟩

theorem text_unbroken (number : Binary64) : Unbroken number.text := by
  cases number with
  | nan => decide
  | infinite negative => cases negative <;> decide
  | finite negative significand exponent =>
      have magnitude : Unbroken (if significand == 0 then "0.0".toList
          else decimalText (roundingInterval significand exponent).shortest) := by
        split
        · decide
        · exact decimalText_unbroken _
      unfold text
      dsimp only
      cases negative with
      | true => exact unbroken_cons.2 ⟨rfl, magnitude⟩
      | false => exact magnitude

end Binary64

/-! ## Quoted texts -/

namespace Quoted

variable {quote : Char}

theorem hexFixed_unbroken (width value : Nat) : Unbroken (hexFixed width value) := by
  have digits : ∀ digit < 16, isLineBreak (hexChar digit) = false := by decide
  induction width generalizing value with
  | zero => exact unbroken_nil
  | succ width ih =>
      refine unbroken_append.2 ⟨ih _, unbroken_cons.2 ⟨?_, unbroken_nil⟩⟩
      exact digits (value % 16) (Nat.mod_lt _ (by decide))

theorem escapePoint_unbroken (point : Nat) : Unbroken (escapePoint point) := by
  unfold escapePoint
  split
  · exact unbroken_cons.2 ⟨rfl, unbroken_cons.2 ⟨rfl, hexFixed_unbroken 2 point⟩⟩
  · split
    · exact unbroken_cons.2 ⟨rfl, unbroken_cons.2 ⟨rfl, hexFixed_unbroken 4 point⟩⟩
    · exact unbroken_cons.2 ⟨rfl, unbroken_cons.2 ⟨rfl, hexFixed_unbroken 8 point⟩⟩

theorem isLineBreak_of_isMark (isMark : isMark quote = true) : isLineBreak quote = false := by
  rcases Bool.or_eq_true_iff.1 isMark with same | same
  · rw [beq_iff_eq.1 same]
    rfl
  · rw [beq_iff_eq.1 same]
    rfl

theorem escapeChar_unbroken (isMark : isMark quote = true) (c : Char) :
    Unbroken (escapeChar quote c) := by
  unfold escapeChar
  split
  · rename_i special
    refine unbroken_cons.2 ⟨rfl, unbroken_cons.2 ⟨?_, unbroken_nil⟩⟩
    rcases Bool.or_eq_true_iff.1 special with same | same
    · rw [beq_iff_eq.1 same]
      exact isLineBreak_of_isMark isMark
    · rw [beq_iff_eq.1 same]
      rfl
  · split
    · decide
    · split
      · decide
      · split
        · decide
        · split
          · rename_i printable
            exact unbroken_cons.2 ⟨isLineBreak_of_isPrintable printable, unbroken_nil⟩
          · exact escapePoint_unbroken _

/-- Pieces without line breaks stay without between quotation marks. -/
theorem unbroken_quoted {α : Type} (isMark : isMark quote = true) {items : List α}
    {write : α → List Char} (each : ∀ item ∈ items, Unbroken (write item)) :
    Unbroken (quote :: items.flatMap write ++ [quote]) := by
  have plain := isLineBreak_of_isMark isMark
  refine unbroken_append.2 ⟨unbroken_cons.2 ⟨plain, unbroken_flatMap each⟩, ?_⟩
  exact unbroken_cons.2 ⟨plain, unbroken_nil⟩

theorem encode_unbroken (text : List Char) : Unbroken (encode text) :=
  unbroken_quoted (isMark_mark text) fun c _ => escapeChar_unbroken (isMark_mark text) c

theorem escapeByte_unbroken (isMark : isMark quote = true) (byte : UInt8) :
    Unbroken (escapeByte quote byte) := by
  unfold escapeByte
  dsimp only
  split
  · exact escapeChar_unbroken isMark _
  · exact escapePoint_unbroken _

theorem encodeBytes_unbroken (data : List UInt8) : Unbroken (encodeBytes data) :=
  unbroken_cons.2 ⟨rfl, unbroken_quoted (isMark_mark _) fun byte _ =>
    escapeByte_unbroken (isMark_mark _) byte⟩

end Quoted

/-! ## Values -/

theorem joined_unbroken {separator : List Char} (between : Unbroken separator)
    {parts : List (List Char)} (each : ∀ part ∈ parts, Unbroken part) :
    Unbroken (joined separator parts) := by
  fun_induction joined separator parts with
  | case1 => exact unbroken_nil
  | case2 part => exact each part List.mem_cons_self
  | case3 part parts _ ih =>
      refine unbroken_append.2 ⟨unbroken_append.2 ⟨each part List.mem_cons_self, between⟩, ?_⟩
      exact ih fun other member => each other (List.mem_cons_of_mem part member)

namespace Value

/-- Parts with commas between them, inside brackets. -/
theorem unbroken_bracketed {opening closing : Char} (opens : isLineBreak opening = false)
    (closes : isLineBreak closing = false) {parts : List (List Char)}
    (each : ∀ part ∈ parts, Unbroken part) :
    Unbroken (opening :: joined ", ".toList parts ++ [closing]) := by
  have inner : Unbroken (joined ", ".toList parts) := joined_unbroken (by decide) each
  exact unbroken_append.2 ⟨unbroken_cons.2 ⟨opens, inner⟩, unbroken_cons.2 ⟨closes, unbroken_nil⟩⟩

def isCalendarChar (c : Char) : Bool := c.isDigit || c.isLower || "-.,()= ".toList.contains c

def isCalendrical (text : List Char) : Bool := text.all isCalendarChar

theorem isCalendrical_append {left right : List Char} (first : isCalendrical left = true)
    (second : isCalendrical right = true) : isCalendrical (left ++ right) = true := by
  rw [isCalendrical, List.all_append, Bool.and_eq_true]
  exact ⟨first, second⟩

theorem isCalendrical_joined {parts : List (List Char)}
    (each : ∀ part ∈ parts, isCalendrical part = true) :
    isCalendrical (joined ", ".toList parts) = true := by
  fun_induction joined ", ".toList parts with
  | case1 => rfl
  | case2 part => exact each part List.mem_cons_self
  | case3 part parts _ ih =>
      obtain ⟨first, others⟩ := List.forall_mem_cons.1 each
      exact isCalendrical_append (isCalendrical_append first rfl) (ih others)

theorem isCalendrical_natText (number : Nat) : isCalendrical (natText number) = true := by
  refine List.all_eq_true.2 fun c member => ?_
  rw [isCalendarChar, List.all_eq_true.1 (Reader.all_isDigit_natText number) c member]
  rfl

theorem isCalendrical_intText (number : Int) : isCalendrical (intText number) = true := by
  have digits := isCalendrical_natText number.natAbs
  unfold intText
  split
  · exact digits
  · exact digits

theorem isCalendrical_day (day : Day) : isCalendrical (dayLiteral day) = true := by
  refine isCalendrical_append (isCalendrical_append rfl (isCalendrical_joined ?_)) rfl
  intro part member
  obtain ⟨number, _, rfl⟩ := List.mem_map.1 member
  exact isCalendrical_natText number

theorem isCalendrical_ahead (seconds : Int) : isCalendrical (aheadLiteral seconds) = true := by
  unfold aheadLiteral
  split
  · rfl
  · dsimp only
    refine isCalendrical_append (isCalendrical_append rfl (isCalendrical_joined ?_)) rfl
    intro part member
    rcases List.mem_append.1 member with member | member
    · split at member
      · cases member
      · rw [List.mem_singleton.1 member]
        exact isCalendrical_append rfl (isCalendrical_intText _)
    · split at member
      · cases member
      · rw [List.mem_singleton.1 member]
        exact isCalendrical_append rfl (isCalendrical_natText _)

theorem isCalendrical_moment (moment : Moment) : isCalendrical (momentLiteral moment) = true := by
  refine isCalendrical_append (isCalendrical_append rfl (isCalendrical_joined ?_)) rfl
  intro part member
  rcases List.mem_append.1 member with member | member
  · obtain ⟨number, _, rfl⟩ := List.mem_map.1 member
    exact isCalendrical_natText number
  · cases ahead : moment.ahead with
    | none =>
        rw [ahead] at member
        cases member
    | some seconds =>
        rw [ahead] at member
        rw [List.mem_singleton.1 member]
        exact isCalendrical_append rfl (isCalendrical_ahead seconds)

theorem unbroken_of_isCalendrical {text : List Char} (calendrical : isCalendrical text = true) :
    Unbroken text :=
  fun c member => isLineBreak_of_class rfl (List.all_eq_true.1 calendrical c member)

theorem integerText_unbroken (value : Int) : Returns Unbroken (integerText value) := by
  unfold integerText
  dsimp only
  split
  · exact .error _
  · exact .ok (intText_unbroken value)

mutual

/-- The literal of a value holds no line break, whatever the value holds. -/
theorem literal_unbroken (value : Value) : Returns Unbroken value.literal := by
  cases value with
  | null => exact .ok (by decide)
  | bool value => cases value <;> exact .ok (by decide)
  | int value => exact integerText_unbroken value
  | float value => exact .ok (Binary64.text_unbroken value)
  | str text => exact .ok (Quoted.encode_unbroken text.toList)
  | bytes data => exact .ok (Quoted.encodeBytes_unbroken data)
  | list items =>
      exact (literalItems_unbroken items).bind fun parts each =>
        .pure (unbroken_bracketed rfl rfl each)
  | tuple items =>
      refine (literalItems_unbroken items).bind fun parts each => ?_
      match parts with
      | [] => exact .pure (unbroken_bracketed rfl rfl each)
      | [part] =>
          refine .pure (unbroken_append.2 ⟨unbroken_cons.2 ⟨rfl, ?_⟩, by decide⟩)
          exact each part List.mem_cons_self
      | _ :: _ :: _ => exact .pure (unbroken_bracketed rfl rfl each)
  | map entries =>
      exact (literalEntries_unbroken entries).bind fun parts each =>
        .pure (unbroken_bracketed rfl rfl each)
  | set items =>
      cases items with
      | nil => exact .ok (by decide)
      | cons item items =>
          exact (literalItems_unbroken (item :: items)).bind fun parts each =>
            .pure (unbroken_bracketed rfl rfl each)
  | date day => exact .ok (unbroken_of_isCalendrical (isCalendrical_day day))
  | moment time => exact .ok (unbroken_of_isCalendrical (isCalendrical_moment time))

theorem literalItems_unbroken (items : List Value) :
    Returns (∀ part ∈ ·, Unbroken part) (literalItems items) := by
  cases items with
  | nil => exact .ok (List.forall_mem_nil _)
  | cons item items =>
      exact (literal_unbroken item).bind fun part here =>
        (literalItems_unbroken items).bind fun parts each =>
          .pure (List.forall_mem_cons.2 ⟨here, each⟩)

theorem literalEntries_unbroken (entries : List (Value × Value)) :
    Returns (∀ part ∈ ·, Unbroken part) (literalEntries entries) := by
  cases entries with
  | nil => exact .ok (List.forall_mem_nil _)
  | cons entry entries =>
      obtain ⟨key, value⟩ := entry
      refine (literal_unbroken key).bind fun left keyed => ?_
      refine (literal_unbroken value).bind fun right valued => ?_
      refine (literalEntries_unbroken entries).bind fun parts each => ?_
      refine .pure (List.forall_mem_cons.2 ⟨unbroken_append.2 ⟨keyed, ?_⟩, each⟩)
      exact unbroken_cons.2 ⟨rfl, unbroken_cons.2 ⟨rfl, valued⟩⟩

end

theorem literalText_unbroken (value : Value) :
    Returns (fun text => Unbroken text.toList) value.literalText :=
  (literal_unbroken value).bind fun text unbroken => .pure (by rwa [String.toList_ofList])

end Value

end BrowserScript
