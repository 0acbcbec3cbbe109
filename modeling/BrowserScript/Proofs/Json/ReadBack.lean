import BrowserScript.Json.Read
import BrowserScript.Json.Write
import BrowserScript.Proofs.Value.Quoted
import BrowserScript.Proofs.Value.RoundTrip
import Mathlib.Data.List.Forall2

/-!
# Texts that read back

What is written of texts and nulls, in lists and mappings at any depth, is read as the same value
again, whatever follows it. A string reads back character by character; the parts between brackets
read back one by one, since only white space stands around the commas.
-/

namespace BrowserScript.Json

variable {c : Char} {cursor : Cursor} {parts : List (List Char)} {text rest : List Char}

@[simp] theorem ok_bind {ε α β : Type} (result : α) (next : α → Except ε β) :
    (Except.ok result >>= next) = next result := rfl

/-! ## Strings -/

/-- The number of a character below the surrogates is read as that character. -/
theorem numbered_hexFixed (low : c.toNat < 0xd800) (index : Nat) {tail : List Char}
    (more : tail ≠ []) : numbered index (Text.hexFixed 4 c.toNat ++ tail) = .ok (c, 4) := by
  have long : ¬ (Text.hexFixed 4 c.toNat ++ tail).length ≤ 4 := by
    have nonempty := List.length_pos_iff.2 more
    rw [List.length_append, Quoted.hexFixed_length]
    omega
  have noPair : ¬ 0xd800 ≤ c.toNat := Nat.not_le.2 low
  have number : fourDigits? (Text.hexFixed 4 c.toNat ++ tail) = some c.toNat :=
    Quoted.hexPoint?_hexFixed (by omega) tail
  rw [numbered, if_neg long, number]
  simp [noPair]

/-- A character is written as an escape of one letter, by number, or as it is. -/
theorem charText_cases (c : Char) :
    (∃ letter, escaped? letter = some c ∧ charText false c = ['\\', letter]) ∨
      (c.toNat < 0x20 ∧ charText false c = unitEscape c.toNat) ∨
      (c ≠ '"' ∧ c ≠ '\\' ∧ ¬ c.toNat < 0x20 ∧ charText false c = [c]) := by
  have ofPoint {point : Nat} (same : c.toNat = point) : c = Char.ofNat point := by
    rw [← same, Char.ofNat_toNat]
  by_cases quote : c = '"'
  · exact .inl ⟨'"', by rw [quote]; rfl, by rw [quote]; rfl⟩
  by_cases backslash : c = '\\'
  · exact .inl ⟨'\\', by rw [backslash]; rfl, by rw [backslash]; rfl⟩
  by_cases lineFeed : c = '\n'
  · exact .inl ⟨'n', by rw [lineFeed]; rfl, by rw [lineFeed]; rfl⟩
  by_cases carriageReturn : c = '\r'
  · exact .inl ⟨'r', by rw [carriageReturn]; rfl, by rw [carriageReturn]; rfl⟩
  by_cases tab : c = '\t'
  · exact .inl ⟨'t', by rw [tab]; rfl, by rw [tab]; rfl⟩
  by_cases backspace : c.toNat = 8
  · exact .inl ⟨'b', by rw [ofPoint backspace]; rfl, by rw [ofPoint backspace]; rfl⟩
  by_cases formFeed : c.toNat = 12
  · exact .inl ⟨'f', by rw [ofPoint formFeed]; rfl, by rw [ofPoint formFeed]; rfl⟩
  by_cases control : c.toNat < 0x20
  · refine .inr (.inl ⟨control, ?_⟩)
    simp [charText, quote, backslash, lineFeed, carriageReturn, tab, backspace, formFeed, control]
  · refine .inr (.inr ⟨quote, backslash, control, ?_⟩)
    simp [charText, quote, backslash, lineFeed, carriageReturn, tab, backspace, formFeed, control]

section

variable {start index : Nat} {tail others : List Char} {after : Cursor}
variable {c : Char}

theorem stringFrom_escape {letter : Char} (known : escaped? letter = some c)
    (read : stringFrom start (index + 2) tail = .ok (others, after)) :
    stringFrom start index ('\\' :: letter :: tail) = .ok (c :: others, after) := by
  have notNumber : letter ≠ 'u' := by
    rintro rfl
    cases known
  rw [stringFrom]
  · rw [known]
    simp only [read]
    rfl
  · exact notNumber

theorem stringFrom_number (low : c.toNat < 0xd800)
    (read : stringFrom start (index + 6) tail = .ok (others, after)) :
    stringFrom start index (unitEscape c.toNat ++ tail) = .ok (c :: others, after) := by
  have more : tail ≠ [] := by
    rintro rfl
    rw [stringFrom] at read
    cases read
  have rest : (Text.hexFixed 4 c.toNat ++ tail).drop 4 = tail :=
    List.drop_left' (Quoted.hexFixed_length 4 c.toNat)
  rw [unitEscape, List.cons_append, List.cons_append, stringFrom, numbered_hexFixed low index more]
  simp only [ok_bind, rest, read]
  rfl

theorem stringFrom_plain (noQuote : c ≠ '"') (noEscape : c ≠ '\\') (visible : ¬ c.toNat < 0x20)
    (read : stringFrom start (index + 1) tail = .ok (others, after)) :
    stringFrom start index (c :: tail) = .ok (c :: others, after) := by
  rw [stringFrom]
  · rw [if_neg visible]
    simp only [read]
    rfl
  · exact noQuote
  · exact fun same _ => noEscape same
  · exact fun _ same _ => noEscape same
  · exact fun _ _ same _ => noEscape same

/-- A piece of a string stands for one character. -/
theorem stringFrom_charText
    (read : stringFrom start (index + (charText false c).length) tail = .ok (others, after)) :
    stringFrom start index (charText false c ++ tail) = .ok (c :: others, after) := by
  rcases charText_cases c with
    ⟨letter, known, written⟩ | ⟨control, written⟩ | ⟨noQuote, noEscape, visible, written⟩
  · rw [written] at read ⊢
    exact stringFrom_escape known read
  · rw [written] at read ⊢
    rw [unitEscape, List.length_cons, List.length_cons, Quoted.hexFixed_length] at read
    exact stringFrom_number (by omega) read
  · rw [written] at read ⊢
    exact stringFrom_plain noQuote noEscape visible read

end

/-- The characters of a string are read up to its closing quotation mark. -/
theorem stringFrom_flatMap (start index : Nat) (text rest : List Char) :
    ∃ after, stringFrom start index (text.flatMap (charText false) ++ '"' :: rest) =
      .ok (text, after) ∧ after.rest = rest := by
  induction text generalizing index with
  | nil => exact ⟨⟨index + 1, rest⟩, by rw [List.flatMap_nil, List.nil_append, stringFrom], rfl⟩
  | cons c text ih =>
      obtain ⟨after, read, left⟩ := ih (index + (charText false c).length)
      refine ⟨after, ?_, left⟩
      rw [List.flatMap_cons, List.append_assoc]
      exact stringFrom_charText read

theorem string_stringText (written : cursor.rest = stringText false text ++ rest) :
    ∃ after, string cursor = .ok (String.ofList text, after) ∧ after.rest = rest := by
  obtain ⟨after, read, left⟩ := stringFrom_flatMap cursor.index (cursor.index + 1) text rest
  have inner : cursor.rest.drop 1 = text.flatMap (charText false) ++ '"' :: rest := by
    simp [written, stringText]
  refine ⟨after, ?_, left⟩
  rw [string, inner, read]
  rfl

/-! ## White space -/

def isBlank (c : Char) : Bool := c == ' ' || c == '\t' || c == '\n' || c == '\r'

theorem rest_skipBlanks {blanks : List Char}
    (before : cursor.rest = blanks ++ text) (blank : blanks.all isBlank = true)
    (visible : ∀ c ∈ text.head?, isBlank c = false) : cursor.skipBlanks.rest = text := by
  have skipped : cursor.rest.takeWhile isBlank = blanks := by
    rw [before, List.takeWhile_append_of_pos (List.all_eq_true.1 blank)]
    cases text with
    | nil => simp
    | cons c text => simp [visible c rfl]
  change cursor.rest.drop (cursor.rest.takeWhile isBlank).length = text
  rw [skipped, before, List.drop_left]

theorem rest_skipBlanks_visible (here : cursor.rest = c :: rest) (visible : isBlank c = false) :
    cursor.skipBlanks.rest = c :: rest := by
  have before : cursor.rest = [] ++ c :: rest := here
  refine rest_skipBlanks before rfl ?_
  rintro other ⟨⟩
  exact visible

theorem isAt_of_rest (here : cursor.rest = c :: rest)
    (other : Char) : cursor.isAt other = (c == other) := by
  rw [Cursor.isAt, here]
  rfl

theorem lineStart_blank (layout : Layout) (level : Nat) :
    (lineStart layout level).all isBlank = true := by
  unfold lineStart
  split
  · rfl
  · rw [List.all_cons, List.all_replicate]
    simp [isBlank]

/-! ## Sequences -/

def isStart (c : Char) : Bool := !isBlank c && c != ']' && c != '\x7d' && c != '\ufeff'

/-- A reader takes a text for a result in more rounds than the text has characters, whatever follows
the text. -/
structure Reads {α : Type} (reader : Nat → Cursor → Except Refusal (α × Cursor)) (text : List Char)
    (result : α) : Prop where
  starts : ∃ c rest, text = c :: rest ∧ isStart c = true
  taken : ∀ {rounds : Nat} {cursor : Cursor} {rest : List Char}, text.length < rounds →
    cursor.rest = text ++ rest →
      ∃ after, reader rounds cursor = .ok (result, after) ∧ after.rest = rest

/-- What follows the first item of a sequence: its end, or a comma and the other items. -/
def further {α : Type} (closing : Char) (first : Except Refusal (α × Cursor))
    (others : Cursor → Except Refusal (List α × Cursor)) : Except Refusal (List α × Cursor) := do
  let (item, after) ← first
  let next := after.skipBlanks
  if next.isAt closing then return ([item], next.forward 1)
  if !next.isAt ',' then refuse .comma next
  let (items, after) ← others (next.forward 1).skipBlanks
  return (item :: items, after)

/-- A member of an object: its name, a colon and its value. -/
def member (rounds : Nat) (cursor : Cursor) : Except Refusal ((Value × Value) × Cursor) := do
  if !cursor.isAt '"' then refuse .propertyName cursor
  let (name, after) ← string cursor
  let colon := after.skipBlanks
  if !colon.isAt ':' then refuse .colon colon
  let (item, after) ← value rounds (colon.forward 1).skipBlanks
  return ((.str name, item), after)

theorem elements_succ (rounds : Nat) (cursor : Cursor) :
    elements (rounds + 1) cursor = further ']' (value rounds cursor) (elements rounds) := by
  rw [elements]
  rfl

theorem members_succ (rounds : Nat) (cursor : Cursor) :
    members (rounds + 1) cursor = further '\x7d' (member rounds cursor) (members rounds) := by
  rw [members, further, member]
  cases cursor.isAt '"' with
  | false => rfl
  | true =>
      cases string cursor with
      | error refusal => rfl
      | ok named =>
          simp only [ok_bind]
          cases named.2.skipBlanks.isAt ':' with
          | false => rfl
          | true => cases value rounds (named.2.skipBlanks.forward 1).skipBlanks <;> rfl

section

variable {α : Type} {closing : Char} {first : Except Refusal (α × Cursor)}
  {others : Cursor → Except Refusal (List α × Cursor)} {item : α} {after : Cursor}

theorem further_last {rest : List Char} (read : first = .ok (item, after))
    (ends : after.skipBlanks.rest = closing :: rest) :
    ∃ last, further closing first others = .ok ([item], last) ∧ last.rest = rest := by
  refine ⟨after.skipBlanks.forward 1, ?_, congrArg (List.drop 1) ends⟩
  rw [further, read, ok_bind]
  simp only [isAt_of_rest ends, beq_self_eq_true]
  rfl

theorem further_more {tail : List Char} {items : List α} {last : Cursor} (notComma : closing ≠ ',')
    (read : first = .ok (item, after)) (continues : after.skipBlanks.rest = ',' :: tail)
    (readOthers : others (after.skipBlanks.forward 1).skipBlanks = .ok (items, last)) :
    further closing first others = .ok (item :: items, last) := by
  have notClosed : after.skipBlanks.isAt closing = false := by
    rw [isAt_of_rest continues]
    exact beq_false_of_ne (Ne.symm notComma)
  have comma : after.skipBlanks.isAt ',' = true := isAt_of_rest continues ','
  rw [further, read, ok_bind]
  simp only [notClosed, comma, readOthers]
  rfl

end

theorem isBlank_of_isStart (start : isStart c = true) : isBlank c = false := by
  unfold isStart at start
  simp only [Bool.and_eq_true, Bool.not_eq_true'] at start
  exact start.1.1.1

/-- Skipping white space leads to the item that comes after it. -/
theorem rest_skipBlanks_start {blanks : List Char}
    (before : cursor.rest = blanks ++ text) (blank : blanks.all isBlank = true)
    (starts : ∃ c rest, text = c :: rest ∧ isStart c = true) : cursor.skipBlanks.rest = text := by
  obtain ⟨c, rest, rfl, start⟩ := starts
  refine rest_skipBlanks before blank ?_
  rintro other ⟨⟩
  exact isBlank_of_isStart start

/-- Joined texts start as the first of them does. -/
theorem joined_starts {α : Type} {reader : Nat → Cursor → Except Refusal (α × Cursor)}
    {part : List Char} {item : α} (reads : Reads reader part item) (separator : List Char)
    (parts : List (List Char)) (rest : List Char) :
    ∃ c more, joined separator (part :: parts) ++ rest = c :: more ∧ isStart c = true := by
  obtain ⟨c, tail, rfl, start⟩ := reads.starts
  cases parts with
  | nil => exact ⟨c, tail ++ rest, rfl, start⟩
  | cons next parts =>
      rw [joined_cons _ _ (List.cons_ne_nil next parts)]
      exact ⟨c, _, rfl, start⟩

/-- How a sequence between brackets is read: from what follows the opening bracket. -/
structure Brackets {α : Type} (one : Nat → Cursor → Except Refusal (α × Cursor))
    (all : Nat → Cursor → Except Refusal (List α × Cursor)) (opening closing : Char)
    (made : List α → Value) : Prop where
  step : ∀ rounds cursor,
    all (rounds + 1) cursor = further closing (one rounds cursor) (all rounds)
  starts : isStart opening = true
  ends : isStart closing = false
  visible : isBlank closing = false
  notComma : closing ≠ ','
  empty : ∀ {rounds cursor}, cursor.isAt opening = true →
    (cursor.forward 1).skipBlanks.isAt closing = true →
      value (rounds + 1) cursor = .ok (made [], (cursor.forward 1).skipBlanks.forward 1)
  filled : ∀ {rounds cursor items after}, cursor.isAt opening = true →
    (cursor.forward 1).skipBlanks.isAt closing = false →
      all rounds (cursor.forward 1).skipBlanks = .ok (items, after) →
        value (rounds + 1) cursor = .ok (made items, after)

/-- Texts that read as items read as the sequence of these items, with white space around the commas
and before the end. -/
theorem Brackets.reads_joined {α : Type} {one : Nat → Cursor → Except Refusal (α × Cursor)}
    {all : Nat → Cursor → Except Refusal (List α × Cursor)} {opening closing : Char}
    {made : List α → Value} (brackets : Brackets one all opening closing made)
    {gap trail : List Char} (blankGap : gap.all isBlank = true)
    (blankTrail : trail.all isBlank = true) {items : List α}
    (each : List.Forall₂ (Reads one) parts items) (some : parts ≠ []) {rounds : Nat}
    (enough : (joined (',' :: gap) parts).length + 1 < rounds)
    (here : cursor.rest = joined (',' :: gap) parts ++ (trail ++ closing :: rest)) :
    ∃ after, all rounds cursor = .ok (items, after) ∧ after.rest = rest := by
  induction each generalizing rounds cursor with
  | nil => exact absurd rfl some
  | @cons part item parts items reads each ih =>
      obtain ⟨rounds, rfl⟩ : ∃ fewer, rounds = fewer + 1 := ⟨rounds - 1, by omega⟩
      rw [brackets.step]
      -- The last part is followed by the end, every other part by a comma.
      cases each with
      | nil =>
          obtain ⟨after, read, left⟩ := reads.taken (by simpa [joined] using enough) here
          refine further_last read (rest_skipBlanks left blankTrail ?_)
          rintro c ⟨⟩
          exact brackets.visible
      | @cons next second others _ nextReads _ =>
          rw [joined_cons _ part (List.cons_ne_nil _ _)] at enough here
          simp only [List.length_append, List.length_cons] at enough
          simp only [List.append_assoc, List.cons_append] at here
          obtain ⟨after, read, left⟩ := reads.taken (show part.length < rounds by omega) here
          have comma := rest_skipBlanks_visible left rfl
          have following : (after.skipBlanks.forward 1).skipBlanks.rest =
              joined (',' :: gap) (next :: others) ++ (trail ++ closing :: rest) := by
            refine rest_skipBlanks_start (congrArg (List.drop 1) comma) blankGap ?_
            exact joined_starts nextReads _ others _
          obtain ⟨last, readOthers, done⟩ :=
            ih (List.cons_ne_nil _ _) (show _ < rounds by omega) following
          exact ⟨last, further_more brackets.notComma read comma readOthers, done⟩

/-! ## Values -/

theorem reads_null : Reads value "null".toList .null := by
  refine ⟨⟨'n', _, rfl, rfl⟩, ?_⟩
  intro rounds cursor rest enough here
  obtain ⟨rounds, rfl⟩ : ∃ fewer, rounds = fewer + 1 := ⟨rounds - 1, by omega⟩
  have first : cursor.rest = 'n' :: ("ull".toList ++ rest) := here
  refine ⟨cursor.forward 4, ?_, by rw [Cursor.forward, here]; rfl⟩
  rw [value]
  simp only [isAt_of_rest first]
  rw [plain, here]
  rfl

theorem reads_str (text : String) : Reads value (stringText false text.toList) (.str text) := by
  refine ⟨⟨'"', _, rfl, rfl⟩, ?_⟩
  intro rounds cursor rest enough here
  obtain ⟨rounds, rfl⟩ : ∃ fewer, rounds = fewer + 1 := ⟨rounds - 1, by omega⟩
  obtain ⟨after, read, left⟩ := string_stringText here
  have quoted : cursor.isAt '"' = true := isAt_of_rest here '"'
  refine ⟨after, ?_, left⟩
  rw [value, if_pos quoted, read, String.ofList_toList]
  rfl

theorem reads_member {item : Value} (reads : Reads value text item) (name : String) :
    Reads member (stringText false name.toList ++ ':' :: ' ' :: text) (.str name, item) := by
  refine ⟨⟨'"', _, rfl, rfl⟩, ?_⟩
  intro rounds cursor rest enough here
  rw [List.append_assoc, List.cons_append, List.cons_append] at here
  obtain ⟨after, read, left⟩ := string_stringText here
  have quoted : cursor.isAt '"' = true := isAt_of_rest here '"'
  have colon := rest_skipBlanks_visible left rfl
  have following : (after.skipBlanks.forward 1).skipBlanks.rest = text ++ rest := by
    have before : (after.skipBlanks.forward 1).rest = [' '] ++ (text ++ rest) :=
      congrArg (List.drop 1) colon
    obtain ⟨c, tail, first, start⟩ := reads.starts
    exact rest_skipBlanks_start before rfl ⟨c, tail ++ rest, congrArg (· ++ rest) first, start⟩
  rw [List.length_append, List.length_cons, List.length_cons] at enough
  obtain ⟨last, readItem, done⟩ := reads.taken (show text.length < rounds by omega) following
  refine ⟨last, ?_, done⟩
  have isColon : after.skipBlanks.isAt ':' = true := isAt_of_rest colon ':'
  rw [member, read, String.ofList_toList]
  simp only [quoted, ok_bind, isColon, readItem]
  rfl

/-- Only white space stands around the parts of what is enclosed. -/
theorem enclosed_eq (layout : Layout) (level : Nat) (opening closing : Char) (some : parts ≠ []) :
    ∃ lead gap trail : List Char, lead.all isBlank = true ∧ gap.all isBlank = true ∧
      trail.all isBlank = true ∧ enclosed layout level opening closing parts =
        opening :: (lead ++ (joined (',' :: gap) parts ++ (trail ++ [closing]))) := by
  have nonempty : ¬ parts.isEmpty = true := fun none => some (List.isEmpty_iff.1 none)
  refine ⟨lineStart layout (level + 1),
    (if layout.indent.isSome then [] else [' ']) ++ lineStart layout (level + 1),
    lineStart layout level, lineStart_blank .., ?_, lineStart_blank .., ?_⟩
  · rw [List.all_append, lineStart_blank, Bool.and_true]
    split <;> rfl
  · rw [enclosed, if_neg nonempty]
    split <;> simp

theorem isAt_unique {other : Char} (here : cursor.isAt c = true)
    (differ : c ≠ other) : cursor.isAt other = false := by
  rw [Cursor.isAt, beq_iff_eq] at here
  rw [Cursor.isAt, here]
  exact beq_false_of_ne fun same => differ (Option.some.inj same)

theorem brackets_list : Brackets value elements '[' ']' .list where
  step := elements_succ
  starts := rfl
  ends := rfl
  visible := rfl
  notComma := by decide
  empty := by
    intro rounds cursor opened closed
    rw [value, isAt_unique opened (by decide), isAt_unique opened (by decide)]
    simp only [opened, closed]
    rfl
  filled := by
    intro rounds cursor items after opened notClosed read
    rw [value, isAt_unique opened (by decide), isAt_unique opened (by decide)]
    simp only [opened, notClosed, read]
    rfl

theorem brackets_map :
    Brackets member members '\x7b' '\x7d' fun entries => .map (Entries.ofPairs entries) where
  step := members_succ
  starts := rfl
  ends := rfl
  visible := rfl
  notComma := by decide
  empty := by
    intro rounds cursor opened closed
    rw [value, isAt_unique opened (by decide)]
    simp only [opened, closed]
    rfl
  filled := by
    intro rounds cursor items after opened notClosed read
    rw [value, isAt_unique opened (by decide)]
    simp only [opened, notClosed, read]
    rfl

/-- Texts that read as items, between brackets, read as the list or mapping that is made of them. -/
theorem Brackets.reads {α : Type} {one : Nat → Cursor → Except Refusal (α × Cursor)}
    {all : Nat → Cursor → Except Refusal (List α × Cursor)} {opening closing : Char}
    {made : List α → Value} (brackets : Brackets one all opening closing made) (layout : Layout)
    (level : Nat) {items : List α} (each : List.Forall₂ (Reads one) parts items) :
    Reads value (enclosed layout level opening closing parts) (made items) := by
  cases each with
  | nil =>
      refine ⟨⟨opening, [closing], rfl, brackets.starts⟩, ?_⟩
      intro rounds cursor rest enough here
      obtain ⟨rounds, rfl⟩ : ∃ fewer, rounds = fewer + 1 := ⟨rounds - 1, by omega⟩
      have opened : cursor.isAt opening = true := by
        rw [isAt_of_rest here, beq_self_eq_true]
      have closed : (cursor.forward 1).skipBlanks.rest = closing :: rest :=
        rest_skipBlanks_visible (congrArg (List.drop 1) here) brackets.visible
      have isClosed : (cursor.forward 1).skipBlanks.isAt closing = true := by
        rw [isAt_of_rest closed, beq_self_eq_true]
      exact ⟨_, brackets.empty opened isClosed, congrArg (List.drop 1) closed⟩
  | @cons part item parts items reads each =>
      obtain ⟨lead, gap, trail, blankLead, blankGap, blankTrail, same⟩ :=
        enclosed_eq layout level opening closing (List.cons_ne_nil part parts)
      rw [same]
      refine ⟨⟨opening, _, rfl, brackets.starts⟩, ?_⟩
      intro rounds cursor rest enough here
      obtain ⟨rounds, rfl⟩ : ∃ fewer, rounds = fewer + 1 := ⟨rounds - 1, by omega⟩
      simp only [List.length_cons, List.length_append, List.length_nil] at enough
      obtain ⟨c, more, first, start⟩ := joined_starts reads (',' :: gap) parts
        (trail ++ closing :: rest)
      have opened : cursor.isAt opening = true := by
        rw [isAt_of_rest here, beq_self_eq_true]
      have inner : (cursor.forward 1).skipBlanks.rest =
          joined (',' :: gap) (part :: parts) ++ (trail ++ closing :: rest) := by
        have before : (cursor.forward 1).rest =
            lead ++ (joined (',' :: gap) (part :: parts) ++ (trail ++ closing :: rest)) := by
          rw [Cursor.forward, here]
          simp
        exact rest_skipBlanks_start before blankLead ⟨c, more, first, start⟩
      have notClosed : (cursor.forward 1).skipBlanks.isAt closing = false := by
        rw [isAt_of_rest (inner.trans first)]
        refine beq_false_of_ne ?_
        rintro rfl
        exact Bool.noConfusion (brackets.ends.symm.trans start)
      obtain ⟨after, read, left⟩ := brackets.reads_joined blankGap blankTrail (.cons reads each)
        (List.cons_ne_nil part parts) (show _ < rounds by omega) inner
      exact ⟨after, brackets.filled opened notClosed read, left⟩

/-! ## What is written -/

mutual

/-- Whether a value consists of texts and nulls, in lists and in mappings with different texts for
their keys. -/
def isTextual : Value → Bool
  | .null => true
  | .str _ => true
  | .list items => areTextual items
  | .map entries =>
      entriesTextual entries
        && decide (entries.Pairwise fun earlier later => earlier.1.equals later.1 = false)
  | _ => false

def areTextual : List Value → Bool
  | [] => true
  | item :: items => isTextual item && areTextual items

def entriesTextual : List (Value × Value) → Bool
  | [] => true
  | (.str _, value) :: entries => isTextual value && entriesTextual entries
  | _ :: _ => false

end

mutual

/-- A textual value is written, and what is written reads as it. -/
theorem valueText_reads {layout : Layout} (plain : layout.sevenBit = false) (level : Nat)
    (value : Value) (textual : isTextual value = true) :
    ∃ text, valueText layout level value = .ok text ∧ Reads Json.value text value := by
  cases value with
  | null => exact ⟨_, rfl, reads_null⟩
  | str text =>
      refine ⟨_, rfl, ?_⟩
      rw [plain]
      exact reads_str text
  | list items =>
      obtain ⟨parts, written, each⟩ := itemTexts_reads plain (level + 1) items textual
      refine ⟨_, ?_, brackets_list.reads layout level each⟩
      rw [valueText, written]
      rfl
  | map entries =>
      obtain ⟨textualEntries, distinct⟩ := Bool.and_eq_true_iff.1 textual
      obtain ⟨parts, written, each⟩ := memberTexts_reads plain (level + 1) entries textualEntries
      have reads := brackets_map.reads layout level each
      rw [Entries.ofPairs_eq (of_decide_eq_true distinct)] at reads
      refine ⟨_, ?_, reads⟩
      rw [valueText, written]
      rfl
  | _ => cases textual

theorem itemTexts_reads {layout : Layout} (plain : layout.sevenBit = false) (level : Nat)
    (items : List Value) (textual : areTextual items = true) :
    ∃ parts, itemTexts layout level items = .ok parts ∧
      List.Forall₂ (Reads Json.value) parts items := by
  cases items with
  | nil => exact ⟨[], rfl, .nil⟩
  | cons item items =>
      obtain ⟨textualItem, textualItems⟩ := Bool.and_eq_true_iff.1 textual
      obtain ⟨part, written, reads⟩ := valueText_reads plain level item textualItem
      obtain ⟨parts, writtenOthers, each⟩ := itemTexts_reads plain level items textualItems
      refine ⟨part :: parts, ?_, .cons reads each⟩
      rw [itemTexts, written, writtenOthers]
      rfl

theorem memberTexts_reads {layout : Layout} (plain : layout.sevenBit = false) (level : Nat)
    (entries : List (Value × Value)) (textual : entriesTextual entries = true) :
    ∃ parts, memberTexts layout level entries = .ok parts ∧
      List.Forall₂ (Reads member) parts entries := by
  cases entries with
  | nil => exact ⟨[], rfl, .nil⟩
  | cons entry entries =>
      obtain ⟨key, value⟩ := entry
      cases key with
      | str name =>
          obtain ⟨textualValue, textualEntries⟩ := Bool.and_eq_true_iff.1 textual
          obtain ⟨text, written, reads⟩ := valueText_reads plain level value textualValue
          obtain ⟨parts, writtenOthers, each⟩ := memberTexts_reads plain level entries textualEntries
          refine ⟨(stringText false name.toList ++ ':' :: ' ' :: text) :: parts, ?_,
            .cons (reads_member reads name) each⟩
          rw [memberTexts, written, writtenOthers, plain]
          rfl
      | _ => cases textual

end

/-- Every textual value has a text, which reads back as that value. -/
theorem write_reads_back {layout : Layout} (plain : layout.sevenBit = false) {value : Value}
    (textual : isTextual value = true) :
    ∃ text, write layout value = .ok text ∧ read text.toList = .ok value := by
  obtain ⟨text, written, reads⟩ := valueText_reads plain 0 value textual
  obtain ⟨c, tail, first, start⟩ := reads.starts
  have noMark : (c == '\ufeff') = false := by
    refine beq_false_of_ne ?_
    rintro rfl
    cases start
  have whole : (Cursor.mk 0 text).skipBlanks.rest = text ++ [] := by
    rw [List.append_nil]
    refine (rest_skipBlanks_visible ?_ (isBlank_of_isStart start)).trans first.symm
    exact first
  obtain ⟨after, taken, left⟩ := reads.taken (Nat.lt_succ_self text.length) whole
  have done : after.skipBlanks.rest = [] := by
    refine rest_skipBlanks (left.trans (List.append_nil []).symm) rfl ?_
    rintro c ⟨⟩
  refine ⟨String.ofList text, ?_, ?_⟩
  · rw [write, written]
    rfl
  · have notMarked : (Cursor.mk 0 text).isAt '\ufeff' = false := (isAt_of_rest first _).trans noMark
    rw [String.toList_ofList, read]
    simp only [notMarked, taken, ok_bind, done]
    rfl

end BrowserScript.Json
