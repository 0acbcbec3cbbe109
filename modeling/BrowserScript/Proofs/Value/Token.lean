import BrowserScript.Proofs.Number.Shortest
import BrowserScript.Proofs.Value.OneLine
import BrowserScript.Proofs.Value.RoundTrip

/-!
# Tokens of expressions

The text of an expression is taken apart by a machine that goes through it once: names and numbers,
quoted texts with the letters before them, and marks. Between two values a delimiter ends whatever
came before it, so the tokens of a literal are those of its parts with the marks between them. A
literal mentions no names but those of constants exactly if its value is closed.
-/

namespace BrowserScript

namespace Expression

open Reader (isNameChar isBlank isDelimiter)
open Quoted (isMark)

variable {c quote : Char} {word : List Char}

inductive Token where
  /-- A name, or a number without its sign. -/
  | word (chars : List Char)
  /-- A quoted text with its quotation marks and the letters before them. -/
  | quoted (source : List Char)
  | mark (c : Char)
  deriving DecidableEq

/-- Where a text is read: between tokens or in one of them. -/
inductive Mode where
  | between
  | word (chars : List Char)
  | quoted (source : List Char) (quote : Char) (escaped : Bool)

/-- Whether a character belongs to the word before it. A number may have a point, and a sign behind
the letter of its exponent. -/
def continues (word : List Char) (c : Char) : Bool :=
  isNameChar c ||
    word.head?.any Char.isDigit &&
      (c == '.' || (c == '+' || c == '-') && word.getLast?.any fun last => last == 'e' || last == 'E')

def start (c : Char) : Mode × List Token :=
  if isBlank c then (.between, [])
  else if isMark c then (.quoted [c] c false, [])
  else if isNameChar c then (.word [c], [])
  else (.between, [.mark c])

/-- What a character does: the place behind it and the tokens it ends. -/
def step (mode : Mode) (c : Char) : Mode × List Token :=
  match mode with
  | .between => start c
  | .word chars =>
      if continues chars c then (.word (chars ++ [c]), [])
      else if isMark c then (.quoted (chars ++ [c]) c false, [])
      else ((start c).1, .word chars :: (start c).2)
  | .quoted source quote escaped =>
      if escaped then (.quoted (source ++ [c]) quote false, [])
      else if c == quote then (.between, [.quoted (source ++ [c])])
      else (.quoted (source ++ [c]) quote (c == '\\'), [])

def run (mode : Mode) : List Char → Mode × List Token
  | [] => (mode, [])
  | c :: text =>
      let (next, ended) := step mode c
      let (last, others) := run next text
      (last, ended ++ others)

def Mode.pending : Mode → List Token
  | .between => []
  | .word chars => [.word chars]
  | .quoted source _ _ => [.quoted source]

def Mode.isQuoted : Mode → Bool
  | .quoted .. => true
  | _ => false

def tokens (text : List Char) : List Token := (run .between text).2 ++ (run .between text).1.pending

def Whole (text : List Char) : Prop := (run .between text).1.isQuoted = false

example : tokens "[1e+16, 'it\\'s', b'']".toList =
    [.mark '[', .word "1e+16".toList, .mark ',', .quoted "'it\\'s'".toList, .mark ',',
     .quoted "b''".toList, .mark ']'] := by decide

theorem run_cons (mode : Mode) (c : Char) (text : List Char) :
    run mode (c :: text) =
      ((run (step mode c).1 text).1, (step mode c).2 ++ (run (step mode c).1 text).2) := rfl

theorem run_append (mode : Mode) (left right : List Char) :
    run mode (left ++ right) =
      ((run (run mode left).1 right).1, (run mode left).2 ++ (run (run mode left).1 right).2) := by
  induction left generalizing mode with
  | nil => rfl
  | cons c left ih => simp [run, ih, List.append_assoc]

/-! ## Delimiters and blanks -/

/-- A delimiter ends what came before it. -/
theorem step_delimiter {mode : Mode} (closed : mode.isQuoted = false)
    (delimiter : isDelimiter c = true) : step mode c = (.between, mode.pending ++ [.mark c]) := by
  obtain ⟨notMark, notName, notPoint, notBlank⟩ := Reader.isDelimiter_separates delimiter
  have notSign : (c == '+' || c == '-') = false := by
    simp only [isDelimiter, List.contains_cons, List.contains_nil, Bool.or_false, Bool.or_eq_true,
      beq_iff_eq] at delimiter
    rcases delimiter with rfl | rfl | rfl | rfl | rfl <;> rfl
  have begins : start c = (.between, [.mark c]) := by
    simp [start, notMark, notName, notBlank]
  cases mode with
  | between => exact begins
  | word chars =>
      have ends : continues chars c = false := by simp [continues, notName, notPoint, notSign]
      simp [step, ends, notMark, begins, Mode.pending]
  | quoted => cases closed

theorem run_delimited {left : List Char} (whole : Whole left)
    (delimiter : isDelimiter c = true) (right : List Char) :
    run .between (left ++ c :: right) =
      ((run .between right).1, tokens left ++ .mark c :: (run .between right).2) := by
  rw [run_append, run, step_delimiter whole delimiter]
  simp [tokens, List.append_assoc]

theorem tokens_delimited {left : List Char} (whole : Whole left)
    (delimiter : isDelimiter c = true) (right : List Char) :
    tokens (left ++ c :: right) = tokens left ++ .mark c :: tokens right := by
  rw [tokens, run_delimited whole delimiter, tokens.eq_def right]
  simp [List.append_assoc]

theorem whole_delimited {left right : List Char} (whole : Whole left)
    (delimiter : isDelimiter c = true) (further : Whole right) : Whole (left ++ c :: right) := by
  rw [Whole, run_delimited whole delimiter]
  exact further

theorem whole_nil : Whole [] := rfl

/-- A mark in front of an expression: an opening bracket or a sign. -/
def isLeading (c : Char) : Bool := ['[', '(', '\x7b', '-'].contains c

theorem run_leading (leading : isLeading c = true) (text : List Char) :
    run .between (c :: text) = ((run .between text).1, .mark c :: (run .between text).2) := by
  have begins : start c = (.between, [.mark c]) := by
    simp only [isLeading, List.contains_cons, List.contains_nil, Bool.or_false, Bool.or_eq_true,
      beq_iff_eq] at leading
    rcases leading with rfl | rfl | rfl | rfl <;> rfl
  rw [run, step, begins]
  rfl

theorem tokens_leading (leading : isLeading c = true) (text : List Char) :
    tokens (c :: text) = .mark c :: tokens text := by
  rw [tokens, run_leading leading]
  rfl

theorem tokens_blank (text : List Char) : tokens (' ' :: text) = tokens text := rfl

theorem whole_blank {text : List Char} (whole : Whole text) : Whole (' ' :: text) := whole

/-! ## Words -/

/-- Whether the characters of a text belong to the word before them. -/
def continuesAll (word : List Char) : List Char → Bool
  | [] => true
  | c :: text => continues word c && continuesAll (word ++ [c]) text

theorem continuesAll_append (word left right : List Char) :
    continuesAll word (left ++ right) =
      (continuesAll word left && continuesAll (word ++ left) right) := by
  induction left generalizing word with
  | nil => simp [continuesAll]
  | cons c left ih => simp [continuesAll, ih, Bool.and_assoc]

theorem run_word {text : List Char} (all : continuesAll word text = true) :
    run (.word word) text = (.word (word ++ text), []) := by
  induction text generalizing word with
  | nil => rw [List.append_nil, run]
  | cons c text ih =>
      obtain ⟨first, others⟩ := Bool.and_eq_true_iff.1 all
      have stays : step (.word word) c = (.word (word ++ [c]), []) := by rw [step, if_pos first]
      rw [run_cons, stays, ih others, List.append_assoc]
      rfl

theorem continuesAll_of_names {text : List Char} (names : text.all isNameChar = true) :
    continuesAll word text = true := by
  induction text generalizing word with
  | nil => rfl
  | cons c text ih =>
      obtain ⟨first, others⟩ := Bool.and_eq_true_iff.1 names
      rw [continuesAll, continues, first, ih others]
      rfl

/-- A name or number is one token. -/
theorem run_word_start {text : List Char} (name : isNameChar c = true)
    (all : continuesAll [c] text = true) : run .between (c :: text) = (.word (c :: text), []) := by
  have starts : Reader.isAtomStart c = true := by simp [Reader.isAtomStart, name]
  have notMark : isMark c = false := by
    refine Bool.eq_false_iff.2 fun mark => ?_
    rw [(Reader.isMark_stops mark).1.1] at name
    cases name
  have begins : step .between c = (.word [c], []) := by
    simp [step, start, (Reader.isAtomStart_separates starts).1, notMark, name]
  rw [run_cons, begins, run_word all]
  rfl

theorem tokens_word {text : List Char} (name : isNameChar c = true)
    (all : continuesAll [c] text = true) : tokens (c :: text) = [.word (c :: text)] := by
  rw [tokens, run_word_start name all]
  rfl

/-! ## Numbers -/

/-- Whether a character may stand in a number before its exponent. -/
def isMantissaChar (c : Char) : Bool := c.isDigit || c == '.'

theorem head?_concat_isDigit (number : word.head?.any Char.isDigit = true)
    (c : Char) : (word ++ [c]).head?.any Char.isDigit = true := by
  cases word with
  | nil => cases number
  | cons digit word => exact number

/-- Digits and points continue a number. -/
theorem continuesAll_number {text : List Char} (number : word.head?.any Char.isDigit = true)
    (all : text.all isMantissaChar = true) : continuesAll word text = true := by
  induction text generalizing word with
  | nil => rfl
  | cons c text ih =>
      obtain ⟨first, others⟩ := Bool.and_eq_true_iff.1 all
      have next : continues word c = true := by
        rcases Bool.or_eq_true_iff.1 first with digit | point
        · simp [continues, Reader.isNameChar_of_isDigit digit]
        · simp [continues, number, point]
      rw [continuesAll, next, ih (head?_concat_isDigit number c) others]
      rfl

theorem all_isNameChar_natText (number : Nat) : (natText number).all isNameChar = true :=
  List.all_eq_true.2 fun c member =>
    Reader.isNameChar_of_isDigit (List.all_eq_true.1 (Reader.all_isDigit_natText number) c member)

/-- An exponent continues a number: its sign stands behind its letter. -/
theorem continuesAll_exponent (number : word.head?.any Char.isDigit = true)
    (power : Int) : continuesAll word ('e' :: Binary64.exponentText power) = true := by
  have sign : continues (word ++ ['e']) (if power < 0 then '-' else '+') = true := by
    unfold continues
    rw [head?_concat_isDigit number 'e', List.getLast?_concat]
    split <;> rfl
  have letter : continues word 'e' = true := rfl
  have digits := all_isNameChar_natText power.natAbs
  rw [continuesAll, letter, Binary64.exponentText, continuesAll, sign, continuesAll_of_names]
  · rfl
  · split
    · exact digits
    · exact digits

theorem all_isMantissaChar {digits : List Char} (all : digits.all Char.isDigit = true) :
    digits.all isMantissaChar = true :=
  List.all_eq_true.2 fun c member => by simp [isMantissaChar, List.all_eq_true.1 all c member]

/-- The text of a positive decimal is digits with a point among them, or has an exponent. -/
theorem decimalText_shape (decimal : Decimal) :
    ∃ digit front back, Binary64.decimalText decimal = digit :: front ++ back ∧
      digit.isDigit = true ∧ front.all isMantissaChar = true ∧
      (back = [] ∧ '.' ∈ front ∨ ∃ power, back = 'e' :: Binary64.exponentText power) := by
  have all := Reader.all_isDigit_natText decimal.digits
  have given : natText decimal.digits ≠ [] := Nat.toDigits_ne_nil
  unfold Binary64.decimalText
  dsimp only
  generalize natText decimal.digits = digits at *
  have zeros := fun count => all_isMantissaChar (Numeral.all_isDigit_zeros count)
  have point : isMantissaChar '.' = true := rfl
  have zero : isMantissaChar '0' = true := rfl
  obtain ⟨digit, others, rfl⟩ := List.exists_cons_of_ne_nil given
  obtain ⟨first, further⟩ := Bool.and_eq_true_iff.1 all
  have mantissa := all_isMantissaChar further
  have part : isMantissaChar digit = true := by simp [isMantissaChar, first]
  split
  · split
    · refine ⟨'0', _, [], (List.append_nil _).symm, rfl, ?_, Or.inl ⟨rfl, List.mem_cons_self⟩⟩
      simp [point, zeros, part, mantissa]
    · split
      · refine ⟨digit, _, [], (List.append_nil _).symm, first, ?_, Or.inl ⟨rfl, ?_⟩⟩
        · simp [point, zero, zeros, mantissa]
        · simp
      · rename_i above _
        obtain ⟨count, same⟩ : ∃ count : Nat,
            ((digit :: others).length + decimal.exponent).toNat = count + 1 :=
          ⟨((digit :: others).length + decimal.exponent).toNat - 1, by omega⟩
        rw [same, List.take_succ_cons, List.drop_succ_cons]
        refine ⟨digit, _, [], (List.append_nil _).symm, first, ?_, Or.inl ⟨rfl, ?_⟩⟩
        · rw [← List.take_append_drop count others, List.all_append] at mantissa
          simpa [point] using mantissa
        · simp
  · refine ⟨digit, if others.isEmpty then [] else '.' :: others, _, rfl, first, ?_, Or.inr ⟨_, rfl⟩⟩
    split
    · rfl
    · rw [List.all_cons, point, mantissa]
      rfl

/-- The text of a magnitude is one word, and no integer. -/
theorem magnitudeText_word (significand : Nat) (exponent : Int) :
    ∃ digit others, Binary64.magnitudeText significand exponent = digit :: others ∧
      digit.isDigit = true ∧ continuesAll [digit] others = true ∧
      (digit :: others).all Char.isDigit = false := by
  unfold Binary64.magnitudeText
  split
  · exact ⟨'0', ".0".toList, rfl, rfl, rfl, rfl⟩
  · obtain ⟨digit, front, back, same, first, mantissa, ending⟩ :=
      decimalText_shape (Binary64.roundingInterval significand exponent).shortest
    have number : ([digit] : List Char).head?.any Char.isDigit = true := first
    rw [same]
    refine ⟨digit, front ++ back, rfl, first, ?_, ?_⟩
    · rw [continuesAll_append, continuesAll_number number mantissa]
      rcases ending with ⟨rfl, _⟩ | ⟨power, rfl⟩
      · rfl
      · have longer : ([digit] ++ front).head?.any Char.isDigit = true := first
        rw [continuesAll_exponent longer power]
        rfl
    · rw [List.all_eq_false]
      rcases ending with ⟨rfl, point⟩ | ⟨power, rfl⟩
      · exact ⟨'.', by simp [point], by decide⟩
      · exact ⟨'e', by simp, by decide⟩

/-! ## Quoted texts -/

def Inside (quote : Char) (piece : List Char) : Prop :=
  ∀ source, run (.quoted source quote false) piece = (.quoted (source ++ piece) quote false, [])

theorem inside_nil (quote : Char) : Inside quote [] := fun source => by
  rw [List.append_nil, run]

theorem inside_append {left right : List Char} (first : Inside quote left)
    (second : Inside quote right) : Inside quote (left ++ right) := by
  intro source
  rw [run_append, first source, second (source ++ left), List.append_assoc]
  rfl

theorem inside_flatMap {α : Type} {items : List α} {write : α → List Char}
    (each : ∀ item ∈ items, Inside quote (write item)) : Inside quote (items.flatMap write) := by
  induction items with
  | nil => exact inside_nil quote
  | cons item items ih =>
      obtain ⟨first, others⟩ := List.forall_mem_cons.1 each
      rw [List.flatMap_cons]
      exact inside_append first (ih others)

/-- A character that is neither the quotation mark nor a backslash. -/
theorem inside_char (other : c ≠ quote) (plain : c ≠ '\\') : Inside quote [c] := by
  intro source
  have stays : step (.quoted source quote false) c = (.quoted (source ++ [c]) quote false, []) := by
    simp [step, other, plain]
  rw [run_cons, stays]
  rfl

/-- A backslash protects the character behind it. -/
theorem inside_escape (mark : isMark quote = true) (c : Char) : Inside quote ['\\', c] := by
  intro source
  have other : '\\' ≠ quote := by
    rintro rfl
    cases mark
  simp [step, other, run]

theorem inside_hexFixed (mark : isMark quote = true) (width value : Nat) :
    Inside quote (Text.hexFixed width value) := by
  have digits : ∀ digit < 16, isMark (Text.hexChar digit) = false ∧ Text.hexChar digit ≠ '\\' := by
    decide
  induction width generalizing value with
  | zero => exact inside_nil quote
  | succ width ih =>
      obtain ⟨unmarked, plain⟩ := digits (value % 16) (Nat.mod_lt _ (by decide))
      refine inside_append (ih (value / 16)) (inside_char ?_ plain)
      rintro rfl
      rw [unmarked] at mark
      cases mark

theorem inside_escapePoint (mark : isMark quote = true) (point : Nat) :
    Inside quote (Quoted.escapePoint point) := by
  unfold Quoted.escapePoint
  split
  · exact inside_append (inside_escape mark 'x') (inside_hexFixed mark 2 point)
  · split
    · exact inside_append (inside_escape mark 'u') (inside_hexFixed mark 4 point)
    · exact inside_append (inside_escape mark 'U') (inside_hexFixed mark 8 point)

theorem inside_escapeChar (mark : isMark quote = true) (c : Char) :
    Inside quote (Quoted.escapeChar quote c) := by
  unfold Quoted.escapeChar
  split
  · exact inside_escape mark c
  · rename_i ordinary
    simp only [Bool.or_eq_true, beq_iff_eq, not_or] at ordinary
    split
    · exact inside_escape mark 't'
    · split
      · exact inside_escape mark 'n'
      · split
        · exact inside_escape mark 'r'
        · split
          · exact inside_char ordinary.1 ordinary.2
          · exact inside_escapePoint mark c.toNat

theorem inside_escapeByte (mark : isMark quote = true) (byte : UInt8) :
    Inside quote (Quoted.escapeByte quote byte) := by
  unfold Quoted.escapeByte
  dsimp only
  split
  · exact inside_escapeChar mark _
  · exact inside_escapePoint mark _

/-- The quotation mark ends what stands inside. -/
theorem run_closing {body : List Char} (inside : Inside quote body) (source : List Char) :
    run (.quoted source quote false) (body ++ [quote]) =
      (.between, [.quoted (source ++ body ++ [quote])]) := by
  rw [run_append, inside source]
  simp [step, run]

theorem start_mark (mark : isMark quote = true) :
    start quote = (.quoted [quote] quote false, []) := by
  have visible : isBlank quote = false := by
    simp only [isMark, Bool.or_eq_true, beq_iff_eq] at mark
    rcases mark with rfl | rfl <;> rfl
  simp [start, visible, mark]

theorem run_encode (text : List Char) :
    run .between (Quoted.encode text) = (.between, [.quoted (Quoted.encode text)]) := by
  have mark := Quoted.isMark_mark text
  have inside := inside_flatMap fun c (_ : c ∈ text) => inside_escapeChar mark c
  unfold Quoted.encode
  dsimp only
  rw [List.cons_append, run_cons, step, start_mark mark, run_closing inside]
  rfl

theorem run_encodeBytes (data : List UInt8) :
    run .between (Quoted.encodeBytes data) = (.between, [.quoted (Quoted.encodeBytes data)]) := by
  unfold Quoted.encodeBytes
  dsimp only
  generalize found : Quoted.mark (data.map fun byte => Char.ofNat byte.toNat) = quote
  have mark : isMark quote = true := found ▸ Quoted.isMark_mark _
  have inside := inside_flatMap fun byte (_ : byte ∈ data) => inside_escapeByte mark byte
  have letter : step .between 'b' = (.word ['b'], []) := rfl
  have opens : step (.word ['b']) quote = (.quoted ['b', quote] quote false, []) := by
    have ends : continues ['b'] quote = false := by
      have digit : ('b' : Char).isDigit = false := rfl
      simp [continues, (Reader.isMark_stops mark).1.1, digit]
    simp [step, ends, mark]
  rw [List.cons_append, List.cons_append, run_cons, letter, run_cons, opens, run_closing inside]
  rfl

/-! ## Names -/

/-- The name that a token is. A word that starts with a digit is a number. -/
def Token.name? : Token → Option (List Char)
  | .word chars => if chars.head?.any Char.isDigit then none else some chars
  | _ => none

def names (text : List Char) : List (List Char) := (tokens text).filterMap Token.name?

def isConstant (name : List Char) : Bool :=
  ["None".toList, "True".toList, "False".toList].contains name

/-- Whether a text mentions no names but those of constants. -/
def isClosed (text : List Char) : Bool := (names text).all isConstant

/-- A text that leaves no quoted text open and is closed or not. -/
structure Spelled (text : List Char) (closed : Bool) : Prop where
  whole : Whole text
  closed : isClosed text = closed

/-- Texts each of which leaves no quoted text open; together they are closed or not. -/
structure SpelledAll (texts : List (List Char)) (closed : Bool) : Prop where
  whole : ∀ text ∈ texts, Whole text
  closed : texts.all isClosed = closed

namespace Spelled

variable {left right text : List Char} {first second closed : Bool}

theorem delimited (start : Spelled left first) {c : Char} (delimiter : isDelimiter c = true)
    (rest : Spelled right second) : Spelled (left ++ c :: right) (first && second) := by
  refine ⟨whole_delimited start.whole delimiter rest.whole, ?_⟩
  rw [← start.closed, ← rest.closed]
  simp [isClosed, names, tokens_delimited start.whole delimiter, Token.name?]

theorem ended (start : Spelled text closed) {c : Char} (delimiter : isDelimiter c = true) :
    Spelled (text ++ [c]) closed := by
  have empty : Spelled [] true := ⟨whole_nil, rfl⟩
  simpa using start.delimited delimiter empty

theorem leading {c : Char} (leads : isLeading c = true) (rest : Spelled text closed) :
    Spelled (c :: text) closed := by
  refine ⟨by rw [Whole, run_leading leads]; exact rest.whole, ?_⟩
  rw [← rest.closed]
  simp [isClosed, names, tokens_leading leads, Token.name?]

theorem blank (rest : Spelled text closed) : Spelled (' ' :: text) closed :=
  ⟨whole_blank rest.whole, rest.closed⟩

/-- A number mentions no names. -/
theorem number {digit : Char} (isDigit : digit.isDigit = true)
    (all : continuesAll [digit] text = true) : Spelled (digit :: text) true := by
  have name := Reader.isNameChar_of_isDigit isDigit
  refine ⟨by rw [Whole, run_word_start name all]; rfl, ?_⟩
  simp [isClosed, names, tokens_word name all, Token.name?, isDigit]

/-- A quoted text mentions no names. -/
theorem quoted (single : run .between text = (.between, [.quoted text])) : Spelled text true := by
  refine ⟨by rw [Whole, single]; rfl, ?_⟩
  simp [isClosed, names, tokens, single, Mode.pending, Token.name?]

end Spelled

namespace SpelledAll

variable {texts : List (List Char)} {text : List Char} {first closed : Bool}

theorem nil : SpelledAll [] true := ⟨List.forall_mem_nil _, rfl⟩

theorem cons (start : Spelled text first) (rest : SpelledAll texts closed) :
    SpelledAll (text :: texts) (first && closed) := by
  refine ⟨List.forall_mem_cons.2 ⟨start.whole, rest.whole⟩, ?_⟩
  rw [List.all_cons, start.closed, rest.closed]

/-- Commas separate texts. -/
theorem joined (each : SpelledAll texts closed) : Spelled (joined ", ".toList texts) closed := by
  induction texts generalizing closed with
  | nil =>
      obtain rfl := each.closed
      exact ⟨whole_nil, rfl⟩
  | cons text texts ih =>
      obtain ⟨whole, others⟩ := List.forall_mem_cons.1 each.whole
      have here : Spelled text (isClosed text) := ⟨whole, rfl⟩
      rw [← each.closed, List.all_cons]
      cases texts with
      | nil => simpa [BrowserScript.joined] using here
      | cons next texts =>
          rw [joined_cons_cons]
          exact here.delimited rfl (.blank (ih ⟨others, rfl⟩))

theorem bracketed {opening closing : Char} (opens : isLeading opening = true)
    (closes : isDelimiter closing = true) (each : SpelledAll texts closed) :
    Spelled (opening :: BrowserScript.joined ", ".toList texts ++ [closing]) closed :=
  .leading opens (each.joined.ended closes)

end SpelledAll

/-! ## Numbers, days and moments -/

theorem spelled_natText (number : Nat) : Spelled (natText number) true := by
  have all := Reader.all_isDigit_natText number
  cases same : natText number with
  | nil => exact absurd same Nat.toDigits_ne_nil
  | cons digit others =>
      rw [same] at all
      obtain ⟨first, further⟩ := Bool.and_eq_true_iff.1 all
      have number : ([digit] : List Char).head?.any Char.isDigit = true := first
      exact .number first (continuesAll_number number (all_isMantissaChar further))

theorem spelled_intText (number : Int) : Spelled (intText number) true := by
  unfold intText
  split
  · exact .leading rfl (spelled_natText _)
  · exact spelled_natText _

/-- Numbers that are not finite are written as names. -/
theorem spelled_float (number : Binary64) : Spelled number.text number.isFinite := by
  cases number with
  | nan => exact ⟨rfl, by decide⟩
  | infinite negative => cases negative <;> exact ⟨rfl, by decide⟩
  | finite negative significand exponent =>
      obtain ⟨digit, others, same, first, all, _⟩ := magnitudeText_word significand exponent
      have magnitude : Spelled (Binary64.magnitudeText significand exponent) true :=
        same ▸ .number first all
      rw [Binary64.text_finite]
      cases negative with
      | true => exact .leading rfl magnitude
      | false => exact magnitude

def isUnmarked (text : List Char) : Bool := text.all fun c => !isMark c

/-- Days and moments are written without quotation marks. -/
theorem isUnmarked_of_isCalendrical {text : List Char}
    (calendrical : Value.isCalendrical text = true) : isUnmarked text = true := by
  refine List.all_eq_true.2 fun c member => ?_
  have calendar := List.all_eq_true.1 calendrical c member
  cases mark : isMark c with
  | false => rfl
  | true =>
      rcases Bool.or_eq_true_iff.1 mark with same | same <;>
        rw [beq_iff_eq.1 same] at calendar <;> cases calendar

/-- A text without quotation marks opens no quoted text. -/
theorem whole_of_isUnmarked {text : List Char} (unmarked : isUnmarked text = true) : Whole text := by
  have starts : ∀ c, isMark c = false → (start c).1.isQuoted = false := by
    intro c plain
    unfold start
    split
    · rfl
    · rw [plain, if_neg Bool.false_ne_true]
      split <;> rfl
  have run_plain : ∀ mode : Mode, mode.isQuoted = false → (run mode text).1.isQuoted = false := by
    induction text with
    | nil => exact fun mode outside => outside
    | cons c text ih =>
        obtain ⟨first, others⟩ := Bool.and_eq_true_iff.1 unmarked
        have plain : isMark c = false := by simpa using first
        intro mode outside
        have next : (step mode c).1.isQuoted = false := by
          cases mode with
          | between => exact starts c plain
          | word chars =>
              rw [step, plain, if_neg Bool.false_ne_true]
              split
              · rfl
              · exact starts c plain
          | quoted => cases outside
        exact ih others (step mode c).1 next
  exact run_plain .between rfl

/-- What comes from the calendar mentions its module. -/
theorem spelled_calendar {text : List Char} (rest : List Char)
    (same : text = "datetime.".toList ++ rest) (calendrical : Value.isCalendrical text = true) :
    Spelled text false := by
  refine ⟨whole_of_isUnmarked (isUnmarked_of_isCalendrical calendrical), ?_⟩
  have starts : run .between "datetime.".toList =
      (.between, [.word "datetime".toList, .mark '.']) := rfl
  have unknown : isConstant "datetime".toList = false := rfl
  have name : Token.name? (.word "datetime".toList) = some "datetime".toList := rfl
  rw [same, isClosed, names, tokens, run_append, starts]
  simp only [List.cons_append, List.filterMap_cons, name, List.all_cons, unknown, Bool.false_and]

theorem spelled_day (day : Day) : Spelled (Value.dayLiteral day) false :=
  spelled_calendar ("date(".toList ++
    joined ", ".toList ([day.year, day.month, day.day].map natText) ++ [')']) rfl
    (Value.isCalendrical_day day)

theorem spelled_moment (moment : Moment) : Spelled (Value.momentLiteral moment) false :=
  spelled_calendar ("datetime(".toList ++ _) rfl (Value.isCalendrical_moment moment)

end Expression

namespace Value

open Expression

mutual

/-- Whether a value holds no days, moments, empty sets and numbers that are not finite. -/
def isClosed : Value → Bool
  | .float number => number.isFinite
  | .list items => areClosed items
  | .tuple items => areClosed items
  | .map entries => entriesClosed entries
  | .set items => !items.isEmpty && areClosed items
  | .date _ => false
  | .moment _ => false
  | _ => true

def areClosed : List Value → Bool
  | [] => true
  | item :: items => isClosed item && areClosed items

def entriesClosed : List (Value × Value) → Bool
  | [] => true
  | (key, value) :: entries => (isClosed key && isClosed value) && entriesClosed entries

end

mutual

/-- The literal of a value mentions no names but those of constants exactly if the value is
closed. -/
theorem literal_spelled (value : Value) : Returns (Spelled · value.isClosed) value.literal := by
  cases value with
  | null => exact .ok ⟨rfl, by decide⟩
  | bool value => cases value <;> exact .ok ⟨rfl, by decide⟩
  | int value => exact fun text written => literal_int written ▸ spelled_intText value
  | float value => exact .ok (spelled_float value)
  | str text => exact .ok (.quoted (run_encode text.toList))
  | bytes data => exact .ok (.quoted (run_encodeBytes data))
  | list items =>
      exact (literalItems_spelled items).bind fun parts each => .pure (each.bracketed rfl rfl)
  | tuple items =>
      refine (literalItems_spelled items).bind fun parts each => ?_
      match parts with
      | [] => exact .pure (each.bracketed rfl rfl)
      | [part] =>
          have single : Spelled part (areClosed items) := each.joined
          have comma : Spelled (part ++ [',', ')']) (areClosed items) := by
            rw [List.append_cons]
            exact (single.ended rfl).ended rfl
          exact .pure (.leading rfl comma)
      | _ :: _ :: _ => exact .pure (each.bracketed rfl rfl)
  | map entries =>
      exact (literalEntries_spelled entries).bind fun parts each => .pure (each.bracketed rfl rfl)
  | set items =>
      cases items with
      | nil => exact .ok ⟨rfl, by decide⟩
      | cons item items =>
          exact (literalItems_spelled (item :: items)).bind fun parts each =>
            .pure (each.bracketed rfl rfl)
  | date day => exact .ok (spelled_day day)
  | moment time => exact .ok (spelled_moment time)

theorem literalItems_spelled (items : List Value) :
    Returns (SpelledAll · (areClosed items)) (literalItems items) := by
  cases items with
  | nil => exact .ok .nil
  | cons item items =>
      exact (literal_spelled item).bind fun part here =>
        (literalItems_spelled items).bind fun parts each => .pure (.cons here each)

theorem literalEntries_spelled (entries : List (Value × Value)) :
    Returns (SpelledAll · (entriesClosed entries)) (literalEntries entries) := by
  cases entries with
  | nil => exact .ok .nil
  | cons entry entries =>
      obtain ⟨key, value⟩ := entry
      refine (literal_spelled key).bind fun left keyed => ?_
      refine (literal_spelled value).bind fun right valued => ?_
      refine (literalEntries_spelled entries).bind fun parts each => ?_
      exact .pure (.cons (keyed.delimited rfl (.blank valued)) each)

end

end Value

end BrowserScript
