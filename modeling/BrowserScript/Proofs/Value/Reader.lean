import BrowserScript.Proofs.Value.Literal
import BrowserScript.Proofs.Value.Quoted

/-!
# Reading literals

The literals of programs: constants, decimal integers, quoted texts and bytes, lists, tuples and
mappings, with blanks between their tokens and a comma allowed after the last item. A bracketed
value without a comma is that value and no tuple. A key that is written twice keeps its place and
takes the later value. What has another form is refused.

What follows a value is empty or starts with a comma, a colon or a closing bracket, so no longer
reading of the value is possible; no literal starts with one of these or with a blank.
-/

namespace BrowserScript.Reader

variable {close c : Char} {text rest word : List Char} {rounds : Nat} {value : Value}

def isBlank (c : Char) : Bool := c == ' ' || c == '\t'

def skipBlanks (text : List Char) : List Char := text.dropWhile isBlank

def isNameChar (c : Char) : Bool := c.isAlphanum || c == '_' || 0x80 ≤ c.toNat

/-- The number of decimal digits without needless zeros. -/
def natural? (digits : List Char) : Option Nat :=
  if digits.isEmpty || !digits.all Char.isDigit || integerDigitLimit < digits.length then none
  else if digits.head? == some '0' && digits.length != 1 then none
  else some (Nat.ofDigitChars 10 digits 0)

/-- The value of a constant or an integer without a sign. -/
def word? (word : List Char) : Option Value :=
  if word == "None".toList then some .null
  else if word == "True".toList then some (.bool true)
  else if word == "False".toList then some (.bool false)
  else (natural? word).map fun (number : Nat) => .int number

def text? (source : List Char) : Option (Value × List Char) := do
  let (points, rest) ← Quoted.points? .text source
  let text ← Quoted.characters? points
  return (.str (String.ofList text), rest)

/-- Quoted bytes, after the letter that marks them, and what follows them. -/
def bytes? (source : List Char) : Option (Value × List Char) := do
  let (points, rest) ← Quoted.points? .bytes source
  let data ← Quoted.octets? points
  return (.bytes data, rest)

/-- A name or number up to its end, and what follows it. What follows a point would belong to it. -/
def wordAt? (source : List Char) : Option (List Char × List Char) :=
  let word := source.takeWhile isNameChar
  let rest := source.drop word.length
  if rest.head? == some '.' then none else some (word, rest)

def atom? (source : List Char) : Option (Value × List Char) :=
  match source with
  | '-' :: unsigned => do
      let (word, rest) ← wordAt? unsigned
      let number ← natural? word
      return (.int (-number), rest)
  | source => do
      let (word, rest) ← wordAt? source
      if word.isEmpty || word == ['u'] || word == ['U'] then text? rest
      else if word == ['b'] || word == ['B'] then bytes? rest
      else (word? word).map fun value => (value, rest)

/-- The items up to a closing bracket, whether a comma follows the first one, and what follows the
bracket. -/
structure Items where
  items : List Value
  comma : Bool
  rest : List Char

/-- What stands in round brackets: a tuple if there is a comma or nothing. -/
def Items.parenthesized (found : Items) : Value :=
  match found.items, found.comma with
  | [item], false => item
  | items, _ => .tuple items

mutual

/-- A value and what follows it. Every round takes a character. -/
def value? : Nat → List Char → Option (Value × List Char)
  | 0, _ => none
  | rounds + 1, source =>
      match source with
      | '[' :: inner => do
          let found ← items? rounds ']' (skipBlanks inner)
          return (.list found.items, found.rest)
      | '(' :: inner => do
          let found ← items? rounds ')' (skipBlanks inner)
          return (found.parenthesized, found.rest)
      | '\x7b' :: inner => do
          let (pairs, rest) ← entries? rounds (skipBlanks inner)
          if pairs.all (·.1.isKey) then return (.map (Entries.ofPairs pairs), rest) else none
      | source => atom? source

/-- The items of a list or tuple from the first one on. -/
def items? : Nat → Char → List Char → Option Items
  | 0, _, _ => none
  | rounds + 1, close, source =>
      if source.head? == some close then some ⟨[], false, source.tail⟩
      else do
        let (item, after) ← value? rounds source
        let next := skipBlanks after
        if next.head? == some close then return ⟨[item], false, next.tail⟩
        else if next.head? == some ',' then
          let others ← items? rounds close (skipBlanks next.tail)
          return ⟨item :: others.items, true, others.rest⟩
        else none

/-- The entries of a mapping from the first one on, and what follows its closing brace. -/
def entries? : Nat → List Char → Option (List (Value × Value) × List Char)
  | 0, _ => none
  | rounds + 1, source =>
      if source.head? == some '\x7d' then some ([], source.tail)
      else do
        let (key, after) ← value? rounds source
        let colon := skipBlanks after
        if colon.head? == some ':' then
          let (value, after) ← value? rounds (skipBlanks colon.tail)
          let next := skipBlanks after
          if next.head? == some '\x7d' then return ([(key, value)], next.tail)
          else if next.head? == some ',' then
            let (others, rest) ← entries? rounds (skipBlanks next.tail)
            return ((key, value) :: others, rest)
          else none
        else none

end

def read? (source : List Char) : Option Value := do
  let (value, rest) ← value? (source.length + 1) (skipBlanks source)
  if (skipBlanks rest).isEmpty then return value else none

example : read? "( 1 , )".toList = some (.tuple [.int 1]) := by rfl

example : read? "(1)".toList = some (.int 1) := by rfl

/-- Whether a character ends a value: a comma, a colon or a closing bracket. -/
def isDelimiter (c : Char) : Bool := [',', ':', ']', ')', '\x7d'].contains c

/-- What follows a value inside another one, or at the end of the text. -/
def Ends (rest : List Char) : Prop := ∀ c ∈ rest.head?, isDelimiter c = true

theorem ends_nil : Ends [] := by
  intro c found
  cases found

theorem ends_cons (delimiter : isDelimiter c = true) (rest : List Char) : Ends (c :: rest) := by
  intro other found
  cases found
  exact delimiter

/-- A delimiter extends no literal. -/
theorem isDelimiter_separates (delimiter : isDelimiter c = true) :
    Quoted.isMark c = false ∧ isNameChar c = false ∧ c ≠ '.' ∧ isBlank c = false := by
  simp only [isDelimiter, List.contains_cons, List.contains_nil, Bool.or_false, Bool.or_eq_true,
    beq_iff_eq] at delimiter
  rcases delimiter with rfl | rfl | rfl | rfl | rfl <;> decide

def Starts (text : List Char) : Prop :=
  ∃ c tail, text = c :: tail ∧ isBlank c = false ∧ isDelimiter c = false

theorem skipBlanks_cons (visible : isBlank c = false) (rest : List Char) :
    skipBlanks (c :: rest) = c :: rest := by
  rw [skipBlanks, List.dropWhile_cons, visible]
  rfl

theorem Starts.skipBlanks (starts : Starts text) (rest : List Char) :
    skipBlanks (text ++ rest) = text ++ rest := by
  obtain ⟨c, tail, rfl, visible, _⟩ := starts
  exact skipBlanks_cons visible (tail ++ rest)

theorem Starts.append (starts : Starts text) (rest : List Char) : Starts (text ++ rest) := by
  obtain ⟨c, tail, rfl, visible, other⟩ := starts
  exact ⟨c, tail ++ rest, rfl, visible, other⟩

theorem Starts.head?_ne (starts : Starts text)
    (closing : isDelimiter close = true) (rest : List Char) :
    ((text ++ rest).head? == some close) = false := by
  obtain ⟨c, tail, rfl, _, other⟩ := starts
  have different : c ≠ close := by
    rintro rfl
    rw [other] at closing
    cases closing
  simp [different]

/-- A name or number is read up to a character that does not continue it. -/
theorem wordAt?_append (names : word.all isNameChar = true)
    (stops : ∀ c ∈ rest.head?, isNameChar c = false ∧ c ≠ '.') :
    wordAt? (word ++ rest) = some (word, rest) := by
  have none : rest.takeWhile isNameChar = [] := by
    cases rest with
    | nil => rfl
    | cons c rest => rw [List.takeWhile_cons, (stops c rfl).1]; rfl
  have notPoint : (rest.head? == some '.') = false := by
    cases rest with
    | nil => rfl
    | cons c rest => simp [(stops c rfl).2]
  simp only [wordAt?, List.takeWhile_append_of_pos (List.all_eq_true.1 names), none,
    List.append_nil, List.drop_left, notPoint, Bool.false_eq_true, if_false]

theorem Ends.stops (ends : Ends rest) : ∀ c ∈ rest.head?, isNameChar c = false ∧ c ≠ '.' := by
  intro c found
  obtain ⟨_, name, point, _⟩ := isDelimiter_separates (ends c found)
  exact ⟨name, point⟩

theorem Ends.closed (ends : Ends rest) : ∀ c ∈ rest.head?, Quoted.isMark c = false :=
  fun c found => (isDelimiter_separates (ends c found)).1

/-- Only the number zero is written with a zero in front. -/
theorem head?_natText {number : Nat} (positive : 0 < number) :
    (natText number).head? ≠ some '0' := by
  induction number using Nat.strongRecOn with
  | ind number ih =>
      unfold natText at ih ⊢
      by_cases small : number < 10
      · rw [Nat.toDigits_of_lt_base small]
        have digits : ∀ digit < 10, 0 < digit → [digit.digitChar].head? ≠ some '0' := by decide
        exact digits number small positive
      · have shorter := ih (number / 10) (by omega) (by omega)
        rw [Nat.toDigits_of_base_le (by decide) (Nat.not_lt.1 small)]
        cases leading : Nat.toDigits 10 (number / 10) with
        | nil => exact absurd leading Nat.toDigits_ne_nil
        | cons digit digits =>
            rw [leading] at shorter
            exact shorter

theorem all_isDigit_natText (number : Nat) : (natText number).all Char.isDigit = true :=
  List.all_eq_true.2 fun _ member =>
    Nat.isDigit_of_mem_toDigits (by decide) (by decide) member

theorem natural?_natText {number : Nat} (short : (natText number).length ≤ integerDigitLimit) :
    natural? (natText number) = some number := by
  have nonempty : (natText number).isEmpty = false :=
    List.isEmpty_eq_false_iff.2 Nat.toDigits_ne_nil
  have plain : ((natText number).head? == some '0' && (natText number).length != 1) = false := by
    by_cases zero : number = 0
    · subst zero
      decide
    · have other := head?_natText (Nat.pos_of_ne_zero zero)
      simp [other]
  unfold natural?
  rw [nonempty, all_isDigit_natText, plain, decide_eq_false (Nat.not_lt.2 short)]
  exact congrArg some Nat.ofDigitChars_ten_toDigits

theorem isNameChar_of_isDigit (digit : c.isDigit = true) : isNameChar c = true := by
  simp [isNameChar, Char.isAlphanum, digit]

/-- What does not start with a sign is a word, or a quoted literal after its letter. -/
theorem atom?_unsigned {source : List Char} (unsigned : source.head? ≠ some '-')
    (split : wordAt? source = some (word, rest)) :
    atom? source =
      if word.isEmpty || word == ['u'] || word == ['U'] then text? rest
      else if word == ['b'] || word == ['B'] then bytes? rest
      else (word? word).map fun value => (value, rest) := by
  unfold atom?
  split
  · exact absurd rfl unsigned
  · rw [split]
    rfl

/-- A constant or number is read by itself. -/
theorem atom?_word (names : word.all isNameChar = true) (known : word? word = some value)
    (ends : Ends rest) : atom? (word ++ rest) = some (value, rest) := by
  have letters : ∀ letter, word? letter = none → (word == letter) = false := by
    intro letter unknown
    rw [beq_eq_false_iff_ne]
    rintro rfl
    rw [unknown] at known
    cases known
  have nonempty : word.isEmpty = false := by
    rw [List.isEmpty_eq_false_iff]
    rintro rfl
    cases known
  have unsigned : (word ++ rest).head? ≠ some '-' := by
    cases word with
    | nil => cases nonempty
    | cons c word =>
        rintro same
        cases same
        exact absurd (List.all_eq_true.1 names '-' List.mem_cons_self) (by decide)
  rw [atom?_unsigned unsigned (wordAt?_append names ends.stops), nonempty, letters ['u'] rfl,
    letters ['U'] rfl, letters ['b'] rfl, letters ['B'] rfl, known]
  rfl

theorem word?_natText (number : Nat) :
    word? (natText number) =
      (natural? (natText number)).map fun (number : Nat) => .int number := by
  have other : ∀ word : List Char, word.all Char.isDigit = false →
      (natText number == word) = false := by
    intro word letters
    rw [beq_eq_false_iff_ne]
    rintro rfl
    rw [all_isDigit_natText] at letters
    cases letters
  unfold word?
  rw [other "None".toList (by decide), other "True".toList (by decide),
    other "False".toList (by decide)]
  rfl

theorem atom?_integer {value : Int} (short : Value.isShort value = true)
    (ends : Ends rest) : atom? (intText value ++ rest) = some (.int value, rest) := by
  have number := natural?_natText (of_decide_eq_true short)
  have names : (natText value.natAbs).all isNameChar = true :=
    List.all_eq_true.2 fun c member =>
      isNameChar_of_isDigit (List.all_eq_true.1 (all_isDigit_natText _) c member)
  unfold intText
  split
  · rename_i negative
    have same : -(value.natAbs : Int) = value := by omega
    rw [List.cons_append, atom?, wordAt?_append names ends.stops]
    simp only [Option.bind_eq_bind, Option.bind_some, number]
    rw [same]
    rfl
  · rename_i positive
    have same : (value.natAbs : Int) = value := by omega
    refine atom?_word names ?_ ends
    rw [word?_natText, number, Option.map_some, same]

/-- A quotation mark ends a word and is no sign. -/
theorem isMark_stops (mark : Quoted.isMark c = true) :
    (isNameChar c = false ∧ c ≠ '.') ∧ c ≠ '-' := by
  simp only [Quoted.isMark, Bool.or_eq_true, beq_iff_eq] at mark
  rcases mark with rfl | rfl <;> decide

/-- A quoted literal is read after its letter. -/
theorem wordAt?_mark (names : word.all isNameChar = true) {quote : Char}
    (mark : Quoted.isMark quote = true) (rest : List Char) :
    wordAt? (word ++ quote :: rest) = some (word, quote :: rest) := by
  refine wordAt?_append names ?_
  intro c found
  cases found
  exact (isMark_stops mark).1

theorem atom?_text (text : String) (ends : Ends rest) :
    atom? (Quoted.encode text.toList ++ rest) = some (.str text, rest) := by
  have mark := Quoted.isMark_mark text.toList
  have unsigned : (Quoted.encode text.toList ++ rest).head? ≠ some '-' := by
    intro same
    exact (isMark_stops mark).2 (Option.some.inj same)
  have read := Quoted.points?_encode text.toList ends.closed
  have split := wordAt?_mark List.all_nil mark
    (text.toList.flatMap (Quoted.escapeChar (Quoted.mark text.toList)) ++
      [Quoted.mark text.toList] ++ rest)
  rw [atom?_unsigned unsigned split]
  change text? (Quoted.encode text.toList ++ rest) = _
  simp [text?, read, Quoted.characters?_points]

theorem atom?_bytes (data : List UInt8) (ends : Ends rest) :
    atom? (Quoted.encodeBytes data ++ rest) = some (.bytes data, rest) := by
  have mark := Quoted.isMark_mark (data.map fun byte => Char.ofNat byte.toNat)
  have unsigned : (Quoted.encodeBytes data ++ rest).head? ≠ some '-' := by
    intro same
    exact absurd (Option.some.inj same) (by decide)
  have read := Quoted.points?_encodeBytes data ends.closed
  have letter : ['b'].all isNameChar = true := rfl
  have split := wordAt?_mark letter mark
    ((Quoted.encodeBytes data).tail.tail ++ rest)
  rw [atom?_unsigned unsigned split]
  change bytes? ((Quoted.encodeBytes data).tail ++ rest) = _
  simp [bytes?, read, Quoted.octets?_points]

def isOpening (c : Char) : Bool := ['[', '(', '\x7b'].contains c

def isAtomStart (c : Char) : Bool := isNameChar c || Quoted.isMark c || c == '-'

theorem isAtomStart_separates (start : isAtomStart c = true) :
    isBlank c = false ∧ isDelimiter c = false ∧ isOpening c = false := by
  have others : ∀ other ∈ [' ', '\t', ',', ':', ']', ')', '\x7d', '[', '(', '\x7b'], c ≠ other := by
    rintro other member rfl
    simp only [List.mem_cons, List.not_mem_nil, or_false] at member
    rcases member with rfl | rfl | rfl | rfl | rfl | rfl | rfl | rfl | rfl | rfl <;> cases start
  simp only [List.forall_mem_cons] at others
  simp [isBlank, isDelimiter, isOpening, others]

theorem isAtomStart_mark (text : List Char) : isAtomStart (Quoted.mark text) = true := by
  simp [isAtomStart, Quoted.isMark_mark text]

theorem starts_of_isAtomStart (start : isAtomStart c = true) (tail : List Char) :
    Starts (c :: tail) :=
  ⟨c, tail, rfl, (isAtomStart_separates start).1, (isAtomStart_separates start).2.1⟩

theorem value?_atom (start : isAtomStart c = true) (tail : List Char)
    (enough : 0 < rounds) : value? rounds (c :: tail) = atom? (c :: tail) := by
  have closed := (isAtomStart_separates start).2.2
  obtain ⟨rounds, rfl⟩ := Nat.exists_eq_succ_of_ne_zero (Nat.ne_of_gt enough)
  unfold value?
  split
  · rename_i same
    cases same
    cases closed
  · rename_i same
    cases same
    cases closed
  · rename_i same
    cases same
    cases closed
  · rfl

theorem intText_start (value : Int) : ∃ c tail, intText value = c :: tail ∧ isAtomStart c = true := by
  unfold intText
  split
  · exact ⟨'-', _, rfl, rfl⟩
  · cases digits : natText value.natAbs with
    | nil => exact absurd digits Nat.toDigits_ne_nil
    | cons c tail =>
        have all := all_isDigit_natText value.natAbs
        rw [digits, List.all_cons, Bool.and_eq_true_iff] at all
        refine ⟨c, tail, rfl, ?_⟩
        simp [isAtomStart, isNameChar_of_isDigit all.1]

/-- The literal of a value without parts is read as that value. -/
theorem value?_of_atom? (read : atom? (text ++ rest) = some (value, rest))
    (start : ∃ c tail, text = c :: tail ∧ isAtomStart c = true)
    (enough : text.length < rounds) : value? rounds (text ++ rest) = some (value, rest) := by
  obtain ⟨c, tail, rfl, start⟩ := start
  rw [List.cons_append, value?_atom start _ (Nat.lt_of_le_of_lt (Nat.zero_le _) enough)]
  exact read

theorem items?_close (close : Char) (rest : List Char) (enough : 0 < rounds) :
    items? rounds close (close :: rest) = some ⟨[], false, rest⟩ := by
  obtain ⟨rounds, rfl⟩ := Nat.exists_eq_succ_of_ne_zero (Nat.ne_of_gt enough)
  simp [items?]

/-- An item before the closing bracket is the last one. -/
theorem items?_last {part : List Char} {item : Value}
    (starts : Starts part) (closing : isDelimiter close = true)
    (read : value? rounds (part ++ close :: rest) = some (item, close :: rest)) :
    items? (rounds + 1) close (part ++ close :: rest) = some ⟨[item], false, rest⟩ := by
  have visible := (isDelimiter_separates closing).2.2.2
  rw [items?, starts.head?_ne closing, if_neg Bool.false_ne_true, read]
  simp [skipBlanks_cons visible]

/-- An item before a comma is followed by the items behind the comma. -/
theorem items?_more {part tail : List Char} {item : Value} {others : Items} (starts : Starts part)
    (closing : isDelimiter close = true) (noComma : close ≠ ',')
    (read : value? rounds (part ++ ',' :: tail) = some (item, ',' :: tail))
    (further : items? rounds close (skipBlanks tail) = some others) :
    items? (rounds + 1) close (part ++ ',' :: tail) =
      some ⟨item :: others.items, true, others.rest⟩ := by
  have visible : skipBlanks (',' :: tail) = ',' :: tail := skipBlanks_cons rfl tail
  rw [items?, starts.head?_ne closing, if_neg Bool.false_ne_true, read]
  simp [visible, Ne.symm noComma, further]

/-- An entry before the closing brace is the last one. -/
theorem entries?_last {left right : List Char} {key : Value}
    (starts : Starts left) (startsValue : Starts right)
    (readKey : value? rounds (left ++ ':' :: ' ' :: (right ++ '\x7d' :: rest)) =
      some (key, ':' :: ' ' :: (right ++ '\x7d' :: rest)))
    (readValue : value? rounds (right ++ '\x7d' :: rest) = some (value, '\x7d' :: rest)) :
    entries? (rounds + 1) (left ++ ':' :: ' ' :: (right ++ '\x7d' :: rest)) =
      some ([(key, value)], rest) := by
  have colon : ∀ tail, skipBlanks (':' :: tail) = ':' :: tail := skipBlanks_cons rfl
  have brace : skipBlanks ('\x7d' :: rest) = '\x7d' :: rest := skipBlanks_cons rfl rest
  have blank : ∀ tail, skipBlanks (' ' :: tail) = skipBlanks tail := fun _ => rfl
  rw [entries?, starts.head?_ne rfl, if_neg Bool.false_ne_true, readKey]
  simp [colon, blank, startsValue.skipBlanks, readValue, brace]

/-- An entry before a comma is followed by the entries behind the comma. -/
theorem entries?_more {left right tail : List Char} {key : Value}
    {others : List (Value × Value)} (starts : Starts left) (startsValue : Starts right)
    (readKey : value? rounds (left ++ ':' :: ' ' :: (right ++ ',' :: tail)) =
      some (key, ':' :: ' ' :: (right ++ ',' :: tail)))
    (readValue : value? rounds (right ++ ',' :: tail) = some (value, ',' :: tail))
    (further : entries? rounds (skipBlanks tail) = some (others, rest)) :
    entries? (rounds + 1) (left ++ ':' :: ' ' :: (right ++ ',' :: tail)) =
      some ((key, value) :: others, rest) := by
  have colon : ∀ tail, skipBlanks (':' :: tail) = ':' :: tail := skipBlanks_cons rfl
  have comma : skipBlanks (',' :: tail) = ',' :: tail := skipBlanks_cons rfl tail
  have blank : ∀ tail, skipBlanks (' ' :: tail) = skipBlanks tail := fun _ => rfl
  rw [entries?, starts.head?_ne rfl, if_neg Bool.false_ne_true, readKey]
  simp [colon, blank, startsValue.skipBlanks, readValue, comma, further]

end BrowserScript.Reader
