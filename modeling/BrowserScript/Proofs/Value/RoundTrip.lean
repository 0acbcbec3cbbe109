import BrowserScript.Proofs.Value.Reader

/-!
# Literals read back

The literal of a plain value is read as that value and no other, at whatever depth the value stands
and whatever follows it.
-/

namespace BrowserScript

namespace Value

mutual

/-- Whether a value consists of nulls, truth values, integers that can be written, texts, bytes,
lists, tuples and mappings only. The keys of a mapping can be keys and differ from each other. -/
def isPlain : Value → Bool
  | .null => true
  | .bool _ => true
  | .int value => isShort value
  | .str _ => true
  | .bytes _ => true
  | .list items => arePlain items
  | .tuple items => arePlain items
  | .map entries =>
      entriesPlain entries
        && decide (entries.Pairwise fun earlier later => earlier.1.equals later.1 = false)
  | _ => false

def arePlain : List Value → Bool
  | [] => true
  | item :: items => isPlain item && arePlain items

def entriesPlain : List (Value × Value) → Bool
  | [] => true
  | (key, value) :: entries => key.isKey && isPlain key && isPlain value && entriesPlain entries

end

mutual

/-- A plain value can be written. -/
theorem isWritable_of_isPlain {value : Value} (plain : value.isPlain = true) :
    value.isWritable = true := by
  cases value with
  | int value => exact plain
  | list items => exact areWritable_of_arePlain plain
  | tuple items => exact areWritable_of_arePlain plain
  | map entries => exact entriesWritable_of_entriesPlain (Bool.and_eq_true_iff.1 plain).1
  | set items => cases plain
  | _ => rfl

theorem areWritable_of_arePlain {items : List Value} (plain : arePlain items = true) :
    areWritable items = true := by
  cases items with
  | nil => rfl
  | cons item items =>
      obtain ⟨first, others⟩ := Bool.and_eq_true_iff.1 plain
      exact Bool.and_eq_true_iff.2 ⟨isWritable_of_isPlain first, areWritable_of_arePlain others⟩

theorem entriesWritable_of_entriesPlain {entries : List (Value × Value)}
    (plain : entriesPlain entries = true) : entriesWritable entries = true := by
  cases entries with
  | nil => rfl
  | cons entry entries =>
      simp only [entriesPlain, Bool.and_eq_true] at plain
      simp only [entriesWritable, Bool.and_eq_true]
      exact ⟨⟨isWritable_of_isPlain plain.1.1.2, isWritable_of_isPlain plain.1.2⟩,
        entriesWritable_of_entriesPlain plain.2⟩

end

end Value

/-- Pairs with different keys are stored as they are. -/
theorem Entries.ofPairs_eq {pairs : List (Value × Value)}
    (distinct : pairs.Pairwise fun earlier later => earlier.1.equals later.1 = false) :
    Entries.ofPairs pairs = pairs := by
  -- Each pair is put behind those that are stored already, so the induction is over these.
  have run : ∀ (pairs stored : List (Value × Value)),
      (stored ++ pairs).Pairwise (fun earlier later => earlier.1.equals later.1 = false) →
      pairs.foldl (fun entries pair => Entries.put entries pair.1 pair.2) stored =
        stored ++ pairs := by
    intro pairs
    induction pairs with
    | nil =>
        intro stored _
        rw [List.append_nil]
        rfl
    | cons pair pairs ih =>
        intro stored distinct
        have absent : stored.any (fun entry => entry.1.equals pair.1) = false := by
          rw [List.any_eq_false]
          intro entry member
          rw [(List.pairwise_append.1 distinct).2.2 entry member pair List.mem_cons_self]
          exact Bool.false_ne_true
        have put : Entries.put stored pair.1 pair.2 = stored ++ [pair] := by
          rw [Entries.put, absent, if_neg Bool.false_ne_true]
        rw [List.foldl_cons, put, ih (stored ++ [pair])]
        · rw [List.append_assoc, List.singleton_append]
        · rw [List.append_assoc, List.singleton_append]
          exact distinct
  exact run pairs [] distinct

theorem joined_cons (separator part : List Char) {parts : List (List Char)} (more : parts ≠ []) :
    joined separator (part :: parts) = part ++ (separator ++ joined separator parts) := by
  rw [joined, List.append_assoc]
  exact more

theorem joined_cons_cons (part next : List Char) (parts : List (List Char)) :
    joined ", ".toList (part :: next :: parts) =
      part ++ ',' :: ' ' :: joined ", ".toList (next :: parts) :=
  joined_cons _ part (List.cons_ne_nil next parts)

namespace Value

variable {text : List Char} {items : List Value}

theorem literalItems_cons {item : Value} {parts : List (List Char)}
    (written : literalItems (item :: items) = .ok parts) :
    ∃ part others, item.literal = .ok part ∧ literalItems items = .ok others ∧
      parts = part :: others := by
  rw [literalItems] at written
  obtain ⟨part, first, written⟩ := bind_eq_ok written
  obtain ⟨others, further, written⟩ := bind_eq_ok written
  cases written
  exact ⟨part, others, first, further, rfl⟩

theorem literalEntries_cons {key value : Value} {entries : List (Value × Value)}
    {parts : List (List Char)} (written : literalEntries ((key, value) :: entries) = .ok parts) :
    ∃ left right others, key.literal = .ok left ∧ value.literal = .ok right ∧
      literalEntries entries = .ok others ∧ parts = (left ++ ':' :: ' ' :: right) :: others := by
  rw [literalEntries] at written
  obtain ⟨left, first, written⟩ := bind_eq_ok written
  obtain ⟨right, second, written⟩ := bind_eq_ok written
  obtain ⟨others, further, written⟩ := bind_eq_ok written
  cases written
  exact ⟨left, right, others, first, second, further, rfl⟩

theorem literal_int {value : Int} (written : (int value).literal = .ok text) :
    text = intText value := by
  simp only [literal, integerText] at written
  split at written
  · cases written
  · cases written
    rfl

theorem literal_list (written : (list items).literal = .ok text) :
    ∃ parts, literalItems items = .ok parts ∧ text = '[' :: joined ", ".toList parts ++ [']'] := by
  rw [literal] at written
  obtain ⟨parts, inner, written⟩ := bind_eq_ok written
  cases written
  exact ⟨parts, inner, rfl⟩

theorem literal_map {entries : List (Value × Value)} (written : (map entries).literal = .ok text) :
    ∃ parts, literalEntries entries = .ok parts ∧
      text = '\x7b' :: joined ", ".toList parts ++ ['\x7d'] := by
  rw [literal] at written
  obtain ⟨parts, inner, written⟩ := bind_eq_ok written
  cases written
  exact ⟨parts, inner, rfl⟩

/-- A tuple of one item has a comma behind it. -/
theorem literal_tuple (written : (tuple items).literal = .ok text) :
    ∃ parts, literalItems items = .ok parts ∧
      text = '(' :: (match parts with
        | [part] => part ++ [',']
        | _ => joined ", ".toList parts) ++ [')'] := by
  rw [literal] at written
  obtain ⟨parts, inner, written⟩ := bind_eq_ok written
  refine ⟨parts, inner, ?_⟩
  match parts with
  | [] =>
      cases written
      rfl
  | [part] =>
      cases written
      simp
  | first :: second :: parts =>
      cases written
      rfl

/-- The literal of a plain value starts neither with a blank nor with a delimiter. -/
theorem literal_starts {value : Value} (plain : value.isPlain = true)
    (written : value.literal = .ok text) : Reader.Starts text := by
  cases value with
  | null =>
      cases written
      exact Reader.starts_of_isAtomStart rfl _
  | bool value =>
      cases value <;> cases written <;> exact Reader.starts_of_isAtomStart rfl _
  | int value =>
      obtain ⟨c, tail, same, start⟩ := Reader.intText_start value
      rw [literal_int written, same]
      exact Reader.starts_of_isAtomStart start tail
  | str text =>
      cases written
      exact Reader.starts_of_isAtomStart (Reader.isAtomStart_mark text.toList) _
  | bytes data =>
      cases written
      exact Reader.starts_of_isAtomStart rfl _
  | list items =>
      obtain ⟨parts, _, rfl⟩ := literal_list written
      exact ⟨'[', _, rfl, rfl, rfl⟩
  | tuple items =>
      obtain ⟨parts, _, rfl⟩ := literal_tuple written
      exact ⟨'(', _, rfl, rfl, rfl⟩
  | map entries =>
      obtain ⟨parts, _, rfl⟩ := literal_map written
      exact ⟨'\x7b', _, rfl, rfl, rfl⟩
  | _ => cases plain

end Value

namespace Reader

open Value

variable {parts : List (List Char)} {entries : List (Value × Value)} {rest : List Char}
  {items : List Value} {rounds : Nat}

/-- No blank stands before joined literals and a delimiter. -/
theorem skipBlanks_joined (starts : ∀ part ∈ parts.head?, Starts part)
    {close : Char} (closing : isDelimiter close = true) (rest : List Char) :
    skipBlanks (joined ", ".toList parts ++ close :: rest) =
      joined ", ".toList parts ++ close :: rest := by
  match parts with
  | [] => exact skipBlanks_cons (isDelimiter_separates closing).2.2.2 rest
  | [part] => exact (starts part rfl).skipBlanks (close :: rest)
  | part :: next :: parts =>
      rw [joined_cons_cons, List.append_assoc]
      exact (starts part rfl).skipBlanks _

theorem isDelimiter_comma : isDelimiter ',' = true := rfl

theorem isDelimiter_colon : isDelimiter ':' = true := rfl

theorem literalItems_starts (plain : arePlain items = true)
    (written : literalItems items = .ok parts) : ∀ part ∈ parts.head?, Starts part := by
  cases items with
  | nil =>
      cases written
      intro part found
      cases found
  | cons item items =>
      obtain ⟨part, others, first, _, rfl⟩ := literalItems_cons written
      intro other found
      cases found
      exact literal_starts (Bool.and_eq_true_iff.1 plain).1 first

theorem literalEntries_starts (plain : entriesPlain entries = true)
    (written : literalEntries entries = .ok parts) : ∀ part ∈ parts.head?, Starts part := by
  cases entries with
  | nil =>
      cases written
      intro part found
      cases found
  | cons entry entries =>
      obtain ⟨left, right, others, first, _, _, rfl⟩ := literalEntries_cons written
      simp only [entriesPlain, Bool.and_eq_true] at plain
      intro other found
      cases found
      exact (literal_starts plain.1.1.2 first).append _

theorem areKeys_of_entriesPlain
    (plain : entriesPlain entries = true) : entries.all (·.1.isKey) = true := by
  induction entries with
  | nil => rfl
  | cons entry entries ih =>
      simp only [entriesPlain, Bool.and_eq_true] at plain
      rw [List.all_cons, plain.1.1.1, ih plain.2]
      rfl

theorem value?_list {comma : Bool} (starts : ∀ part ∈ parts.head?, Starts part)
    (read : items? rounds ']' (joined ", ".toList parts ++ ']' :: rest) =
      some ⟨items, comma, rest⟩) :
    value? (rounds + 1) ('[' :: joined ", ".toList parts ++ [']'] ++ rest) =
      some (.list items, rest) := by
  rw [List.cons_append, List.cons_append, List.append_assoc, List.singleton_append, value?,
    skipBlanks_joined starts rfl rest, read]
  rfl

/-- Brackets around no item or several ones make a tuple. -/
theorem value?_tuple (starts : ∀ part ∈ parts.head?, Starts part) (several : items.length ≠ 1)
    (read : items? rounds ')' (joined ", ".toList parts ++ ')' :: rest) =
      some ⟨items, decide (2 ≤ items.length), rest⟩) :
    value? (rounds + 1) ('(' :: joined ", ".toList parts ++ [')'] ++ rest) =
      some (.tuple items, rest) := by
  rw [List.cons_append, List.cons_append, List.append_assoc, List.singleton_append, value?,
    skipBlanks_joined starts rfl rest, read]
  cases items with
  | nil => rfl
  | cons first others =>
      cases others with
      | nil => exact absurd rfl several
      | cons second others => rfl

/-- Brackets around one item and a comma make a tuple. -/
theorem value?_single {part : List Char} {item : Value} (starts : Starts part) (enough : 0 < rounds)
    (read : value? rounds (part ++ ',' :: ')' :: rest) = some (item, ',' :: ')' :: rest)) :
    value? (rounds + 2) ('(' :: (part ++ [',']) ++ [')'] ++ rest) = some (.tuple [item], rest) := by
  have closing : isDelimiter ')' = true := rfl
  have found := items?_more starts closing (by decide) read (items?_close ')' rest enough)
  have shape : '(' :: (part ++ [',']) ++ [')'] ++ rest = '(' :: (part ++ ',' :: ')' :: rest) := by
    simp
  rw [shape, value?, starts.skipBlanks, found]
  rfl

theorem value?_map (starts : ∀ part ∈ parts.head?, Starts part)
    (keys : entries.all (·.1.isKey) = true)
    (distinct : entries.Pairwise fun earlier later => earlier.1.equals later.1 = false)
    (read : entries? rounds (joined ", ".toList parts ++ '\x7d' :: rest) = some (entries, rest)) :
    value? (rounds + 1) ('\x7b' :: joined ", ".toList parts ++ ['\x7d'] ++ rest) =
      some (.map entries, rest) := by
  rw [List.cons_append, List.cons_append, List.append_assoc, List.singleton_append, value?,
    skipBlanks_joined starts rfl rest, read]
  simp only [Option.bind_eq_bind, Option.bind_some, keys, if_true, Entries.ofPairs_eq distinct]
  rfl

mutual

/-- A plain value is read from its literal, whatever follows. -/
theorem value?_literal (value : Value) (plain : value.isPlain = true) {text : List Char}
    (written : value.literal = .ok text) {rest : List Char} (ends : Ends rest) {rounds : Nat}
    (enough : text.length < rounds) : value? rounds (text ++ rest) = some (value, rest) := by
  cases value with
  | null =>
      cases written
      exact value?_of_atom? (atom?_word rfl rfl ends) ⟨'N', _, rfl, rfl⟩ enough
  | bool value =>
      cases value with
      | true =>
          cases written
          exact value?_of_atom? (atom?_word rfl rfl ends) ⟨'T', _, rfl, rfl⟩ enough
      | false =>
          cases written
          exact value?_of_atom? (atom?_word rfl rfl ends) ⟨'F', _, rfl, rfl⟩ enough
  | int value =>
      rw [literal_int written] at enough ⊢
      exact value?_of_atom? (atom?_integer plain ends) (intText_start value) enough
  | str text =>
      cases written
      exact value?_of_atom? (atom?_text text ends)
        ⟨_, _, rfl, isAtomStart_mark text.toList⟩ enough
  | bytes data =>
      cases written
      exact value?_of_atom? (atom?_bytes data ends) ⟨'b', _, rfl, rfl⟩ enough
  | list items =>
      obtain ⟨parts, inner, rfl⟩ := literal_list written
      obtain ⟨rounds, rfl⟩ : ∃ fewer, rounds = fewer + 1 := ⟨rounds - 1, by omega⟩
      simp only [List.length_append, List.length_cons] at enough
      have closing : isDelimiter ']' = true := rfl
      exact value?_list (literalItems_starts plain inner)
        (items?_literal items plain inner closing (by decide) rest (by omega))
  | tuple items =>
      obtain ⟨parts, inner, rfl⟩ := literal_tuple written
      obtain ⟨rounds, rfl⟩ : ∃ fewer, rounds = fewer + 1 := ⟨rounds - 1, by omega⟩
      have starts := literalItems_starts plain inner
      have closing : isDelimiter ')' = true := rfl
      cases items with
      | nil =>
          cases inner
          simp only [List.length_append, List.length_cons] at enough
          exact value?_tuple starts (by decide) (items?_close ')' rest (by omega))
      | cons item items =>
          obtain ⟨part, others, first, further, rfl⟩ := literalItems_cons inner
          obtain ⟨plainFirst, plainOthers⟩ := Bool.and_eq_true_iff.1 plain
          cases items with
          | nil =>
              cases further
              simp only [List.length_append, List.length_cons, List.length_nil] at enough
              obtain ⟨rounds, rfl⟩ : ∃ fewer, rounds = fewer + 1 := ⟨rounds - 1, by omega⟩
              exact value?_single (literal_starts plainFirst first) (by omega)
                (value?_literal item plainFirst first (ends_cons isDelimiter_comma _) (by omega))
          | cons second items =>
              obtain ⟨next, later, _, _, rfl⟩ := literalItems_cons further
              simp only [List.length_append, List.length_cons] at enough
              exact value?_tuple starts (by simp)
                (items?_literal (item :: second :: items) plain inner closing (by decide) rest
                  (by omega))
  | map entries =>
      obtain ⟨parts, inner, rfl⟩ := literal_map written
      obtain ⟨rounds, rfl⟩ : ∃ fewer, rounds = fewer + 1 := ⟨rounds - 1, by omega⟩
      simp only [List.length_append, List.length_cons] at enough
      obtain ⟨plainEntries, distinct⟩ := Bool.and_eq_true_iff.1 plain
      exact value?_map (literalEntries_starts plainEntries inner) (areKeys_of_entriesPlain plainEntries)
        (of_decide_eq_true distinct)
        (entries?_literal entries plainEntries inner rest (by omega))
  | _ => cases plain

/-- Plain values are read from their literals up to the closing bracket. -/
theorem items?_literal (items : List Value) (plain : arePlain items = true)
    {parts : List (List Char)} (written : literalItems items = .ok parts) {close : Char}
    (closing : isDelimiter close = true) (noComma : close ≠ ',') (rest : List Char) {rounds : Nat}
    (enough : (joined ", ".toList parts).length + 1 < rounds) :
    items? rounds close (joined ", ".toList parts ++ close :: rest) =
      some ⟨items, decide (2 ≤ items.length), rest⟩ := by
  obtain ⟨rounds, rfl⟩ : ∃ fewer, rounds = fewer + 1 := ⟨rounds - 1, by omega⟩
  cases items with
  | nil =>
      cases written
      exact items?_close close rest (Nat.succ_pos _)
  | cons item items =>
      obtain ⟨part, others, first, further, rfl⟩ := literalItems_cons written
      obtain ⟨plainFirst, plainOthers⟩ := Bool.and_eq_true_iff.1 plain
      have starts := literal_starts plainFirst first
      cases items with
      | nil =>
          cases further
          rw [joined] at enough ⊢
          have read := value?_literal item plainFirst first (ends_cons closing rest)
            (show part.length < rounds by omega)
          exact items?_last starts closing read
      | cons second items =>
          obtain ⟨next, later, _, _, rfl⟩ := literalItems_cons further
          rw [joined_cons_cons] at enough ⊢
          simp only [List.length_append, List.length_cons] at enough
          have read := value?_literal item plainFirst first
            (ends_cons isDelimiter_comma (' ' :: (joined ", ".toList (next :: later) ++ close :: rest)))
            (show part.length < rounds by omega)
          have readOthers := items?_literal (second :: items) plainOthers further closing noComma rest
            (show _ < rounds by omega)
          rw [← skipBlanks_joined (literalItems_starts plainOthers further) closing rest] at readOthers
          rw [List.append_assoc]
          exact items?_more starts closing noComma read readOthers

/-- Plain entries are read from their literals up to the closing brace. -/
theorem entries?_literal (entries : List (Value × Value)) (plain : entriesPlain entries = true)
    {parts : List (List Char)} (written : literalEntries entries = .ok parts) (rest : List Char)
    {rounds : Nat} (enough : (joined ", ".toList parts).length + 1 < rounds) :
    entries? rounds (joined ", ".toList parts ++ '\x7d' :: rest) = some (entries, rest) := by
  obtain ⟨rounds, rfl⟩ : ∃ fewer, rounds = fewer + 1 := ⟨rounds - 1, by omega⟩
  cases entries with
  | nil =>
      cases written
      simp [joined, entries?]
  | cons entry entries =>
      obtain ⟨key, value⟩ := entry
      obtain ⟨left, right, others, first, second, further, rfl⟩ := literalEntries_cons written
      simp only [entriesPlain, Bool.and_eq_true] at plain
      obtain ⟨⟨⟨_, plainKey⟩, plainValue⟩, plainOthers⟩ := plain
      have starts := literal_starts plainKey first
      have startsValue := literal_starts plainValue second
      cases entries with
      | nil =>
          cases further
          rw [joined, List.append_assoc, List.cons_append, List.cons_append]
          rw [joined] at enough
          simp only [List.length_append, List.length_cons] at enough
          have brace : isDelimiter '\x7d' = true := rfl
          exact entries?_last starts startsValue
            (value?_literal key plainKey first (ends_cons isDelimiter_colon _) (by omega))
            (value?_literal value plainValue second (ends_cons brace rest) (by omega))
      | cons entry entries =>
          obtain ⟨nextKey, nextValue⟩ := entry
          obtain ⟨_, _, _, _, _, _, rfl⟩ := literalEntries_cons further
          rw [joined_cons_cons] at enough ⊢
          simp only [List.length_append, List.length_cons] at enough
          have readOthers := entries?_literal ((nextKey, nextValue) :: entries) plainOthers further rest
            (show _ < rounds by omega)
          rw [← skipBlanks_joined (literalEntries_starts plainOthers further) rfl rest] at readOthers
          simp only [List.append_assoc, List.cons_append]
          exact entries?_more starts startsValue
            (value?_literal key plainKey first (ends_cons isDelimiter_colon _) (by omega))
            (value?_literal value plainValue second (ends_cons isDelimiter_comma _) (by omega))
            readOthers

end

theorem read?_literal {value : Value} (plain : value.isPlain = true) {text : List Char}
    (written : value.literal = .ok text) : read? text = some value := by
  have starts := literal_starts plain written
  have read := value?_literal value plain written ends_nil (Nat.lt_succ_self text.length)
  have visible := starts.skipBlanks []
  rw [List.append_nil] at read visible
  unfold read?
  rw [visible, read]
  rfl

end Reader

/-- Every plain value has a literal, which reads back as that value and is the literal of no other
plain value. -/
theorem Value.literalText_reads_back (value : Value) (plain : value.isPlain = true) :
    ∃ text, value.literalText = .ok text ∧ Reader.read? text.toList = some value ∧
      ∀ other : Value, other.isPlain = true → other.literalText = .ok text → other = value := by
  have reads : ∀ other : Value, other.isPlain = true → ∀ text, other.literalText = .ok text →
      Reader.read? text.toList = some other := by
    intro other plain text written
    obtain ⟨source, literal, same⟩ := bind_eq_ok written
    cases same
    rw [String.toList_ofList]
    exact Reader.read?_literal plain literal
  obtain ⟨text, written⟩ := (literalText_writtenWhen value).ok (isWritable_of_isPlain plain)
  refine ⟨text, written, reads value plain text written, ?_⟩
  intro other plainOther writtenOther
  have same := reads other plainOther text writtenOther
  rw [reads value plain text written] at same
  exact (Option.some.inj same).symm

/-- A value of every plain kind, with texts and bytes that need either quotation mark and all widths
of escapes. -/
def mixedValue : Value :=
  .map
    [(.str "it's", .tuple [.bool true]),
     (.tuple [.int 1, .bytes [0x27, 0xff]],
      .list [.null, .int (-20), .str "\"'\x07\u2028\ue000", .map []])]

theorem mixedValue_reads_back :
    mixedValue.isPlain = true ∧
      ∃ text, mixedValue.literalText = .ok text ∧ Reader.read? text.toList = some mixedValue ∧
        ∀ other : Value, other.isPlain = true → other.literalText = .ok text →
          other = mixedValue := by
  have one : Value.isShort 1 = true := by decide
  have minusTwenty : Value.isShort (-20) = true := by decide
  have plain : mixedValue.isPlain = true := by
    simp [mixedValue, Value.isPlain, Value.arePlain, Value.entriesPlain, Value.isKey, Value.areKeys,
      Value.equals, Value.equalsAtom, Value.wholeNumber?, one, minusTwenty]
  exact ⟨plain, Value.literalText_reads_back mixedValue plain⟩

end BrowserScript
