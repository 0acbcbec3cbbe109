import BrowserScript.Proofs.Value.Token
import Mathlib.Data.List.Forall2

/-!
# Values of expressions

The tokens of an expression are evaluated from left to right. A value fills the item that is being
read, an opening bracket starts a level of its own, and a closing one makes a value of the entries
of its level and returns to the level outside. Names other than those of constants have no value.
The literal of a closed value evaluates to that value.
-/

namespace BrowserScript

namespace Expression

open Reader (isDelimiter)

variable {opening : Char} {entries : List Entry} {token : Token} {value : Value}

/-- The value of a token. Digits alone are an integer; other numbers are decimals. -/
def Token.value? : Token → Option Value
  | .word chars =>
      if chars.head?.any Char.isDigit && !chars.all Char.isDigit then
        (Numeral.readDecimal? false chars).map .float
      else Reader.word? chars
  | .quoted source =>
      match Reader.atom? source with
      | some (value, []) => some value
      | _ => none
  | .mark _ => none

def negate? : Value → Option Value
  | .int number => some (.int (-number))
  | .float number => some (.float number.neg)
  | _ => none

/-- What has been read of an item: its key, a sign before its value, and its value. -/
structure Item where
  key : Option Value
  negative : Bool
  value : Option Value

def Item.unread : Item := ⟨none, false, none⟩

/-- An item between brackets; only those of mappings have keys. -/
abbrev Entry := Option Value × Value

/-- What has been read since an opening bracket, or since the start of the text. -/
structure Level where
  opening : Option Char
  entries : List Entry
  /-- Whether a comma has been read. -/
  comma : Bool
  item : Item

/-- The level that is being read and those around it, from the inside out. -/
structure State where
  inner : Level
  outer : List Level

def Level.start (opening : Option Char) : Level := ⟨opening, [], false, .unread⟩

def Level.fill (level : Level) (value : Value) : Level :=
  { level with item := { level.item with negative := false, value := some value } }

/-- Put a value behind the sign of the item, if it has none yet. -/
def Level.put? (level : Level) (value : Value) : Option Level :=
  if level.item.value.isSome then none
  else if level.item.negative then (negate? value).map level.fill
  else some (level.fill value)

def Level.all? (level : Level) : Option (List Entry) :=
  match level.item with
  | ⟨none, false, none⟩ => some level.entries
  | ⟨key, false, some value⟩ => some (level.entries ++ [(key, value)])
  | _ => none

def items? (entries : List Entry) : Option (List Value) :=
  entries.mapM fun entry => if entry.1.isSome then none else some entry.2

def pairs? (entries : List Entry) : Option (List (Value × Value)) :=
  entries.mapM fun entry => entry.1.map (·, entry.2)

def distinct (items : List Value) : List Value :=
  (Entries.ofPairs (items.map (·, .null))).map (·.1)

def build? (opening : Char) (comma : Bool) (entries : List Entry) : Option Value :=
  if opening == '[' then (items? entries).map .list
  else if opening == '(' then
    (items? entries).map fun items =>
      match items, comma with
      | [item], false => item
      | items, _ => .tuple items
  else
    match pairs? entries, items? entries with
    | some pairs, _ =>
        if pairs.all (·.1.isKey) then some (.map (Entries.ofPairs pairs)) else none
    | none, some items => if items.all Value.isKey then some (.set (distinct items)) else none
    | none, none => none

def opening? : Char → Option Char
  | ']' => some '['
  | ')' => some '('
  | '\x7d' => some '\x7b'
  | _ => none

def close? (state : State) (opening : Char) : Option State :=
  match state.outer with
  | [] => none
  | level :: outer =>
      if state.inner.opening == some opening then
        (state.inner.all?.bind (build? opening state.inner.comma)).bind fun value =>
          (level.put? value).map (⟨·, outer⟩)
      else none

def open? (state : State) (opening : Char) : Option State :=
  if state.inner.item.value.isSome then none
  else some ⟨.start (some opening), state.inner :: state.outer⟩

def comma? (state : State) : Option State :=
  match state.inner with
  | ⟨some opening, entries, _, ⟨key, false, some value⟩⟩ =>
      some { state with inner := ⟨some opening, entries ++ [(key, value)], true, .unread⟩ }
  | _ => none

def colon? (state : State) : Option State :=
  match state.inner with
  | ⟨some '\x7b', entries, comma, ⟨none, false, some key⟩⟩ =>
      some { state with inner := ⟨some '\x7b', entries, comma, ⟨some key, false, none⟩⟩ }
  | _ => none

def minus? (state : State) : Option State :=
  match state.inner with
  | ⟨opening, entries, comma, ⟨key, false, none⟩⟩ =>
      some { state with inner := ⟨opening, entries, comma, ⟨key, true, none⟩⟩ }
  | _ => none

def mark? (state : State) (c : Char) : Option State :=
  if c == ',' then comma? state
  else if c == ':' then colon? state
  else if c == '-' then minus? state
  else if Reader.isOpening c then open? state c
  else (opening? c).bind (close? state)

def step? (state : State) (token : Token) : Option State :=
  match token with
  | .mark c => mark? state c
  | token =>
      token.value?.bind fun value => (state.inner.put? value).map ({ state with inner := · })

def run? (state : State) (tokens : List Token) : Option State := tokens.foldlM step? state

def read? (text : List Char) : Option Value :=
  match run? ⟨.start none, []⟩ (tokens text) with
  | some ⟨⟨none, [], false, ⟨none, false, some value⟩⟩, []⟩ => some value
  | _ => none

example : read? "(set(),)".toList = none := by decide

/-- Tokens that let an item have a value, whatever has been read before. -/
def Reads (tokens : List Token) (value : Value) : Prop :=
  ∀ (level : Level) (outer : List Level), level.item.value = none → level.item.negative = false →
    run? ⟨level, outer⟩ tokens = some ⟨level.fill value, outer⟩

def ReadsEntry (opening : Char) (tokens : List Token) (entry : Entry) : Prop :=
  ∀ (entries : List Entry) (comma : Bool) (outer : List Level),
    run? ⟨⟨some opening, entries, comma, .unread⟩, outer⟩ tokens =
      some ⟨⟨some opening, entries, comma, ⟨entry.1, false, some entry.2⟩⟩, outer⟩

theorem run?_append (state : State) (left right : List Token) :
    run? state (left ++ right) = (run? state left).bind (run? · right) := by
  unfold run?
  rw [List.foldlM_append]
  rfl

theorem run?_cons {state next : State} (done : step? state token = some next)
    (others : List Token) : run? state (token :: others) = run? next others := by
  unfold run?
  rw [List.foldlM_cons, done]
  rfl

/-- What has been read of a whole text is its value. -/
theorem read?_of_reads {text : List Char} (reads : Reads (tokens text) value) :
    read? text = some value := by
  rw [read?, reads (.start none) [] rfl rfl]
  rfl

/-! ## Values without parts -/

theorem put?_of_unread {level : Level} (unread : level.item.value = none)
    (positive : level.item.negative = false) (value : Value) :
    level.put? value = some (level.fill value) := by
  rw [Level.put?, unread, positive]
  rfl

/-- No mark has a value. -/
theorem step?_of_value? (known : token.value? = some value) (state : State) :
    step? state token = (state.inner.put? value).map ({ state with inner := · }) := by
  cases token with
  | mark c => cases known
  | word chars =>
      change (Token.value? (.word chars)).bind _ = _
      rw [known]
      rfl
  | quoted source =>
      change (Token.value? (.quoted source)).bind _ = _
      rw [known]
      rfl

theorem reads_token (known : token.value? = some value) : Reads [token] value := by
  intro level outer unread positive
  refine run?_cons ?_ []
  rw [step?_of_value? known, put?_of_unread unread positive]
  rfl

/-- A sign and a number. -/
theorem reads_negative {opposite : Value}
    (known : token.value? = some value) (negated : negate? value = some opposite) :
    Reads [.mark '-', token] opposite := by
  intro level outer unread positive
  obtain ⟨opening, entries, comma, ⟨key, negative, old⟩⟩ := level
  cases unread
  cases positive
  have signed : step? ⟨⟨opening, entries, comma, ⟨key, false, none⟩⟩, outer⟩ (.mark '-') =
      some ⟨⟨opening, entries, comma, ⟨key, true, none⟩⟩, outer⟩ := rfl
  rw [run?_cons signed]
  refine run?_cons ?_ []
  rw [step?_of_value? known]
  simp [Level.put?, negated, Level.fill]

theorem reads_integer {value : Int} (short : Value.isShort value = true) :
    Reads (tokens (intText value)) (.int value) := by
  have digits := Reader.all_isDigit_natText value.natAbs
  have names := all_isNameChar_natText value.natAbs
  have single : tokens (natText value.natAbs) = [.word (natText value.natAbs)] := by
    cases same : natText value.natAbs with
    | nil => exact absurd same Nat.toDigits_ne_nil
    | cons digit others =>
        rw [same] at names
        obtain ⟨first, further⟩ := Bool.and_eq_true_iff.1 names
        exact tokens_word first (continuesAll_of_names further)
  have known : Token.value? (.word (natText value.natAbs)) = some (.int value.natAbs) := by
    rw [Token.value?, digits, Bool.not_true, Bool.and_false, if_neg Bool.false_ne_true,
      Reader.word?_natText, Reader.natural?_natText (of_decide_eq_true short)]
    rfl
  unfold intText
  split
  · rename_i negative
    have opposite : negate? (.int value.natAbs) = some (.int value) := by
      rw [negate?, show -(value.natAbs : Int) = value by omega]
    rw [tokens_leading rfl, single]
    exact reads_negative known opposite
  · rename_i positive
    have same : (value.natAbs : Int) = value := by omega
    rw [single, ← same]
    exact reads_token (by rwa [same] at known ⊢)

theorem reads_float {number : Binary64} (finite : number.isFinite = true)
    (canonical : number.isCanonical = true) : Reads (tokens number.text) (.float number) := by
  cases number with
  | nan => cases finite
  | infinite negative => cases finite
  | finite negative significand exponent =>
      have format := Binary64.canonical_of_isCanonical canonical
      obtain ⟨digit, others, same, first, all, fraction⟩ := magnitudeText_word significand exponent
      have read := Binary64.readDecimal?_magnitudeText format false
      have name := Reader.isNameChar_of_isDigit first
      have known : Token.value? (.word (digit :: others)) =
          some (.float (.finite false significand exponent)) := by
        rw [Token.value?, List.head?_cons, Option.any_some, first, fraction, ← same, read]
        rfl
      rw [Binary64.text_finite, same]
      cases negative with
      | true =>
          rw [if_pos rfl, tokens_leading rfl, tokens_word name all]
          exact reads_negative known rfl
      | false =>
          rw [if_neg Bool.false_ne_true, tokens_word name all]
          exact reads_token known

theorem reads_quoted {source : List Char}
    (single : run .between source = (.between, [.quoted source]))
    (read : Reader.atom? source = some (value, [])) : Reads (tokens source) value := by
  have known : Token.value? (.quoted source) = some value := by rw [Token.value?, read]
  rw [tokens, single]
  exact reads_token known

/-! ## Brackets -/

theorem items?_values (items : List Value) : items? (items.map (none, ·)) = some items := by
  induction items with
  | nil => rfl
  | cons item items ih =>
      unfold items? at ih ⊢
      rw [List.map_cons, List.mapM_cons, ih]
      rfl

theorem pairs?_pairs (pairs : List (Value × Value)) :
    pairs? (pairs.map fun pair => (some pair.1, pair.2)) = some pairs := by
  induction pairs with
  | nil => rfl
  | cons pair pairs ih =>
      unfold pairs? at ih ⊢
      rw [List.map_cons, List.mapM_cons, ih]
      rfl

theorem pairs?_values {items : List Value} (given : items ≠ []) :
    pairs? (items.map (none, ·)) = none := by
  obtain ⟨item, others, rfl⟩ := List.exists_cons_of_ne_nil given
  rw [pairs?, List.map_cons, List.mapM_cons]
  rfl

theorem distinct_eq {items : List Value}
    (different : items.Pairwise fun earlier later => earlier.equals later = false) :
    distinct items = items := by
  have keys : (items.map (·, Value.null)).Pairwise
      fun earlier later => earlier.1.equals later.1 = false := List.pairwise_map.2 different
  rw [distinct, Entries.ofPairs_eq keys, List.map_map]
  exact List.map_id _

theorem readsEntry_pair {left right : List Token} {key : Value} (keyed : Reads left key)
    (valued : Reads right value) :
    ReadsEntry '\x7b' (left ++ .mark ':' :: right) (some key, value) := by
  intro entries comma outer
  have colon : step? ⟨⟨some '\x7b', entries, comma, ⟨none, false, some key⟩⟩, outer⟩ (.mark ':') =
      some ⟨⟨some '\x7b', entries, comma, ⟨some key, false, none⟩⟩, outer⟩ := rfl
  rw [run?_append, keyed _ outer rfl rfl]
  refine (run?_cons colon right).trans ?_
  rw [valued _ outer rfl rfl]
  rfl

def Collects (opening : Char) (tokens : List Token) (entries : List Entry) (comma : Bool) : Prop :=
  ∀ outer, ∃ level, run? ⟨.start (some opening), outer⟩ tokens = some ⟨level, outer⟩ ∧
    level.opening = some opening ∧ level.all? = some entries ∧ level.comma = comma

abbrev SpellEntries (opening : Char) : List (List Char) → List Entry → Prop :=
  List.Forall₂ fun part entry => Whole part ∧ ReadsEntry opening (tokens part) entry

theorem collects_joined {parts : List (List Char)} (each : SpellEntries opening parts entries) :
    Collects opening (tokens (joined ", ".toList parts)) entries (decide (2 ≤ entries.length)) := by
  -- The induction is over the parts, so it is about a level that holds some entries already.
  have run : ∀ (held : List Entry) (comma : Bool) (outer : List Level),
      ∃ level, run? ⟨⟨some opening, held, comma, .unread⟩, outer⟩
          (tokens (joined ", ".toList parts)) = some ⟨level, outer⟩ ∧
        level.opening = some opening ∧ level.all? = some (held ++ entries) ∧
        level.comma = (comma || decide (2 ≤ entries.length)) := by
    induction each with
    | nil =>
        intro held comma outer
        exact ⟨_, rfl, rfl, by rw [List.append_nil]; rfl, (Bool.or_false comma).symm⟩
    | cons first others ih =>
        rename_i part entry parts entries
        intro held comma outer
        cases others with
        | nil =>
            refine ⟨_, first.2 held comma outer, rfl, ?_, (Bool.or_false comma).symm⟩
            obtain ⟨key, value⟩ := entry
            cases key <;> rfl
        | cons second others =>
            rename_i next nextEntry parts entries
            obtain ⟨level, read, same, all, further⟩ := ih (held ++ [entry]) true outer
            refine ⟨level, ?_, same, ?_, ?_⟩
            · rw [joined_cons_cons, tokens_delimited first.1 rfl, tokens_blank, run?_append,
                first.2 held comma outer]
              exact (run?_cons rfl _).trans read
            · rw [all, List.append_assoc]
              rfl
            · rw [further]
              simp
  intro outer
  obtain ⟨level, read, same, all, further⟩ := run [] false outer
  exact ⟨level, read, same, all, further⟩

/-- One entry and a comma. -/
theorem collects_single {part : List Token} {entry : Entry}
    (reads : ReadsEntry opening part entry) :
    Collects opening (part ++ [.mark ',']) [entry] true := by
  intro outer
  refine ⟨⟨some opening, [entry], true, .unread⟩, ?_, rfl, rfl, rfl⟩
  rw [run?_append, Level.start, reads [] false outer]
  rfl

/-- Brackets around entries have the value that is built of them. -/
theorem reads_bracketed {closing : Char} {inner : List Token}
    {comma : Bool} (pair : opening? closing = some opening)
    (collects : Collects opening inner entries comma)
    (built : build? opening comma entries = some value) :
    Reads (.mark opening :: inner ++ [.mark closing]) value := by
  intro level outer unread positive
  obtain ⟨last, read, same, all, further⟩ := collects (level :: outer)
  have starts : step? ⟨level, outer⟩ (.mark opening) =
      some ⟨.start (some opening), level :: outer⟩ := by
    have opens : mark? ⟨level, outer⟩ opening = open? ⟨level, outer⟩ opening := by
      unfold opening? at pair
      split at pair <;> cases pair <;> rfl
    rw [step?, opens, open?, unread]
    rfl
  have ends : step? ⟨last, level :: outer⟩ (.mark closing) = some ⟨level.fill value, outer⟩ := by
    have closes : mark? ⟨last, level :: outer⟩ closing = close? ⟨last, level :: outer⟩ opening := by
      unfold opening? at pair
      split at pair <;> cases pair <;> rfl
    rw [step?, closes, close?, same, further, all]
    simp [built, put?_of_unread unread positive]
  rw [List.cons_append, run?_cons starts, run?_append, read]
  exact run?_cons ends []

theorem reads_joined {closing : Char} (leads : isLeading opening = true)
    (pair : opening? closing = some opening) (delimits : isDelimiter closing = true)
    {parts : List (List Char)} (each : SpellEntries opening parts entries)
    (built : build? opening (decide (2 ≤ entries.length)) entries = some value)
    (whole : Whole (joined ", ".toList parts)) :
    Reads (tokens (opening :: joined ", ".toList parts ++ [closing])) value := by
  have split : tokens (opening :: joined ", ".toList parts ++ [closing]) =
      .mark opening :: tokens (joined ", ".toList parts) ++ [.mark closing] := by
    rw [List.cons_append, tokens_leading leads, tokens_delimited whole delimits]
    rfl
  rw [split]
  exact reads_bracketed pair (collects_joined each) built

end Expression

namespace Value

mutual

/-- Whether a value is one that can be held: numbers have the form of their format, and the keys of
mappings and the members of sets can be keys and differ from each other. -/
def isProper : Value → Bool
  | .float number => number.isCanonical
  | .list items => areProper items
  | .tuple items => areProper items
  | .map entries =>
      entriesProper entries
        && decide (entries.Pairwise fun earlier later => earlier.1.equals later.1 = false)
  | .set items =>
      areProper items && items.all isKey
        && decide (items.Pairwise fun earlier later => earlier.equals later = false)
  | _ => true

def areProper : List Value → Bool
  | [] => true
  | item :: items => isProper item && areProper items

def entriesProper : List (Value × Value) → Bool
  | [] => true
  | (key, value) :: entries => key.isKey && isProper key && isProper value && entriesProper entries

end

theorem literal_set {item : Value} {items : List Value} {text : List Char}
    (written : (set (item :: items)).literal = .ok text) :
    ∃ parts, literalItems (item :: items) = .ok parts ∧
      text = '\x7b' :: joined ", ".toList parts ++ ['\x7d'] := by
  unfold literal at written
  obtain ⟨parts, inner, written⟩ := bind_eq_ok written
  cases written
  exact ⟨parts, inner, rfl⟩

end Value

namespace Expression

open Value

theorem all_isKey_of_entriesProper {entries : List (Value × Value)}
    (proper : entriesProper entries = true) : entries.all (·.1.isKey) = true := by
  induction entries with
  | nil => rfl
  | cons entry entries ih =>
      simp only [entriesProper, Bool.and_eq_true] at proper
      rw [List.all_cons, proper.1.1.1, ih proper.2]
      rfl

mutual

/-- The literal of a closed and proper value evaluates to it. -/
theorem reads_literal (value : Value) (closed : value.isClosed = true)
    (proper : value.isProper = true) {text : List Char} (written : value.literal = .ok text) :
    Reads (tokens text) value := by
  cases value with
  | null =>
      cases written
      exact reads_token rfl
  | bool value =>
      cases value <;> cases written <;> exact reads_token rfl
  | int value =>
      have short := literal_writtenWhen (.int value)
      unfold WrittenWhen at short
      rw [written] at short
      rw [literal_int written]
      exact reads_integer short
  | float number =>
      cases written
      exact reads_float closed proper
  | str text =>
      cases written
      have read := Reader.atom?_text text Reader.ends_nil
      rw [List.append_nil] at read
      exact reads_quoted (run_encode text.toList) read
  | bytes data =>
      cases written
      have read := Reader.atom?_bytes data Reader.ends_nil
      rw [List.append_nil] at read
      exact reads_quoted (run_encodeBytes data) read
  | list items =>
      obtain ⟨parts, inner, rfl⟩ := literal_list written
      have whole := (literalItems_spelled items parts inner).joined.whole
      refine reads_joined rfl rfl rfl (spellEntries_items items closed proper inner '[') ?_ whole
      rw [build?, items?_values]
      rfl
  | tuple items =>
      obtain ⟨parts, inner, rfl⟩ := literal_tuple written
      have each := spellEntries_items items closed proper inner '('
      have spelled := literalItems_spelled items parts inner
      -- Only the literal of a single item has a comma before the bracket.
      match items, parts, each with
      | [], [], _ => exact reads_joined rfl rfl rfl .nil rfl whole_nil
      | [item], [part], each =>
          obtain ⟨⟨whole, reads⟩, _⟩ := List.forall₂_cons.1 each
          have split : tokens ('(' :: (part ++ [',']) ++ [')']) =
              .mark '(' :: (tokens part ++ [.mark ',']) ++ [.mark ')'] := by
            have comma := whole_delimited whole Reader.isDelimiter_comma whole_nil
            rw [List.cons_append, tokens_leading rfl, tokens_delimited comma rfl,
              tokens_delimited whole rfl]
            rfl
          rw [split]
          exact reads_bracketed rfl (collects_single reads) rfl
      | first :: second :: items, _ :: _ :: parts, each =>
          refine reads_joined rfl rfl rfl each ?_ spelled.joined.whole
          rw [build?, items?_values]
          rfl
  | map entries =>
      obtain ⟨parts, inner, rfl⟩ := literal_map written
      obtain ⟨properEntries, distinct⟩ := Bool.and_eq_true_iff.1 proper
      have whole := (literalEntries_spelled entries parts inner).joined.whole
      refine reads_joined rfl rfl rfl (spellEntries_entries entries closed properEntries inner) ?_ whole
      rw [build?, pairs?_pairs]
      simp [all_isKey_of_entriesProper properEntries,
        Entries.ofPairs_eq (of_decide_eq_true distinct)]
  | set items =>
      obtain ⟨given, closedItems⟩ := Bool.and_eq_true_iff.1 closed
      simp only [isProper, Bool.and_eq_true, decide_eq_true_eq] at proper
      obtain ⟨⟨properItems, keys⟩, different⟩ := proper
      cases items with
      | nil => cases given
      | cons item items =>
          obtain ⟨parts, inner, rfl⟩ := literal_set written
          have each := spellEntries_items _ closedItems properItems inner '\x7b'
          have whole := (literalItems_spelled _ parts inner).joined.whole
          refine reads_joined rfl rfl rfl each ?_ whole
          rw [build?, pairs?_values (List.cons_ne_nil item items), items?_values]
          simp only [keys, if_true, distinct_eq different]
          rfl
  | date day => cases closed
  | moment time => cases closed

theorem spellEntries_items (items : List Value) (closed : areClosed items = true)
    (proper : areProper items = true) {parts : List (List Char)}
    (written : literalItems items = .ok parts) (opening : Char) :
    SpellEntries opening parts (items.map (none, ·)) := by
  cases items with
  | nil =>
      cases written
      exact .nil
  | cons item items =>
      obtain ⟨part, others, first, further, rfl⟩ := literalItems_cons written
      obtain ⟨closedFirst, closedOthers⟩ := Bool.and_eq_true_iff.1 closed
      obtain ⟨properFirst, properOthers⟩ := Bool.and_eq_true_iff.1 proper
      have reads := reads_literal item closedFirst properFirst first
      refine .cons ⟨(literal_spelled item part first).whole, fun entries comma outer => ?_⟩
        (spellEntries_items items closedOthers properOthers further opening)
      rw [reads _ outer rfl rfl]
      rfl

theorem spellEntries_entries (entries : List (Value × Value))
    (closed : entriesClosed entries = true) (proper : entriesProper entries = true)
    {parts : List (List Char)} (written : literalEntries entries = .ok parts) :
    SpellEntries '\x7b' parts (entries.map fun entry => (some entry.1, entry.2)) := by
  cases entries with
  | nil =>
      cases written
      exact .nil
  | cons entry entries =>
      obtain ⟨key, value⟩ := entry
      obtain ⟨left, right, others, first, second, further, rfl⟩ := literalEntries_cons written
      simp only [entriesClosed, Bool.and_eq_true] at closed
      simp only [entriesProper, Bool.and_eq_true] at proper
      obtain ⟨⟨closedKey, closedValue⟩, closedOthers⟩ := closed
      obtain ⟨⟨⟨_, properKey⟩, properValue⟩, properOthers⟩ := proper
      have keyed := reads_literal key closedKey properKey first
      have valued := reads_literal value closedValue properValue second
      have spelledKey := literal_spelled key left first
      have spelledValue := literal_spelled value right second
      refine .cons ⟨(spelledKey.delimited rfl (.blank spelledValue)).whole, ?_⟩ ?_
      · rw [tokens_delimited spelledKey.whole rfl, tokens_blank]
        exact readsEntry_pair keyed valued
      · exact spellEntries_entries entries closedOthers properOthers further

end

end Expression

end BrowserScript
