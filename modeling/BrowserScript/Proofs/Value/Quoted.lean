import BrowserScript.Value.Literal
import Mathlib.Algebra.Group.Nat.Defs

/-!
# Reading quoted literals

A quoted literal denotes code points: its plain characters stand for themselves, and a backslash
starts an escape by letter, by number or by name. Escapes by name are refused, and so are line
breaks and triple quotation marks. What is written between quotation marks reads back as the
characters or bytes that were written.
-/

namespace BrowserScript.Quoted

variable {quote : Char} {kind : Kind} {rest : List Char} {point : Nat} (text : List Char)

inductive Kind where
  | text
  | bytes
  deriving DecidableEq

/-- Whether a character may stand for itself: only seven-bit ones may among bytes. -/
def Kind.allows (kind : Kind) (c : Char) : Bool :=
  c != '\x00' && c != '\r' && (kind == .text || c.toNat < 0x80)

def letterPoint? : Char → Option Nat
  | '\\' => some 0x5c
  | '\'' => some 0x27
  | '"' => some 0x22
  | 'a' => some 0x07
  | 'b' => some 0x08
  | 'f' => some 0x0c
  | 'n' => some 0x0a
  | 'r' => some 0x0d
  | 't' => some 0x09
  | 'v' => some 0x0b
  | _ => none

def hexPoint? (width : Nat) (rest : List Char) : Option Nat :=
  let digits := rest.take width
  if digits.length == width && digits.all Text.isHexDigit then some (Text.ofHex digits) else none

def isOctal (c : Char) : Bool := '0' ≤ c && c ≤ '7'

/-- The code points that an escape stands for, and how many characters it takes after the backslash.
A backslash before any other character stands for itself, and so does that character. -/
def escape? (kind : Kind) : List Char → Option (List Nat × Nat)
  | [] => none
  | letter :: rest =>
      match letterPoint? letter with
      | some point => some ([point], 1)
      | none =>
          if letter == '\n' then some ([], 1)
          else if letter == 'x' then (hexPoint? 2 rest).map fun point => ([point], 3)
          else if isOctal letter then
            let digits := (letter :: rest.take 2).takeWhile isOctal
            some ([Nat.ofDigitChars 8 digits 0], digits.length)
          else if kind == .text && letter == 'u' then
            (hexPoint? 4 rest).map fun point => ([point], 5)
          else if kind == .text && letter == 'U' then
            (hexPoint? 8 rest).map fun point => ([point], 9)
          else if kind == .text && letter == 'N' then none
          else if kind.allows letter then some ([0x5c, letter.toNat], 1)
          else none

/-- The code points up to the closing quotation mark, and what follows it. -/
def body? (kind : Kind) (quote : Char) (rest : List Char) : Option (List Nat × List Char) :=
  match rest with
  | [] => none
  | c :: rest =>
      if c == quote then some ([], rest)
      else if c == '\\' then
        match escape? kind rest with
        | none => none
        | some (points, count) =>
            (body? kind quote (rest.drop count)).map fun found => (points ++ found.1, found.2)
      else if c != '\n' && kind.allows c then
        (body? kind quote rest).map fun found => (c.toNat :: found.1, found.2)
      else none
termination_by rest.length
decreasing_by all_goals simp only [List.length_cons, List.length_drop]; omega

def isMark (c : Char) : Bool := c == '\'' || c == '"'

/-- The code points of a quoted literal from its opening mark on, and what follows it. -/
def points? (kind : Kind) : List Char → Option (List Nat × List Char)
  | [] => none
  | quote :: rest =>
      if isMark quote && !([quote, quote].isPrefixOf rest) then body? kind quote rest else none

def characters? (points : List Nat) : Option (List Char) :=
  points.mapM fun point => if point.isValidChar then some (Char.ofNat point) else none

def octets? (points : List Nat) : Option (List UInt8) :=
  points.mapM fun point => if point < 0x100 then some (UInt8.ofNat point) else none

/-- A piece between quotation marks is read as one code point, whatever follows it. -/
def Reads (kind : Kind) (quote : Char) (piece : List Char) (point : Nat) : Prop :=
  ∀ tail, body? kind quote (piece ++ tail) =
    (body? kind quote tail).map fun found => (point :: found.1, found.2)

theorem body?_close (kind : Kind) (quote : Char) (rest : List Char) :
    body? kind quote (quote :: rest) = some ([], rest) := by
  rw [body?, if_pos (beq_self_eq_true quote)]

/-- A piece that is read does not start with the quotation mark. -/
theorem Reads.head {piece : List Char}
    (reads : Reads kind quote piece point) : ∃ c tail, piece = c :: tail ∧ c ≠ quote := by
  have closing := reads [quote]
  rw [body?_close] at closing
  cases piece with
  | nil =>
      rw [List.nil_append, body?_close] at closing
      cases closing
  | cons c tail =>
      refine ⟨c, tail, rfl, ?_⟩
      rintro rfl
      rw [List.cons_append, body?_close] at closing
      cases closing

/-- Pieces that are read one by one are read together. -/
theorem body?_pieces {α : Type} {piece : α → List Char} {point : α → Nat} {items : List α}
    (reads : ∀ item ∈ items, Reads kind quote (piece item) (point item)) (rest : List Char) :
    body? kind quote (items.flatMap piece ++ quote :: rest) = some (items.map point, rest) := by
  induction items with
  | nil =>
      rw [List.flatMap_nil, List.nil_append, body?_close]
      rfl
  | cons item items ih =>
      rw [List.flatMap_cons, List.append_assoc, reads item List.mem_cons_self,
        ih fun other member => reads other (List.mem_cons_of_mem item member)]
      rfl

/-- What an escape reads as does not depend on what follows it. -/
theorem reads_escape (mark : isMark quote = true) {letters : List Char}
    (escaped : ∀ tail, escape? kind (letters ++ tail) = some ([point], letters.length)) :
    Reads kind quote ('\\' :: letters) point := by
  intro tail
  have other : ('\\' == quote) = false := by
    unfold isMark at mark
    grind
  rw [List.cons_append, body?, other, if_neg Bool.false_ne_true, if_pos (beq_self_eq_true '\\'),
    escaped]
  dsimp only
  rw [List.drop_left]
  rfl

theorem hexFixed_length (width value : Nat) : (Text.hexFixed width value).length = width := by
  induction width generalizing value with
  | zero => rfl
  | succ width ih => rw [Text.hexFixed, List.length_append, ih]; rfl

theorem hexDigit?_hexChar : ∀ value < 16, Text.hexDigit? (Text.hexChar value) = some value := by
  decide

theorem hexFixed_all (width value : Nat) :
    (Text.hexFixed width value).all Text.isHexDigit = true := by
  induction width generalizing value with
  | zero => rfl
  | succ width ih =>
      have digit := hexDigit?_hexChar (value % 16) (Nat.mod_lt _ (by decide))
      rw [Text.hexFixed, List.all_append, ih, List.all_cons, Text.isHexDigit, digit]
      rfl

theorem ofHex_hexFixed (width value : Nat) :
    Text.ofHex (Text.hexFixed width value) = value % 16 ^ width := by
  induction width generalizing value with
  | zero => rw [Nat.pow_zero, Nat.mod_one]; rfl
  | succ width ih =>
      have digit := hexDigit?_hexChar (value % 16) (Nat.mod_lt _ (by decide))
      have step : Text.ofHex (Text.hexFixed (width + 1) value) =
          16 * Text.ofHex (Text.hexFixed width (value / 16)) + value % 16 := by
        rw [Text.hexFixed, Text.ofHex, List.foldl_append]
        simp only [List.foldl_cons, List.foldl_nil, digit, Option.getD_some]
        rfl
      rw [step, ih, Nat.pow_succ, Nat.mul_comm (16 ^ width), Nat.mod_mul]
      omega

theorem hexPoint?_hexFixed {width value : Nat} (small : value < 16 ^ width) (tail : List Char) :
    hexPoint? width (Text.hexFixed width value ++ tail) = some value := by
  have taken : (Text.hexFixed width value ++ tail).take width = Text.hexFixed width value :=
    List.take_left' (hexFixed_length width value)
  simp [hexPoint?, taken, hexFixed_all, hexFixed_length, ofHex_hexFixed,
    Nat.mod_eq_of_lt small]

/-- A code point is read from its escape by number. Only text knows the wider escapes. -/
theorem reads_escapePoint (mark : isMark quote = true)
    (small : point < 16 ^ 8) (fits : kind = .text ∨ point < 0x100) :
    Reads kind quote (escapePoint point) point := by
  unfold escapePoint
  split
  · rename_i narrow
    refine reads_escape mark fun tail => ?_
    rw [List.cons_append, escape?, hexPoint?_hexFixed narrow tail]
    simp [letterPoint?, hexFixed_length]
  · rename_i wide
    obtain rfl : kind = .text := fits.resolve_right wide
    split
    · rename_i narrow
      refine reads_escape mark fun tail => ?_
      rw [List.cons_append, escape?, hexPoint?_hexFixed narrow tail]
      simp [letterPoint?, hexFixed_length, isOctal]
    · refine reads_escape mark fun tail => ?_
      rw [List.cons_append, escape?, hexPoint?_hexFixed small tail]
      simp [letterPoint?, hexFixed_length, isOctal]

theorem allows_of_isPrintable {c : Char} (printable : Text.isPrintable c = true)
    (fits : kind = .text ∨ c.toNat < 0x80) : kind.allows c = true := by
  have visible : 0x20 ≤ c.toNat := by
    unfold Text.isPrintable at printable
    split at printable
    · exact of_decide_eq_true (Bool.and_eq_true_iff.1 printable).1
    · omega
  have notNull : c ≠ '\x00' := by
    rintro rfl
    exact absurd visible (by decide)
  have notReturn : c ≠ '\r' := by
    rintro rfl
    exact absurd visible (by decide)
  simp [Kind.allows, notNull, notReturn, fits]

/-- A character is read from how it is written between quotation marks. -/
theorem reads_escapeChar (mark : isMark quote = true) {c : Char}
    (fits : kind = .text ∨ c.toNat < 0x80) : Reads kind quote (escapeChar quote c) c.toNat := by
  unfold escapeChar
  split
  · rename_i special
    refine reads_escape mark fun tail => ?_
    have letter : letterPoint? c = some c.toNat := by
      simp only [isMark, Bool.or_eq_true, beq_iff_eq] at mark special
      rcases special with rfl | rfl
      · rcases mark with rfl | rfl <;> rfl
      · rfl
    rw [List.cons_append, escape?, letter]
    rfl
  · rename_i plain
    split
    · rename_i tab
      rw [beq_iff_eq.1 tab]
      exact reads_escape mark fun _ => rfl
    · split
      · rename_i newline
        rw [beq_iff_eq.1 newline]
        exact reads_escape mark fun _ => rfl
      · rename_i notNewline
        split
        · rename_i isReturn
          rw [beq_iff_eq.1 isReturn]
          exact reads_escape mark fun _ => rfl
        · split
          · rename_i printable
            intro tail
            have allowed := allows_of_isPrintable printable fits
            simp only [Bool.or_eq_true, beq_iff_eq, not_or] at plain notNewline
            rw [List.cons_append, List.nil_append, body?]
            simp [plain.1, plain.2, notNewline, allowed]
          · have wide : kind = .text ∨ c.toNat < 0x100 :=
              fits.imp_right fun small => Nat.lt_trans small (by decide)
            exact reads_escapePoint mark c.val.toNat_lt wide

theorem isMark_mark : isMark (mark text) = true := by
  unfold mark
  split <;> rfl

/-- A byte is read from how it is written between quotation marks. -/
theorem reads_escapeByte (mark : isMark quote = true) (byte : UInt8) :
    Reads .bytes quote (escapeByte quote byte) byte.toNat := by
  have bound := byte.toNat_lt
  unfold escapeByte
  split
  · rename_i small
    have small : byte.toNat < 0x80 := small
    have same : (Char.ofNat byte.toNat).toNat = byte.toNat := by
      have valid : byte.toNat.isValidChar := Or.inl (by omega)
      rw [Char.ofNat, dif_pos valid]
      rfl
    have reads := reads_escapeChar mark (c := Char.ofNat byte.toNat)
      (Or.inr (same.symm ▸ small) : Kind.bytes = .text ∨ _)
    rw [same] at reads
    exact reads
  · exact reads_escapePoint mark (Nat.lt_trans bound (by decide)) (Or.inr bound)

theorem characters?_points : characters? (text.map Char.toNat) = some text := by
  have back : ∀ c : Char,
      (if c.toNat.isValidChar then some (Char.ofNat c.toNat) else none) = some c := by
    intro c
    have valid : c.toNat.isValidChar := c.valid
    rw [if_pos valid, Char.ofNat_toNat]
  induction text with
  | nil => rfl
  | cons c text ih =>
      unfold characters? at ih ⊢
      rw [List.map_cons, List.mapM_cons, back, ih]
      rfl

theorem octets?_points (data : List UInt8) : octets? (data.map UInt8.toNat) = some data := by
  have back : ∀ byte : UInt8,
      (if byte.toNat < 0x100 then some (UInt8.ofNat byte.toNat) else none) = some byte := by
    intro byte
    rw [if_pos byte.toNat_lt, UInt8.ofNat_toNat]
  induction data with
  | nil => rfl
  | cons byte data ih =>
      unfold octets? at ih ⊢
      rw [List.map_cons, List.mapM_cons, back, ih]
      rfl

/-- Pieces in quotation marks are read whole if no mark follows them. -/
theorem points?_pieces {α : Type} (mark : isMark quote = true)
    {piece : α → List Char} {point : α → Nat} {items : List α}
    (reads : ∀ item ∈ items, Reads kind quote (piece item) (point item))
    (closed : ∀ c ∈ rest.head?, isMark c = false) :
    points? kind (quote :: items.flatMap piece ++ [quote] ++ rest) =
      some (items.map point, rest) := by
  have body := body?_pieces reads rest
  have single : [quote, quote].isPrefixOf (items.flatMap piece ++ quote :: rest) = false := by
    cases items with
    | nil =>
        cases rest with
        | nil => simp
        | cons next rest =>
            have other : quote ≠ next := by
              rintro rfl
              exact absurd mark (ne_true_of_eq_false (closed quote rfl))
            simp [List.isPrefixOf, other]
    | cons item items =>
        obtain ⟨c, tail, same, other⟩ := (reads item List.mem_cons_self).head
        rw [List.flatMap_cons, same]
        simp [List.isPrefixOf, Ne.symm other]
  rw [List.cons_append, List.cons_append, List.append_assoc, List.singleton_append, points?, mark,
    single, body]
  rfl

/-- A text is read back from its quoted form. -/
theorem points?_encode (closed : ∀ c ∈ rest.head?, isMark c = false) :
    points? .text (encode text ++ rest) = some (text.map Char.toNat, rest) := by
  refine points?_pieces (isMark_mark text) ?_ closed
  intro c _
  exact reads_escapeChar (isMark_mark text) (Or.inl rfl)

/-- Bytes are read back from their quoted form. -/
theorem points?_encodeBytes (data : List UInt8) (closed : ∀ c ∈ rest.head?, isMark c = false) :
    points? .bytes ((encodeBytes data).tail ++ rest) = some (data.map UInt8.toNat, rest) := by
  refine points?_pieces (isMark_mark _) ?_ closed
  intro byte _
  exact reads_escapeByte (isMark_mark _) byte

end BrowserScript.Quoted
