import BrowserScript.Css.Component
import BrowserScript.Number.Notation
import BrowserScript.Text.Digit

/-!
# From text to component values

Text is cut into lexemes from left to right, each the longest that its first characters allow; the
lexemes are then nested by their brackets. A closing bracket ends the innermost open one only if
the two match, and the end of the text closes everything. A text with an integer of too many digits
cannot be read.
-/

namespace BrowserScript.Css

/-- The text with one spelling of line breaks and without null characters. -/
def normalizeText : List Char → List Char
  | [] => []
  | '\r' :: '\n' :: rest => '\n' :: normalizeText rest
  | c :: rest =>
      (if c == '\r' || c == '\x0c' then '\n'
       else if c.toNat == 0 then Char.ofNat 0xfffd else c) :: normalizeText rest

def isSpace (c : Char) : Bool := c == ' ' || c == '\n' || c == '\t'

def isNameStart (c : Char) : Bool := c.isAlpha || c == '_' || 0x7f < c.toNat

def isNameChar (c : Char) : Bool := isNameStart c || c.isDigit || c == '-'

def isEscape : List Char → Bool
  | '\\' :: '\n' :: _ => false
  | '\\' :: _ => true
  | _ => false

def isIdentStart : List Char → Bool
  | [] => false
  | '-' :: rest =>
      (match rest with
       | c :: _ => isNameStart c || c == '-'
       | [] => false) || isEscape rest
  | c :: rest => isNameStart c || isEscape (c :: rest)

/-- The longest run of at most `limit` characters of a class, and what follows it. -/
def takeRun (limit : Nat) (belongs : Char → Bool) : List Char → List Char × List Char
  | [] => ([], [])
  | c :: rest =>
      match limit with
      | 0 => ([], c :: rest)
      | limit + 1 =>
          if belongs c then
            let (run, tail) := takeRun limit belongs rest
            (c :: run, tail)
          else ([], c :: rest)

theorem takeRun_length (limit : Nat) (belongs : Char → Bool) (text : List Char) :
    (takeRun limit belongs text).2.length ≤ text.length := by
  induction text generalizing limit with
  | nil => simp [takeRun]
  | cons c rest ih =>
      cases limit with
      | zero => simp [takeRun]
      | succ limit =>
          have bound := ih limit
          simp only [takeRun]
          split
          · exact Nat.le_succ_of_le bound
          · exact Nat.le_refl _

def dropSpace : List Char → List Char
  | c :: rest => if isSpace c then rest else c :: rest
  | [] => []

theorem dropSpace_length (text : List Char) : (dropSpace text).length ≤ text.length := by
  cases text with
  | nil => simp [dropSpace]
  | cons c rest => simp only [dropSpace]; split <;> simp

/-- The character that an escape denotes; the text starts after the backslash. -/
def scanEscape (text : List Char) : Char × List Char :=
  match takeRun 6 Text.isHexDigit text with
  | ([], _) =>
      match text with
      | c :: rest => (c, rest)
      | [] => (Char.ofNat 0xfffd, [])
  | (digits, tail) =>
      let point := Text.ofHex digits
      (if point == 0 then Char.ofNat 0xfffd else Text.ofCodePoint point, dropSpace tail)

theorem scanEscape_length (text : List Char) : (scanEscape text).2.length ≤ text.length := by
  have bound := takeRun_length 6 Text.isHexDigit text
  unfold scanEscape
  split
  · split <;> simp
  · rename_i digits tail _ found
    rw [found] at bound
    exact Nat.le_trans (dropSpace_length tail) bound

def scanName (text : List Char) : List Char × List Char :=
  match text with
  | [] => ([], [])
  | c :: rest =>
      if isNameChar c then
        let (name, tail) := scanName rest
        (c :: name, tail)
      else if isEscape (c :: rest) then
        have := scanEscape_length rest
        let (name, tail) := scanName (scanEscape rest).2
        ((scanEscape rest).1 :: name, tail)
      else ([], c :: rest)
termination_by text.length

theorem scanName_length (text : List Char) : (scanName text).2.length ≤ text.length := by
  fun_induction scanName text with
  | case1 => simp
  | case2 c rest _ name tail found ih => rw [found] at ih; simp at ih ⊢; omega
  | case3 c rest _ _ bound name tail found ih =>
      rw [found] at ih; simp at ih ⊢; omega
  | case4 => simp

inductive StringEnd where
  | closed
  | lineBreak
  | endOfText
  deriving DecidableEq

/-- The characters of a string up to its closing mark, how it ends, and what follows. -/
def scanString (quote : Char) (text : List Char) : List Char × StringEnd × List Char :=
  match text with
  | [] => ([], .endOfText, [])
  | c :: rest =>
      if c == quote then ([], .closed, rest)
      else if c == '\\' then
        match rest with
        | [] => ([], .endOfText, [])
        | '\n' :: tail => scanString quote tail
        | next :: tail =>
            have : (scanEscape (next :: tail)).2.length ≤ tail.length + 1 :=
              scanEscape_length (next :: tail)
            let (value, ending, after) := scanString quote (scanEscape (next :: tail)).2
            ((scanEscape (next :: tail)).1 :: value, ending, after)
      else if c == '\n' then ([], .lineBreak, c :: rest)
      else
        let (value, ending, after) := scanString quote rest
        (c :: value, ending, after)
termination_by text.length

theorem scanString_length (quote : Char) (text : List Char) :
    (scanString quote text).2.2.length ≤ text.length := by
  fun_induction scanString quote text <;> simp_all <;> omega

/-- The text after a broken address: up to the next closing bracket that is not escaped. -/
def skipBadUrl : List Char → List Char
  | [] => []
  | '\\' :: ')' :: rest => skipBadUrl rest
  | ')' :: rest => rest
  | _ :: rest => skipBadUrl rest

theorem skipBadUrl_length (text : List Char) : (skipBadUrl text).length ≤ text.length := by
  fun_induction skipBadUrl text <;> simp_all <;> omega

inductive UrlEnd where
  | closed
  | endOfText
  | broken
  deriving DecidableEq

def breaksUrl (c : Char) : Bool :=
  c == '"' || c == '\'' || c == '(' || c.toNat ≤ 8 || c.toNat == 0xb
    || (0xe ≤ c.toNat && c.toNat ≤ 0x1f) || c.toNat == 0x7f

/-- The end of an address after blank space, and what follows. -/
def endUrl (text : List Char) : UrlEnd × List Char :=
  match text.dropWhile isSpace with
  | [] => (.endOfText, [])
  | ')' :: rest => (.closed, rest)
  | other => (.broken, skipBadUrl other)

theorem endUrl_length (text : List Char) : (endUrl text).2.length ≤ text.length := by
  have bound : (text.dropWhile isSpace).length ≤ text.length :=
    (List.dropWhile_sublist isSpace).length_le
  unfold endUrl
  split
  · simp
  · rename_i rest found; rw [found] at bound; simp at bound ⊢; omega
  · exact Nat.le_trans (skipBadUrl_length _) bound

/-- The characters of an address after its first blanks, how it ends, and what follows. -/
def scanUrl (text : List Char) : List Char × UrlEnd × List Char :=
  match text with
  | [] => ([], .endOfText, [])
  | c :: rest =>
      if c == ')' then ([], .closed, rest)
      else if isSpace c then
        let (ending, after) := endUrl rest
        ([], ending, after)
      else if isEscape (c :: rest) then
        have := scanEscape_length rest
        let (value, ending, after) := scanUrl (scanEscape rest).2
        ((scanEscape rest).1 :: value, ending, after)
      else if breaksUrl c then ([], .broken, skipBadUrl rest)
      else
        let (value, ending, after) := scanUrl rest
        (c :: value, ending, after)
termination_by text.length

theorem scanUrl_length (text : List Char) : (scanUrl text).2.2.length ≤ text.length := by
  fun_induction scanUrl text with
  | case1 => simp
  | case2 => simp
  | case3 c rest _ _ ending after found =>
      have bound := endUrl_length rest
      rw [found] at bound
      simp at bound ⊢; omega
  | case4 c rest _ _ _ bound value ending after found ih =>
      rw [found] at ih; simp at ih ⊢; omega
  | case5 c rest => have bound := skipBadUrl_length rest; simp; omega
  | case6 c rest _ _ _ _ value ending after found ih =>
      rw [found] at ih; simp at ih ⊢; omega

def scanExponent (text : List Char) : List Char × List Char :=
  match text with
  | mark :: rest =>
      if mark == 'e' || mark == 'E' then
        let (sign, digits) :=
          match rest with
          | '+' :: tail => (['+'], tail)
          | '-' :: tail => (['-'], tail)
          | other => ([], other)
        let run := digits.takeWhile Char.isDigit
        if run.isEmpty then ([], text) else (mark :: sign ++ run, digits.dropWhile Char.isDigit)
      else ([], text)
  | [] => ([], [])

def scanNumber? (text : List Char) : Option (List Char × List Char) :=
  let (sign, body) :=
    match text with
    | '+' :: tail => (['+'], tail)
    | '-' :: tail => (['-'], tail)
    | other => ([], other)
  let whole := body.takeWhile Char.isDigit
  let tail := body.dropWhile Char.isDigit
  let fraction :=
    match tail with
    | '.' :: rest => rest.takeWhile Char.isDigit
    | _ => []
  if !fraction.isEmpty then
    let (power, after) := scanExponent ((tail.drop 1).dropWhile Char.isDigit)
    some (sign ++ whole ++ '.' :: fraction ++ power, after)
  else if !whole.isEmpty then
    let (power, after) := scanExponent tail
    some (sign ++ whole ++ power, after)
  else none

/-- The text after a comment, which starts after its opening mark. -/
def skipComment : List Char → List Char
  | [] => []
  | '*' :: '/' :: rest => rest
  | _ :: rest => skipComment rest

/-- A range of code points after its mark, and what follows it. -/
def scanUnicodeRange (text : List Char) : Component × List Char :=
  let (digits, tail) := takeRun 6 Text.isHexDigit text
  let (marks, after) := takeRun (6 - digits.length) (· == '?') tail
  let first := Text.ofHex digits
  if !marks.isEmpty then
    let scale := Nat.pow 16 marks.length
    (.unicodeRange (first * scale) (first * scale + (scale - 1)), after)
  else
    match after with
    | '-' :: c :: rest =>
        if Text.isHexDigit c then
          let (digits, after) := takeRun 6 Text.isHexDigit (c :: rest)
          (.unicodeRange first (Text.ofHex digits), after)
        else (.unicodeRange first first, after)
    | _ => (.unicodeRange first first, after)

inductive Lexeme where
  /-- A component that encloses nothing. -/
  | leaf (component : Component)
  | openBracket (bracket : Bracket)
  | openFunction (name : String)
  | closeBracket (bracket : Char)

/-- The lexemes of an identifier: itself, a function or an address. -/
def scanIdent (text : List Char) : List Lexeme × List Char :=
  let (name, tail) := scanName text
  match tail with
  | '(' :: rest =>
      let start := rest.dropWhile isSpace
      let quoted :=
        match start with
        | c :: _ => c == '"' || c == '\''
        | [] => false
      if name.map Char.toLower == ['u', 'r', 'l'] && !quoted then
        let (value, ending, after) := scanUrl start
        match ending with
        | .closed => ([.leaf (.url (String.ofList value) true)], after)
        | .endOfText =>
            ([.leaf (.url (String.ofList value) false), .leaf (.damaged .endInUrl)], after)
        | .broken => ([.leaf (.damaged .url)], after)
      else ([.openFunction (String.ofList name)], rest)
  | _ => ([.leaf (.ident (String.ofList name))], tail)

/-- The lexeme of a number: a dimension, a percentage or the number alone. -/
def scanQuantity (shown : List Char) (tail : List Char) : Lexeme × List Char :=
  if isIdentStart tail then
    let (unit, after) := scanName tail
    (.leaf (.dimension (String.ofList shown) (String.ofList unit)), after)
  else
    match tail with
    | '%' :: after => (.leaf (.percentage (String.ofList shown)), after)
    | _ => (.leaf (.number (String.ofList shown)), tail)

def scanQuoted (quote : Char) (text : List Char) : List Lexeme × List Char :=
  let (value, ending, after) := scanString quote text
  match ending with
  | .closed => ([.leaf (.string (String.ofList value) true)], after)
  | .endOfText =>
      ([.leaf (.string (String.ofList value) false), .leaf (.damaged .endInString)], after)
  | .lineBreak => ([.leaf (.damaged .string)], after)

def punctuation (c : Char) (rest : List Char) : Lexeme × List Char :=
  let literal (text : String) : Lexeme := .leaf (.literal text)
  match c, rest with
  | '<', '!' :: '-' :: '-' :: after => (literal "<!--", after)
  | '|', '|' :: after => (literal "||", after)
  | _, '=' :: after =>
      if "~|^$*".toList.contains c then (literal (String.ofList [c, '=']), after)
      else (literal c.toString, rest)
  | _, _ => (literal c.toString, rest)

/-- Whether a text goes on as a range of code points after its first letter. -/
def startsUnicodeRange : List Char → Bool
  | '+' :: c :: _ => Text.isHexDigit c || c == '?'
  | _ => false

def startsHashName : List Char → Bool
  | c :: rest => isNameChar c || isEscape (c :: rest)
  | [] => false

/-- The lexemes at the start of a text of at least one character, and what follows them. -/
def scanLexemes (c : Char) (rest : List Char) : List Lexeme × List Char :=
  if isSpace c then
    ([.leaf (.whitespace (String.ofList (c :: rest.takeWhile isSpace)))], rest.dropWhile isSpace)
  else if (c == 'u' || c == 'U') && startsUnicodeRange rest then
    let (range, after) := scanUnicodeRange (rest.drop 1)
    ([.leaf range], after)
  else if c == '-' && ['-', '>'].isPrefixOf rest then ([.leaf (.literal "-->")], rest.drop 2)
  else if isIdentStart (c :: rest) then scanIdent (c :: rest)
  else
    match scanNumber? (c :: rest) with
    | some (shown, tail) =>
        let (lexeme, after) := scanQuantity shown tail
        ([lexeme], after)
    | none =>
        match c with
        | '@' =>
            if isIdentStart rest then
              let (name, after) := scanName rest
              ([.leaf (.atKeyword (String.ofList name))], after)
            else ([.leaf (.literal "@")], rest)
        | '#' =>
            if startsHashName rest then
              let (name, after) := scanName rest
              ([.leaf (.hash (String.ofList name) (isIdentStart rest))], after)
            else ([.leaf (.literal "#")], rest)
        | '\x7b' => ([.openBracket .curly], rest)
        | '[' => ([.openBracket .square], rest)
        | '(' => ([.openBracket .round], rest)
        | '\x7d' => ([.closeBracket c], rest)
        | ']' => ([.closeBracket c], rest)
        | ')' => ([.closeBracket c], rest)
        | '"' => scanQuoted c rest
        | '\'' => scanQuoted c rest
        | '/' =>
            match rest with
            | '*' :: tail => ([], skipComment tail)
            | _ => ([.leaf (.literal "/")], rest)
        | _ =>
            let (lexeme, after) := punctuation c rest
            ([lexeme], after)

/-- All lexemes of a text. A step that consumed nothing would end the scan. -/
def lexemes (text : List Char) : List Lexeme :=
  match text with
  | [] => []
  | c :: rest =>
      let (found, after) := scanLexemes c rest
      if after.length ≤ rest.length then found ++ lexemes after else found
termination_by text.length

/-- An open bracket or function with the components before it, latest first. -/
structure Frame where
  /-- What the components collected next belong to. -/
  opening : Lexeme
  before : List Component

def Lexeme.closer? : Lexeme → Option Char
  | .openBracket .round => some ')'
  | .openBracket .square => some ']'
  | .openBracket .curly => some '\x7d'
  | .openFunction _ => some ')'
  | _ => none

/-- The components after a frame is closed with its content, latest first. -/
def Frame.close (frame : Frame) (content : List Component) : List Component :=
  match frame.opening with
  | .openBracket bracket => .block bracket content :: frame.before
  | .openFunction name => .function name content :: frame.before
  | _ => frame.before

/-- Nest lexemes by their brackets; `current` holds the components of the innermost open bracket,
latest first. -/
def nest (frames : List Frame) (current : List Component) : List Lexeme → List Component
  | [] => (frames.foldl (fun content frame => frame.close content.reverse) current).reverse
  | .leaf component :: rest => nest frames (component :: current) rest
  | .closeBracket bracket :: rest =>
      match frames with
      | frame :: outer =>
          if frame.opening.closer? == some bracket then
            nest outer (frame.close current.reverse) rest
          else nest frames (.damaged (.unmatched bracket) :: current) rest
      | [] => nest frames (.damaged (.unmatched bracket) :: current) rest
  | opening :: rest => nest (⟨opening, current⟩ :: frames) [] rest

/-- The number of digits of an integer with more digits than can be read. -/
def overlongInteger? (shown : String) : Option Nat :=
  let digits := (Numeral.splitSign shown.toList).2
  if digits.all Char.isDigit && integerDigitLimit < digits.length then some digits.length else none

def Lexeme.overlong? : Lexeme → Option Nat
  | .leaf (.number shown) => overlongInteger? shown
  | .leaf (.percentage shown) => overlongInteger? shown
  | .leaf (.dimension shown _) => overlongInteger? shown
  | _ => none

/-- The number of digits of the first integer of a text that is too long to be read. -/
def overlong? (text : String) : Option Nat :=
  (lexemes (normalizeText text.toList)).findSome? Lexeme.overlong?

def components (text : String) : List Component := nest [] [] (lexemes (normalizeText text.toList))

end BrowserScript.Css
