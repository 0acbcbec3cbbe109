import BrowserScript.Proofs.Css.Lexemes
import BrowserScript.Proofs.Css.Spelling

/-!
# Components read back from their text

Where no token goes on with the text that follows it, the text of components is read as these
components again: token by token, and by the brackets around them.
-/

namespace BrowserScript.Css

variable {c : Char} {rest after : List Char}
variable {left name : String}

/-! ## Where tokens end -/

/-- Whether a text starts with a range of code points, or with the end of a comment of markup. -/
def startsOther : List Char → Bool
  | c :: rest =>
      (c == 'u' || c == 'U') && startsUnicodeRange rest || c == '-' && ['-', '>'].isPrefixOf rest
  | [] => false

def hashText (name : String) (isIdent : Bool) : String :=
  if isIdent then identText name else nameText name.toList

/-- The token ends before the text that follows it: its spelling does not go on. A number, an
address, a range or punctuation is what a scan finds there. -/
def Component.EndsBefore (after : List Char) : Component → Prop
  | .ident name =>
      name ≠ "" ∧ startsHashName after = false ∧ StartsOutside (· == '(') after
        ∧ startsOther ((identText name).toList ++ after) = false
  | .atKeyword name => name ≠ "" ∧ startsHashName after = false
  | .hash name isIdent =>
      name ≠ "" ∧ startsHashName after = false
        ∧ isIdentStart ((hashText name isIdent).toList ++ after) = isIdent
  | .string _ closed => closed = true
  | .whitespace text =>
      text ≠ "" ∧ (∀ c ∈ text.toList, isSpace c = true) ∧ StartsOutside isSpace after
  | token =>
      ∃ c rest, token.text.toList ++ after = c :: rest ∧ scanLexemes c rest = ([.leaf token], after)

theorem lexemes_of_isIdentStart {text : List Char} (starts : isIdentStart text = true)
    (word : startsOther text = false) :
    lexemes text = (scanIdent text).1 ++ lexemes (scanIdent text).2 := by
  cases text with
  | nil => cases starts
  | cons c rest =>
      have blank : isSpace c = false := by
        rw [Bool.eq_false_iff]
        intro space
        simp only [isSpace, Bool.or_eq_true, beq_iff_eq] at space
        rcases space with (rfl | rfl) | rfl <;> cases starts
      obtain ⟨range, comment⟩ := Bool.or_eq_false_iff.1 word
      rw [lexemes_cons, scanLexemes_eq, blank, range, comment, starts]
      rfl

theorem lexemes_ident (ends : (Component.ident name).EndsBefore after) :
    lexemes ((Component.ident name).text.toList ++ after) =
      .leaf (.ident name) :: lexemes after := by
  obtain ⟨named, stops, opens, word⟩ := ends
  rw [Component.text, lexemes_of_isIdentStart (isIdentStart_identText named after) word,
    scanIdent_eq, scanName_identText name stops]
  cases after with
  | nil => simp
  | cons c after =>
      have other : c ≠ '(' := by simpa using startsOutside_cons.1 opens
      simp [other]

theorem lexemes_function (named : name ≠ "")
    (word : startsOther ((identText name).toList ++ '(' :: rest) = false)
    (quoted : name.toList.map Char.toLower = ['u', 'r', 'l'] →
      startsQuoted (rest.dropWhile isSpace) = true) :
    lexemes ((identText name).toList ++ '(' :: rest) = .openFunction name :: lexemes rest := by
  have function : (name.toList.map Char.toLower == ['u', 'r', 'l']
      && !startsQuoted (rest.dropWhile isSpace)) = false := by
    rw [Bool.and_eq_false_imp, beq_iff_eq]
    exact fun url => by rw [quoted url]; rfl
  rw [lexemes_of_isIdentStart (isIdentStart_identText named _) word, scanIdent_eq,
    scanName_identText name rfl]
  simp [function]

theorem lexemes_hash {isIdent : Bool} (ends : (Component.hash name isIdent).EndsBefore after) :
    lexemes ((Component.hash name isIdent).text.toList ++ after) =
      .leaf (.hash name isIdent) :: lexemes after := by
  obtain ⟨named, stops, starts⟩ := ends
  have text :
      (Component.hash name isIdent).text.toList = '#' :: (hashText name isIdent).toList := by
    simp [Component.text, hashText]
  have found : scanName ((hashText name isIdent).toList ++ after) = (name.toList, after) := by
    cases isIdent with
    | true => exact scanName_identText name stops
    | false => exact scanName_nameText name.toList stops
  have goes : startsHashName ((hashText name isIdent).toList ++ after) = true := by
    rw [← Bool.not_eq_false]
    intro none
    have empty := (scanName_of_not_starts none).symm.trans found
    exact named (String.toList_eq_nil_iff.1 (Prod.mk.inj empty).1.symm)
  rw [text, List.cons_append, lexemes_cons]
  change (if startsHashName _ then _ else _ : List Lexeme × List Char).1
    ++ lexemes (if startsHashName _ then _ else _ : List Lexeme × List Char).2 = _
  rw [if_pos goes, found, starts, String.ofList_toList]
  rfl

theorem lexemes_atKeyword (ends : (Component.atKeyword name).EndsBefore after) :
    lexemes ((Component.atKeyword name).text.toList ++ after) =
      .leaf (.atKeyword name) :: lexemes after := by
  obtain ⟨named, stops⟩ := ends
  have text : (Component.atKeyword name).text.toList = '@' :: (identText name).toList := by
    simp [Component.text]
  rw [text, List.cons_append, lexemes_cons]
  change (if isIdentStart _ then _ else _ : List Lexeme × List Char).1
    ++ lexemes (if isIdentStart _ then _ else _ : List Lexeme × List Char).2 = _
  rw [if_pos (isIdentStart_identText named after), scanName_identText name stops,
    String.ofList_toList]
  rfl

theorem lexemes_string (value : String) (after : List Char) :
    lexemes ((Component.string value true).text.toList ++ after) =
      .leaf (.string value true) :: lexemes after := by
  have text : (Component.string value true).text.toList ++ after =
      '"' :: ((value.toList.flatMap fun c => (stringCharText c).toList) ++ '"' :: after) := by
    simp [Component.text, List.flatMap_map]
  rw [text, lexemes_cons]
  change (scanQuoted '"' _).1 ++ lexemes (scanQuoted '"' _).2 = _
  simp [scanQuoted, scanString_text]

theorem lexemes_whitespace {text : String} (ends : (Component.whitespace text).EndsBefore after) :
    lexemes ((Component.whitespace text).text.toList ++ after) =
      .leaf (.whitespace text) :: lexemes after := by
  obtain ⟨filled, blank, stops⟩ := ends
  obtain ⟨c, others, whole⟩ := List.exists_cons_of_ne_nil (mt String.toList_eq_nil_iff.1 filled)
  have same : text = String.ofList (c :: others) := by rw [← whole, String.ofList_toList]
  rw [whole, List.forall_mem_cons] at blank
  obtain ⟨run, left⟩ := takeWhile_append_outside blank.2 stops
  rw [Component.text, whole, List.cons_append, lexemes_cons, scanLexemes_eq, if_pos blank.1, run,
    left, ← same]
  rfl

/-- A token that ends before what follows it reads back from its text. -/
theorem lexemes_token {token : Component} (ends : token.EndsBefore after) :
    lexemes (token.text.toList ++ after) = .leaf token :: lexemes after := by
  have scanned (found : ∃ c rest, token.text.toList ++ after = c :: rest
      ∧ scanLexemes c rest = ([.leaf token], after)) :
      lexemes (token.text.toList ++ after) = .leaf token :: lexemes after := by
    obtain ⟨c, rest, text, step⟩ := found
    rw [text, lexemes_cons, step]
    rfl
  cases token with
  | ident name => exact lexemes_ident ends
  | atKeyword name => exact lexemes_atKeyword ends
  | hash name isIdent => exact lexemes_hash ends
  | string value closed =>
      subst ends
      exact lexemes_string value after
  | whitespace text => exact lexemes_whitespace ends
  | _ => exact scanned ends

/-! ## Brackets -/

def Bracket.opener : Bracket → Char
  | .round => '('
  | .square => '['
  | .curly => '\x7b'

def Bracket.closer : Bracket → Char
  | .round => ')'
  | .square => ']'
  | .curly => '\x7d'

def closers : List Char := [')', ']', '\x7d']

def closerOf (frames : List Frame) : Option Char := frames.head?.bind (·.opening.closer?)

/-- The text of the components after one of them, and what follows them all. -/
def textAfter (component : Component) (others : List Component) (after : List Char) : List Char :=
  (serializeAfter component.kind others).toList ++ after

/-- Components inside a bracket, and before a text, whose tokens all end where their text ends. -/
inductive Legible : Option Char → List Char → List Component → Prop where
  | nil {closer : Option Char} {after : List Char} : Legible closer after []
  | token {closer : Option Char} {after : List Char} {token : Component} {others : List Component}
      (visible : token.kind ≠ "\\") (ends : token.EndsBefore (textAfter token others after))
      (rest : Legible closer after others) : Legible closer after (token :: others)
  | unmatched {closer : Option Char} {after : List Char} {bracket : Char} {others : List Component}
      (closes : bracket ∈ closers) (outside : closer ≠ some bracket)
      (rest : Legible closer after others) :
      Legible closer after (.damaged (.unmatched bracket) :: others)
  | block {closer : Option Char} {after : List Char} {bracket : Bracket}
      {content others : List Component}
      (inside : Legible (some bracket.closer)
        (bracket.closer :: textAfter (.block bracket content) others after) content)
      (rest : Legible closer after others) : Legible closer after (.block bracket content :: others)
  | function {closer : Option Char} {after text : List Char} {name : String}
      {arguments others : List Component}
      (spelled : text = (serializeAfter "" arguments).toList
        ++ ')' :: textAfter (.function name arguments) others after)
      (named : name ≠ "") (word : startsOther ((identText name).toList ++ '(' :: text) = false)
      (quoted : name.toList.map Char.toLower = ['u', 'r', 'l'] →
        startsQuoted (text.dropWhile isSpace) = true)
      (closed : endsInString arguments = false)
      (inside : Legible (some ')') (')' :: textAfter (.function name arguments) others after)
        arguments)
      (rest : Legible closer after others) :
      Legible closer after (.function name arguments :: others)

theorem lexemes_separator (visible : left ≠ "\\") (component : Component) (rest : List Char) :
    lexemes ((separator left component).toList ++ rest) = lexemes rest := by
  unfold separator
  split
  · exact lexemes_cons '/' ('*' :: '*' :: '/' :: rest)
  · rw [if_neg (by simpa using visible)]
    rfl

theorem lexemes_serializeAfter (visible : left ≠ "\\") (component : Component)
    (others : List Component) (after : List Char) :
    lexemes ((serializeAfter left (component :: others)).toList ++ after) =
      lexemes (component.text.toList ++ textAfter component others after) := by
  rw [serializeAfter, String.toList_append, String.toList_append, List.append_assoc,
    List.append_assoc, lexemes_separator visible, textAfter]

theorem lexemes_closer (closes : c ∈ closers) (rest : List Char) :
    lexemes (c :: rest) = .closeBracket c :: lexemes rest := by
  simp only [closers, List.mem_cons, List.not_mem_nil, or_false] at closes
  rcases closes with rfl | rfl | rfl <;> exact lexemes_cons _ _

theorem nest_unmatched {frames : List Frame} {current : List Component} {lexemes : List Lexeme}
    (outside : closerOf frames ≠ some c) :
    nest frames current (.closeBracket c :: lexemes) =
      nest frames (.damaged (.unmatched c) :: current) lexemes := by
  cases frames with
  | nil => rfl
  | cons frame outer =>
      have other : (frame.opening.closer? == some c) = false := beq_eq_false_iff_ne.2 outside
      rw [nest, other]
      rfl

/-- What a bracket encloses becomes its content, if it reads back. -/
theorem nest_enclosed {opening : Lexeme} {outer : List Frame} {before content : List Component}
    {inside : List Char} (closer : opening.closer? = some c) (closes : c ∈ closers)
    (reads : nest (⟨opening, before⟩ :: outer) [] (lexemes (inside ++ c :: rest)) =
      nest (⟨opening, before⟩ :: outer) (content.reverse ++ []) (lexemes (c :: rest))) :
    nest outer before (opening :: lexemes (inside ++ c :: rest)) =
      nest outer (Frame.close ⟨opening, before⟩ content) (lexemes rest) := by
  have opens (found : List Lexeme) :
      nest outer before (opening :: found) = nest (⟨opening, before⟩ :: outer) [] found := by
    cases opening with
    | leaf _ => cases closer
    | openBracket _ => rfl
    | openFunction _ => rfl
    | closeBracket _ => cases closer
  rw [opens, reads, lexemes_closer closes, nest, closer, beq_self_eq_true, if_pos rfl,
    List.append_nil, List.reverse_reverse]

/-- Legible components read back from their text, up to what follows it. -/
theorem nest_serializeAfter {closer : Option Char} {components : List Component}
    (legible : Legible closer after components) (visible : left ≠ "\\")
    {frames : List Frame} (inner : closerOf frames = closer) (current : List Component) :
    nest frames current (lexemes ((serializeAfter left components).toList ++ after)) =
      nest frames (components.reverse ++ current) (lexemes after) := by
  -- Both the frames and the last kind change inside a bracket, so the induction is for all of them.
  induction legible generalizing left frames current with
  | nil => rfl
  | token visible' ends rest ih =>
      rw [lexemes_serializeAfter visible, lexemes_token ends, nest, textAfter, ih visible' inner]
      simp
  | @unmatched closer after bracket others closes outside rest ih =>
      have text : (Component.damaged (.unmatched bracket)).text.toList = [bracket] := by
        simp [Component.text, Damage.text]
      rw [lexemes_serializeAfter visible, text, List.singleton_append, lexemes_closer closes,
        nest_unmatched (inner ▸ outside), textAfter, ih (by simp [Component.kind]) inner]
      simp
  | @block closer after bracket content others inside rest ihInside ih =>
      have text : (Component.block bracket content).text.toList =
          bracket.opener :: ((serializeAfter "" content).toList ++ [bracket.closer]) := by
        cases bracket <;> simp [Component.text, Bracket.opener, Bracket.closer]
      have opens (found : List Char) :
          lexemes (bracket.opener :: found) = .openBracket bracket :: lexemes found := by
        cases bracket <;> exact lexemes_cons _ _
      have closer : Lexeme.closer? (.openBracket bracket) = some bracket.closer := by
        cases bracket <;> rfl
      have kind : (Component.block bracket content).kind ≠ "\\" := by
        cases bracket <;> simp [Component.kind]
      have reads := @ihInside "" (by decide) (⟨.openBracket bracket, current⟩ :: frames) closer []
      rw [lexemes_serializeAfter visible, text, List.cons_append, List.append_assoc,
        List.singleton_append, opens, nest_enclosed closer (by cases bracket <;> decide) reads,
        Frame.close, textAfter, ih kind inner]
      simp
  | @function closer after text name arguments others spelled named word quoted closed inside rest
      ihInside ih =>
      have whole : (Component.function name arguments).text.toList
          ++ textAfter (.function name arguments) others after =
            (identText name).toList ++ '(' :: text := by
        simp [Component.text, closed, spelled]
      have reads := @ihInside "" (by decide) (⟨.openFunction name, current⟩ :: frames) rfl []
      rw [lexemes_serializeAfter visible, whole, lexemes_function named word quoted, spelled,
        nest_enclosed rfl (by decide) reads, Frame.close, textAfter,
        ih (by simp [Component.kind]) inner]
      simp

/-- Legible components are what is read from their text. -/
theorem nest_serialize {components : List Component} (legible : Legible none [] components) :
    nest [] [] (lexemes (serialize components).toList) = components := by
  have reads := nest_serializeAfter legible (show "" ≠ "\\" by decide)
    (show closerOf [] = none from rfl) []
  rw [List.append_nil, List.append_nil, lexemes_nil] at reads
  rw [serialize, reads, nest]
  simp

end BrowserScript.Css
