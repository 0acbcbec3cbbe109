import BrowserScript.Css.Rule
import BrowserScript.Proofs.Css.Continuation

/-!
# Lexemes of a text that goes on

Every step of the scan takes at least one character, so that the lexemes of a text are those of its
first step and those of what the step left. A step that stops before the end of the text is taken
in the same way when the text goes on. So is the last step, if it found blank space or something
that closes a rule, and if no comment is open.
-/

namespace BrowserScript.Css

variable {more text longer : List Char}
variable {c : Char} {rest : List Char}

/-! ## The first step by what the text starts with -/

/-- The lexemes of a text that starts with neither blank space nor a name nor a number. -/
def scanMark (c : Char) (rest : List Char) : List Lexeme × List Char :=
  match c with
  | '@' =>
      if isIdentStart rest then
        let (name, after) := scanName rest
        ([.leaf (.atKeyword (String.ofList name))], after)
      else ([.leaf (.literal "@")], rest)
  | '#' =>
      if startsHashName rest then
        let (name, after) := scanName rest
        ([.leaf (.hash (String.ofList name) (isIdentStart rest))], after)
      else ([.leaf (.literal "#")], rest)
  | '\x7b' => ([.openBracket .curly], rest)
  | '[' => ([.openBracket .square], rest)
  | '(' => ([.openBracket .round], rest)
  | '\x7d' => ([.closeBracket c], rest)
  | ']' => ([.closeBracket c], rest)
  | ')' => ([.closeBracket c], rest)
  | '"' => scanQuoted c rest
  | '\'' => scanQuoted c rest
  | '/' =>
      match rest with
      | '*' :: tail => ([], skipComment tail)
      | _ => ([.leaf (.literal "/")], rest)
  | _ =>
      let (lexeme, after) := punctuation c rest
      ([lexeme], after)

theorem scanLexemes_eq (c : Char) (rest : List Char) :
    scanLexemes c rest =
      if isSpace c then
        ([.leaf (.whitespace (String.ofList (c :: rest.takeWhile isSpace)))],
         rest.dropWhile isSpace)
      else if (c == 'u' || c == 'U') && startsUnicodeRange rest then
        ([.leaf (scanUnicodeRange (rest.drop 1)).1], (scanUnicodeRange (rest.drop 1)).2)
      else if c == '-' && ['-', '>'].isPrefixOf rest then
        ([.leaf (.literal "-->")], rest.drop ['-', '>'].length)
      else if isIdentStart (c :: rest) then scanIdent (c :: rest)
      else
        match scanNumber? (c :: rest) with
        | some (shown, tail) => ([(scanQuantity shown tail).1], (scanQuantity shown tail).2)
        | none => scanMark c rest := rfl

/-! ## Every step takes something -/

theorem dropWhile_length (belongs : Char → Bool) (text : List Char) :
    (text.dropWhile belongs).length ≤ text.length :=
  (List.dropWhile_sublist belongs).length_le

theorem splitSign_length (text : List Char) : (splitSign text).2.length ≤ text.length := by
  unfold splitSign
  split <;> simp

theorem scanExponent_length (text : List Char) : (scanExponent text).2.length ≤ text.length := by
  cases text with
  | nil => exact Nat.le_refl 0
  | cons mark rest =>
      have sign := splitSign_length rest
      have run := dropWhile_length Char.isDigit (splitSign rest).2
      rw [scanExponent_cons]
      split
      · split
        · exact Nat.le_refl _
        · simp only [List.length_cons]
          omega
      · exact Nat.le_refl _

/-- A number takes at least one digit. -/
theorem scanNumber?_length {number : List Char × List Char}
    (found : scanNumber? text = some number) : number.2.length < text.length := by
  have sign := splitSign_length text
  have whole := dropWhile_length Char.isDigit (splitSign text).2
  rw [scanNumber?_eq] at found
  generalize (splitSign text).2 = body at *
  simp only at found
  split at found
  · rename_i fraction
    cases found
    have tail : ((body.dropWhile Char.isDigit).drop 1).length
        < (body.dropWhile Char.isDigit).length := by
      cases equal : body.dropWhile Char.isDigit with
      | nil => simp [equal, fractionOf] at fraction
      | cons c rest => simp
    have digits := dropWhile_length Char.isDigit ((body.dropWhile Char.isDigit).drop 1)
    have power :=
      scanExponent_length (((body.dropWhile Char.isDigit).drop 1).dropWhile Char.isDigit)
    simp only
    omega
  · split at found
    · rename_i digit
      cases found
      have tail : (body.dropWhile Char.isDigit).length < body.length := by
        have parts := congrArg List.length (List.takeWhile_append_dropWhile (p := Char.isDigit) (l := body))
        have some_ : 0 < (body.takeWhile Char.isDigit).length := by
          rw [List.length_pos_iff]
          simpa using digit
        rw [List.length_append] at parts
        omega
      have power := scanExponent_length (body.dropWhile Char.isDigit)
      simp only
      omega
    · cases found

theorem rangeFrom_length (first : Nat) (text : List Char) :
    (rangeFrom first text).2.length ≤ text.length := by
  unfold rangeFrom
  split
  · rename_i c rest
    split
    · exact Nat.le_trans (takeRun_length 6 Text.isHexDigit (c :: rest)) (by simp)
    · exact Nat.le_refl _
  · exact Nat.le_refl _

theorem scanUnicodeRange_length (text : List Char) :
    (scanUnicodeRange text).2.length ≤ text.length := by
  have digits := takeRun_length 6 Text.isHexDigit text
  have marks := takeRun_length (6 - (takeRun 6 Text.isHexDigit text).1.length) (· == '?')
    (takeRun 6 Text.isHexDigit text).2
  simp only [scanUnicodeRange_eq]
  split
  · exact Nat.le_trans marks digits
  · exact Nat.le_trans (rangeFrom_length _ _) (Nat.le_trans marks digits)

theorem scanName_length_of_isIdentStart
    (starts : isIdentStart (c :: rest) = true) : (scanName (c :: rest)).2.length ≤ rest.length := by
  rw [scanName]
  split
  · exact scanName_length rest
  · rename_i plain
    split
    · exact Nat.le_trans (scanName_length _) (scanEscape_length rest)
    · rename_i bare
      have hyphen : c ≠ '-' := by
        rintro rfl
        exact plain (by decide)
      simp [isIdentStart, bare] at starts
      simp [isNameChar, starts] at plain

theorem scanIdent_length
    (starts : isIdentStart (c :: rest) = true) : (scanIdent (c :: rest)).2.length ≤ rest.length := by
  have name := scanName_length_of_isIdentStart starts
  rw [scanIdent_eq]
  generalize scanName (c :: rest) = parts at *
  simp only
  split
  · rename_i tail opens
    rw [opens, List.length_cons] at name
    have space := dropWhile_length isSpace tail
    have address := scanUrl_length (tail.dropWhile isSpace)
    split
    · split <;> simp only <;> omega
    · simp only
      omega
  · exact name

theorem scanQuantity_length (shown tail : List Char) :
    (scanQuantity shown tail).2.length ≤ tail.length := by
  unfold scanQuantity
  split
  · exact scanName_length tail
  · split <;> simp

theorem scanQuoted_length (quote : Char) (text : List Char) :
    (scanQuoted quote text).2.length ≤ text.length := by
  have bound := scanString_length quote text
  unfold scanQuoted
  rcases found : scanString quote text with ⟨value, ending, after⟩
  rw [found] at bound
  cases ending <;> exact bound

theorem skipComment_length (text : List Char) : (skipComment text).length ≤ text.length := by
  fun_induction skipComment text with
  | case1 => exact Nat.le_refl 0
  | case2 rest => simp only [List.length_cons]; omega
  | case3 c rest _ ih => simp only [List.length_cons]; omega

theorem punctuation_length (c : Char) (rest : List Char) :
    (punctuation c rest).2.length ≤ rest.length := by
  rw [punctuation_eq]
  split
  · simp
  · split
    · simp
    · split <;> simp

theorem scanMark_length (c : Char) (rest : List Char) :
    (scanMark c rest).2.length ≤ rest.length := by
  unfold scanMark
  split
  · split
    · exact scanName_length rest
    · exact Nat.le_refl _
  · split
    · exact scanName_length rest
    · exact Nat.le_refl _
  · exact Nat.le_refl _
  · exact Nat.le_refl _
  · exact Nat.le_refl _
  · exact Nat.le_refl _
  · exact Nat.le_refl _
  · exact Nat.le_refl _
  · exact scanQuoted_length _ rest
  · exact scanQuoted_length _ rest
  · split
    · rename_i tail
      have bound := skipComment_length tail
      simp only [List.length_cons]
      omega
    · exact Nat.le_refl _
  · exact punctuation_length c rest

/-- A step of the scan takes the first character. -/
theorem scanLexemes_length (c : Char) (rest : List Char) :
    (scanLexemes c rest).2.length ≤ rest.length := by
  rw [scanLexemes_eq]
  split
  · exact dropWhile_length isSpace rest
  · split
    · exact Nat.le_trans (scanUnicodeRange_length _) (by simp)
    · split
      · simp
      · split
        · rename_i starts
          exact scanIdent_length starts
        · cases found : scanNumber? (c :: rest) with
          | none => exact scanMark_length c rest
          | some number =>
              have bound := scanNumber?_length found
              have unit := scanQuantity_length number.1 number.2
              simp only [List.length_cons] at bound
              exact Nat.le_trans unit (by omega)

@[simp] theorem lexemes_nil : lexemes [] = [] := by
  rw [lexemes]

theorem lexemes_cons (c : Char) (rest : List Char) :
    lexemes (c :: rest) = (scanLexemes c rest).1 ++ lexemes (scanLexemes c rest).2 := by
  rw [lexemes]
  exact if_pos (scanLexemes_length c rest)

/-! ## The last step -/

/-- Whether a component can end a style sheet that leaves no rule open: a block or a semicolon, or
what may stand between rules. -/
def Component.endsRule : Component → Bool
  | .block .curly _ => true
  | component => component.isLiteral ";" || Place.sheet.skips component

/-- Whether a lexeme can end a style sheet that leaves nothing open. -/
def Lexeme.settles : Lexeme → Bool
  | .leaf component => component.endsRule
  | .closeBracket bracket => bracket == '\x7d'
  | _ => false

/-- The lexemes end with one that can end a style sheet, if there is any. -/
def Settled (found : List Lexeme) : Prop := ∀ last ∈ found.getLast?, last.settles = true

/-- Whether a text starts with a comment that nothing closes. -/
def opensComment (c : Char) (rest : List Char) : Bool :=
  match c, rest with
  | '/', '*' :: tail => !closesComment tail
  | _, _ => false

/-- Whether a text ends in a comment that nothing closes. -/
def endsInComment (text : List Char) : Bool :=
  match text with
  | [] => false
  | c :: rest =>
      have := scanLexemes_length c rest
      opensComment c rest || endsInComment (scanLexemes c rest).2
termination_by text.length

theorem scanQuantity_unsettled (shown tail : List Char) :
    (scanQuantity shown tail).1.settles = false := by
  unfold scanQuantity
  split
  · rfl
  · split <;> rfl

theorem scanQuoted_unsettled (quote : Char) (text : List Char) :
    ¬ Settled (scanQuoted quote text).1 := by
  intro settled
  unfold scanQuoted at settled
  generalize scanString quote text = parts at settled
  obtain ⟨value, ending, after⟩ := parts
  cases ending with
  | _ => exact Bool.noConfusion (settled _ rfl)

theorem scanIdent_unsettled (text : List Char) : ¬ Settled (scanIdent text).1 := by
  intro settled
  rw [scanIdent_eq] at settled
  generalize scanName text = name at settled
  simp only at settled
  split at settled
  · split at settled
    · split at settled <;> exact Bool.noConfusion (settled _ rfl)
    · exact Bool.noConfusion (settled _ rfl)
  · exact Bool.noConfusion (settled _ rfl)

theorem scanMark_agrees (goes : GoesOn more text longer) (ends : (scanMark c text).2 = [] →
      Settled (scanMark c text).1 ∧ opensComment c text = false) :
    Agrees more (scanMark c text) (scanMark c longer) := by
  unfold scanMark at ends ⊢
  split at ends
  · have inside : isIdentStart text = true → (scanName text).2 ≠ [] := by
      intro starts ended
      simp only [starts, if_true] at ends
      exact Bool.noConfusion ((ends ended).1 _ rfl)
    simp only [isIdentStart_goesOn goes inside]
    split
    · rename_i starts
      obtain ⟨left, found, follows⟩ := scanName_agrees goes (inside starts)
      rw [found]
      exact ⟨left, rfl, follows⟩
    · exact ⟨_, rfl, goes⟩
  · have inside : startsHashName text = true → (scanName text).2 ≠ [] := by
      intro starts ended
      simp only [starts, if_true] at ends
      exact Bool.noConfusion ((ends ended).1 _ rfl)
    simp only [startsHashName_goesOn goes inside]
    split
    · rename_i starts
      obtain ⟨left, found, follows⟩ := scanName_agrees goes (inside starts)
      rw [found, isIdentStart_goesOn goes fun _ => inside starts]
      exact ⟨left, rfl, follows⟩
    · exact ⟨_, rfl, goes⟩
  · exact ⟨_, rfl, goes⟩
  · exact ⟨_, rfl, goes⟩
  · exact ⟨_, rfl, goes⟩
  · exact ⟨_, rfl, goes⟩
  · exact ⟨_, rfl, goes⟩
  · exact ⟨_, rfl, goes⟩
  · exact scanQuoted_agrees (by decide) goes fun ended =>
      scanQuoted_unsettled _ _ (ends ended).1
  · exact scanQuoted_agrees (by decide) goes fun ended =>
      scanQuoted_unsettled _ _ (ends ended).1
  · split at ends
    · rename_i tail
      obtain ⟨_, rfl, after⟩ := goes.tail (by decide)
      have closed : closesComment tail = true := by
        by_cases ended : skipComment tail = []
        · simpa [opensComment] using (ends ended).2
        · exact closesComment_of_left ended
      exact ⟨_, rfl, skipComment_goesOn after closed⟩
    · rename_i plain
      cases goes with
      | atEnd => exact ⟨_, rfl, .atEnd⟩
      | atBreak => exact ⟨_, rfl, .atBreak⟩
      | @cons c text longer rest =>
          have star : c ≠ '*' := by
            rintro rfl
            exact plain text rfl
          simpa [Agrees, star] using rest.cons c
  · obtain ⟨left, found, follows⟩ := punctuation_agrees c goes
    simp only [Agrees, found]
    exact ⟨left, rfl, follows⟩

/-- The lexemes at the start of a text are the same in the text that goes on. Those that took the
text to its end must leave nothing open there, and not be blank space. -/
theorem scanLexemes_agrees (goes : GoesOn more text longer) (ends : (scanLexemes c text).2 = [] →
      isSpace c = false ∧ Settled (scanLexemes c text).1 ∧ opensComment c text = false) :
    Agrees more (scanLexemes c text) (scanLexemes c longer) := by
  rw [scanLexemes_eq] at ends
  rw [scanLexemes_eq, scanLexemes_eq]
  have unicode := startsUnicodeRange_goesOn goes
  have arrow := goes.word (show '\n' ∉ ['-', '>'] by decide)
  rw [unicode, arrow.1]
  split
  · rename_i blank
    rw [if_pos blank] at ends
    have stops : text.dropWhile isSpace ≠ [] := by
      intro ended
      have := (ends ended).1
      simp [blank] at this
    obtain ⟨same, follows⟩ := goes.space stops
    rw [same]
    exact ⟨_, rfl, follows⟩
  · rename_i printed
    rw [if_neg printed] at ends
    split
    · rename_i ranged
      obtain ⟨_, _, rfl⟩ : ∃ digit rest, text = '+' :: digit :: rest := by
        unfold startsUnicodeRange at ranged
        split at ranged
        · exact ⟨_, _, rfl⟩
        · simp at ranged
      obtain ⟨_, rfl, after⟩ := goes.tail (by decide)
      obtain ⟨left, found, follows⟩ := scanUnicodeRange_agrees after
      simp only [List.drop_one, List.tail_cons, found]
      exact ⟨left, rfl, follows⟩
    · rename_i single
      rw [if_neg single] at ends
      split
      · rename_i closes
        exact ⟨_, rfl, arrow.2 (Bool.and_eq_true _ _ |>.mp closes).2⟩
      · rename_i bare
        rw [if_neg bare] at ends
        have inside : isIdentStart (c :: text) = true → (scanIdent (c :: text)).2 ≠ [] := by
          intro starts ended
          rw [if_pos starts] at ends
          exact scanIdent_unsettled _ (ends ended).2.1
        have within : isIdentStart (c :: text) = true → (scanName (c :: text)).2 ≠ [] := by
          intro starts ended
          apply inside starts
          simp [scanIdent_eq, ended]
        rw [isIdentStart_goesOn (goes.cons c) within]
        split
        · rename_i starts
          exact scanIdent_agrees (goes.cons c) (inside starts)
        · rename_i nameless
          rw [if_neg nameless] at ends
          rcases scanNumber?_agrees (goes.cons c) with
            ⟨short, long⟩ | ⟨short, long, found, found', agrees⟩
          · rw [short] at ends
            rw [short, long]
            exact scanMark_agrees goes fun ended => (ends ended).2
          · obtain ⟨tail, rfl, after⟩ := agrees
            rw [found] at ends
            have stops : (scanQuantity short.1 short.2).2 ≠ [] := by
              intro ended
              have settled : (scanQuantity short.1 short.2).1.settles = true :=
                (ends ended).2.1 _ rfl
              rw [scanQuantity_unsettled] at settled
              cases settled
            obtain ⟨left, quantity, follows⟩ := scanQuantity_agrees short.1 after stops
            rw [found, found']
            simp only [quantity]
            exact ⟨left, rfl, follows⟩

/-! ## The whole scan -/

theorem lexemes_space (blank : isSpace c = true) (rest : List Char) :
    ∃ shown, lexemes (c :: rest) = .leaf (.whitespace shown) :: lexemes (rest.dropWhile isSpace) := by
  rw [lexemes_cons, scanLexemes_eq, if_pos blank]
  exact ⟨_, rfl⟩

/-- Blank space before a text is one lexeme at most. -/
theorem lexemes_dropSpace (text : List Char) :
    lexemes text = lexemes (text.dropWhile isSpace) ∨
      ∃ shown, lexemes text = .leaf (.whitespace shown) :: lexemes (text.dropWhile isSpace) := by
  cases text with
  | nil => exact .inl rfl
  | cons c rest =>
      by_cases blank : isSpace c = true
      · rw [List.dropWhile_cons_of_pos blank]
        exact .inr (lexemes_space blank rest)
      · rw [List.dropWhile_cons_of_neg blank]
        exact .inl rfl

theorem Settled.of_append {first second : List Lexeme} (settled : Settled (first ++ second)) :
    Settled second := by
  intro last member
  refine settled last ?_
  rw [List.getLast?_append]
  rw [Option.mem_def] at member
  simp [member]

/-- The first step of a text that leaves nothing open is taken in the same way when the text goes
on, unless the text is blank. -/
theorem firstStep_agrees (goes : GoesOn more (c :: rest) longer)
    (printed : (c :: rest).dropWhile isSpace ≠ [])
    (settled : Settled ((scanLexemes c rest).1 ++ lexemes (scanLexemes c rest).2))
    (closed : opensComment c rest = false) :
    ∃ rest', longer = c :: rest' ∧ Agrees more (scanLexemes c rest) (scanLexemes c rest') := by
  obtain ⟨rest', rfl, after | ⟨rfl, rfl⟩⟩ := goes.of_cons
  · refine ⟨rest', rfl, scanLexemes_agrees after fun ended => ⟨?_, ?_, closed⟩⟩
    · cases blank : isSpace c with
      | false => rfl
      | true =>
          rw [scanLexemes_eq, if_pos blank] at ended
          rw [List.dropWhile_cons_of_pos blank] at printed
          exact absurd ended printed
    · rwa [ended, lexemes_nil, List.append_nil] at settled
  · exact absurd rfl printed

/-- The lexemes of a text that leaves nothing open, then blank space, then the lexemes of what
follows make up the lexemes of the text that goes on. Blank space at the end of the text and at the
start of what follows is part of the one between them. -/
theorem lexemes_goesOn {text longer : List Char} (goes : GoesOn more text longer)
    (settled : Settled (lexemes text)) (closed : endsInComment text = false) :
    ∃ shared blank,
      lexemes longer =
        shared ++ .leaf (.whitespace blank) :: lexemes (more.dropWhile isSpace) ∧
      (lexemes text = shared ∨
        ∃ last, lexemes text = shared ++ [.leaf (.whitespace last)]) := by
  match text with
  | [] =>
      obtain rfl := goes.of_nil
      obtain ⟨blank, found⟩ := lexemes_space (c := '\n') rfl more
      exact ⟨[], blank, found, .inl lexemes_nil⟩
  | c :: rest =>
      by_cases toEnd : (c :: rest).dropWhile isSpace = []
      · have blank : isSpace c = true := by
          cases printed : isSpace c with
          | true => rfl
          | false => simp [printed] at toEnd
        have left := goes.space_toEnd toEnd
        obtain ⟨rest', rfl, _⟩ := goes.of_cons
        rw [List.dropWhile_cons_of_pos blank] at toEnd left
        obtain ⟨last, found⟩ := lexemes_space blank rest
        obtain ⟨shown, found'⟩ := lexemes_space blank rest'
        rw [toEnd, lexemes_nil] at found
        rw [left] at found'
        exact ⟨[], shown, found', .inr ⟨last, found⟩⟩
      · rw [endsInComment, Bool.or_eq_false_iff] at closed
        rw [lexemes_cons] at settled
        obtain ⟨rest', rfl, left, found, follows⟩ :=
          firstStep_agrees goes toEnd settled closed.1
        have shorter := scanLexemes_length c rest
        obtain ⟨shared, blank, run, ends⟩ := lexemes_goesOn follows settled.of_append closed.2
        refine ⟨(scanLexemes c rest).1 ++ shared, blank, ?_, ?_⟩
        · rw [lexemes_cons, found, run, List.append_assoc]
        · rcases ends with same | ⟨last, same⟩
          · exact .inl (by rw [lexemes_cons, same])
          · exact .inr ⟨last, by rw [lexemes_cons, same, List.append_assoc]⟩
termination_by text.length

end BrowserScript.Css
