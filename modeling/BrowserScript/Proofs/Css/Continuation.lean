import BrowserScript.Css.Scan

/-!
# Scanning a text that goes on

A text goes on when a line break and more text follow its end. A scan that stops before the end of
the text finds the same in the text that goes on, and what it leaves goes on in the same way. The
classes of characters that make up names and numbers hold no line break, so that their runs end
where the text ends.
-/

namespace BrowserScript.Css

/-- The second text is the first one, a line break, and `more`. A line break that ends the first
text may be the one that follows it. -/
inductive GoesOn (more : List Char) : List Char → List Char → Prop where
  | atEnd : GoesOn more [] ('\n' :: more)
  | atBreak : GoesOn more ['\n'] ('\n' :: more)
  | cons (c : Char) {text longer : List Char} (rest : GoesOn more text longer) :
      GoesOn more (c :: text) (c :: longer)

/-- A scan of the longer text finds what the scan of the text found and leaves more. -/
def Agrees {α : Type} (more : List Char) (short long : α × List Char) : Prop :=
  ∃ left, long = (short.1, left) ∧ GoesOn more short.2 left

variable {more text longer : List Char}

namespace GoesOn

theorem of_nil (goes : GoesOn more [] longer) : longer = '\n' :: more := by
  cases goes
  rfl

/-- The first character stays the first one. -/
theorem of_cons {c : Char} (goes : GoesOn more (c :: text) longer) :
    ∃ rest, longer = c :: rest ∧ (GoesOn more text rest ∨ c = '\n' ∧ text = []) := by
  cases goes with
  | atBreak => exact ⟨more, rfl, .inr ⟨rfl, rfl⟩⟩
  | cons _ rest => exact ⟨_, rfl, .inl rest⟩

/-- Text after a character that is no line break goes on itself. -/
theorem tail {c : Char} (goes : GoesOn more (c :: text) longer) (visible : c ≠ '\n') :
    ∃ rest, longer = c :: rest ∧ GoesOn more text rest := by
  obtain ⟨rest, rfl, goes | ⟨equal, _⟩⟩ := goes.of_cons
  · exact ⟨rest, rfl, goes⟩
  · exact absurd equal visible

/-- Whatever starts the longer text starts the text, unless the text has ended. -/
theorem head {c : Char} (goes : GoesOn more text (c :: longer)) :
    text = [] ∧ c = '\n' ∨ ∃ rest, text = c :: rest := by
  cases goes with
  | atEnd => exact .inl ⟨rfl, rfl⟩
  | atBreak => exact .inr ⟨[], rfl⟩
  | cons _ rest => exact .inr ⟨_, rfl⟩

/-- The text starts with a word as before, and what follows the word goes on. -/
theorem word {word : List Char} (printed : '\n' ∉ word) (goes : GoesOn more text longer) :
    word.isPrefixOf longer = word.isPrefixOf text ∧
      (word.isPrefixOf text = true →
        GoesOn more (text.drop word.length) (longer.drop word.length)) := by
  induction word generalizing text longer with
  | nil => exact ⟨rfl, fun _ => goes⟩
  | cons first word ih =>
      obtain ⟨visible, printed⟩ := List.ne_and_not_mem_of_not_mem_cons printed
      cases goes with
      | cons c rest =>
          have := ih printed rest
          by_cases same : first = c
          · simpa [List.isPrefixOf, same] using this
          · simp [List.isPrefixOf, beq_eq_false_iff_ne.2 same]
      | _ => simp [List.isPrefixOf, beq_eq_false_iff_ne.2 visible.symm]

/-- A run of characters that are no line breaks ends where it ended. -/
theorem run {belongs : Char → Bool} (excluded : belongs '\n' = false)
    (goes : GoesOn more text longer) :
    longer.takeWhile belongs = text.takeWhile belongs ∧
      GoesOn more (text.dropWhile belongs) (longer.dropWhile belongs) := by
  induction goes with
  | atEnd => simpa [excluded] using GoesOn.atEnd
  | atBreak => simpa [excluded] using GoesOn.atBreak
  | cons c rest ih =>
      by_cases member : belongs c
      · simpa [member] using ih
      · simpa [member] using rest.cons c

/-- Blank space that ends before the end of the text ends where it ended. -/
theorem space (goes : GoesOn more text longer) (stops : text.dropWhile isSpace ≠ []) :
    longer.takeWhile isSpace = text.takeWhile isSpace ∧
      GoesOn more (text.dropWhile isSpace) (longer.dropWhile isSpace) := by
  induction goes with
  | atEnd => simp at stops
  | atBreak => simp [isSpace] at stops
  | cons c rest ih =>
      by_cases blank : isSpace c
      · simp only [List.dropWhile_cons, blank, if_true] at stops
        simpa [blank] using ih stops
      · simpa [blank] using rest.cons c

/-- Blank space up to the end of the text takes the blank space of what follows with it. -/
theorem space_toEnd (goes : GoesOn more text longer) (blank : text.dropWhile isSpace = []) :
    longer.dropWhile isSpace = more.dropWhile isSpace := by
  induction goes with
  | atEnd => simp [isSpace]
  | atBreak => simp [isSpace]
  | cons c rest ih =>
      by_cases member : isSpace c
      · simp only [List.dropWhile_cons, member, if_true] at blank ⊢
        exact ih blank
      · simp [member] at blank

end GoesOn

theorem takeRun_agrees (belongs : Char → Bool) (excluded : belongs '\n' = false) (limit : Nat)
    (goes : GoesOn more text longer) :
    Agrees more (takeRun limit belongs text) (takeRun limit belongs longer) := by
  induction goes generalizing limit with
  | atEnd => cases limit <;> simpa [Agrees, takeRun, excluded] using .atEnd
  | atBreak => cases limit <;> simpa [Agrees, takeRun, excluded] using .atBreak
  | @cons c text longer rest ih =>
      cases limit with
      | zero => exact ⟨_, rfl, rest.cons c⟩
      | succ limit =>
          by_cases member : belongs c
          · obtain ⟨left, found, goes⟩ := ih limit
            simpa [Agrees, takeRun, member, found] using goes
          · simpa [Agrees, takeRun, member] using rest.cons c

theorem dropSpace_goesOn (goes : GoesOn more text longer) (stops : dropSpace text ≠ []) :
    GoesOn more (dropSpace text) (dropSpace longer) := by
  cases goes with
  | atEnd => simp [dropSpace] at stops
  | atBreak => simp [dropSpace, isSpace] at stops
  | cons c rest =>
      by_cases blank : isSpace c
      · simpa [dropSpace, blank] using rest
      · simpa [dropSpace, blank] using rest.cons c

theorem isHexDigit_lineBreak : Text.isHexDigit '\n' = false := by decide

theorem scanEscape_agrees (goes : GoesOn more text longer) (stops : (scanEscape text).2 ≠ []) :
    Agrees more (scanEscape text) (scanEscape longer) := by
  obtain ⟨left, run, after⟩ := takeRun_agrees _ isHexDigit_lineBreak 6 goes
  unfold scanEscape at stops ⊢
  rcases found : takeRun 6 Text.isHexDigit text with ⟨digits, tail⟩
  rw [found] at run after stops
  rw [run]
  cases digits with
  | nil =>
      cases goes with
      | atEnd => simp at stops
      | atBreak => simp at stops
      | cons c rest => exact ⟨_, rfl, rest⟩
  | cons digit digits => exact ⟨_, rfl, dropSpace_goesOn after stops⟩

/-- A backslash that ends the text is an escape only there. -/
theorem isEscape_goesOn (goes : GoesOn more text longer) (inside : text ≠ ['\\']) :
    isEscape longer = isEscape text := by
  cases goes with
  | atEnd => rfl
  | atBreak => rfl
  | cons c rest =>
      by_cases mark : c = '\\'
      · subst mark
        cases rest with
        | atEnd => exact absurd rfl inside
        | atBreak => rfl
        | cons next rest =>
            by_cases escaped : next = '\n'
            · simp [isEscape, escaped]
            · simp [isEscape, escaped]
      · simp [isEscape, mark]

/-- An escape that ends before the text is an escape of the text that goes on, of the same
character. -/
theorem escape_agrees {c : Char} (goes : GoesOn more (c :: text) longer)
    (escape : isEscape (c :: text) = true) (stops : (scanEscape text).2 ≠ []) :
    ∃ rest, longer = c :: rest ∧ isEscape (c :: rest) = true ∧
      Agrees more (scanEscape text) (scanEscape rest) := by
  have visible : c ≠ '\n' := by
    rintro rfl
    simp [isEscape] at escape
  have inside : c :: text ≠ ['\\'] := by
    intro equal
    cases equal
    exact stops rfl
  obtain ⟨rest, rfl, after⟩ := goes.tail visible
  exact ⟨rest, rfl, (isEscape_goesOn goes inside).trans escape, scanEscape_agrees after stops⟩

/-- What is no escape is none in the text that goes on. -/
theorem isEscape_of_not (goes : GoesOn more text longer) (bare : ¬ isEscape text = true) :
    ¬ isEscape longer = true := by
  rw [isEscape_goesOn goes]
  · exact bare
  · rintro rfl
    exact bare rfl

@[simp] theorem scanName_nil : scanName [] = ([], []) := by
  rw [scanName]

theorem isNameChar_lineBreak : isNameChar '\n' = false := by decide

theorem scanName_agrees (goes : GoesOn more text longer) (stops : (scanName text).2 ≠ []) :
    Agrees more (scanName text) (scanName longer) := by
  fun_induction scanName text generalizing longer with
  | case1 => exact absurd rfl stops
  | case2 c rest member name tail found ih =>
      have visible : c ≠ '\n' := by rintro rfl; simp [isNameChar_lineBreak] at member
      obtain ⟨rest', rfl, after⟩ := goes.tail visible
      rw [found] at ih
      obtain ⟨left, found', goes⟩ := ih after stops
      rw [scanName, if_pos member, found']
      exact ⟨left, rfl, goes⟩
  | case3 c rest plain escape _ name tail found ih =>
      have inside : (scanEscape rest).2 ≠ [] := by
        intro ended
        rw [ended, scanName_nil] at found
        cases found
        exact stops rfl
      obtain ⟨rest', rfl, escape', ⟨after, first, goes⟩⟩ := escape_agrees goes escape inside
      rw [found] at ih
      obtain ⟨left, found', goes⟩ := ih goes stops
      rw [scanName, if_neg plain, if_pos escape', first, found']
      exact ⟨left, rfl, goes⟩
  | case4 c rest plain bare =>
      have bare' := isEscape_of_not goes bare
      obtain ⟨rest', rfl, _⟩ := goes.of_cons
      rw [scanName, if_neg plain, if_neg bare']
      exact ⟨_, rfl, goes⟩

theorem scanName_backslash : (scanName ['\\']).2 = [] := by
  have bare : isNameChar '\\' = false := by decide
  simp [scanName, bare, isEscape, scanEscape, takeRun]

theorem scanName_hyphen (rest : List Char) : (scanName ('-' :: rest)).2 = (scanName rest).2 := by
  rw [scanName, if_pos (by decide)]

/-- An identifier starts where one started, unless it took the text to its end. -/
theorem isIdentStart_goesOn (goes : GoesOn more text longer)
    (stops : isIdentStart text = true → (scanName text).2 ≠ []) :
    isIdentStart longer = isIdentStart text := by
  cases goes with
  | atEnd => rfl
  | atBreak => rfl
  | @cons c text longer rest =>
      by_cases hyphen : c = '-'
      · subst hyphen
        cases rest with
        | atEnd => rfl
        | atBreak => rfl
        | @cons next text longer rest =>
            have inside : next :: text ≠ ['\\'] := by
              intro equal
              rw [equal, scanName_hyphen] at stops
              exact stops rfl scanName_backslash
            simp only [isIdentStart, isEscape_goesOn (rest.cons next) inside]
      · have inside : c :: text ≠ ['\\'] := by
          intro equal
          rw [equal] at stops
          exact stops rfl scanName_backslash
        simp only [isIdentStart, isEscape_goesOn (rest.cons c) inside]

@[simp] theorem scanString_nil (quote : Char) : scanString quote [] = ([], .endOfText, []) := by
  rw [scanString]

theorem scanString_agrees {quote : Char} (visible : quote ≠ '\n') (goes : GoesOn more text longer)
    (stops : (scanString quote text).2.2 ≠ []) :
    ∃ left, scanString quote longer = ((scanString quote text).1, (scanString quote text).2.1, left) ∧
      GoesOn more (scanString quote text).2.2 left := by
  fun_induction scanString quote text generalizing longer with
  | case1 => exact absurd rfl stops
  | case2 c rest closes =>
      have same : c = quote := by simpa using closes
      obtain ⟨rest', rfl, after⟩ := goes.tail (same ▸ visible)
      refine ⟨rest', ?_, after⟩
      rw [scanString.eq_def]
      simp [closes]
  | case3 => exact absurd rfl stops
  | case4 c inside mark tail ih =>
      obtain rfl : c = '\\' := by simpa using mark
      obtain ⟨_, rfl, after⟩ := goes.tail (by decide)
      obtain ⟨tail', rfl, after | ⟨_, rfl⟩⟩ := after.of_cons
      · obtain ⟨left, found, goes⟩ := ih after stops
        refine ⟨left, ?_, goes⟩
        rw [← found, scanString.eq_def quote ('\\' :: _)]
        simp [inside]
      · simp at stops
  | case5 c inside mark next tail printed _ value ending left found ih =>
      obtain rfl : c = '\\' := by simpa using mark
      obtain ⟨_, rfl, after⟩ := goes.tail (by decide)
      have within : (scanEscape (next :: tail)).2 ≠ [] := by
        intro ended
        rw [ended, scanString_nil] at found
        cases found
        exact stops rfl
      obtain ⟨rest, first, follows⟩ := scanEscape_agrees after within
      obtain ⟨tail', rfl, _⟩ := after.of_cons
      rw [found] at ih
      obtain ⟨left', found', goes⟩ := ih follows stops
      refine ⟨left', ?_, goes⟩
      rw [scanString.eq_def quote ('\\' :: _)]
      simp [inside, first, found']
  | case6 c rest inside bare breaks =>
      obtain rfl : c = '\n' := by simpa using breaks
      obtain ⟨rest', rfl, _⟩ := goes.of_cons
      refine ⟨_, ?_, goes⟩
      rw [scanString.eq_def]
      simp [inside]
  | case7 c rest inside bare printed value ending left found ih =>
      obtain ⟨rest', rfl, after⟩ := goes.tail (by simpa using printed)
      rw [found] at ih
      obtain ⟨left', found', goes⟩ := ih after stops
      refine ⟨left', ?_, goes⟩
      rw [scanString.eq_def]
      simp [inside, bare, printed, found']

theorem skipBadUrl_goesOn (goes : GoesOn more text longer) (stops : skipBadUrl text ≠ []) :
    GoesOn more (skipBadUrl text) (skipBadUrl longer) := by
  fun_induction skipBadUrl text generalizing longer with
  | case1 => exact absurd rfl stops
  | case2 rest ih =>
      obtain ⟨_, rfl, after⟩ := goes.tail (by decide)
      obtain ⟨_, rfl, follows⟩ := after.tail (by decide)
      simpa [skipBadUrl] using ih follows stops
  | case3 rest =>
      obtain ⟨_, rfl, after⟩ := goes.tail (by decide)
      exact after
  | case4 c rest unescaped inside ih =>
      obtain ⟨rest', rfl, after | ⟨rfl, rfl⟩⟩ := goes.of_cons
      · have step : skipBadUrl (c :: rest') = skipBadUrl rest' := by
          refine skipBadUrl.eq_4 c rest' ?_ inside
          rintro tail mark rfl
          rcases after.head with ⟨_, equal⟩ | ⟨tail, equal⟩
          · exact absurd equal (by decide)
          · exact unescaped tail mark equal
        rw [step]
        exact ih after stops
      · exact absurd rfl stops

theorem endUrl_agrees (goes : GoesOn more text longer) (stops : (endUrl text).2 ≠ []) :
    Agrees more (endUrl text) (endUrl longer) := by
  have inside : text.dropWhile isSpace ≠ [] := by
    intro ended
    simp [endUrl, ended] at stops
  have after := (goes.space inside).2
  obtain ⟨c, tail, found⟩ := List.exists_cons_of_ne_nil inside
  rw [found] at after
  obtain ⟨tail', found', _⟩ := after.of_cons
  rw [found'] at after
  unfold endUrl at stops ⊢
  rw [found] at stops ⊢
  rw [found']
  by_cases closes : c = ')'
  · subst closes
    obtain ⟨_, equal, follows⟩ := after.tail (by decide)
    cases equal
    exact ⟨_, rfl, follows⟩
  · simp [closes] at stops ⊢
    exact ⟨_, rfl, skipBadUrl_goesOn after stops⟩

@[simp] theorem scanUrl_nil : scanUrl [] = ([], .endOfText, []) := by
  rw [scanUrl]

theorem scanUrl_agrees (goes : GoesOn more text longer) (stops : (scanUrl text).2.2 ≠ []) :
    ∃ left, scanUrl longer = ((scanUrl text).1, (scanUrl text).2.1, left) ∧
      GoesOn more (scanUrl text).2.2 left := by
  fun_induction scanUrl text generalizing longer with
  | case1 => exact absurd rfl stops
  | case2 c rest closes =>
      obtain ⟨rest', rfl, after⟩ := goes.tail (by rintro rfl; simp at closes)
      rw [scanUrl, if_pos closes]
      exact ⟨rest', rfl, after⟩
  | case3 c rest bare blank ending left found =>
      obtain ⟨rest', rfl, after | ⟨_, rfl⟩⟩ := goes.of_cons
      · obtain ⟨left', found', follows⟩ := endUrl_agrees after (by rw [found]; exact stops)
        rw [found] at found' follows
        rw [scanUrl, if_neg bare, if_pos blank, found']
        exact ⟨left', rfl, follows⟩
      · cases found
        exact absurd rfl stops
  | case4 c rest bare printed escape _ value ending left found ih =>
      have inside : (scanEscape rest).2 ≠ [] := by
        intro ended
        rw [ended, scanUrl_nil] at found
        cases found
        exact stops rfl
      obtain ⟨rest', rfl, escape', ⟨after, first, follows⟩⟩ := escape_agrees goes escape inside
      rw [found] at ih
      obtain ⟨left', found', goes⟩ := ih follows stops
      rw [scanUrl, if_neg bare, if_neg printed, if_pos escape', first, found']
      exact ⟨left', rfl, goes⟩
  | case5 c rest bare printed unescaped breaks =>
      have unescaped' := isEscape_of_not goes unescaped
      obtain ⟨rest', rfl, after⟩ := goes.tail (by rintro rfl; exact printed rfl)
      rw [scanUrl, if_neg bare, if_neg printed, if_neg unescaped', if_pos breaks]
      exact ⟨_, rfl, skipBadUrl_goesOn after stops⟩
  | case6 c rest bare printed unescaped whole value ending left found ih =>
      have unescaped' := isEscape_of_not goes unescaped
      obtain ⟨rest', rfl, after⟩ := goes.tail (by rintro rfl; exact printed rfl)
      rw [found] at ih
      obtain ⟨left', found', goes⟩ := ih after stops
      rw [scanUrl, if_neg bare, if_neg printed, if_neg unescaped', if_neg whole, found']
      exact ⟨left', rfl, goes⟩

theorem isDigit_lineBreak : Char.isDigit '\n' = false := by decide

def splitSign : List Char → List Char × List Char
  | '+' :: tail => (['+'], tail)
  | '-' :: tail => (['-'], tail)
  | other => ([], other)

theorem splitSign_agrees (goes : GoesOn more text longer) :
    Agrees more (splitSign text) (splitSign longer) := by
  cases goes with
  | atEnd => exact ⟨_, rfl, .atEnd⟩
  | atBreak => exact ⟨_, rfl, .atBreak⟩
  | cons c rest =>
      by_cases plus : c = '+'
      · subst plus
        exact ⟨_, rfl, rest⟩
      · by_cases minus : c = '-'
        · subst minus
          exact ⟨_, rfl, rest⟩
        · simpa [Agrees, splitSign, plus, minus] using rest.cons c

theorem scanExponent_cons (mark : Char) (rest : List Char) :
    scanExponent (mark :: rest) =
      if mark == 'e' || mark == 'E' then
        if ((splitSign rest).2.takeWhile Char.isDigit).isEmpty then ([], mark :: rest)
        else
          (mark :: (splitSign rest).1 ++ (splitSign rest).2.takeWhile Char.isDigit,
           (splitSign rest).2.dropWhile Char.isDigit)
      else ([], mark :: rest) := rfl

theorem scanExponent_agrees (goes : GoesOn more text longer) :
    Agrees more (scanExponent text) (scanExponent longer) := by
  cases goes with
  | atEnd => exact ⟨_, rfl, .atEnd⟩
  | atBreak => exact ⟨_, rfl, .atBreak⟩
  | @cons mark text longer rest =>
      obtain ⟨digits, sign, after⟩ := splitSign_agrees rest
      obtain ⟨run, follows⟩ := after.run isDigit_lineBreak
      rw [scanExponent_cons, scanExponent_cons, sign, run]
      split
      · split
        · exact ⟨_, rfl, rest.cons mark⟩
        · exact ⟨_, rfl, follows⟩
      · exact ⟨_, rfl, rest.cons mark⟩

def fractionOf : List Char → List Char
  | '.' :: rest => rest.takeWhile Char.isDigit
  | _ => []

/-- The digits after a point end where they ended, and so does what follows them. -/
theorem fractionOf_goesOn (goes : GoesOn more text longer) :
    fractionOf longer = fractionOf text ∧
      (fractionOf text ≠ [] →
        GoesOn more ((text.drop 1).dropWhile Char.isDigit) ((longer.drop 1).dropWhile Char.isDigit)) := by
  cases goes with
  | cons c rest =>
      have run := rest.run isDigit_lineBreak
      refine ⟨?_, fun _ => run.2⟩
      by_cases point : c = '.'
      · subst point
        exact run.1
      · simp [fractionOf, point]
  | _ => exact ⟨rfl, fun given => absurd rfl given⟩

theorem scanNumber?_eq (text : List Char) :
    scanNumber? text =
      let body := (splitSign text).2
      let whole := body.takeWhile Char.isDigit
      let tail := body.dropWhile Char.isDigit
      if !(fractionOf tail).isEmpty then
        let power := scanExponent ((tail.drop 1).dropWhile Char.isDigit)
        some ((splitSign text).1 ++ whole ++ '.' :: fractionOf tail ++ power.1, power.2)
      else if !whole.isEmpty then
        some ((splitSign text).1 ++ whole ++ (scanExponent tail).1, (scanExponent tail).2)
      else none := rfl

/-- A number of the text is a number of the text that goes on, and no other one is. -/
theorem scanNumber?_agrees (goes : GoesOn more text longer) :
    scanNumber? text = none ∧ scanNumber? longer = none ∨
      ∃ short long, scanNumber? text = some short ∧ scanNumber? longer = some long ∧
        Agrees more short long := by
  obtain ⟨body, sign, after⟩ := splitSign_agrees goes
  obtain ⟨whole, tail⟩ := after.run isDigit_lineBreak
  obtain ⟨fraction, left⟩ := fractionOf_goesOn tail
  simp only [scanNumber?_eq, sign, whole, fraction]
  split
  · rename_i given
    obtain ⟨rest, power, follows⟩ := scanExponent_agrees (left (by simpa using given))
    rw [power]
    exact .inr ⟨_, _, rfl, rfl, _, rfl, follows⟩
  · split
    · obtain ⟨rest, power, follows⟩ := scanExponent_agrees tail
      rw [power]
      exact .inr ⟨_, _, rfl, rfl, _, rfl, follows⟩
    · exact .inl ⟨rfl, rfl⟩

/-- Whether a comment, which starts after its opening mark, is closed. -/
def closesComment : List Char → Bool
  | [] => false
  | '*' :: '/' :: _ => true
  | _ :: rest => closesComment rest

theorem closesComment_of_left (left : skipComment text ≠ []) : closesComment text = true := by
  fun_induction skipComment text with
  | case1 => exact absurd rfl left
  | case2 rest => rfl
  | case3 c rest unfinished ih =>
      rw [closesComment]
      · exact ih left
      · exact unfinished

/-- What follows a comment that is closed goes on, even if nothing follows it. -/
theorem skipComment_goesOn (goes : GoesOn more text longer) (closed : closesComment text = true) :
    GoesOn more (skipComment text) (skipComment longer) := by
  fun_induction closesComment text generalizing longer with
  | case1 => cases closed
  | case2 rest =>
      obtain ⟨_, rfl, after⟩ := goes.tail (by decide)
      obtain ⟨_, rfl, follows⟩ := after.tail (by decide)
      exact follows
  | case3 c rest unfinished ih =>
      obtain ⟨rest', rfl, after | ⟨rfl, rfl⟩⟩ := goes.of_cons
      · have unfinished' : ∀ tail, c = '*' → rest' = '/' :: tail → False := by
          rintro tail mark rfl
          rcases after.head with ⟨_, equal⟩ | ⟨tail, equal⟩
          · exact absurd equal (by decide)
          · exact unfinished tail mark equal
        rw [skipComment.eq_3 c rest unfinished, skipComment.eq_3 c rest' unfinished']
        exact ih after closed
      · cases closed

/-- The range of code points from a first one: up to the second one after a hyphen, if there is
one. -/
def rangeFrom (first : Nat) (text : List Char) : Component × List Char :=
  match text with
  | '-' :: c :: rest =>
      if Text.isHexDigit c then
        let (digits, after) := takeRun 6 Text.isHexDigit (c :: rest)
        (.unicodeRange first (Text.ofHex digits), after)
      else (.unicodeRange first first, text)
  | _ => (.unicodeRange first first, text)

theorem rangeFrom_agrees (first : Nat) (goes : GoesOn more text longer) :
    Agrees more (rangeFrom first text) (rangeFrom first longer) := by
  cases goes with
  | atEnd => exact ⟨_, rfl, .atEnd⟩
  | atBreak => exact ⟨_, rfl, .atBreak⟩
  | cons mark rest =>
      by_cases hyphen : mark = '-'
      · subst hyphen
        cases rest with
        | atEnd => exact ⟨_, rfl, GoesOn.atEnd.cons '-'⟩
        | atBreak => exact ⟨_, rfl, GoesOn.atBreak.cons '-'⟩
        | cons c rest =>
            by_cases digit : Text.isHexDigit c = true
            · obtain ⟨left, run, after⟩ := takeRun_agrees _ isHexDigit_lineBreak 6 (rest.cons c)
              simpa [Agrees, rangeFrom, digit, run] using after
            · simpa [Agrees, rangeFrom, digit] using (rest.cons c).cons '-'
      · simpa [Agrees, rangeFrom, hyphen] using rest.cons mark

theorem scanUnicodeRange_eq (text : List Char) :
    scanUnicodeRange text =
      let digits := takeRun 6 Text.isHexDigit text
      let marks := takeRun (6 - digits.1.length) (· == '?') digits.2
      let first := Text.ofHex digits.1
      if !marks.1.isEmpty then
        let scale := Nat.pow 16 marks.1.length
        (.unicodeRange (first * scale) (first * scale + (scale - 1)), marks.2)
      else rangeFrom first marks.2 := rfl

theorem scanUnicodeRange_agrees (goes : GoesOn more text longer) :
    Agrees more (scanUnicodeRange text) (scanUnicodeRange longer) := by
  obtain ⟨tail, digits, after⟩ := takeRun_agrees _ isHexDigit_lineBreak 6 goes
  obtain ⟨left, marks, follows⟩ :=
    takeRun_agrees (· == '?') (by decide) (6 - (takeRun 6 Text.isHexDigit text).1.length) after
  simp only [scanUnicodeRange_eq, digits, marks]
  split
  · exact ⟨_, rfl, follows⟩
  · exact rangeFrom_agrees _ follows

def startsQuoted : List Char → Bool
  | c :: _ => c == '"' || c == '\''
  | [] => false

theorem scanIdent_eq (text : List Char) :
    scanIdent text =
      let name := scanName text
      match name.2 with
      | '(' :: rest =>
          if name.1.map Char.toLower == ['u', 'r', 'l'] && !startsQuoted (rest.dropWhile isSpace) then
            let address := scanUrl (rest.dropWhile isSpace)
            match address.2.1 with
            | .closed => ([.leaf (.url (String.ofList address.1) true)], address.2.2)
            | .endOfText =>
                ([.leaf (.url (String.ofList address.1) false), .leaf (.damaged .endInUrl)],
                 address.2.2)
            | .broken => ([.leaf (.damaged .url)], address.2.2)
          else ([.openFunction (String.ofList name.1)], rest)
      | _ => ([.leaf (.ident (String.ofList name.1))], name.2) := rfl

theorem startsQuoted_goesOn (goes : GoesOn more text longer) :
    startsQuoted longer = startsQuoted text := by
  cases goes <;> rfl

theorem scanIdent_agrees (goes : GoesOn more text longer) (stops : (scanIdent text).2 ≠ []) :
    Agrees more (scanIdent text) (scanIdent longer) := by
  simp only [scanIdent_eq] at stops ⊢
  have inside : (scanName text).2 ≠ [] := by
    intro ended
    simp [ended] at stops
  obtain ⟨tail, found, after⟩ := scanName_agrees goes inside
  rw [found]
  generalize (scanName text).1 = name at stops ⊢
  obtain ⟨c, rest, equal⟩ := List.exists_cons_of_ne_nil inside
  rw [equal] at after stops ⊢
  obtain ⟨rest', rfl, _⟩ := after.of_cons
  by_cases opens : c = '('
  · subst opens
    obtain ⟨_, same, follows⟩ := after.tail (by decide)
    cases same
    by_cases ended : rest.dropWhile isSpace = []
    · -- Only a function is left: an address would have taken the text to its end.
      by_cases isUrl : (name.map Char.toLower == ['u', 'r', 'l']) = true
      · simp [ended, isUrl, startsQuoted] at stops
      · simp only [isUrl, Bool.false_and]
        exact ⟨_, rfl, follows⟩
    · have start := (follows.space ended).2
      simp only [startsQuoted_goesOn start]
      split
      · rename_i isUrl
        simp only [isUrl, if_true] at stops
        rcases address : scanUrl (rest.dropWhile isSpace) with ⟨value, ending, left⟩
        rw [address] at stops
        have within : (scanUrl (rest.dropWhile isSpace)).2.2 ≠ [] := by
          rw [address]
          cases ending <;> exact stops
        obtain ⟨left', address', goes⟩ := scanUrl_agrees start within
        rw [address] at address' goes
        rw [address']
        cases ending <;> exact ⟨left', rfl, goes⟩
      · exact ⟨_, rfl, follows⟩
  · simpa [Agrees, opens] using after

theorem scanQuantity_agrees (shown : List Char) (goes : GoesOn more text longer)
    (stops : (scanQuantity shown text).2 ≠ []) :
    Agrees more (scanQuantity shown text) (scanQuantity shown longer) := by
  have inside : isIdentStart text = true → (scanName text).2 ≠ [] := by
    intro starts
    unfold scanQuantity at stops
    rw [if_pos starts] at stops
    exact stops
  have starts := isIdentStart_goesOn goes inside
  unfold scanQuantity at stops ⊢
  rw [starts]
  split
  · rename_i starts
    obtain ⟨left, found, follows⟩ := scanName_agrees goes (inside starts)
    rw [found]
    exact ⟨left, rfl, follows⟩
  · rename_i bare
    rw [if_neg bare] at stops
    cases goes with
    | atEnd => exact ⟨_, rfl, .atEnd⟩
    | atBreak => exact ⟨_, rfl, .atBreak⟩
    | cons c rest =>
        by_cases percent : c = '%'
        · subst percent
          exact ⟨_, rfl, rest⟩
        · simpa [Agrees, percent] using rest.cons c

theorem scanQuoted_agrees {quote : Char} (visible : quote ≠ '\n') (goes : GoesOn more text longer)
    (stops : (scanQuoted quote text).2 ≠ []) :
    Agrees more (scanQuoted quote text) (scanQuoted quote longer) := by
  unfold scanQuoted at stops ⊢
  rcases found : scanString quote text with ⟨value, ending, after⟩
  rw [found] at stops
  have inside : (scanString quote text).2.2 ≠ [] := by
    rw [found]
    cases ending <;> exact stops
  obtain ⟨left, found', follows⟩ := scanString_agrees visible goes inside
  rw [found] at found' follows
  rw [found']
  cases ending <;> exact ⟨left, rfl, follows⟩

theorem punctuation_eq (c : Char) (rest : List Char) :
    punctuation c rest =
      if c == '<' && ['!', '-', '-'].isPrefixOf rest then
        (.leaf (.literal "<!--"), rest.drop ['!', '-', '-'].length)
      else if c == '|' && ['|'].isPrefixOf rest then
        (.leaf (.literal "||"), rest.drop ['|'].length)
      else if "~|^$*".toList.contains c && ['='].isPrefixOf rest then
        (.leaf (.literal (String.ofList [c, '='])), rest.drop ['='].length)
      else (.leaf (.literal c.toString), rest) := by
  unfold punctuation
  split
  · rfl
  · rfl
  · simp
  · rename_i unequal open_ single
    simp only [Bool.and_eq_true, beq_iff_eq, List.isPrefixOf_iff_prefix]
    rw [if_neg, if_neg, if_neg]
    · rintro ⟨_, after, rfl⟩
      exact unequal after rfl
    · rintro ⟨rfl, after, rfl⟩
      exact single after rfl rfl
    · rintro ⟨rfl, after, rfl⟩
      exact open_ after rfl rfl

theorem punctuation_agrees (c : Char) (goes : GoesOn more text longer) :
    Agrees more (punctuation c text) (punctuation c longer) := by
  have comment := goes.word (show '\n' ∉ ['!', '-', '-'] by decide)
  have bar := goes.word (show '\n' ∉ ['|'] by decide)
  have equals := goes.word (show '\n' ∉ ['='] by decide)
  rw [punctuation_eq, punctuation_eq, comment.1, bar.1, equals.1]
  split
  · rename_i opens
    exact ⟨_, rfl, comment.2 (Bool.and_eq_true _ _ |>.mp opens).2⟩
  · split
    · rename_i doubled
      exact ⟨_, rfl, bar.2 (Bool.and_eq_true _ _ |>.mp doubled).2⟩
    · split
      · rename_i compared
        exact ⟨_, rfl, equals.2 (Bool.and_eq_true _ _ |>.mp compared).2⟩
      · exact ⟨_, rfl, goes⟩

theorem startsUnicodeRange_goesOn (goes : GoesOn more text longer) :
    startsUnicodeRange longer = startsUnicodeRange text := by
  cases goes with
  | atEnd => rfl
  | atBreak => rfl
  | cons mark rest =>
      by_cases plus : mark = '+'
      · subst plus
        cases rest with
        | _ => rfl
      · simp [startsUnicodeRange, plus]

theorem startsHashName_goesOn (goes : GoesOn more text longer)
    (stops : startsHashName text = true → (scanName text).2 ≠ []) :
    startsHashName longer = startsHashName text := by
  cases goes with
  | atEnd => rfl
  | atBreak => rfl
  | @cons c text longer rest =>
      have inside : c :: text ≠ ['\\'] := by
        intro equal
        rw [equal] at stops
        exact stops rfl scanName_backslash
      simp only [startsHashName, isEscape_goesOn (rest.cons c) inside]

end BrowserScript.Css
