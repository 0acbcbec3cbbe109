import BrowserScript.Proofs.Css.Lexemes

/-!
# Sheets read one after the other

A style sheet is whole if nothing is left open at its end: no comment, no bracket and no rule.
Text that follows a whole sheet on a new line is read as if it stood alone. Nesting is a fold over
the lexemes, and where no bracket is open the fold starts anew.
-/

namespace BrowserScript.Css

variable {stopsAtSemicolon : Bool} {component : Component} {rest : List Component}

/-! ## Nesting as a fold -/

/-- The open brackets and functions, and the components of the innermost one, latest first. -/
structure Nesting where
  frames : List Frame := []
  current : List Component := []

namespace Nesting

def take (nesting : Nesting) (lexeme : Lexeme) : Nesting :=
  match lexeme with
  | .leaf component => { nesting with current := component :: nesting.current }
  | .closeBracket bracket =>
      match nesting.frames with
      | frame :: outer =>
          if frame.opening.closer? == some bracket then
            ⟨outer, frame.close nesting.current.reverse⟩
          else { nesting with current := .damaged (.unmatched bracket) :: nesting.current }
      | [] => { nesting with current := .damaged (.unmatched bracket) :: nesting.current }
  | opening => ⟨⟨opening, nesting.current⟩ :: nesting.frames, []⟩

def takeAll (nesting : Nesting) (lexemes : List Lexeme) : Nesting := lexemes.foldl take nesting

def finish (nesting : Nesting) : List Component :=
  (nesting.frames.foldl (fun content frame => frame.close content.reverse) nesting.current).reverse

end Nesting

theorem nest_eq_finish (frames : List Frame) (current : List Component) (lexemes : List Lexeme) :
    nest frames current lexemes = ((⟨frames, current⟩ : Nesting).takeAll lexemes).finish := by
  fun_induction nest frames current lexemes with
  | case1 => rfl
  | case2 frames current component rest ih => exact ih
  | case3 current bracket rest frame outer matches_ ih =>
      rw [ih]
      simp [Nesting.takeAll, Nesting.take, matches_]
  | case4 current bracket rest frame outer differs ih =>
      rw [ih]
      simp [Nesting.takeAll, Nesting.take, differs]
  | case5 current bracket rest ih =>
      rw [ih]
      simp [Nesting.takeAll, Nesting.take]
  | case6 frames current opening rest inner outer ih =>
      rw [ih]
      cases opening with
      | leaf component => exact absurd rfl (inner component)
      | closeBracket bracket => exact absurd rfl (outer bracket)
      | _ => rfl

namespace Nesting

variable (base : List Component)

/-- Frames and components with others, latest first, before all of them. -/
def raise (base : List Component) : List Frame → List Component → Nesting
  | [], current => ⟨[], current ++ base⟩
  | frame :: outer, current =>
      ⟨⟨frame.opening, (raise base outer frame.before).current⟩
        :: (raise base outer frame.before).frames, current⟩

/-- The nesting after components that stand before everything, latest first. -/
def above (base : List Component) (nesting : Nesting) : Nesting :=
  raise base nesting.frames nesting.current

theorem raise_cons (frames : List Frame) (component : Component) (current : List Component) :
    raise base frames (component :: current) =
      ⟨(raise base frames current).frames, component :: (raise base frames current).current⟩ := by
  cases frames <;> rfl

theorem raise_close (outer : List Frame) (frame : Frame) (content : List Component) :
    raise base outer (frame.close content) =
      ⟨(raise base outer frame.before).frames,
       Frame.close ⟨frame.opening, (raise base outer frame.before).current⟩ content⟩ := by
  unfold Frame.close
  cases frame.opening with
  | leaf component => rfl
  | closeBracket bracket => rfl
  | _ => exact raise_cons ..

theorem take_above (nesting : Nesting) (lexeme : Lexeme) :
    (nesting.above base).take lexeme = (nesting.take lexeme).above base := by
  obtain ⟨frames, current⟩ := nesting
  cases lexeme with
  | leaf component => exact (raise_cons base frames component current).symm
  | closeBracket bracket =>
      cases frames with
      | nil => rfl
      | cons frame outer =>
          by_cases closes : (frame.opening.closer? == some bracket) = true
          · simp only [above, raise, take, closes, if_true]
            exact (raise_close base outer frame _).symm
          · simp [above, raise, take, closes]
  | _ => rfl

theorem takeAll_above (nesting : Nesting) (lexemes : List Lexeme) :
    (nesting.above base).takeAll lexemes = (nesting.takeAll lexemes).above base := by
  induction lexemes generalizing nesting with
  | nil => rfl
  | cons lexeme rest ih =>
      unfold takeAll at *
      rw [List.foldl_cons, take_above, ih]
      rfl

theorem finish_above (nesting : Nesting) :
    (nesting.above base).finish = base.reverse ++ nesting.finish := by
  obtain ⟨frames, current⟩ := nesting
  induction frames generalizing current with
  | nil => simp [above, raise, finish]
  | cons frame outer ih =>
      have inner := ih (frame.close current.reverse)
      simp only [above, raise_close] at inner
      exact inner

/-- Where no bracket is open, nesting starts anew. -/
theorem finish_takeAll_of_closed {nesting : Nesting} (closed : nesting.frames = [])
    (lexemes : List Lexeme) :
    (nesting.takeAll lexemes).finish = nesting.finish ++ nest [] [] lexemes := by
  have start : nesting = above nesting.current {} := by
    cases nesting
    cases closed
    simp [above, raise]
  have done : nesting.finish = nesting.current.reverse := by
    simp [finish, closed]
  calc
    (nesting.takeAll lexemes).finish
      = ((above nesting.current {}).takeAll lexemes).finish := by rw [← start]
    _ = nesting.current.reverse ++ (({} : Nesting).takeAll lexemes).finish := by
        rw [takeAll_above, finish_above]
    _ = nesting.finish ++ nest [] [] lexemes := by rw [nest_eq_finish, done]

end Nesting

theorem nest_append {first : List Lexeme} (closed : (({} : Nesting).takeAll first).frames = [])
    (second : List Lexeme) :
    nest [] [] (first ++ second) = nest [] [] first ++ nest [] [] second := by
  rw [nest_eq_finish, nest_eq_finish [] [] first, ← Nesting.finish_takeAll_of_closed closed]
  simp [Nesting.takeAll]

/-! ## Rules -/

def Opening.isEnd : Opening → Bool
  | .endOfList => true
  | _ => false

/-- The components of the rule that starts with a component, what ends them, and what follows. -/
def ruleParts (component : Component) (rest : List Component) :
    List Component × Opening × List Component :=
  match component with
  | .atKeyword _ => splitAtBlock true rest
  | _ => splitAtBlock false (component :: rest)

/-- The rule that starts with a component, by its other components and what ends them. -/
def ruleNode (component : Component) (before : List Component) : Opening → Node
  | .block content =>
      match component with
      | .atKeyword name => .atRule name before (some content)
      | _ => .qualified before content
  | _ =>
      match component with
      | .atKeyword name => .atRule name before none
      | _ => .unparsable

theorem readNode_sheet (component : Component) (rest : List Component) :
    readNode .sheet component rest =
      (ruleNode component (ruleParts component rest).1 (ruleParts component rest).2.1,
       (ruleParts component rest).2.2) := by
  unfold readNode ruleParts
  split
  · rename_i name
    unfold readAtRule
    rcases splitAtBlock true rest with ⟨before, opening, after⟩
    cases opening <;> rfl
  · rename_i plain
    unfold readQualified
    rcases splitAtBlock false (component :: rest) with ⟨before, opening, after⟩
    cases opening <;> simp [ruleNode]

theorem ruleParts_length (component : Component) (rest : List Component) :
    (ruleParts component rest).2.2.length ≤ rest.length := by
  have bound := readNode_length .sheet component rest
  rwa [readNode_sheet] at bound

/-- Whether the components of a style sheet end in a rule that nothing ends. -/
def endsInRule (components : List Component) : Bool :=
  match components with
  | [] => false
  | component :: rest =>
      if Place.sheet.skips component then endsInRule rest
      else
        have := ruleParts_length component rest
        (ruleParts component rest).2.1.isEnd || endsInRule (ruleParts component rest).2.2
termination_by components.length

theorem splitAtBlock_append {components : List Component}
    (ended : (splitAtBlock stopsAtSemicolon components).2.1.isEnd = false) (more : List Component) :
    splitAtBlock stopsAtSemicolon (components ++ more) =
      ((splitAtBlock stopsAtSemicolon components).1,
       (splitAtBlock stopsAtSemicolon components).2.1,
       (splitAtBlock stopsAtSemicolon components).2.2 ++ more) := by
  fun_induction splitAtBlock stopsAtSemicolon components with
  | case1 => cases ended
  | case2 => rfl
  | case3 component rest block stops => simp [splitAtBlock, stops]
  | case4 component rest block stays before opening after found ih =>
      rw [found] at ih
      simp [splitAtBlock, stays, ih ended]

/-- What ends the components of a rule is a block or a semicolon. -/
theorem splitAtBlock_closing {components : List Component}
    (ended : (splitAtBlock stopsAtSemicolon components).2.1.isEnd = false) :
    ∃ closing, closing.endsRule = true ∧
      components = (splitAtBlock stopsAtSemicolon components).1 ++
        closing :: (splitAtBlock stopsAtSemicolon components).2.2 := by
  fun_induction splitAtBlock stopsAtSemicolon components with
  | case1 => cases ended
  | case2 content rest => exact ⟨.block .curly content, rfl, rfl⟩
  | case3 component rest block stops =>
      simp only [Bool.and_eq_true] at stops
      refine ⟨component, ?_, rfl⟩
      unfold Component.endsRule
      split
      · rfl
      · simp [stops.2]
  | case4 component rest block stays before opening after found ih =>
      rw [found] at ih
      obtain ⟨closing, ends, equal⟩ := ih ended
      exact ⟨closing, ends, congrArg (component :: ·) equal⟩

/-- Blank space ends no rule. -/
theorem splitAtBlock_space {components : List Component}
    (unfinished : (splitAtBlock stopsAtSemicolon components).2.1.isEnd = true) (shown : String) :
    (splitAtBlock stopsAtSemicolon (components ++ [.whitespace shown])).2.1.isEnd = true := by
  fun_induction splitAtBlock stopsAtSemicolon components with
  | case1 => simp [splitAtBlock, Component.isLiteral, Opening.isEnd]
  | case2 => cases unfinished
  | case3 => cases unfinished
  | case4 component rest block stays before opening after found ih =>
      rw [found] at ih
      simp [splitAtBlock, stays, ih unfinished]

theorem ruleParts_append
    (ended : (ruleParts component rest).2.1.isEnd = false) (more : List Component) :
    ruleParts component (rest ++ more) =
      ((ruleParts component rest).1, (ruleParts component rest).2.1,
       (ruleParts component rest).2.2 ++ more) := by
  unfold ruleParts at *
  split at ended <;> exact splitAtBlock_append ended more

theorem ruleParts_closing (ended : (ruleParts component rest).2.1.isEnd = false) :
    ∃ before closing, closing.endsRule = true ∧
      component :: rest = before ++ closing :: (ruleParts component rest).2.2 := by
  unfold ruleParts at *
  split at ended
  · obtain ⟨closing, ends, equal⟩ := splitAtBlock_closing ended
    exact ⟨_ :: _, closing, ends, congrArg (_ :: ·) equal⟩
  · obtain ⟨closing, ends, equal⟩ := splitAtBlock_closing ended
    exact ⟨_, closing, ends, equal⟩

theorem ruleParts_space
    (unfinished : (ruleParts component rest).2.1.isEnd = true) (shown : String) :
    (ruleParts component (rest ++ [.whitespace shown])).2.1.isEnd = true := by
  unfold ruleParts at *
  split at unfinished <;> exact splitAtBlock_space unfinished shown

/-- Components after rules that all have an end are read as if they stood alone. -/
theorem readNodes_append {components : List Component} (ended : endsInRule components = false)
    (more : List Component) :
    readNodes .sheet (components ++ more) =
      readNodes .sheet components ++ readNodes .sheet more := by
  fun_induction endsInRule components with
  | case1 => simp [readNodes]
  | case2 component rest skipped ih =>
      rw [List.cons_append, readNodes, if_pos skipped, ih ended, readNodes, if_pos skipped]
  | case3 component rest kept bound ih =>
      obtain ⟨closed, ended⟩ := Bool.or_eq_false_iff.1 ended
      rw [List.cons_append, readNodes, if_neg kept, readNode_sheet, ruleParts_append closed,
        ih ended, readNodes, if_neg kept, readNode_sheet]
      rfl

theorem Component.endsRule_of_skips
    (skipped : Place.sheet.skips component = true) : component.endsRule = true := by
  unfold endsRule
  split
  · rfl
  · simp [skipped]

theorem mem_getLast?_append_cons (before after : List Component) {closing last : Component}
    (member : last ∈ (before ++ closing :: after).getLast?) :
    last = closing ∨ last ∈ after.getLast? := by
  cases after with
  | nil => exact .inl (by simpa using member.symm)
  | cons next after => exact .inr (by simpa using member)

/-- The last component of rules that all have an end can end a style sheet. -/
theorem endsRule_of_mem_getLast? {components : List Component}
    (ended : endsInRule components = false) :
    ∀ last ∈ components.getLast?, last.endsRule = true := by
  fun_induction endsInRule components with
  | case1 => simp
  | case2 component rest skipped ih =>
      intro last member
      rcases mem_getLast?_append_cons [] rest member with rfl | later
      · exact Component.endsRule_of_skips skipped
      · exact ih ended last later
  | case3 component rest kept bound ih =>
      intro last member
      obtain ⟨closed, ended⟩ := Bool.or_eq_false_iff.1 ended
      obtain ⟨before, closing, ends, equal⟩ := ruleParts_closing closed
      rw [equal] at member
      rcases mem_getLast?_append_cons before _ member with rfl | later
      · exact ends
      · exact ih ended last later

/-- A rule that nothing ends is not ended by blank space either. -/
theorem endsInRule_space {components : List Component} {shown : String}
    (ended : endsInRule (components ++ [.whitespace shown]) = false) :
    endsInRule components = false := by
  fun_induction endsInRule components with
  | case1 => rfl
  | case2 component rest skipped ih =>
      rw [List.cons_append, endsInRule, if_pos skipped] at ended
      exact ih ended
  | case3 component rest kept bound ih =>
      rw [List.cons_append, endsInRule, if_neg kept, Bool.or_eq_false_iff] at ended
      cases unfinished : (ruleParts component rest).2.1.isEnd with
      | true =>
          rw [ruleParts_space unfinished shown] at ended
          cases ended.1
      | false =>
          rw [ruleParts_append unfinished] at ended
          exact ih ended.2

/-! ## Whole sheets -/

def openAfter (text : List Char) : List Frame := (({} : Nesting).takeAll (lexemes text)).frames

/-- Whether a style sheet leaves nothing open at its end: no comment, no bracket or function, and
no rule. -/
def isWhole (css : String) : Bool :=
  !endsInComment (normalizeText css.toList) && (openAfter (normalizeText css.toList)).isEmpty &&
    !endsInRule (components css)

/-- The component that a lexeme completes comes last. -/
theorem Nesting.endsRule_head {nesting : Nesting} (closed : nesting.frames = [])
    (ends : ∀ last ∈ nesting.finish.getLast?, last.endsRule = true)
    {before : List Component} (equal : nesting.current = component :: before) :
    component.endsRule = true := by
  refine ends component ?_
  simp [finish, closed, equal]

/-- A lexeme after which no bracket is open, and which completes a component that can end a style
sheet, can end one itself. -/
theorem Nesting.settles_of_take {nesting : Nesting} {lexeme : Lexeme}
    (closed : (nesting.take lexeme).frames = [])
    (ends : ∀ last ∈ (nesting.take lexeme).finish.getLast?, last.endsRule = true) :
    lexeme.settles = true := by
  obtain ⟨frames, current⟩ := nesting
  cases lexeme with
  | leaf component => exact endsRule_head closed ends rfl
  | closeBracket bracket =>
      cases frames with
      | nil => exact Bool.noConfusion (endsRule_head closed ends rfl)
      | cons frame outer =>
          by_cases matches_ : (frame.opening.closer? == some bracket) = true
          · have step : Nesting.take ⟨frame :: outer, current⟩ (.closeBracket bracket) =
                ⟨outer, frame.close current.reverse⟩ := by
              simp only [take, matches_, if_true]
            rw [step] at closed ends
            obtain ⟨opening, before⟩ := frame
            cases opening with
            | openBracket kind =>
                have block := endsRule_head closed ends rfl
                cases kind with
                | curly =>
                    obtain rfl : '\x7d' = bracket := by simpa [Lexeme.closer?] using matches_
                    rfl
                | round => cases block
                | square => cases block
            | openFunction name => exact Bool.noConfusion (endsRule_head closed ends rfl)
            | _ => cases matches_
          · simp [take, matches_] at closed
  | _ => cases closed

/-- The lexemes of a text whose brackets and rules are all closed end with one that can end a style
sheet. -/
theorem settled_of_closed {text : List Char} (brackets : openAfter text = [])
    (rules : endsInRule (nest [] [] (lexemes text)) = false) : Settled (lexemes text) := by
  intro last member
  obtain ⟨before, equal⟩ := List.getLast?_eq_some_iff.1 member
  have ends := endsRule_of_mem_getLast? rules
  rw [nest_eq_finish] at ends
  unfold openAfter at brackets
  rw [equal] at brackets ends
  unfold Nesting.takeAll at brackets ends
  rw [List.foldl_append] at brackets ends
  exact Nesting.settles_of_take brackets ends

/-- Line breaks are spelled in one way before the text is scanned, so that a carriage return at the
end of a text is part of the line break that follows. -/
theorem normalizeText_goesOn (text more : List Char) :
    GoesOn (normalizeText more) (normalizeText text) (normalizeText (text ++ '\n' :: more)) := by
  fun_induction normalizeText text with
  | case1 => exact .atEnd
  | case2 rest ih => exact ih.cons '\n'
  | case3 c rest single ih =>
      cases rest with
      | nil =>
          by_cases carriage : c = '\r'
          · subst carriage
            exact .atBreak
          · have step : normalizeText ([c] ++ '\n' :: more) = _ :=
              normalizeText.eq_3 c _ (by simp [carriage])
            rw [step]
            exact ih.cons _
      | cons next rest =>
          have step : normalizeText (c :: next :: rest ++ '\n' :: more) = _ :=
            normalizeText.eq_3 c _ (by simpa using single)
          rw [step]
          exact ih.cons _

theorem nest_space (shown : String) (lexemes : List Lexeme) :
    nest [] [] (.leaf (.whitespace shown) :: lexemes) =
      .whitespace shown :: nest [] [] lexemes := by
  have closed : (({} : Nesting).takeAll [.leaf (.whitespace shown)]).frames = [] := rfl
  exact nest_append closed lexemes

theorem readNodes_space (shown : String) (components : List Component) :
    readNodes .sheet (.whitespace shown :: components) = readNodes .sheet components := by
  have skipped : Place.sheet.skips (.whitespace shown) = true := rfl
  rw [readNodes, if_pos skipped]

/-- Blank space at the start of a text stands for nothing. -/
theorem readNodes_dropSpace (text : List Char) :
    readNodes .sheet (nest [] [] (lexemes (text.dropWhile isSpace))) =
      readNodes .sheet (nest [] [] (lexemes text)) := by
  rcases lexemes_dropSpace text with same | ⟨shown, spaced⟩
  · rw [same]
  · rw [spaced, nest_space, readNodes_space]

/-- Blank space at the end of a text stands for nothing, and without it the brackets and rules are
closed as before. -/
theorem closed_without_space {found shared : List Lexeme}
    (brackets : (({} : Nesting).takeAll found).frames = [])
    (rules : endsInRule (nest [] [] found) = false)
    (ends : found = shared ∨ ∃ last, found = shared ++ [.leaf (.whitespace last)]) :
    (({} : Nesting).takeAll shared).frames = [] ∧ endsInRule (nest [] [] shared) = false ∧
      readNodes .sheet (nest [] [] found) = readNodes .sheet (nest [] [] shared) := by
  rcases ends with rfl | ⟨last, rfl⟩
  · exact ⟨brackets, rules, rfl⟩
  · have open_ : (({} : Nesting).takeAll shared).frames = [] := by
      simpa [Nesting.takeAll, Nesting.take] using brackets
    rw [nest_append open_] at rules ⊢
    have ended := endsInRule_space rules
    refine ⟨open_, ended, ?_⟩
    rw [readNodes_append ended, nest_space, readNodes_space]
    simp [nest, readNodes]

theorem closed_of_isWhole {css : String} (whole : isWhole css = true) :
    endsInComment (normalizeText css.toList) = false ∧ openAfter (normalizeText css.toList) = [] ∧
      endsInRule (components css) = false := by
  simp only [isWhole, Bool.and_eq_true, Bool.not_eq_true', List.isEmpty_iff] at whole
  exact ⟨whole.1.1, whole.1.2, whole.2⟩

/-- A whole sheet and the text on a new line after it are cut as each of them alone, but for the
blank space between them. -/
theorem lexemes_join {css : String} (whole : isWhole css = true) (more : String) :
    ∃ shared blank,
      lexemes (normalizeText (css ++ "\n" ++ more).toList) =
        shared ++ .leaf (.whitespace blank) ::
          lexemes ((normalizeText more.toList).dropWhile isSpace) ∧
      (lexemes (normalizeText css.toList) = shared ∨
        ∃ last, lexemes (normalizeText css.toList) = shared ++ [.leaf (.whitespace last)]) := by
  obtain ⟨comments, brackets, rules⟩ := closed_of_isWhole whole
  have text : (css ++ "\n" ++ more).toList = css.toList ++ '\n' :: more.toList := by simp
  rw [text]
  exact lexemes_goesOn (normalizeText_goesOn css.toList more.toList)
    (settled_of_closed brackets rules) comments

/-- Text on a new line after a whole sheet is read as if it stood alone. -/
theorem readNodes_join {css : String} (whole : isWhole css = true) (more : String) :
    readNodes .sheet (components (css ++ "\n" ++ more)) =
      readNodes .sheet (components css) ++ readNodes .sheet (components more) := by
  obtain ⟨shared, blank, found, ends⟩ := lexemes_join whole more
  obtain ⟨_, brackets, rules⟩ := closed_of_isWhole whole
  obtain ⟨open_, ended, same⟩ := closed_without_space brackets rules ends
  unfold components
  rw [found, nest_append open_, readNodes_append ended, nest_space, readNodes_space,
    readNodes_dropSpace, same]

/-- The first overlong integer after a whole sheet counts if the sheet itself has none. -/
theorem overlong?_join {css : String} (whole : isWhole css = true) (more : String) :
    overlong? (css ++ "\n" ++ more) = (overlong? css).or (overlong? more) := by
  have skipSpace (shown : String) (found : List Lexeme) :
      (Lexeme.leaf (.whitespace shown) :: found).findSome? Lexeme.overlong? =
        found.findSome? Lexeme.overlong? := rfl
  obtain ⟨shared, blank, found, ends⟩ := lexemes_join whole more
  have first : overlong? css = shared.findSome? Lexeme.overlong? := by
    unfold overlong?
    rcases ends with same | ⟨last, same⟩
    · rw [same]
    · rw [same, List.findSome?_append, skipSpace, List.findSome?_nil, Option.or_none]
  have second : (lexemes ((normalizeText more.toList).dropWhile isSpace)).findSome?
      Lexeme.overlong? = overlong? more := by
    unfold overlong?
    rcases lexemes_dropSpace (normalizeText more.toList) with same | ⟨shown, spaced⟩
    · rw [same]
    · rw [spaced, skipSpace]
  rw [overlong?, found, List.findSome?_append, skipSpace, first, second]

end BrowserScript.Css
