import BrowserScript.Assertion
import BrowserScript.Proofs.Program.Accepted
import BrowserScript.Proofs.Schema.Truth

/-!
# Truth values after validation

Programs and assertions read the truth values of a script as they stand there, not as they were
validated. Some places take anything but false itself for true, others ask whether the value counts
as true in a condition. A spelling keeps its meaning in the first exactly if it is one of true or
is false itself, in the second also if it is no word.
-/

namespace BrowserScript

open Schema

variable {lines : Block} {launch : Entries}

/-! ## What is read of an assertion -/

namespace Assertion

variable {entries : Entries} {value : Value}

def unlessNull (value : Value) : Option Value := if value.isNull then none else some value

structure Expectation where
  selector : Value
  /-- Whether the element may be missing. -/
  mayBeMissing : Bool
  part : Option Value
  whole : Option Value
  pattern : Option Value
  existing : Option Value
  shown : Option Value

namespace Expectation

variable {expectation : Expectation} {seen : Sighting}

def ofEntries (entries : Entries) : Expectation where
  selector := (Entries.get? entries "selector").getD (.str "")
  mayBeMissing := isFalseItself ((Entries.get? entries "exists").getD .null)
  part := unlessNull ((Entries.get? entries "contains").getD .null)
  whole := unlessNull ((Entries.get? entries "equals").getD .null)
  pattern := unlessNull ((Entries.get? entries "matches").getD .null)
  existing := unlessNull ((Entries.get? entries "exists").getD .null)
  shown := unlessNull ((Entries.get? entries "visible").getD .null)

def judge (expectation : Expectation) (seen : Sighting) : Except Fault Verdict := do
  let got := ", but got: \"" ++ seen.text ++ "\""
  if !seen.found && !expectation.mayBeMissing then
    return ⟨false, "Element not found: " ++ (← expectation.selector.display)⟩
  if let some expected := expectation.part then
    let passed ← holdsPart expected seen.text
    return ⟨passed, "Expected text to contain \"" ++ (← expected.display) ++ "\"" ++ got⟩
  if let some expected := expectation.whole then
    let message := "Expected text to equal \"" ++ (← expected.display) ++ "\"" ++ got
    return ⟨expected.isText seen.text, message⟩
  if let some expected := expectation.pattern then
    let passed ← matchesPattern expected seen.text
    return ⟨passed, "Expected text to match pattern /" ++ (← expected.display) ++ "/" ++ got⟩
  if let some expected := expectation.existing then
    return ⟨seen.found == expected.truthy,
      "Expected element to " ++ (if expected.truthy then "exist" else "not exist")⟩
  if let some expected := expectation.shown then
    return ⟨seen.visible == expected.truthy,
      "Expected element to be " ++ (if expected.truthy then "visible" else "hidden")⟩
  return ⟨false, "No assertion kind given for " ++ (← expectation.selector.display)⟩

def asksText (expectation : Expectation) : Bool :=
  expectation.part.isSome || expectation.whole.isSome || expectation.pattern.isSome

/-- What two expectations have in common if they differ in the spelling of truth values only. -/
structure Resembles (left right : Expectation) : Prop where
  selector : left.selector = right.selector
  part : left.part = right.part
  whole : left.whole = right.whole
  pattern : left.pattern = right.pattern

theorem Resembles.asksText {left right : Expectation} (resembles : Resembles left right) :
    left.asksText = right.asksText := by
  unfold Expectation.asksText
  rw [resembles.part, resembles.whole, resembles.pattern]

/-- Truth values matter by whether they count as true; whether an element should be visible matters
only where nothing else is asked. -/
theorem judge_congr {left right : Expectation} (resembles : Resembles left right)
    (missing : left.mayBeMissing = right.mayBeMissing)
    (existing : left.existing.map Value.truthy = right.existing.map Value.truthy)
    (shown : left.asksText = true ∨ left.existing.isSome = true ∨
      left.shown.map Value.truthy = right.shown.map Value.truthy)
    (seen : Sighting) : left.judge seen = right.judge seen := by
  obtain ⟨selector, missingLeft, part, whole, pattern, existingLeft, shownLeft⟩ := left
  obtain ⟨_, _, _, _, _, existingRight, shownRight⟩ := right
  obtain ⟨rfl, rfl, rfl, rfl⟩ := resembles
  obtain rfl := missing
  unfold judge
  cases part with
  | some part => rfl
  | none =>
    cases whole with
    | some whole => rfl
    | none =>
      cases pattern with
      | some pattern => rfl
      | none =>
        cases existingLeft with
        | some left =>
            obtain ⟨right, rfl, same⟩ := Option.map_eq_some_iff.1 existing.symm
            simp only [same]
        | none =>
            obtain rfl := Option.map_eq_none_iff.1 existing.symm
            have same : shownLeft.map Value.truthy = shownRight.map Value.truthy := by
              simpa [asksText] using shown
            cases shownLeft with
            | some left =>
                obtain ⟨right, rfl, counts⟩ := Option.map_eq_some_iff.1 same.symm
                simp only [counts]
            | none =>
                obtain rfl := Option.map_eq_none_iff.1 same.symm
                rfl

/-- A missing element that may not be missing does not pass. -/
theorem judge_missing (unseen : seen.found = false) (needed : expectation.mayBeMissing = false) :
    (expectation.judge seen).map Verdict.passed ≠ .ok true := by
  unfold judge
  simp only [unseen, needed, Bool.not_false, Bool.and_self, if_true]
  cases expectation.selector.display with
  | error fault => simp [bind, Except.bind, Except.map]
  | ok shown => simp [bind, Except.bind, Except.map, pure, Except.pure]

/-- Where no text is asked for, an element should exist or not. -/
theorem judge_existing (plain : expectation.asksText = false)
    {existing : Value} (asked : expectation.existing = some existing)
    (reached : (!seen.found && !expectation.mayBeMissing) = false) :
    (expectation.judge seen).map Verdict.passed = .ok (seen.found == existing.truthy) := by
  obtain ⟨selector, missing, part, whole, pattern, _, shown⟩ := expectation
  simp only [asksText, Bool.or_eq_false_iff, Option.isSome_eq_false_iff, Option.isNone_iff_eq_none]
    at plain
  obtain ⟨⟨rfl, rfl⟩, rfl⟩ := plain
  obtain rfl := asked
  unfold judge
  simp only [reached]
  rfl

/-- Where nothing else is asked, an element that is found should be visible or not. -/
theorem judge_shown (plain : expectation.asksText = false)
    (unasked : expectation.existing = none) {shown : Value} (asked : expectation.shown = some shown)
    (found : seen.found = true) :
    (expectation.judge seen).map Verdict.passed = .ok (seen.visible == shown.truthy) := by
  obtain ⟨selector, missing, part, whole, pattern, _, _⟩ := expectation
  simp only [asksText, Bool.or_eq_false_iff, Option.isSome_eq_false_iff, Option.isNone_iff_eq_none]
    at plain
  obtain ⟨⟨rfl, rfl⟩, rfl⟩ := plain
  obtain rfl := unasked
  obtain rfl := asked
  unfold judge
  simp only [found]
  rfl

end Expectation

theorem evaluate_map (entries : Entries) (seen : Sighting) :
    evaluate (.map entries) seen = (Expectation.ofEntries entries).judge seen := rfl

/-! ## Assertions with validated truth values -/

def asValidated (entries : Entries) : Entries :=
  validatedTruths ["exists", "visible", "throwOnFail"] entries

theorem entry_asValidated {name : String}
    (listed : ["exists", "visible", "throwOnFail"].contains name = true) :
    entry (asValidated entries) name = validated (entry entries name) := by
  unfold entry asValidated
  rw [get?_validatedTruths, if_pos listed]
  cases Entries.get? entries name with
  | none => rfl
  | some value => rfl

theorem get?_asValidated {name : String}
    (unlisted : ¬ ["exists", "visible", "throwOnFail"].contains name = true) :
    Entries.get? (asValidated entries) name = Entries.get? entries name := by
  unfold asValidated
  rw [get?_validatedTruths, if_neg unlisted]

theorem resembles_asValidated (entries : Entries) :
    (Expectation.ofEntries entries).Resembles (.ofEntries (asValidated entries)) := by
  have same (name : String)
      (unlisted : ¬ ["exists", "visible", "throwOnFail"].contains name = true) :
      Entries.get? entries name = Entries.get? (asValidated entries) name :=
    (get?_asValidated unlisted).symm
  constructor
  · exact congrArg (Option.getD · _) (same "selector" (by decide))
  · exact congrArg (fun found => unlessNull (Option.getD found _)) (same "contains" (by decide))
  · exact congrArg (fun found => unlessNull (Option.getD found _)) (same "equals" (by decide))
  · exact congrArg (fun found => unlessNull (Option.getD found _)) (same "matches" (by decide))

theorem unlessNull_of_ne (given : value ≠ .null) : unlessNull value = some value := by
  unfold unlessNull
  rw [if_neg]
  intro null
  exact given (Value.eq_null_of_isNull null)

/-- Where a truth value is asked whether it counts as true, the spellings that are kept by that
make no difference. -/
theorem unlessNull_validated (optional : IsOptionalTruth value) :
    (unlessNull value).map Value.truthy = (unlessNull (validated value)).map Value.truthy ↔
      value = .null ∨ KeptByCondition value := by
  rcases optional with rfl | ⟨truth, found⟩
  · exact iff_of_true rfl (.inl rfl)
  · have given : value ≠ .null := by
      rintro rfl
      cases found
    rw [validated_eq found, unlessNull_of_ne given, ← truthy_eq_truth found]
    simp [given, unlessNull, Value.isNull, Value.truthy]

/-- Where only false itself is taken for false, the spellings that are kept by that make no
difference. -/
theorem isFalseItself_validated (optional : IsOptionalTruth value) :
    isFalseItself value = isFalseItself (validated value) ↔
      value = .null ∨ KeptByIdentity value := by
  rcases optional with rfl | ⟨truth, found⟩
  · exact iff_of_true rfl (.inl rfl)
  · have given : value ≠ .null := by
      rintro rfl
      cases found
    have negated : isFalseItself (.bool truth) = !truth := by cases truth <;> rfl
    rw [validated_eq found, negated, isFalseItself_eq found]
    simp [given]

/-- Spellings that are kept where they are read make no difference to an evaluation. -/
theorem evaluate_asValidated (existing : IsOptionalTruth (entry entries "exists"))
    (shown : IsOptionalTruth (entry entries "visible"))
    (keptExisting : entry entries "exists" = .null ∨ KeptByIdentity (entry entries "exists"))
    (keptShown : (Expectation.ofEntries entries).asksText = true ∨
      entry entries "exists" ≠ .null ∨
      entry entries "visible" = .null ∨ KeptByCondition (entry entries "visible"))
    (seen : Sighting) :
    evaluate (.map entries) seen = evaluate (.map (asValidated entries)) seen := by
  have counts := (unlessNull_validated existing).2 (keptExisting.imp id KeptByIdentity.condition)
  have missing := (isFalseItself_validated existing).2 keptExisting
  rw [← entry_asValidated (by decide)] at counts missing
  rw [evaluate_map, evaluate_map]
  refine Expectation.judge_congr (resembles_asValidated entries) missing counts ?_ seen
  refine keptShown.imp id (.imp (fun given => ?_) fun kept => ?_)
  · exact congrArg Option.isSome (unlessNull_of_ne given)
  · have same := (unlessNull_validated shown).2 kept
    rwa [← entry_asValidated (by decide)] at same

/-- A missing element tells the spellings of false apart. -/
theorem keptByIdentity_of_evaluate {truth : Bool}
    (found : truthOf? (entry entries "exists") = some truth)
    (plain : (Expectation.ofEntries (asValidated entries)).asksText = false)
    (same : (evaluate (.map entries) ⟨false, "", false⟩).map Verdict.passed =
      (evaluate (.map (asValidated entries)) ⟨false, "", false⟩).map Verdict.passed) :
    KeptByIdentity (entry entries "exists") := by
  rw [← isFalseItself_eq found]
  have reads : entry (asValidated entries) "exists" = .bool truth :=
    (entry_asValidated (by decide)).trans (validated_eq found)
  cases truth with
  | true =>
      cases itself : entry entries "exists" with
      | bool given =>
          rw [itself] at found
          cases given with
          | true => rfl
          | false => cases found
      | _ => rfl
  | false =>
      cases itself : isFalseItself (entry entries "exists") with
      | true => rfl
      | false =>
          have needed : ((Expectation.ofEntries entries).judge ⟨false, "", false⟩).map
              Verdict.passed ≠ .ok true := Expectation.judge_missing rfl itself
          have asked : (Expectation.ofEntries (asValidated entries)).existing =
              some (.bool false) := congrArg unlessNull reads
          have missing : (Expectation.ofEntries (asValidated entries)).mayBeMissing = true :=
            congrArg isFalseItself reads
          refine absurd ?_ needed
          rw [← evaluate_map, same, evaluate_map, Expectation.judge_existing plain asked]
          · rfl
          · rw [missing]
            rfl

/-- An element that is found tells the words for false apart from true. -/
theorem keptByCondition_of_evaluate {truth : Bool}
    (found : truthOf? (entry entries "visible") = some truth)
    (unasked : entry entries "exists" = .null)
    (plain : (Expectation.ofEntries entries).asksText = false)
    (plain' : (Expectation.ofEntries (asValidated entries)).asksText = false)
    (same : (evaluate (.map entries) ⟨true, "", true⟩).map Verdict.passed =
      (evaluate (.map (asValidated entries)) ⟨true, "", true⟩).map Verdict.passed) :
    KeptByCondition (entry entries "visible") := by
  have given : entry entries "visible" ≠ .null := by
    intro null
    rw [null] at found
    cases found
  have reads : entry (asValidated entries) "visible" = .bool truth :=
    (entry_asValidated (by decide)).trans (validated_eq found)
  have unasked' : entry (asValidated entries) "exists" = .null := by
    rw [entry_asValidated (by decide), unasked]
    rfl
  have raw : ((Expectation.ofEntries entries).judge ⟨true, "", true⟩).map Verdict.passed =
      .ok (true == (entry entries "visible").truthy) :=
    Expectation.judge_shown plain (congrArg unlessNull unasked) (unlessNull_of_ne given) rfl
  have changed : ((Expectation.ofEntries (asValidated entries)).judge ⟨true, "", true⟩).map
      Verdict.passed = .ok (true == truth) :=
    Expectation.judge_shown plain' (congrArg unlessNull unasked') (congrArg unlessNull reads) rfl
  rw [← truthy_eq_truth found]
  rw [evaluate_map, evaluate_map, raw, changed] at same
  simpa using Except.ok.inj same

/-- Where no text is asked for, other spellings do make a difference. -/
theorem kept_of_evaluate (existing : IsOptionalTruth (entry entries "exists"))
    (shown : IsOptionalTruth (entry entries "visible"))
    (plain : (Expectation.ofEntries entries).asksText = false)
    (same : ∀ seen, (evaluate (.map entries) seen).map Verdict.passed =
      (evaluate (.map (asValidated entries)) seen).map Verdict.passed) :
    (entry entries "exists" = .null ∨ KeptByIdentity (entry entries "exists")) ∧
      (entry entries "exists" ≠ .null ∨
        entry entries "visible" = .null ∨ KeptByCondition (entry entries "visible")) := by
  have plain' : (Expectation.ofEntries (asValidated entries)).asksText = false := by
    rw [← (resembles_asValidated entries).asksText, plain]
  rcases existing with unasked | ⟨truth, found⟩
  · refine ⟨.inl unasked, .inr (shown.imp id ?_)⟩
    rintro ⟨truth, found⟩
    exact keptByCondition_of_evaluate found unasked plain plain' (same _)
  · refine ⟨.inr (keptByIdentity_of_evaluate found plain' (same _)), .inl ?_⟩
    intro null
    rw [null] at found
    cases found

theorem stopsProgram_map (entries : Entries) :
    stopsProgram (.map entries) = .ok !(isFalseItself (entry entries "throwOnFail")) := rfl

/-- The program goes on after a failed assertion only for false itself. -/
theorem settle_failed (entries : Entries) (message : String) :
    (settle (.map entries) ⟨false, message⟩).2.isOk =
      isFalseItself (entry entries "throwOnFail") := by
  simp only [settle, stopsProgram_map]
  cases isFalseItself (entry entries "throwOnFail") with
  | true => rfl
  | false => rfl

/-- Whether a failed assertion stops the program is read from the entry as it stands. -/
theorem settle_asValidated (optional : IsOptionalTruth (entry entries "throwOnFail")) :
    (∀ verdict, settle (.map entries) verdict = settle (.map (asValidated entries)) verdict) ↔
      entry entries "throwOnFail" = .null ∨ KeptByIdentity (entry entries "throwOnFail") := by
  rw [← isFalseItself_validated optional, ← entry_asValidated (by decide)]
  constructor
  · intro same
    rw [← settle_failed entries "", ← settle_failed (asValidated entries) "", same]
  · intro same verdict
    have selector : (Value.map entries).optionOr "selector" (.str "") =
        (Value.map (asValidated entries)).optionOr "selector" (.str "") := by
      rw [Value.optionOr_map, Value.optionOr_map, get?_asValidated (by decide)]
    unfold settle
    rw [selector, stopsProgram_map, stopsProgram_map, same]

end Assertion

/-! ## New pages -/

/-- A step for a new page opens one unless its payload is false itself. -/
theorem newPage_block (backend : Backend) (payload : Value) :
    backend.dialect.block .newPage payload =
      .ok (if isFalseItself payload then Block.disabled .newPage else backend.dialect.newPage) := by
  cases payload with
  | bool given => cases given <;> rfl
  | _ => rfl

theorem newPage_ne_disabled (backend : Backend) :
    backend.dialect.newPage ≠ Block.disabled .newPage := by
  cases backend <;> decide

/-- The block of a step for a new page is the one of its validated truth value exactly for the
spellings that are kept. -/
theorem newPage_block_iff {payload : Value} {truth : Bool} (found : truthOf? payload = some truth)
    (backend : Backend) :
    backend.dialect.block .newPage payload =
        .ok (if truth then backend.dialect.newPage else Block.disabled .newPage) ↔
      KeptByIdentity payload := by
  have differ := newPage_ne_disabled backend
  rw [newPage_block, Except.ok.injEq, ← isFalseItself_eq found]
  cases isFalseItself payload with
  | true => cases truth <;> simp [differ.symm]
  | false => cases truth <;> simp [differ]

/-! ## Browsers without a window -/

def headlessLine : String := "options.add_argument(\"--headless=new\")"

/-- A line that differs from the start of another one is not that line. -/
theorem ne_append {line start : String} (rest : String) {index : Nat}
    (inside : index < start.toList.length)
    (differ : line.toList[index]? ≠ start.toList[index]?) : line ≠ start ++ rest := by
  intro equal
  apply differ
  rw [equal, String.toList_append, List.getElem?_append_left inside]

theorem headlessLine_not_mem_binaryLines {path : Value}
    (made : Selenium.binaryLines path = .ok lines) : headlessLine ∉ lines := by
  unfold Selenium.binaryLines at made
  split at made
  · cases made
    exact List.not_mem_nil
  · obtain ⟨text, _, made⟩ := bind_eq_ok made
    cases made
    intro member
    have inside : 8 < "options.binary_location = ".toList.length := by decide
    exact ne_append text inside (by decide) (List.mem_singleton.1 member)

theorem headlessLine_not_mem_sizeLines {viewport : Value}
    (made : Selenium.sizeLines viewport = .ok lines) : headlessLine ∉ lines := by
  unfold Selenium.sizeLines at made
  split at made
  · cases made
    exact List.not_mem_nil
  · obtain ⟨_, _, made⟩ := bind_eq_ok made
    obtain ⟨width, _, made⟩ := bind_eq_ok made
    obtain ⟨_, _, made⟩ := bind_eq_ok made
    obtain ⟨height, _, made⟩ := bind_eq_ok made
    cases made
    intro member
    have equal := List.mem_singleton.1 member
    rw [String.append_assoc, String.append_assoc, String.append_assoc] at equal
    have inside : 0 < "driver.set_window_size(".toList.length := by decide
    exact ne_append _ inside (by decide) equal

/-- The block that starts a browser asks for one without a window exactly if the entry for it counts
as true. -/
theorem headlessLine_mem_iff {browser : Value} (mode : browser.field "mode" = .ok (.str "launch"))
    (options : browser.option "launch" = .ok (.map launch))
    (made : Selenium.browser browser = .ok lines) :
    headlessLine ∈ lines ↔ (entry launch "headless").truthy = true := by
  unfold Selenium.browser at made
  rw [mode] at made
  obtain ⟨_, equal, made⟩ := bind_eq_ok made
  cases equal
  rw [if_pos (Value.isText_iff.2 rfl), options] at made
  obtain ⟨_, equal, made⟩ := bind_eq_ok made
  cases equal
  rw [Value.orElse_map] at made
  obtain ⟨given, read, made⟩ := bind_eq_ok made
  rw [Value.option_map] at read
  cases read
  obtain ⟨path, _, made⟩ := bind_eq_ok made
  obtain ⟨binary, madeBinary, made⟩ := bind_eq_ok made
  obtain ⟨viewport, _, made⟩ := bind_eq_ok made
  obtain ⟨size, madeSize, made⟩ := bind_eq_ok made
  cases made
  have noBinary := headlessLine_not_mem_binaryLines madeBinary
  have noSize := headlessLine_not_mem_sizeLines madeSize
  have first : headlessLine ≠ "options = webdriver.ChromeOptions()" := by decide
  have second : headlessLine ≠ "driver = webdriver.Chrome(options=options)" := by decide
  unfold entry
  split
  · rename_i counts
    simp [headlessLine, counts]
  · rename_i counts
    simp [noBinary, noSize, first, second, counts]

/-- The truth value that the entry for a browser without a window was validated as; one that is
absent is false. -/
def headlessOf? (launch : Entries) : Option Bool :=
  match Entries.get? launch "headless" with
  | none => some false
  | some given => truthOf? given

/-- An accepted launch gives a truth value where it says whether the browser has a window. -/
theorem exists_headlessOf? {browser : Value} (admitted : browserChoice.Admits browser)
    (mode : browser.field "mode" = .ok (.str "launch"))
    (options : browser.option "launch" = .ok (.map launch)) :
    ∃ truth, headlessOf? launch = some truth := by
  obtain ⟨fields, rfl, option, member, tag, chosen⟩ := admitted.choice
  rw [Value.field_map tag] at mode
  rcases List.mem_cons.1 member with rfl | other
  · obtain ⟨_, same, conforms, _⟩ := chosen.record
    cases same
    obtain ⟨_, foundLaunch, shaped⟩ :=
      conforms.required mem_second
    rw [Value.option_map, foundLaunch] at options
    cases options
    obtain ⟨_, same, conformsLaunch, _⟩ := shaped.record
    cases same
    unfold headlessOf?
    cases found : Entries.get? launch "headless" with
    | none => exact ⟨false, rfl⟩
    | some given =>
        exact Shape.admits_truth.1
          (conformsLaunch.present mem_second found)
  · obtain rfl := List.mem_singleton.1 other
    exact absurd (Value.str.inj (Except.ok.inj mode)) (by decide)

/-- The block that starts a browser asks for one without a window as validated exactly for the
spellings that are kept. -/
theorem headlessLine_iff {truth : Bool} (found : headlessOf? launch = some truth)
    {asks : Prop} (reads : asks ↔ (entry launch "headless").truthy = true) :
    (asks ↔ truth = true) ↔
      ∀ given, Entries.get? launch "headless" = some given → KeptByCondition given := by
  unfold headlessOf? at found
  unfold entry at reads
  cases present : Entries.get? launch "headless" with
  | none =>
      rw [present] at found reads
      obtain rfl := Option.some.inj found
      simp [reads, Value.truthy]
  | some given =>
      rw [present] at found reads
      simp only [Option.some.injEq, forall_eq']
      rw [← truthy_eq_truth found, reads, Option.getD_some]
      exact Bool.eq_iff_iff.symm

/-! ## Truth values of accepted scripts -/

def stepOf (name : CommandName) (payload : Value) : Value := .map [(.str name.tag, payload)]

/-- What accepted truth values mean to programs and assertions. A step for a new page, and an entry
that says whether an element exists or whether a failure stops the program, mean what they were
validated as exactly for the spellings of true and for false itself. The entries for a browser
without a window and for a visible element do so also for the spellings of false that are no
words. -/
theorem accepted_truth_values (index : Nat) (payload : Value) (document : Entries)
    (browser : Value) (launch : Entries) :
    (checkStep index (stepOf .newPage payload) = .ok () →
      ∃ truth, truthOf? payload = some truth ∧ ∀ backend : Backend,
        (backend.dialect.block .newPage payload =
            .ok (if truth then backend.dialect.newPage else Block.disabled .newPage) ↔
          KeptByIdentity payload)) ∧
    (checkDocument (.map document) = .ok () →
      Entries.get? document "browser" = some browser →
      browser.field "mode" = .ok (.str "launch") →
      browser.option "launch" = .ok (.map launch) →
      ∃ truth, headlessOf? launch = some truth ∧ OnlyNumeric (Selenium.browser browser) ∧
        ∀ lines, Selenium.browser browser = .ok lines →
          ((headlessLine ∈ lines ↔ truth = true) ↔
            ∀ given, Entries.get? launch "headless" = some given → KeptByCondition given)) ∧
    (checkStep index (stepOf .assert payload) = .ok () →
      ∃ entries, payload = .map entries ∧
        let existing := entry entries "exists"
        let shown := entry entries "visible"
        let stops := entry entries "throwOnFail"
        let asksText := (Assertion.Expectation.ofEntries entries).asksText
        let validated := Value.map (Assertion.asValidated entries)
        ((∀ verdict, Assertion.settle payload verdict = Assertion.settle validated verdict) ↔
          stops = .null ∨ KeptByIdentity stops) ∧
        ((existing = .null ∨ KeptByIdentity existing) →
          (asksText = true ∨ existing ≠ .null ∨ shown = .null ∨ KeptByCondition shown) →
          ∀ seen, Assertion.evaluate payload seen = Assertion.evaluate validated seen) ∧
        (asksText = false →
          (∀ seen, (Assertion.evaluate payload seen).map Verdict.passed =
            (Assertion.evaluate validated seen).map Verdict.passed) →
          (existing = .null ∨ KeptByIdentity existing) ∧
            (existing ≠ .null ∨ shown = .null ∨ KeptByCondition shown))) := by
  refine ⟨?_, ?_, ?_⟩
  · intro accepted
    obtain ⟨truth, found⟩ := Shape.admits_truth.1 (admits_of_checkStep accepted)
    exact ⟨truth, found, newPage_block_iff found⟩
  · intro accepted reached mode options
    have admitted := admits_browser accepted reached
    obtain ⟨truth, found⟩ := exists_headlessOf? admitted mode options
    refine ⟨truth, found, Selenium.browser_onlyNumeric admitted, ?_⟩
    intro lines made
    exact headlessLine_iff found (headlessLine_mem_iff mode options made)
  · intro accepted
    obtain ⟨entries, rfl, conforms, _⟩ := (admits_of_checkStep accepted).record
    have existing : IsOptionalTruth (entry entries "exists") :=
      conforms.optionalTruth (List.mem_cons_of_mem _ List.mem_cons_self)
    have shown : IsOptionalTruth (entry entries "visible") :=
      conforms.optionalTruth (by simp [nullable])
    have stops : IsOptionalTruth (entry entries "throwOnFail") :=
      conforms.optionalTruth (by simp [nullable])
    refine ⟨entries, rfl, Assertion.settle_asValidated stops, ?_, ?_⟩
    · intro keptExisting keptShown
      exact Assertion.evaluate_asValidated existing shown keptExisting keptShown
    · intro plain same
      exact Assertion.kept_of_evaluate existing shown plain same

/-- A launch whose entry for a browser without a window is a word for false. -/
def wordedLaunch : Value :=
  .map [(.str "mode", .str "launch"), (.str "launch", .map [(.str "headless", .str "no")])]

def wordedScript : Entries :=
  [(.str "framework", .str "selenium"), (.str "browser", wordedLaunch), (.str "steps", .list [])]

def numberedAssertion : Entries :=
  [(.str "selector", .str "h1"), (.str "visible", .int 1), (.str "throwOnFail", .int 0)]

theorem wordedScript_accepted : checkDocument (.map wordedScript) = .ok () := by
  have headless : truthReason (.str "no") = none := by with_unfolding_all rfl
  simp [checkDocument, wordedScript, wordedLaunch, document, Shape.check, Shape.checkFields,
    Entries.get?_cons, get?_nil, required, absent, nullable, Shape.wordReason, reasoned,
    Shape.checkOption, launchConfig, Rule.check, isGiven, listItems?, firstFinding, headless,
    checkSteps, stepsOf, Value.isNull, bind, Except.bind, pure, Except.pure]

theorem numberedAssertion_accepted :
    checkStep 0 (stepOf .assert (.map numberedAssertion)) = .ok () := by
  have one : truthReason (.int 1) = none := by with_unfolding_all rfl
  have zero : truthReason (.int 0) = none := by with_unfolding_all rfl
  refine checkStep_of_admits rfl ?_
  simp [Shape.Admits, numberedAssertion, Schema.payload, assertion, Shape.check, Shape.checkFields,
    Entries.get?_cons, get?_nil, required, nullable, reasoned, Rule.check, isGiven, one, zero,
    textReason, textOf?, Value.isNull, bind, Except.bind]

/-- A word for true opens a page. A word for false asks for a browser without a window, and a zero
does not keep a failed assertion from stopping the program. -/
theorem spelled_truth_values :
    checkStep 0 (stepOf .newPage (.str "on")) = .ok () ∧
      checkDocument (.map wordedScript) = .ok () ∧
      checkStep 0 (stepOf .assert (.map numberedAssertion)) = .ok () ∧
      (∀ backend : Backend,
        backend.dialect.block .newPage (.str "on") = .ok backend.dialect.newPage) ∧
      (∀ lines, Selenium.browser wordedLaunch = .ok lines → headlessLine ∈ lines) ∧
      ¬ ∀ verdict, Assertion.settle (.map numberedAssertion) verdict =
        Assertion.settle (.map (Assertion.asValidated numberedAssertion)) verdict := by
  have isTrue : truthOf? (.str "on") = some true := by decide +kernel
  have isFalse : truthOf? (.str "no") = some false := by decide +kernel
  have opens : checkStep 0 (stepOf .newPage (.str "on")) = .ok () :=
    checkStep_of_admits rfl (Shape.admits_truth.2 ⟨true, isTrue⟩)
  refine ⟨opens, wordedScript_accepted, numberedAssertion_accepted, ?_, ?_, ?_⟩
  · obtain ⟨truth, found, blocks⟩ := (accepted_truth_values 0 (.str "on") [] .null []).1 opens
    obtain rfl := Option.some.inj (isTrue.symm.trans found)
    exact fun backend => (blocks backend).2 (.inl isTrue)
  · have reached : Entries.get? wordedScript "browser" = some wordedLaunch := by
      simp [wordedScript, Entries.get?_cons]
    have mode : wordedLaunch.field "mode" = .ok (.str "launch") :=
      Value.field_map (by rw [Entries.get?_cons]; rfl)
    have options : wordedLaunch.option "launch" = .ok (.map [(.str "headless", .str "no")]) := by
      simp [wordedLaunch, Value.option_map, Entries.get?_cons]
    have given : Entries.get? [(.str "headless", .str "no")] "headless" = some (.str "no") := by
      simp [Entries.get?_cons]
    obtain ⟨truth, found, _, lines⟩ := (accepted_truth_values 0 .null _ _ _).2.1
      wordedScript_accepted reached mode options
    unfold headlessOf? at found
    rw [given] at found
    obtain rfl := Option.some.inj (isFalse.symm.trans found)
    intro written made
    refine Classical.byContradiction fun absent => ?_
    rcases (lines written made).1 (by simp [absent]) _ given with impossible | ⟨_, impossible⟩
    · cases isFalse.symm.trans impossible
    · cases impossible
  · obtain ⟨_, same, stops, _⟩ :=
      (accepted_truth_values 0 _ [] .null []).2.2 numberedAssertion_accepted
    cases same
    intro settles
    have given : entry numberedAssertion "throwOnFail" = .int 0 := by
      simp [entry, numberedAssertion, Entries.get?_cons]
    rw [given] at stops
    rcases stops.1 settles with null | impossible | impossible
    · cases null
    · cases impossible
    · cases impossible

/-- A zero is validated as false, yet a step for a new page opens one for it. -/
theorem zero_opens_page :
    checkStep 0 (stepOf .newPage (.int 0)) = .ok () ∧ truthOf? (.int 0) = some false ∧
      ∀ backend : Backend, backend.dialect.block .newPage (.int 0) = .ok backend.dialect.newPage ∧
        backend.dialect.newPage ≠ Block.disabled .newPage :=
  ⟨checkStep_of_admits rfl (Shape.admits_truth.2 ⟨false, rfl⟩), rfl, fun backend =>
    ⟨newPage_block backend (.int 0), newPage_ne_disabled backend⟩⟩

end BrowserScript
