import BrowserScript.Proofs.Program.Draft

/-!
# Programs of accepted documents

The plan of an accepted document always exists, and none of its commands is skipped. Making its
program can fail in the conversion of a number, and for two other reasons: with the selenium
dialect, a pressed key may not be given by its bytes, and with the others, a delay between keys may
not be written with digits of the later tables only.
-/

namespace BrowserScript

open Schema

variable {index : Nat}

/-! ## Accepted steps -/

def Command.IsAccepted (command : Command) : Prop :=
  ∃ name, command.IsNamed name ∧ name.isStep = true ∧ (Schema.payload name).Admits command.payload

theorem checkStep_of_admits {name : CommandName} {payload : Value}
    (isStep : name.isStep = true) (admitted : (Schema.payload name).Admits payload) :
    checkStep index (.map [(.str name.tag, payload)]) = .ok () := by
  unfold checkStep
  dsimp only
  rw [ofValue?_tag, Option.filter_some, if_pos isStep]
  dsimp only
  rw [admitted]
  rfl

/-- An accepted step is a mapping with one entry, which makes an accepted command. -/
theorem checkStep_ok {step : Value} (accepted : checkStep index step = .ok ()) :
    ∃ command, Plan.stepCommand step = .ok command ∧ command.IsAccepted := by
  unfold checkStep at accepted
  dsimp only at accepted
  split at accepted
  · rename_i name value
    split at accepted
    · obtain ⟨_, _, accepted⟩ := bind_eq_ok accepted
      obtain ⟨_, _, accepted⟩ := bind_eq_ok accepted
      cases accepted
    · rename_i command found
      obtain ⟨named, isStep⟩ := Option.filter_eq_some_iff.1 found
      refine ⟨⟨name, value⟩, rfl, command, eq_tag_of_ofValue? named, isStep, ?_⟩
      obtain ⟨finding, checked, accepted⟩ := bind_eq_ok accepted
      cases finding with
      | some finding => cases accepted
      | none => exact checked
  · cases accepted

theorem admits_of_checkStep {name : CommandName} {payload : Value}
    (accepted : checkStep index (.map [(.str name.tag, payload)]) = .ok ()) :
    (Schema.payload name).Admits payload := by
  obtain ⟨command, made, other, named, _, admitted⟩ := checkStep_ok accepted
  cases made
  obtain rfl : name = other := by
    have same := ofValue?_tag name
    rw [show Value.str name.tag = .str other.tag from named, ofValue?_tag] at same
    exact (Option.some.inj same).symm
  exact admitted

theorem checkSteps_ok {steps : List Value} (accepted : checkSteps index steps = .ok ()) :
    ∃ commands, steps.mapM Plan.stepCommand = .ok commands ∧ commands.length = steps.length ∧
      ∀ command ∈ commands, command.IsAccepted := by
  induction steps generalizing index with
  | nil => exact ⟨[], rfl, rfl, fun command member => nomatch member⟩
  | cons step steps ih =>
      unfold checkSteps at accepted
      obtain ⟨_, checked, accepted⟩ := bind_eq_ok accepted
      obtain ⟨command, made, isAccepted⟩ := checkStep_ok checked
      obtain ⟨commands, mapped, count, areAccepted⟩ := ih accepted
      refine ⟨command :: commands, ?_, ?_, ?_⟩
      · rw [List.mapM_cons, made, mapped]
        rfl
      · rw [List.length_cons, List.length_cons, count]
      · exact List.forall_mem_cons.2 ⟨isAccepted, areAccepted⟩

/-! ## Accepted documents -/

theorem checkDocument_ok {value : Value} (accepted : checkDocument value = .ok ()) :
    ∃ entries, value = .map entries ∧ document.Admits value ∧
      checkSteps 0 (stepsOf entries) = .ok () := by
  unfold checkDocument at accepted
  split at accepted
  · rename_i entries
    obtain ⟨finding, checked, accepted⟩ := bind_eq_ok accepted
    cases finding with
    | some finding => cases accepted
    | none => exact ⟨entries, rfl, checked, accepted⟩
  · cases accepted

/-- The browser of an accepted document is launched or connected to. -/
theorem admits_browser {entries : Entries} {browser : Value}
    (accepted : checkDocument (.map entries) = .ok ())
    (found : Entries.get? entries "browser" = some browser) : browserChoice.Admits browser := by
  obtain ⟨_, same, admitted, _⟩ := checkDocument_ok accepted
  cases same
  obtain ⟨_, same, conforms, _⟩ := admitted.record
  cases same
  obtain ⟨item, foundItem, shaped⟩ :=
    conforms.required mem_second
  cases found.symm.trans foundItem
  exact shaped

/-- The steps that a document is checked for are those that its plan takes. -/
theorem members_steps {entries : Entries} {fields : List (String × Bool × Shape)}
    (conforms : Conforms fields entries) (member : nullable "steps" (.list .anything) ∈ fields) :
    (((Entries.get? entries "steps").getD .null).orElse (.list [])).members =
      .ok (stepsOf entries) := by
  unfold stepsOf
  cases null : ((Entries.get? entries "steps").getD .null).isNull with
  | true =>
      cases found : Entries.get? entries "steps" with
      | none => rfl
      | some item =>
          rw [found] at null
          obtain rfl : item = .null := Value.eq_null_of_isNull null
          rfl
  | false =>
      obtain ⟨item, found, shaped⟩ := conforms.given member null
      obtain ⟨items, listed, _⟩ := shaped.list
      rw [found]
      simp only [Option.getD_some, Option.bind_some, listed]
      unfold listItems? at listed
      split at listed
      · cases listed
        cases items <;> rfl
      · cases listed
        cases items <;> rfl
      · cases listed
        cases items <;> rfl
      · cases listed

theorem exists_backend {word : String} (member : word ∈ ["puppeteer", "playwright", "selenium"]) :
    ∃ backend : Backend, word = backend.tag := by
  simp only [List.mem_cons, List.not_mem_nil, or_false] at member
  rcases member with same | same | same
  · exact ⟨.puppeteer, same⟩
  · exact ⟨.playwright, same⟩
  · exact ⟨.selenium, same⟩

/-- The plan of an accepted document: its framework, its browser, its steps and the teardown. -/
structure AcceptedPlan (entries : Entries) (plan : Plan) (backend : Backend) (browser : Value)
    (commands : List Command) (mode : Value) : Prop where
  framework : Entries.get? entries "framework" = some (.str backend.tag)
  browser_eq : Entries.get? entries "browser" = some browser
  plan_eq : plan = ⟨.str "framework", .str backend.tag⟩ :: ⟨.str "browser", browser⟩ ::
    commands ++ [Plan.teardown mode]
  reachable : browserChoice.Admits browser
  mode_eq : browser.optionOr "mode" (.str "launch") = .ok mode
  taken : (stepsOf entries).mapM Plan.stepCommand = .ok commands
  count : commands.length = (stepsOf entries).length
  accepted : ∀ command ∈ commands, command.IsAccepted

/-- Every accepted document has a plan. -/
theorem exists_plan {value : Value} (accepted : checkDocument value = .ok ()) :
    ∃ entries plan backend browser commands mode, value = .map entries ∧
      Plan.ofDocument value = .ok plan ∧
      AcceptedPlan entries plan backend browser commands mode := by
  obtain ⟨entries, same, admitted, steps⟩ := checkDocument_ok accepted
  obtain ⟨_, equal, conforms, _⟩ := admitted.record
  subst same
  cases equal
  obtain ⟨framework, foundFramework, shapedFramework⟩ := conforms.required List.mem_cons_self
  obtain ⟨word, listed, isWord⟩ := shapedFramework.word
  obtain ⟨backend, isTag⟩ := exists_backend listed
  subst isWord isTag
  obtain ⟨browser, foundBrowser, shapedBrowser⟩ :=
    conforms.required mem_second
  obtain ⟨browserEntries, isMap, _⟩ := shapedBrowser.choice
  subst isMap
  obtain ⟨commands, mapped, count, areAccepted⟩ := checkSteps_ok steps
  have members := members_steps conforms
    mem_third
  refine ⟨entries, _, backend, .map browserEntries, commands,
    (Entries.get? browserEntries "mode").getD (.str "launch"), rfl, ?_,
    ⟨foundFramework, foundBrowser, rfl, shapedBrowser, Value.optionOr_map .., mapped, count,
      areAccepted⟩⟩
  unfold Plan.ofDocument
  rw [Value.field_map foundBrowser, Value.field_map foundFramework, Value.option_map]
  dsimp only [bind, Except.bind]
  rw [members]
  dsimp only
  rw [mapped, Value.optionOr_map]
  rfl

theorem teardown_writes (backend : Backend) (mode : Value) :
    backend.dialect.Writes (Plan.teardown mode) := by
  have named : (Plan.teardown mode).IsNamed .teardown := rfl
  have operation : HasField "operation" (Plan.teardown mode).payload :=
    ⟨_, Value.field_map (by rw [Entries.get?_cons]; rfl)⟩
  have block : ∃ lines, backend.dialect.block .teardown (Plan.teardown mode).payload = .ok lines := by
    cases backend with
    | puppeteer => exact Puppeteer.teardown_ok operation
    | playwright => exact Playwright.teardown_ok operation
    | selenium => exact ⟨_, rfl⟩
  obtain ⟨lines, written⟩ := block
  exact named.writes written

/-- A key that is given by its bytes cannot be pressed. -/
theorem press_blockOf? {backend : Backend} {command : Command} (named : command.IsNamed .press)
    (presses : PressesBytes backend .press command.payload) :
    backend.dialect.blockOf? command =
      .error (.wrongKind "expected string or bytes-like object, got 'bytes'") := by
  obtain ⟨isSelenium, _, data, found⟩ := presses
  subst isSelenium
  rw [named.blockOf?]
  change some <$> Selenium.press command.payload = _
  rw [Selenium.press, found]
  rfl

namespace AcceptedPlan

variable {entries : Entries} {plan : Plan} {backend : Backend} {browser : Value}
  {commands : List Command} {mode : Value}

variable {command : Command} (accepted : AcceptedPlan entries plan backend browser commands mode)
include accepted

theorem opensWith :
    Program.OpensWith plan backend
      (⟨.str "browser", browser⟩ :: commands ++ [Plan.teardown mode]) := by
  refine ⟨accepted.plan_eq, ?_⟩
  intro command member
  rcases List.mem_cons.1 member with isBrowser | later
  · rw [isBrowser]
    exact ⟨.browser, rfl, by decide⟩
  · rcases List.mem_append.1 later with isStep | isTeardown
    · obtain ⟨name, named, step, _⟩ := accepted.accepted command isStep
      refine ⟨name, named, ?_⟩
      intro isFramework
      rw [isFramework] at step
      cases step
    · rw [List.mem_singleton.1 isTeardown]
      exact ⟨.teardown, rfl, by decide⟩

theorem length_eq : plan.length = (stepsOf entries).length + 3 := by
  rw [accepted.plan_eq, ← accepted.count]
  simp

/-- A command of an accepted plan that is named as a step has the payload of that step. -/
theorem admits_of_named (member : command ∈ plan) {name : CommandName}
    (named : command.IsNamed name) (isStep : name.isStep = true) :
    (Schema.payload name).Admits command.payload := by
  have same {other : CommandName} (called : command.IsNamed other) : name = other := by
    have found := ofValue?_tag name
    rw [← show command.name = .str name.tag from named,
      show command.name = .str other.tag from called, ofValue?_tag] at found
    exact (Option.some.inj found).symm
  have notCalled {other : CommandName} (called : command.IsNamed other)
      (noStep : other.isStep = false) : False := by
    rw [← same called, isStep] at noStep
    cases noStep
  rw [accepted.plan_eq] at member
  rcases List.mem_cons.1 member with isFramework | member
  · have called : command.IsNamed .framework := by rw [isFramework]; rfl
    exact (notCalled called rfl).elim
  · rcases List.mem_cons.1 member with isBrowser | member
    · have called : command.IsNamed .browser := by rw [isBrowser]; rfl
      exact (notCalled called rfl).elim
    · rcases List.mem_append.1 member with listed | isTeardown
      · obtain ⟨other, called, _, admitted⟩ := accepted.accepted command listed
        rw [same called]
        exact admitted
      · have called : command.IsNamed .teardown := by
          rw [List.mem_singleton.1 isTeardown]
          rfl
        exact (notCalled called rfl).elim

/-- A command whose block fails otherwise than by a number presses bytes or delays unread. -/
theorem fault_cases (member : command ∈ plan) {fault : Fault}
    (failed : backend.dialect.blockOf? command = .error fault) :
    fault.isNumeric = true ∨ ∃ name, command.IsNamed name ∧
      (PressesBytes backend name command.payload ∨ DelaysUnread backend name command.payload) := by
  have numeric {name : CommandName} (named : command.IsNamed name)
      (only : OnlyNumeric (backend.dialect.block name command.payload)) : fault.isNumeric = true := by
    rw [named.blockOf?] at failed
    cases block : backend.dialect.block name command.payload with
    | ok lines => rw [block] at failed; cases failed
    | error cause =>
        rw [block] at failed
        cases failed
        exact only _ block
  rw [accepted.plan_eq] at member
  rcases List.mem_cons.1 member with isFramework | member
  · have named : command.IsNamed .framework := by rw [isFramework]; rfl
    exact Or.inl (numeric named (.ok _))
  · rcases List.mem_cons.1 member with isBrowser | member
    · have named : command.IsNamed .browser := by rw [isBrowser]; rfl
      have reachable : browserChoice.Admits command.payload := by
        rw [isBrowser]
        exact accepted.reachable
      exact Or.inl (numeric named (browser_block_onlyNumeric backend reachable))
    · rcases List.mem_append.1 member with isStep | isTeardown
      · obtain ⟨name, named, step, admitted⟩ := accepted.accepted command isStep
        by_cases presses : PressesBytes backend name command.payload
        · exact Or.inr ⟨name, named, .inl presses⟩
        · by_cases delays : DelaysUnread backend name command.payload
          · exact Or.inr ⟨name, named, .inr delays⟩
          · exact Or.inl (numeric named (block_onlyNumeric backend step admitted presses delays))
      · rw [List.mem_singleton.1 isTeardown] at failed
        exact absurd failed ((teardown_writes backend mode).ne_error fault)

/-- The fault of a command that presses bytes or delays unread. -/
theorem blockOf?_error (member : command ∈ plan) {name : CommandName} (named : command.IsNamed name)
    (unwritable : PressesBytes backend name command.payload ∨
      DelaysUnread backend name command.payload) :
    ∃ fault, backend.dialect.blockOf? command = .error fault ∧ fault.isNumeric = false ∧
      (fault = .wrongKind "expected string or bytes-like object, got 'bytes'" ∨
        ∃ shown, fault = .invalid (.duration shown)) := by
  rcases unwritable with presses | delays
  · obtain rfl := presses.2.1
    exact ⟨_, press_blockOf? named presses, rfl, .inl rfl⟩
  · obtain rfl := delays.2.1
    obtain ⟨shown, failed⟩ :=
      block_type_unread (accepted.admits_of_named member named rfl) delays
    refine ⟨_, ?_, rfl, .inr ⟨shown, rfl⟩⟩
    rw [named.blockOf?, failed]
    rfl

/-- A program that fails otherwise than by a number fails where bytes are pressed or a delay is not
read. -/
theorem failure
    {fault : Fault} (failed : Program.ofPlan plan = .error fault) :
    fault.isNumeric = true ∨
      (fault = .wrongKind "expected string or bytes-like object, got 'bytes'" ∨
        ∃ shown, fault = .invalid (.duration shown)) ∧
        ∃ before command after, plan = before ++ command :: after ∧
          (∀ earlier ∈ before, backend.dialect.Writes earlier) ∧
          ∃ name, command.IsNamed name ∧ (PressesBytes backend name command.payload ∨
            DelaysUnread backend name command.payload) := by
  rcases accepted.opensWith.outcome with
    ⟨program, made, _⟩ | ⟨other, same, before, command, after, split, written, cause⟩
  · rw [failed] at made
    cases made
  · rw [failed] at same
    cases same
    have member : command ∈ plan := split ▸ List.mem_append_right _ List.mem_cons_self
    rcases accepted.fault_cases member cause with numeric | ⟨name, named, unwritable⟩
    · exact Or.inl numeric
    · obtain ⟨other, failed, _, form⟩ := accepted.blockOf?_error member named unwritable
      rw [failed] at cause
      cases cause
      exact Or.inr ⟨form, before, command, after, split, written, name, named, unwritable⟩

end AcceptedPlan

/-- An accepted document has a plan and, unless a number cannot be converted, a program with one
report for each step, the framework, the browser and the teardown. It fails otherwise exactly when
the first command that cannot be written makes selenium press a key given by its bytes, or another
backend type with a delay that is not read. -/
theorem accepted_document_outcome (document : Value)
    (accepted : Schema.checkDocument document = .ok ()) :
    ∃ entries backend plan, document = .map entries ∧
      Entries.get? entries "framework" = some (.str (Backend.tag backend)) ∧
      Plan.ofDocument document = .ok plan ∧
      (∀ program, Program.ofPlan plan = .ok program →
        program.backend = backend ∧ program.warnings = [] ∧
          program.stepCount = (stepsOf entries).length + 3) ∧
      (∀ fault, Program.ofPlan plan = .error fault → fault.isNumeric = true ∨
        fault = .wrongKind "expected string or bytes-like object, got 'bytes'" ∨
        ∃ shown, fault = .invalid (.duration shown)) ∧
      ((∃ fault, Program.ofPlan plan = .error fault ∧ fault.isNumeric = false) ↔
        ∃ before command after, plan = before ++ command :: after ∧
          (∀ earlier ∈ before, backend.dialect.Writes earlier) ∧
          ∃ name, command.IsNamed name ∧ (PressesBytes backend name command.payload ∨
            DelaysUnread backend name command.payload)) := by
  obtain ⟨entries, plan, backend, browser, commands, mode, same, planned, isAccepted⟩ :=
    exists_plan accepted
  have opens := isAccepted.opensWith
  refine ⟨entries, backend, plan, same, isAccepted.framework, planned, ?_, ?_, ?_, ?_⟩
  · intro program compiled
    rcases opens.outcome with ⟨other, made, facts⟩ | ⟨fault, failed, _⟩
    · rw [compiled] at made
      cases made
      rw [isAccepted.length_eq] at facts
      exact facts
    · rw [compiled] at failed
      cases failed
  · intro fault failed
    exact (isAccepted.failure failed).imp_right And.left
  · rintro ⟨fault, failed, notNumeric⟩
    rcases isAccepted.failure failed with numeric | ⟨_, unwritable⟩
    · rw [numeric] at notNumeric
      cases notNumeric
    · exact unwritable
  · rintro ⟨before, command, after, split, written, name, named, unwritable⟩
    have member : command ∈ plan := split ▸ List.mem_append_right _ List.mem_cons_self
    obtain ⟨fault, failed, notNumeric, _⟩ := isAccepted.blockOf?_error member named unwritable
    exact ⟨fault, opens.ofPlan_of_firstFault ⟨before, command, after, split, written, failed⟩,
      notNumeric⟩

/-! ## A key given by its bytes -/

def byteKey : Value := .map [(.str "key", .bytes [69, 110, 116, 101, 114])]

def plainLaunch : Value := .map [(.str "mode", .str "launch"), (.str "launch", .map [])]

def byteKeyScript (backend : Backend) : Value :=
  .map [(.str "framework", .str backend.tag), (.str "browser", plainLaunch),
    (.str "steps", .list [.map [(.str CommandName.press.tag, byteKey)]])]

theorem byteKey_admitted : (Schema.payload .press).Admits byteKey := by
  have decoded : String.fromUTF8? ⟨[(69 : UInt8), 110, 116, 101, 114].toArray⟩ = some "Enter" := by
    with_unfolding_all rfl
  simp [Shape.Admits, Schema.payload, byteKey, Shape.check, Shape.checkFields, Entries.get?_cons,
    required, reasoned, Rule.check, textReason, textOf?, decoded, bind, Except.bind]

theorem byteKeyScript_accepted (backend : Backend) :
    checkDocument (byteKeyScript backend) = .ok () := by
  have whole : document.check (byteKeyScript backend) = .ok none := by
    cases backend <;>
      simp [byteKeyScript, plainLaunch, Backend.tag, document, Shape.check, Shape.checkFields,
        Entries.get?_cons, get?_nil, required, absent, nullable, Shape.wordReason, reasoned,
        Shape.checkOption, launchConfig, Rule.check, isGiven, listItems?, firstFinding,
        Value.isNull, bind, Except.bind, pure, Except.pure]
  have step : checkStep 0 (.map [(.str CommandName.press.tag, byteKey)]) = .ok () :=
    checkStep_of_admits rfl byteKey_admitted
  unfold checkDocument
  rw [byteKeyScript] at whole ⊢
  dsimp only
  rw [whole]
  change checkSteps 0 (stepsOf _) = .ok ()
  simp only [stepsOf, Entries.get?_cons]
  change checkSteps 0 [.map [(.str CommandName.press.tag, byteKey)]] = .ok ()
  unfold checkSteps
  rw [step]
  rfl

theorem byteKeyScript_framework {entries : Entries} {backend other : Backend}
    (same : byteKeyScript backend = .map entries)
    (found : Entries.get? entries "framework" = some (.str other.tag)) : other = backend := by
  cases same
  rw [Entries.get?_cons] at found
  have tags : backend.tag = other.tag := by simpa using found
  cases backend <;> cases other <;> first | rfl | exact absurd tags (by decide)

theorem byteKeyScript_plan (backend : Backend) :
    Plan.ofDocument (byteKeyScript backend) = .ok
      [⟨.str "framework", .str backend.tag⟩, ⟨.str "browser", plainLaunch⟩,
        ⟨.str CommandName.press.tag, byteKey⟩, Plan.teardown (.str "launch")] := by
  simp [byteKeyScript, plainLaunch, Plan.ofDocument, Value.field, Value.option_map,
    Value.optionOr_map, Entries.get?_cons, Value.orElse, Value.truthy, Value.members,
    Plan.stepCommand, bind, Except.bind, pure, Except.pure]

/-- With playwright, the key given by its bytes is pressed: only a number could make it fail. -/
theorem byteKeyScript_playwright :
    checkDocument (byteKeyScript .playwright) = .ok () ∧
      ∃ plan, Plan.ofDocument (byteKeyScript .playwright) = .ok plan ∧
        ∀ fault, Program.ofPlan plan = .error fault → fault.isNumeric = true := by
  have accepted := byteKeyScript_accepted .playwright
  obtain ⟨entries, backend, plan, same, framework, planned, _, _, onlyThese⟩ :=
    accepted_document_outcome (byteKeyScript .playwright) accepted
  refine ⟨accepted, plan, planned, ?_⟩
  intro fault failed
  cases numeric : fault.isNumeric with
  | true => rfl
  | false =>
      obtain ⟨before, command, after, split, _, name, named, presses | delays⟩ :=
        onlyThese.1 ⟨fault, failed, numeric⟩
      · rw [byteKeyScript_framework same framework] at presses
        cases presses.1
      · -- No command of the plan types.
        obtain rfl := delays.2.1
        have member : command ∈ plan := split ▸ List.mem_append_right _ List.mem_cons_self
        cases planned.symm.trans (byteKeyScript_plan .playwright)
        simp only [List.mem_cons, List.not_mem_nil, or_false] at member
        rcases member with rfl | rfl | rfl | rfl <;> exact absurd named (by simp [Command.IsNamed,
          Plan.teardown, CommandName.tag])

theorem plainLaunch_writes : Selenium.dialect.Writes ⟨.str "browser", plainLaunch⟩ := by
  have named : Command.IsNamed ⟨.str "browser", plainLaunch⟩ .browser := rfl
  have block : Selenium.browser plainLaunch = .ok
      ["options = webdriver.ChromeOptions()", "driver = webdriver.Chrome(options=options)"] := by
    simp [plainLaunch, Selenium.browser, Value.field, Value.option_map, Value.orElse_map,
      Entries.get?_cons, get?_nil, Value.truthy, Selenium.binaryLines, Selenium.sizeLines,
      Value.isNull, bind, Except.bind, pure, Except.pure]
  exact named.writes block

/-- With selenium, the same script is accepted and has a plan, but no program. -/
theorem byteKeyScript_selenium :
    checkDocument (byteKeyScript .selenium) = .ok () ∧
      ∃ plan, Plan.ofDocument (byteKeyScript .selenium) = .ok plan ∧
        Program.ofPlan plan =
          .error (.wrongKind "expected string or bytes-like object, got 'bytes'") := by
  refine ⟨byteKeyScript_accepted .selenium, _, byteKeyScript_plan .selenium, ?_⟩
  have presses : PressesBytes .selenium .press byteKey :=
    ⟨rfl, rfl, _, Value.field_map (by rw [Entries.get?_cons]; rfl)⟩
  have named : Command.IsNamed ⟨.str CommandName.press.tag, byteKey⟩ .press := rfl
  have opens : Program.OpensWith
      [⟨.str "framework", .str Backend.selenium.tag⟩, ⟨.str "browser", plainLaunch⟩,
        ⟨.str CommandName.press.tag, byteKey⟩, Plan.teardown (.str "launch")] .selenium
      [⟨.str "browser", plainLaunch⟩, ⟨.str CommandName.press.tag, byteKey⟩,
        Plan.teardown (.str "launch")] := by
    refine ⟨rfl, ?_⟩
    intro command member
    simp only [List.mem_cons, List.not_mem_nil, or_false] at member
    rcases member with same | same | same
    · exact ⟨.browser, by rw [same]; rfl, by decide⟩
    · exact ⟨.press, by rw [same]; rfl, by decide⟩
    · exact ⟨.teardown, by rw [same]; rfl, by decide⟩
  refine opens.ofPlan_of_firstFault
    ⟨[⟨.str "framework", .str Backend.selenium.tag⟩, ⟨.str "browser", plainLaunch⟩], _, _, rfl, ?_,
      press_blockOf? named presses⟩
  intro earlier member
  simp only [List.mem_cons, List.not_mem_nil, or_false] at member
  rcases member with same | same
  · rw [same]
    exact Program.OpensWith.framework_writes .selenium _
  · rw [same]
    exact plainLaunch_writes

end BrowserScript
