import BrowserScript.Proofs.Program.Accepted

/-!
# The plan of an accepted document

A plan is made from the document as it stands, not from what the check has read in it. What the
check lets through is enough: every step is a mapping with one entry, no step has a name that is
reserved for the opening and the end of a plan, and the browser is either launched or connected to.
-/

namespace BrowserScript

open Schema

variable {name : CommandName} {entries : Entries}

/-! ## Steps -/

/-- The step that a command is taken from: a mapping with its name and payload alone. -/
def Command.toStep (command : Command) : Value := .map [(command.name, command.payload)]

theorem eq_toStep_of_checkStep {index : Nat} {step : Value}
    (accepted : checkStep index step = .ok ()) : ∃ command : Command, step = command.toStep := by
  unfold checkStep at accepted
  dsimp only at accepted
  split at accepted
  · rename_i name payload
    exact ⟨⟨name, payload⟩, rfl⟩
  · cases accepted

/-- The commands of accepted steps are the steps themselves, one by one. -/
theorem eq_map_toStep {index : Nat} {steps : List Value} {commands : List Command}
    (accepted : checkSteps index steps = .ok ())
    (taken : steps.mapM Plan.stepCommand = .ok commands) : steps = commands.map Command.toStep := by
  induction steps generalizing index commands with
  | nil =>
      cases taken
      rfl
  | cons step steps ih =>
      unfold checkSteps at accepted
      obtain ⟨_, checked, others⟩ := bind_eq_ok accepted
      obtain ⟨command, same⟩ := eq_toStep_of_checkStep checked
      rw [same, List.mapM_cons] at taken
      obtain ⟨_, isCommand, taken⟩ := bind_eq_ok taken
      obtain ⟨rest, further, taken⟩ := bind_eq_ok taken
      cases isCommand
      cases taken
      rw [List.map_cons, same, ← ih others further]

inductive Declares (entries : Entries) : List Value → Prop where
  | nothing (null : ((Entries.get? entries "steps").getD .null).isNull = true) :
      Declares entries []
  | steps {value : Value} {items : List Value} (found : Entries.get? entries "steps" = some value)
      (listed : listItems? value = some items) : Declares entries items

theorem declares_stepsOf (admitted : document.Admits (.map entries)) :
    Declares entries (stepsOf entries) := by
  obtain ⟨_, same, conforms, _⟩ := admitted.record
  cases same
  unfold stepsOf
  cases null : ((Entries.get? entries "steps").getD .null).isNull with
  | true =>
      have none : (Entries.get? entries "steps").bind listItems? = none := by
        cases found : Entries.get? entries "steps" with
        | none => rfl
        | some value =>
            rw [found] at null
            obtain rfl : value = .null := Value.eq_null_of_isNull null
            rfl
      rw [none]
      exact .nothing null
  | false =>
      obtain ⟨value, found, shaped⟩ := conforms.given
        mem_third null
      obtain ⟨items, listed, _⟩ := shaped.list
      rw [found, Option.bind_some, listed]
      exact .steps found listed

/-! ## Names -/

theorem CommandName.tag_injective {other : CommandName} (same : name.tag = other.tag) :
    name = other := by
  have found := ofValue?_tag name
  rw [same, ofValue?_tag] at found
  exact (Option.some.inj found).symm

theorem isText_tag (other name : CommandName) :
    (Value.str other.tag).isText name.tag = decide (other = name) := by
  rw [Value.isText_str, Bool.eq_iff_iff, beq_iff_eq, decide_eq_true_iff]
  exact ⟨CommandName.tag_injective, congrArg CommandName.tag⟩

/-- No accepted step has a reserved name. -/
theorem countP_reserved {commands : List Command}
    (accepted : ∀ command ∈ commands, command.IsAccepted) (reserved : name.isStep = false) :
    commands.countP (fun command => command.name.isText name.tag) = 0 := by
  rw [List.countP_eq_zero]
  intro command member
  obtain ⟨other, named, isStep, _⟩ := accepted command member
  rw [named, isText_tag, decide_eq_true_iff]
  rintro rfl
  exact Bool.noConfusion (isStep.symm.trans reserved)

/-! ## The browser -/

theorem Rule.check_notGiven {field message : String}
    (silent : (Rule.notGiven field message).check entries = none) :
    isGiven entries field = false := by
  simp only [Rule.check] at silent
  by_cases given : isGiven entries field = true
  · rw [if_pos given] at silent
    cases silent
  · exact Bool.not_eq_true _ ▸ given

/-- The options of a mode are a mapping, so they are given, and those of the other mode are not. -/
theorem given_of_record {mode own other name : String} {options : Shape}
    {fields : List (String × Bool × Shape)} {rule : Rule} {message : String}
    (admitted : (Shape.record mode
      [required "mode" options, required own (.record name fields rule), absent other .anything]
      (.notGiven other message)).Admits (.map entries)) :
    isGiven entries own = true ∧ isGiven entries other = false := by
  obtain ⟨_, same, conforms, silent⟩ := admitted.record
  cases same
  obtain ⟨item, found, shaped⟩ := conforms.required mem_second
  obtain ⟨inner, rfl, _⟩ := shaped.record
  refine ⟨?_, Rule.check_notGiven silent⟩
  rw [isGiven, found]
  rfl

/-- An accepted browser names its mode and has the options of that mode alone. -/
theorem browser_mode (admitted : browserChoice.Admits (.map entries)) :
    (Entries.get? entries "mode" = some (.str "launch") ∧
        isGiven entries "launch" = true ∧ isGiven entries "connect" = false) ∨
      (Entries.get? entries "mode" = some (.str "connect") ∧
        isGiven entries "connect" = true ∧ isGiven entries "launch" = false) := by
  obtain ⟨_, same, option, member, tag, shaped⟩ := admitted.choice
  cases same
  rcases List.mem_cons.1 member with rfl | later
  · exact .inl ⟨tag, given_of_record shaped⟩
  · obtain rfl := List.mem_singleton.1 later
    exact .inr ⟨tag, given_of_record shaped⟩

/-! ## The plan -/

def Command.ending (operation : String) : Command :=
  ⟨.str CommandName.teardown.tag, .map [(.str "operation", .str operation)]⟩

def Plan.around (backend : Backend) (browser : Entries) (steps : List Command)
    (operation : String) : Plan :=
  ⟨.str CommandName.framework.tag, .str backend.tag⟩ ::
    ⟨.str CommandName.browser.tag, .map browser⟩ :: steps ++ [.ending operation]

structure Plan.Describes (entries : Entries) (backend : Backend) (browser : Entries)
    (steps : List Command) (operation : String) : Prop where
  framework_eq : Entries.get? entries "framework" = some (.str backend.tag)
  browser_eq : Entries.get? entries "browser" = some (.map browser)
  declares : Declares entries (steps.map Command.toStep)
  close_iff : operation = "close" ↔ isGiven browser "launch" = true
  disconnect_iff : operation = "disconnect" ↔ isGiven browser "connect" = true
  single : isGiven browser "launch" ≠ isGiven browser "connect"

/-- The operation that ends a plan goes by the options that the browser has. -/
theorem exists_ending {browser : Entries} {mode : Value}
    (admitted : browserChoice.Admits (.map browser))
    (found : (Value.map browser).optionOr "mode" (.str "launch") = .ok mode) :
    ∃ operation, Plan.teardown mode = .ending operation ∧
      (operation = "close" ↔ isGiven browser "launch" = true) ∧
      (operation = "disconnect" ↔ isGiven browser "connect" = true) ∧
      isGiven browser "launch" ≠ isGiven browser "connect" := by
  rw [Value.optionOr_map] at found
  rcases browser_mode admitted with ⟨tag, given, missing⟩ | ⟨tag, given, missing⟩
  · rw [tag] at found
    cases found
    have launched : (Value.str "launch").isText "launch" = true := by rw [Value.isText_str]; rfl
    refine ⟨"close", by rw [Option.getD_some, Plan.teardown, launched]; rfl, ?_⟩
    rw [given, missing]
    decide
  · rw [tag] at found
    cases found
    have other : (Value.str "connect").isText "launch" = false := by rw [Value.isText_str]; rfl
    refine ⟨"disconnect", by rw [Option.getD_some, Plan.teardown, other]; rfl, ?_⟩
    rw [given, missing]
    decide

theorem countP_around {backend : Backend} {browser : Entries} {steps : List Command}
    {operation : String} (accepted : ∀ command ∈ steps, command.IsAccepted)
    (reserved : name.isStep = false) :
    (Plan.around backend browser steps operation).countP
      (fun command => command.name.isText name.tag) = 1 := by
  rw [Plan.around, List.countP_append, List.countP_cons, List.countP_cons, List.countP_singleton,
    countP_reserved accepted reserved, Command.ending, isText_tag, isText_tag, isText_tag]
  cases name with
  | framework => rfl
  | browser => rfl
  | teardown => rfl
  | _ => cases reserved

/-- An accepted document has a plan: its framework, its browser, the only entry of each step as
declared, and the end that belongs to the way the browser is reached. The names of the opening and
the end occur once. -/
theorem accepted_document_plan (document : Value) (accepted : checkDocument document = .ok ()) :
    ∃ entries backend browser steps operation, document = .map entries ∧
      Plan.Describes entries backend browser steps operation ∧
      Plan.ofDocument document = .ok (Plan.around backend browser steps operation) ∧
      ∀ name ∈ [CommandName.framework, .browser, .teardown],
        (Plan.around backend browser steps operation).countP
          (fun command => command.name.isText name.tag) = 1 := by
  obtain ⟨entries, plan, backend, browser, steps, mode, rfl, planned, known⟩ :=
    exists_plan accepted
  obtain ⟨_, same, admitted, checked⟩ := checkDocument_ok accepted
  cases same
  obtain ⟨browser, rfl, _⟩ := known.reachable.choice
  obtain ⟨operation, ends, close, disconnect, single⟩ := exists_ending known.reachable known.mode_eq
  have declared := declares_stepsOf admitted
  rw [eq_map_toStep checked known.taken] at declared
  rw [known.plan_eq, ends] at planned
  refine ⟨entries, backend, browser, steps, operation, rfl,
    ⟨known.framework, known.browser_eq, declared, close, disconnect, single⟩, planned, ?_⟩
  intro name member
  refine countP_around known.accepted ?_
  simp only [List.mem_cons, List.not_mem_nil, or_false] at member
  rcases member with rfl | rfl | rfl <;> rfl

theorem byteKeyScript_has_plan :
    checkDocument (byteKeyScript .puppeteer) = .ok () ∧
      ∃ entries backend browser steps operation, byteKeyScript .puppeteer = .map entries ∧
        Plan.Describes entries backend browser steps operation ∧
        Plan.ofDocument (byteKeyScript .puppeteer) =
          .ok (Plan.around backend browser steps operation) ∧
        ∀ name ∈ [CommandName.framework, .browser, .teardown],
          (Plan.around backend browser steps operation).countP
            (fun command => command.name.isText name.tag) = 1 :=
  ⟨byteKeyScript_accepted .puppeteer,
    accepted_document_plan (byteKeyScript .puppeteer) (byteKeyScript_accepted .puppeteer)⟩

end BrowserScript
