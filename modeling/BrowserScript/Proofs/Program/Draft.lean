import BrowserScript.Proofs.Program.Block

/-!
# Drafts

A program is drafted command by command. As long as the commands belong to the vocabulary and only
the first one names a framework, none is skipped, and the draft fails with the first command whose
block cannot be written.
-/

namespace BrowserScript

variable {command : Command} {name : CommandName}

theorem ofValue?_tag (name : CommandName) : CommandName.ofValue? (.str name.tag) = some name := by
  simp only [CommandName.ofValue?, Value.isText_str]
  cases name <;> decide

theorem eq_tag_of_ofValue? {value : Value}
    (found : CommandName.ofValue? value = some name) : value = .str name.tag := by
  have text := List.find?_some found
  exact Value.isText_iff.1 text

theorem backendOfValue?_tag (backend : Backend) :
    Backend.ofValue? (.str backend.tag) = some backend := by
  simp only [Backend.ofValue?, Value.isText_str]
  cases backend <;> decide

def Command.IsNamed (command : Command) (name : CommandName) : Prop := command.name = .str name.tag

theorem Command.IsNamed.isFramework
    (named : command.IsNamed name) : Program.isFramework command = decide (name = .framework) := by
  unfold Program.isFramework
  rw [named, Value.isText_str]
  cases name <;> decide

theorem Command.IsNamed.isSome_ofValue?
    (named : command.IsNamed name) : (CommandName.ofValue? command.name).isSome = true := by
  rw [named, ofValue?_tag, Option.isSome_some]

def Dialect.Writes (dialect : Dialect) (command : Command) : Prop :=
  ∃ block, dialect.blockOf? command = .ok (some block)

theorem Dialect.Writes.ne_error {dialect : Dialect}
    (writes : dialect.Writes command) (fault : Fault) :
    dialect.blockOf? command ≠ .error fault := by
  obtain ⟨block, written⟩ := writes
  rw [written]
  exact fun impossible => nomatch impossible

theorem Command.IsNamed.blockOf? (named : command.IsNamed name) (dialect : Dialect) :
    dialect.blockOf? command = some <$> dialect.block name command.payload := by
  unfold Dialect.blockOf?
  rw [named, ofValue?_tag]

theorem Command.IsNamed.writes (named : command.IsNamed name) {dialect : Dialect} {lines : Block}
    (written : dialect.block name command.payload = .ok lines) : dialect.Writes command := by
  refine ⟨lines, ?_⟩
  rw [named.blockOf?, written]
  rfl

namespace Program

variable {commands : List Command}

/-- A draft after a number of commands, none of which was skipped. -/
structure Draft.Extends (draft next : Draft) (count : Nat) : Prop where
  warnings : next.warnings = draft.warnings
  stepCount : next.stepCount = draft.stepCount + count

/-- The first command of a list whose block is not written fails with a fault. -/
def FirstFault (dialect : Dialect) (commands : List Command) (fault : Fault) : Prop :=
  ∃ before command after, commands = before ++ command :: after ∧
    (∀ earlier ∈ before, dialect.Writes earlier) ∧ dialect.blockOf? command = .error fault

/-- A command of the vocabulary is taken up, unless its block fails or it names a framework once
more. -/
theorem Draft.add_named (dialect : Dialect) (draft : Draft) {command : Command} {name : CommandName}
    (named : command.IsNamed name) (fresh : name = .framework → draft.prologue = none) :
    (∃ next, Draft.add dialect draft command = .ok next ∧ draft.Extends next 1 ∧
        (name = .framework ∨ next.prologue = draft.prologue) ∧ dialect.Writes command) ∨
      ∃ fault, Draft.add dialect draft command = .error fault ∧
        dialect.blockOf? command = .error fault := by
  have first : (isFramework command && draft.prologue.isSome) = false := by
    rw [named.isFramework]
    by_cases framework : name = .framework
    · rw [fresh framework]
      exact Bool.and_false _
    · rw [decide_eq_false framework]
      exact Bool.false_and _
  unfold Draft.add
  rw [first, if_neg Bool.false_ne_true]
  cases written : dialect.blockOf? command with
  | error fault => exact Or.inr ⟨fault, rfl, rfl⟩
  | ok found =>
      rw [named.blockOf?] at written
      cases block : dialect.block name command.payload with
      | error fault => rw [block] at written; cases written
      | ok lines =>
          rw [block] at written
          cases written
          left
          rw [show command.name.display = .ok name.tag by rw [named]; rfl]
          dsimp only [bind, Except.bind]
          by_cases framework : isFramework command = true
          · rw [if_pos framework]
            rw [named.isFramework, decide_eq_true_eq] at framework
            exact ⟨_, rfl, ⟨rfl, rfl⟩, Or.inl framework, named.writes block⟩
          · rw [if_neg framework]
            exact ⟨_, rfl, ⟨rfl, rfl⟩, Or.inr rfl, named.writes block⟩

/-- Commands that name no framework are all taken up, or the first one that fails decides. -/
theorem foldlM_add (dialect : Dialect)
    (named : ∀ command ∈ commands, ∃ name, command.IsNamed name ∧ name ≠ .framework)
    (draft : Draft) :
    (∃ final, commands.foldlM (Draft.add dialect) draft = .ok final ∧
        draft.Extends final commands.length ∧ ∀ command ∈ commands, dialect.Writes command) ∨
      ∃ fault, commands.foldlM (Draft.add dialect) draft = .error fault ∧
        FirstFault dialect commands fault := by
  induction commands generalizing draft with
  | nil => exact Or.inl ⟨draft, rfl, ⟨rfl, rfl⟩, fun command member => nomatch member⟩
  | cons command commands ih =>
      obtain ⟨name, isNamed, notFramework⟩ := named command List.mem_cons_self
      rw [List.foldlM_cons]
      rcases draft.add_named dialect isNamed (fun framework => absurd framework notFramework) with
        ⟨next, added, extended, _, writes⟩ | ⟨fault, failed, cause⟩
      · rw [added]
        rcases ih (fun other member => named other (List.mem_cons_of_mem _ member)) next with
          ⟨final, folded, rest, written⟩ |
            ⟨fault, failed, before, failing, after, split, written, cause⟩
        · refine Or.inl ⟨final, folded, ⟨rest.warnings.trans extended.warnings, ?_⟩, ?_⟩
          · rw [rest.stepCount, extended.stepCount, List.length_cons]
            omega
          · exact List.forall_mem_cons.2 ⟨writes, written⟩
        · refine Or.inr ⟨fault, failed, command :: before, failing, after, ?_, ?_, cause⟩
          · rw [split]
            rfl
          · exact List.forall_mem_cons.2 ⟨writes, written⟩
      · rw [failed]
        refine Or.inr ⟨fault, rfl, [], command, commands, rfl, ?_, cause⟩
        intro earlier member
        cases member

theorem not_firstFault_of_writes {dialect : Dialect} {fault : Fault}
    (written : ∀ command ∈ commands, dialect.Writes command) :
    ¬ FirstFault dialect commands fault := by
  rintro ⟨before, command, after, split, _, cause⟩
  have member : command ∈ commands := split ▸ List.mem_append_right _ List.mem_cons_self
  exact (written command member).ne_error fault cause

/-- A first fault is the fault of the whole draft. -/
theorem foldlM_add_of_firstFault {dialect : Dialect} {fault : Fault}
    (named : ∀ command ∈ commands, ∃ name, command.IsNamed name ∧ name ≠ .framework)
    (first : FirstFault dialect commands fault) (draft : Draft) :
    commands.foldlM (Draft.add dialect) draft = .error fault := by
  obtain ⟨before, command, after, split, written, cause⟩ := first
  subst split
  have namedBefore : ∀ earlier ∈ before, ∃ name, earlier.IsNamed name ∧ name ≠ .framework :=
    fun earlier member => named earlier (List.mem_append_left _ member)
  obtain ⟨name, isNamed, notFramework⟩ :=
    named command (List.mem_append_right _ List.mem_cons_self)
  rw [List.foldlM_append]
  rcases foldlM_add dialect namedBefore draft with ⟨middle, folded, _⟩ | ⟨_, _, impossible⟩
  · rw [folded]
    rcases middle.add_named dialect isNamed (fun framework => absurd framework notFramework) with
      ⟨_, _, _, _, writes⟩ | ⟨other, failed, same⟩
    · exact absurd cause (writes.ne_error fault)
    · rw [same] at cause
      cases cause
      change List.foldlM (Draft.add dialect) middle (command :: after) = .error fault
      rw [List.foldlM_cons, failed]
      rfl
  · exact absurd impossible (not_firstFault_of_writes written)

/-- A plan that starts with its framework and names no other one. -/
structure OpensWith (plan : Plan) (backend : Backend) (rest : List Command) : Prop where
  split : plan = ⟨.str "framework", .str backend.tag⟩ :: rest
  named : ∀ command ∈ rest, ∃ name, command.IsNamed name ∧ name ≠ .framework

namespace OpensWith

variable {plan : Plan} {backend : Backend} {rest : List Command}

theorem framework_writes (backend : Backend) (dialect : Dialect) :
    dialect.Writes ⟨.str "framework", .str backend.tag⟩ := by
  have named : Command.IsNamed ⟨.str "framework", .str backend.tag⟩ .framework := rfl
  exact named.writes rfl

/-- The program of such a plan is the draft of the rest after the prologue. -/
theorem ofPlan_eq (opens : OpensWith plan backend rest) :
    ∃ draft : Draft, Draft.Extends {} draft 1 ∧
      ofPlan plan = (rest.foldlM (Draft.add backend.dialect) draft).map fun final =>
        let source := assemble (final.prologue.getD []) final.body
        { backend := backend.dialect.backend
          source := source
          stepCount := final.stepCount
          fingerprint := fingerprintOf source
          warnings := final.warnings } := by
  have named : Command.IsNamed ⟨.str "framework", .str backend.tag⟩ .framework := rfl
  rcases Draft.add_named backend.dialect {} named (fun _ => rfl) with
    ⟨draft, added, extended, _⟩ | ⟨fault, _, failed⟩
  · refine ⟨draft, extended, ?_⟩
    have found : plan.find? isFramework = some ⟨.str "framework", .str backend.tag⟩ := by
      rw [opens.split]
      exact List.find?_cons_of_pos named.isFramework
    have dialect : Dialect.ofValue (.str backend.tag) = .ok backend.dialect := by
      unfold Dialect.ofValue
      rw [backendOfValue?_tag]
    have folded : plan.foldlM (Draft.add backend.dialect) {} =
        rest.foldlM (Draft.add backend.dialect) draft := by
      rw [opens.split, List.foldlM_cons, added]
      rfl
    unfold ofPlan
    rw [found]
    dsimp only
    rw [dialect]
    dsimp only [bind, Except.bind]
    rw [folded]
    cases rest.foldlM (Draft.add backend.dialect) draft with
    | error fault => rfl
    | ok final => rfl
  · exact absurd failed ((framework_writes backend backend.dialect).ne_error fault)

theorem firstFault_iff (opens : OpensWith plan backend rest) (fault : Fault) :
    FirstFault backend.dialect plan fault ↔ FirstFault backend.dialect rest fault := by
  constructor
  · rintro ⟨before, command, after, split, written, cause⟩
    rw [opens.split] at split
    cases before with
    | nil =>
        cases split
        exact absurd cause ((framework_writes backend backend.dialect).ne_error fault)
    | cons first before =>
        cases split
        exact ⟨before, command, after, rfl,
          fun earlier member => written earlier (List.mem_cons_of_mem _ member), cause⟩
  · rintro ⟨before, command, after, split, written, cause⟩
    refine ⟨⟨.str "framework", .str backend.tag⟩ :: before, command, after, ?_, ?_, cause⟩
    · rw [opens.split, split]
      rfl
    · exact List.forall_mem_cons.2 ⟨framework_writes backend backend.dialect, written⟩

/-- Such a plan becomes a program that skips nothing, or its first fault is the answer. -/
theorem outcome (opens : OpensWith plan backend rest) :
    (∃ program, ofPlan plan = .ok program ∧ program.backend = backend ∧
        program.warnings = [] ∧ program.stepCount = plan.length) ∨
      ∃ fault, ofPlan plan = .error fault ∧ FirstFault backend.dialect plan fault := by
  obtain ⟨draft, opened, equation⟩ := opens.ofPlan_eq
  rcases foldlM_add backend.dialect opens.named draft with
    ⟨final, folded, extended, _⟩ | ⟨fault, failed, first⟩
  · left
    rw [folded] at equation
    refine ⟨_, equation, ?_, ?_, ?_⟩
    · cases backend <;> rfl
    · exact extended.warnings.trans opened.warnings
    · change final.stepCount = plan.length
      rw [extended.stepCount, opened.stepCount, opens.split, List.length_cons]
      exact Nat.add_comm _ _
  · right
    rw [failed] at equation
    exact ⟨fault, equation, (opens.firstFault_iff fault).2 first⟩

theorem ofPlan_of_firstFault (opens : OpensWith plan backend rest) {fault : Fault}
    (first : FirstFault backend.dialect plan fault) : ofPlan plan = .error fault := by
  obtain ⟨draft, _, equation⟩ := opens.ofPlan_eq
  rw [foldlM_add_of_firstFault opens.named ((opens.firstFault_iff fault).1 first) draft] at equation
  exact equation

end OpensWith

end Program

end BrowserScript
