import BrowserScript.Proofs.Program.BlockTemplate
import BrowserScript.Proofs.Program.Draft
import Mathlib.Data.List.Forall2

/-!
# The text of a program

A program is its prologue, its main function and a fixed end. The main function holds, indented,
the block of every command that is carried out and the line that reports it. No payload reaches
another line than its own, so all lines that are not indented depend on the backend alone.
-/

namespace BrowserScript

namespace Program

variable {backend : Backend} {blocks : List Block} {plan : Plan}

theorem isFramework_iff {command : Command} :
    isFramework command = true ↔ command.IsNamed .framework := Value.isText_iff

/-- The commands of a plan that a program carries out: those of the vocabulary, and of the framework
commands the first. -/
def carriedOut (opened : Bool) : Plan → List Command
  | [] => []
  | command :: rest =>
      if isFramework command then
        if opened then carriedOut true rest else command :: carriedOut true rest
      else if (CommandName.ofValue? command.name).isSome then command :: carriedOut opened rest
      else carriedOut opened rest

theorem carriedOut_ne_nil (any : plan.any isFramework = true) : carriedOut false plan ≠ [] := by
  induction plan with
  | nil => cases any
  | cons command plan ih =>
      rw [carriedOut]
      by_cases framework : isFramework command = true
      · rw [if_pos framework, if_neg Bool.false_ne_true]
        exact List.cons_ne_nil _ _
      · rw [if_neg framework]
        rw [List.any_cons, Bool.or_eq_true, or_iff_right framework] at any
        split
        · exact List.cons_ne_nil _ _
        · exact ih any

/-- The blocks that a command adds to the main function: its own, which a framework command has not,
and the line that reports it. -/
inductive Adds (dialect : Dialect) (command : Command) : List Block → Prop where
  | report (named : command.IsNamed .framework) :
      Adds dialect command [[Block.acknowledge CommandName.framework.tag]]
  | block {name : CommandName} {lines : Block} (named : command.IsNamed name)
      (other : name ≠ .framework) (written : dialect.block name command.payload = .ok lines) :
      Adds dialect command [lines, [Block.acknowledge name.tag]]

namespace Draft

variable {dialect : Dialect} {draft : Draft}

inductive Takes (dialect : Dialect) (draft : Draft) (command : Command) : Draft → Prop where
  | repeated {payload : String} (named : command.IsNamed .framework)
      (opened : draft.prologue.isSome = true) (shown : command.payload.literalText = .ok payload) :
      Takes dialect draft command
        (draft.warn ("duplicate framework command " ++ payload ++ " ignored"))
  | unknown {name : String} (unnamed : CommandName.ofValue? command.name = none)
      (shown : command.name.literalText = .ok name) :
      Takes dialect draft command
        (draft.warn (dialect.backend.tag ++ " backend has no handler for command " ++ name
          ++ "; step skipped"))
  | opens (named : command.IsNamed .framework) (fresh : draft.prologue = none) :
      Takes dialect draft command
        { draft with
          prologue := some dialect.prologue
          body := draft.body ++ [Block.acknowledge CommandName.framework.tag]
          stepCount := draft.stepCount + 1 }
  | adds {name : CommandName} {lines : Block} (named : command.IsNamed name)
      (other : name ≠ .framework) (written : dialect.block name command.payload = .ok lines) :
      Takes dialect draft command
        { draft with
          body := draft.body ++ [lines.text, Block.acknowledge name.tag]
          stepCount := draft.stepCount + 1 }

theorem takes_of_add {next : Draft} {command : Command}
    (added : Draft.add dialect draft command = .ok next) : draft.Takes dialect command next := by
  unfold Draft.add at added
  split at added
  · rename_i again
    obtain ⟨framework, opened⟩ := Bool.and_eq_true_iff.1 again
    obtain ⟨payload, shown, added⟩ := bind_eq_ok added
    cases added
    exact .repeated (isFramework_iff.1 framework) opened shown
  · rename_i first
    obtain ⟨found, written, added⟩ := bind_eq_ok added
    cases vocabulary : CommandName.ofValue? command.name with
    | none =>
        rw [Dialect.blockOf?, vocabulary] at written
        cases written
        obtain ⟨name, shown, added⟩ := bind_eq_ok added
        cases added
        exact .unknown vocabulary shown
    | some name =>
        have named : command.IsNamed name := eq_tag_of_ofValue? vocabulary
        rw [named.blockOf?] at written
        cases block : dialect.block name command.payload with
        | error fault =>
            rw [block] at written
            cases written
        | ok lines =>
            rw [block] at written
            cases written
            rw [show command.name.display = .ok name.tag by rw [named]; rfl] at added
            dsimp only [bind, Except.bind] at added
            by_cases framework : isFramework command = true
            · rw [if_pos framework] at added
              cases added
              have fresh : draft.prologue = none := by
                rw [framework, Bool.true_and, Bool.not_eq_true] at first
                exact Option.isSome_eq_false_iff.1 first |> Option.isNone_iff_eq_none.1
              rw [named.isFramework, decide_eq_true_eq] at framework
              subst framework
              cases block
              exact .opens named fresh
            · rw [if_neg framework] at added
              cases added
              rw [named.isFramework, decide_eq_true_eq] at framework
              exact .adds named framework block

theorem not_isFramework_of_unnamed {command : Command}
    (unnamed : CommandName.ofValue? command.name = none) : isFramework command = false := by
  rw [← Bool.not_eq_true, isFramework_iff]
  intro named
  rw [named, ofValue?_tag] at unnamed
  cases unnamed

/-- The prologue of a draft is that of the first framework command. -/
theorem prologue_of_foldlM {plan : Plan} {final : Draft}
    (drafted : plan.foldlM (Draft.add dialect) draft = .ok final) :
    final.prologue =
      draft.prologue.or (if plan.any isFramework then some dialect.prologue else none) := by
  induction plan generalizing draft with
  | nil =>
      cases drafted
      exact Option.or_none.symm
  | cons command plan ih =>
      rw [List.foldlM_cons] at drafted
      obtain ⟨next, added, drafted⟩ := bind_eq_ok drafted
      rw [ih drafted, List.any_cons]
      cases takes_of_add added with
      | repeated named opened shown =>
          obtain ⟨prologue, same⟩ := Option.isSome_iff_exists.1 opened
          simp only [warn, same, Option.some_or]
      | unknown unnamed shown => rw [not_isFramework_of_unnamed unnamed, Bool.false_or, warn]
      | opens named fresh =>
          rw [named.isFramework, fresh]
          rfl
      | adds named other written =>
          rw [named.isFramework, decide_eq_false other, Bool.false_or]

/-- The body of a draft grows by what the commands add that are carried out. -/
theorem body_of_foldlM {plan : Plan} {final : Draft}
    (drafted : plan.foldlM (Draft.add dialect) draft = .ok final) :
    ∃ parts, List.Forall₂ (Adds dialect) (carriedOut draft.prologue.isSome plan) parts ∧
      final.body = draft.body ++ parts.flatten.map Block.text := by
  induction plan generalizing draft with
  | nil =>
      cases drafted
      exact ⟨[], .nil, (List.append_nil _).symm⟩
  | cons command plan ih =>
      rw [List.foldlM_cons] at drafted
      obtain ⟨next, added, drafted⟩ := bind_eq_ok drafted
      obtain ⟨parts, listed, same⟩ := ih drafted
      cases takes_of_add added with
      | repeated named opened shown =>
          refine ⟨parts, ?_, same⟩
          rw [carriedOut, if_pos (isFramework_iff.2 named), if_pos opened, ← opened]
          exact listed
      | unknown unnamed shown =>
          refine ⟨parts, ?_, same⟩
          rw [carriedOut, not_isFramework_of_unnamed unnamed, if_neg Bool.false_ne_true, unnamed,
            Option.isSome_none, if_neg Bool.false_ne_true]
          exact listed
      | opens named fresh =>
          refine ⟨[[Block.acknowledge CommandName.framework.tag]] :: parts, ?_, ?_⟩
          · rw [carriedOut, if_pos (isFramework_iff.2 named), fresh, Option.isSome_none,
              if_neg Bool.false_ne_true]
            exact .cons (.report named) listed
          · rw [same, List.append_assoc]
            rfl
      | @adds name lines named other written =>
          refine ⟨[lines, [Block.acknowledge name.tag]] :: parts, ?_, ?_⟩
          · rw [carriedOut, named.isFramework, decide_eq_false other, if_neg Bool.false_ne_true,
              if_pos named.isSome_ofValue?]
            exact .cons (.block named other written) listed
          · rw [same, List.append_assoc]
            rfl

end Draft

theorem eq_dialect_of_ofValue {value : Value} {dialect : Dialect}
    (chosen : Dialect.ofValue value = .ok dialect) : dialect = dialect.backend.dialect := by
  unfold Dialect.ofValue at chosen
  cases named : Backend.ofValue? value with
  | none =>
      rw [named] at chosen
      obtain ⟨text, _, thrown⟩ := bind_eq_ok chosen
      cases thrown
  | some backend =>
      rw [named] at chosen
      cases chosen
      cases backend <;> rfl

/-- A program is the prologue of its backend and what its commands add, of which there is one. -/
theorem source_of_ofPlan {program : Program} (compiled : ofPlan plan = .ok program) :
    ∃ parts, List.Forall₂ (Adds program.backend.dialect) (carriedOut false plan) parts ∧
      carriedOut false plan ≠ [] ∧
      program.source =
        assemble program.backend.dialect.prologue (parts.flatten.map Block.text) := by
  unfold ofPlan at compiled
  cases found : plan.find? isFramework with
  | none =>
      rw [found] at compiled
      cases compiled
  | some framework =>
      rw [found] at compiled
      obtain ⟨dialect, chosen, compiled⟩ := bind_eq_ok compiled
      obtain ⟨draft, drafted, compiled⟩ := bind_eq_ok compiled
      cases compiled
      obtain ⟨parts, listed, body⟩ := Draft.body_of_foldlM drafted
      have prologue := Draft.prologue_of_foldlM drafted
      have any : plan.any isFramework = true :=
        List.any_eq_true.2 ⟨framework, List.mem_of_find?_eq_some found, List.find?_some found⟩
      rw [any, if_pos rfl] at prologue
      refine ⟨parts, ?_, carriedOut_ne_nil any, ?_⟩
      · rw [← eq_dialect_of_ofValue chosen]
        exact listed
      · rw [← eq_dialect_of_ofValue chosen, prologue, body]
        rfl

/-! ## Lines -/

open Text

/-- What a command adds holds lines. -/
theorem Adds.holdsLines {command : Command} (adds : Adds backend.dialect command blocks) :
    blocks ≠ [] ∧ ∀ block ∈ blocks, block.HoldsLines := by
  cases adds with
  | report named =>
      refine ⟨List.cons_ne_nil _ _, List.forall_mem_singleton.2 ?_⟩
      exact Block.holdsLines_single (acknowledge_isLine _)
  | block named other written =>
      refine ⟨List.cons_ne_nil _ _, List.forall_mem_cons.2 ⟨?_, List.forall_mem_singleton.2 ?_⟩⟩
      · exact block_holdsLines backend other command.payload _ written
      · exact Block.holdsLines_single (acknowledge_isLine _)

theorem holdsLines_of_adds {commands : List Command}
    {parts : List (List Block)} (listed : List.Forall₂ (Adds backend.dialect) commands parts) :
    ∀ block ∈ parts.flatten, block.HoldsLines := by
  induction listed with
  | nil => exact List.forall_mem_nil _
  | cons adds _ ih => exact List.forall_mem_append.2 ⟨adds.holdsLines.2, ih⟩

theorem ne_nil_of_adds {commands : List Command} {parts : List (List Block)}
    (listed : List.Forall₂ (Adds backend.dialect) commands parts) (given : commands ≠ []) :
    parts.flatten ≠ [] := by
  cases listed with
  | nil => exact absurd rfl given
  | cons adds _ => exact List.append_ne_nil_of_left_ne_nil adds.holdsLines.1 _

/-- Blocks that hold lines are joined line by line. -/
theorem toList_joinLines_text (each : ∀ block ∈ blocks, block.HoldsLines) :
    (joinLines (blocks.map Block.text)).toList =
      ['\n'].intercalate (blocks.flatten.map String.toList) := by
  have nonempty : [] ∉ blocks := fun member => (each [] member).1 rfl
  calc (joinLines (blocks.map Block.text)).toList
    _ = (joinLines blocks.flatten).toList := congrArg _ (joinLines_map_joinLines nonempty)
    _ = _ := String.toList_intercalate

theorem isLine_of_mem_flatten (each : ∀ block ∈ blocks, block.HoldsLines) :
    ∀ line ∈ blocks.flatten.map String.toList, IsLine line := by
  intro line member
  obtain ⟨text, listed, rfl⟩ := List.mem_map.1 member
  obtain ⟨block, inBlocks, inBlock⟩ := List.mem_flatten.1 listed
  exact (each block inBlocks).2 text inBlock

def opening (prologue : Block) : List Char :=
  (prologue.text ++ "\n\nasync def main():\n").toList

/-- What stands after the last line of the main function. -/
def ending : List Char :=
  "\n\nif __name__ == \"__main__\":\n    asyncio.run(main())\n".toList

def around (prologue : Block) (body : List Char) : List Char :=
  opening prologue ++ body ++ '\n' :: ending

theorem toList_assemble (prologue : Block) (body : List String) :
    (assemble prologue body).toList = around prologue (indent (joinLines body).toList) := by
  have last : "\n\n\nif __name__ == \"__main__\":\n    asyncio.run(main())\n".toList =
      '\n' :: ending := rfl
  simp only [assemble, around, opening, String.toList_append, String.toList_ofList, last]

/-- A body that holds blocks: every line is indented, and without the indentation they are the
joined blocks. -/
structure HoldsBlocks (body : List Char) (blocks : List Block) : Prop where
  indented : ∀ line ∈ brokenLines body, indentation <+: line
  joined : (brokenLines body).flatMap (List.drop indentation.length) =
    (joinLines (blocks.map Block.text)).toList

theorem holdsBlocks_indent (each : ∀ block ∈ blocks, block.HoldsLines) :
    HoldsBlocks (indent (joinLines (blocks.map Block.text)).toList) blocks := by
  obtain ⟨indented, joined⟩ := brokenLines_indent (isLine_of_mem_flatten each)
  rw [← toList_joinLines_text each] at indented joined
  exact ⟨indented, joined⟩

/-- The lines of a program: those before the main function, every line of a block on a line of its
own, and those of the end. -/
theorem lines_assemble (prologue : Block)
    (each : ∀ block ∈ blocks, block.HoldsLines) (given : blocks ≠ []) :
    lines (assemble prologue (blocks.map Block.text)).toList =
      lines (opening prologue) ++
        (blocks.flatten.map String.toList).map (indentation ++ ·) ++ lines ending := by
  have isLine := isLine_of_mem_flatten each
  have unbroken : ∀ line ∈ (blocks.flatten.map String.toList).map (indentation ++ ·),
      Unbroken line := by
    intro line member
    obtain ⟨inner, listed, rfl⟩ := List.mem_map.1 member
    exact (isLine inner listed).indented.unbroken
  have nonempty : (blocks.flatten.map String.toList).map (indentation ++ ·) ≠ [] := by
    obtain ⟨block, listed⟩ := List.exists_mem_of_ne_nil blocks given
    obtain ⟨line, inBlock⟩ := List.exists_mem_of_ne_nil block (each block listed).1
    have inBlocks := List.mem_flatten.2 ⟨block, listed, inBlock⟩
    exact List.ne_nil_of_mem (List.mem_map_of_mem (List.mem_map_of_mem inBlocks))
  -- The opening ends with a line feed, so the body starts on a line of its own.
  have split : opening prologue = (prologue.text ++ "\n\nasync def main():").toList ++ ['\n'] := by
    simp [opening]
  rw [toList_assemble, around, toList_joinLines_text each, indent_intercalate isLine, split,
    List.append_assoc, List.append_assoc, List.singleton_append, lines_append,
    lines_intercalate_append unbroken nonempty, List.append_assoc]

theorem outerLines_source {program : Program} (compiled : ofPlan plan = .ok program) :
    outerLines program.source.toList =
      outerLines (opening program.backend.dialect.prologue) ++ outerLines ending := by
  obtain ⟨parts, listed, given, source⟩ := source_of_ofPlan compiled
  rw [outerLines, source,
    lines_assemble _ (holdsLines_of_adds listed) (ne_nil_of_adds listed given),
    List.filter_append, List.filter_append, filter_indented, List.append_nil]
  rfl

/-- The main function of a program holds, line by line, the blocks and reports of the commands that
are carried out, and the lines that are not indented are those of every program for the backend. -/
theorem main_holds_blocks {plan : Plan} {program : Program} (compiled : ofPlan plan = .ok program) :
    (∃ parts body, List.Forall₂ (Adds program.backend.dialect) (carriedOut false plan) parts ∧
      program.source.toList = around program.backend.dialect.prologue body ∧
      HoldsBlocks body parts.flatten ∧
      lines program.source.toList =
        lines (opening program.backend.dialect.prologue) ++
          (parts.flatten.flatten.map String.toList).map (indentation ++ ·) ++ lines ending) ∧
    ∀ other another, ofPlan other = .ok another → another.backend = program.backend →
      outerLines another.source.toList = outerLines program.source.toList := by
  refine ⟨?_, ?_⟩
  · obtain ⟨parts, listed, given, source⟩ := source_of_ofPlan compiled
    have each := holdsLines_of_adds listed
    refine ⟨parts, _, listed, ?_, holdsBlocks_indent each, ?_⟩
    · rw [source, toList_assemble]
    · rw [source, lines_assemble _ each (ne_nil_of_adds listed given)]
  · intro other another alsoCompiled same
    rw [outerLines_source compiled, outerLines_source alsoCompiled, same]

/-- A pause whose length holds line breaks of several kinds and program text after each. -/
def breakingPause : Command :=
  ⟨.str CommandName.wait.tag, .map [(.str "timeout", .str "1\r\n    a()\x0cb()\u2028c()\x85d()\n")]⟩

theorem breakingPause_main :
    ∃ program, ofPlan [⟨.str "framework", .str Backend.puppeteer.tag⟩, breakingPause] = .ok program ∧
      program.backend = .puppeteer ∧
      (∃ parts body, List.Forall₂ (Adds program.backend.dialect)
          [⟨.str "framework", .str Backend.puppeteer.tag⟩, breakingPause] parts ∧
        program.source.toList = around program.backend.dialect.prologue body ∧
        HoldsBlocks body parts.flatten ∧
        lines program.source.toList =
          lines (opening program.backend.dialect.prologue) ++
            (parts.flatten.flatten.map String.toList).map (indentation ++ ·) ++ lines ending) ∧
      ∀ other another, ofPlan other = .ok another → another.backend = program.backend →
        outerLines another.source.toList = outerLines program.source.toList := by
  have named : breakingPause.IsNamed .wait := rfl
  have field : breakingPause.payload.field "timeout" =
      .ok (.str "1\r\n    a()\x0cb()\u2028c()\x85d()\n") :=
    Value.field_map (by rw [Entries.get?_cons]; rfl)
  obtain ⟨block, written⟩ : ∃ block, Dialect.wait breakingPause.payload = .ok block := by
    rw [Dialect.wait, field]
    exact ⟨_, rfl⟩
  have writes : Puppeteer.dialect.Writes breakingPause := named.writes written
  have opens : OpensWith [⟨.str "framework", .str Backend.puppeteer.tag⟩, breakingPause] .puppeteer
      [breakingPause] :=
    ⟨rfl, List.forall_mem_singleton.2 ⟨.wait, named, by decide⟩⟩
  have all : carriedOut false [⟨.str "framework", .str Backend.puppeteer.tag⟩, breakingPause] =
      [⟨.str "framework", .str Backend.puppeteer.tag⟩, breakingPause] := by
    have framework : isFramework ⟨.str "framework", .str Backend.puppeteer.tag⟩ = true :=
      isFramework_iff.2 rfl
    simp [carriedOut, framework, named.isFramework, named.isSome_ofValue?]
  rcases opens.outcome with ⟨program, compiled, backend, _⟩ | ⟨fault, _, first⟩
  · have main := main_holds_blocks compiled
    rw [all] at main
    exact ⟨program, compiled, backend, main⟩
  · exact absurd first (not_firstFault_of_writes (List.forall_mem_cons.2
      ⟨OpensWith.framework_writes .puppeteer Puppeteer.dialect, List.forall_mem_singleton.2 writes⟩))

end Program

end BrowserScript
