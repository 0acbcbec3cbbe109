import BrowserScript.CommandLine.Tool
import BrowserScript.Proofs.Effect
import BrowserScript.Proofs.Value.Literal
import BrowserScript.Proofs.Yaml.Content

/-!
# Why a script is not read

A script that is not read breaks the grammar or is no document, and the tool then refuses it as
invalid. Some faults are neither: an escape or a version that is out of range, a scalar that writes
no value for its tag, and a step whose name is too long to be shown. Checking adds only the last of
these. A step has its fault wherever it stands: its number stands in the field and nowhere else.
-/

namespace BrowserScript

def Fault.isScriptError : Fault → Bool
  | .violation _ => true
  | .unreadable _ => true
  | _ => false

namespace Schema

open CommandLine Yaml

/-! ## Checking -/

abbrev Succeeds {α : Type} (outcome : Except Fault α) : Prop :=
  Gives (fun _ => False) outcome fun _ => True

theorem firstFinding_succeeds {check : Value → Except Fault (Option Finding)}
    (each : ∀ value, Succeeds (check value)) (index : Nat) (values : List Value) :
    Succeeds (firstFinding check index values) := by
  induction values generalizing index with
  | nil => trivial
  | cons value values ih =>
      refine (each value).bind fun finding _ => ?_
      cases finding with
      | some finding => trivial
      | none => exact ih (index + 1)

namespace Shape

mutual

/-- Every value is looked at to its first finding or to its end. -/
theorem check_succeeds (shape : Shape) (value : Value) : Succeeds (shape.check value) := by
  cases shape with
  | wordOrFalse words =>
      unfold check
      split <;> trivial
  | list item =>
      unfold check
      split
      · trivial
      · exact firstFinding_succeeds (check_succeeds item) 0 _
  | optional shape =>
      unfold check
      split
      · trivial
      · exact check_succeeds shape value
  | record name fields rule =>
      unfold check
      split
      · refine (checkFields_succeeds fields _).bind fun finding _ => ?_
        cases finding <;> trivial
      · trivial
  | choice key options =>
      unfold check
      split
      · split
        · trivial
        · exact checkOption_succeeds key _ _ options _
      · trivial
  | _ =>
      unfold check
      trivial

theorem checkFields_succeeds (fields : List (String × Bool × Shape)) (entries : Entries) :
    Succeeds (checkFields fields entries) := by
  match fields with
  | [] =>
      unfold checkFields
      trivial
  | (name, required, shape) :: fields =>
      unfold checkFields
      split
      · split
        · trivial
        · exact checkFields_succeeds fields entries
      · refine (check_succeeds shape _).bind fun finding _ => ?_
        cases finding with
        | some finding => trivial
        | none => exact checkFields_succeeds fields entries

theorem checkOption_succeeds (key : String) (tags : List String) (tag : Value)
    (options : List (String × Shape)) (value : Value) :
    Succeeds (checkOption key tags tag options value) := by
  match options with
  | [] =>
      unfold checkOption
      trivial
  | (name, shape) :: options =>
      unfold checkOption
      split
      · exact (check_succeeds shape value).bind fun _ _ => trivial
      · exact checkOption_succeeds key tags tag options value

end

end Shape

theorem Shape.check_eq_ok (shape : Shape) (value : Value) :
    ∃ finding?, shape.check value = .ok finding? := by
  have succeeds := shape.check_succeeds value
  cases checked : shape.check value with
  | ok finding? => exact ⟨finding?, rfl⟩
  | error fault =>
      rw [checked] at succeeds
      exact succeeds.elim

def stepField (index : Nat) (below : String) : String :=
  "steps." ++ String.ofList (natText index) ++ below

/-- The end of the field names the step itself or a place below it. -/
def IsBelow (below : String) : Prop := below = "" ∨ ∃ path, below = "." ++ path

theorem violation_field (index : Nat) (tag : String) (finding : Finding) :
    violation ["steps." ++ String.ofList (natText index), tag] finding =
      ⟨stepField index ("." ++ String.intercalate "." (tag :: finding.path)), finding.reason⟩ := by
  unfold violation stepField
  simp only [List.cons_append, List.nil_append, List.isEmpty_cons, Bool.false_eq_true, if_false,
    String.intercalate_cons_cons, String.append_assoc]

theorem display_unwritable {name : Value} (long : name.isWritable = false) :
    name.display = .error Fault.tooLong := by
  have shows := Value.display_writtenWhen name
  cases displayed : name.display with
  | error fault => rw [(shows.error displayed).2]
  | ok shown =>
      rw [displayed, long] at shows
      cases shows

/-- A step is accepted everywhere, or it has one fault, in whose field alone its number stands. The
fault is a violation, unless the step has a name that cannot be shown. -/
theorem checkStep_uniform (step : Value) :
    (∀ index, checkStep index step = .ok ()) ∨
    (∃ below message, IsBelow below ∧
      ∀ index, checkStep index step = .error (.violation ⟨stepField index below, message⟩)) ∨
    (∃ name payload, step = .map [(name, payload)] ∧ name.isWritable = false ∧
      ∀ index, checkStep index step = .error Fault.tooLong) := by
  by_cases single : ∃ name value, step = .map [(name, value)]
  · obtain ⟨name, value, rfl⟩ := single
    unfold checkStep
    dsimp only
    cases named : (CommandName.ofValue? name).filter (·.isStep) with
    | none =>
        dsimp only
        cases writable : name.isWritable with
        | true =>
            obtain ⟨shown, displayed⟩ := (Value.display_writtenWhen name).ok writable
            obtain ⟨literal, written⟩ := (Value.literalText_writtenWhen name).ok writable
            refine .inr (.inl ⟨"." ++ shown, "unknown command " ++ literal, .inr ⟨shown, rfl⟩, ?_⟩)
            intro index
            rw [displayed, written, stepField, ← String.append_assoc]
            rfl
        | false =>
            refine .inr (.inr ⟨name, value, rfl, writable, fun index => ?_⟩)
            rw [display_unwritable writable]
            rfl
    | some command =>
        dsimp only
        obtain ⟨finding?, checked⟩ := (payload command).check_eq_ok value
        rw [checked]
        cases finding? with
        | none => exact .inl fun index => rfl
        | some finding =>
            refine .inr (.inl ⟨"." ++ String.intercalate "." (command.tag :: finding.path),
              finding.reason, .inr ⟨_, rfl⟩, fun index => ?_⟩)
            exact congrArg (fun found => Except.error (Fault.violation found))
              (violation_field index command.tag finding)
  · refine .inr (.inl ⟨"", "each step must be a mapping with exactly one command", .inl rfl,
      fun index => ?_⟩)
    unfold checkStep stepField
    dsimp only
    split
    · exact absurd ⟨_, _, rfl⟩ single
    · rw [String.append_empty]
      rfl

inductive Unaccepted (steps : List Value) : Fault → Prop where
  /-- A step breaks the grammar. -/
  | violation (violation : Violation) : Unaccepted steps (.violation violation)
  /-- A step has a name that cannot be shown. -/
  | unshown {name payload : Value} (listed : .map [(name, payload)] ∈ steps)
      (long : name.isWritable = false) : Unaccepted steps Fault.tooLong

theorem checkStep_gives (index : Nat) {step : Value} {steps : List Value} (member : step ∈ steps) :
    Gives (Unaccepted steps) (checkStep index step) fun _ => True := by
  rcases checkStep_uniform step with
    accepted | ⟨below, message, _, failed⟩ | ⟨name, payload, rfl, long, failed⟩
  · rw [accepted index]
    trivial
  · rw [failed index]
    exact .violation _
  · rw [failed index]
    exact .unshown member long

theorem checkSteps_gives (index : Nat) (steps : List Value) {all : List Value}
    (members : ∀ step ∈ steps, step ∈ all) :
    Gives (Unaccepted all) (checkSteps index steps) fun _ => True := by
  induction steps generalizing index with
  | nil => trivial
  | cons step steps ih =>
      -- The steps of the document stay the same, while those left get fewer.
      obtain ⟨first, others⟩ := List.forall_mem_cons.1 members
      exact (checkStep_gives index first).bind fun _ _ => ih (index + 1) others

/-! ## Reading -/

/-- What explains a fault that does not say that a script is invalid. -/
inductive Stray (text : String) : Fault → Prop where
  /-- An escape or a version is out of range. -/
  | misread {fault : Fault} (explained : Misread text.toList fault) : Stray text fault
  /-- A scalar writes no value for its tag. -/
  | valueless {root : Node} {fault : Fault}
      (composed : Node.ofEvents? (events (tokens text.toList)) = .ok (some root))
      (explained : root.Valueless fault) : Stray text fault
  /-- A step has a name that cannot be shown. -/
  | unshown {entries : Entries} {name payload : Value}
      (read : readDocument text = .ok (.map entries))
      (listed : .map [(name, payload)] ∈ stepsOf entries) (long : name.isWritable = false) :
      Stray text Fault.tooLong

theorem readDocument_gives (text : String) :
    Gives (Stray text) (readDocument text) fun _ => True := by
  unfold readDocument
  dsimp only
  split
  · exact .misread (.unreadable _)
  · cases composed : Node.ofEvents? (events (tokens text.toList)) with
    | error fault => exact .misread (misread_of_ofEvents? composed)
    | ok root? =>
        cases root? with
        | none => trivial
        | some root => exact root.value_gives.weaken fun explained => .valueless composed explained

theorem checkDocument_gives {text : String} {value : Value} (read : readDocument text = .ok value) :
    Gives (fun fault => fault.isScriptError = true ∨ Stray text fault) (checkDocument value)
      fun _ => True := by
  unfold checkDocument
  split
  · rename_i entries
    have checked := (document.check_succeeds (.map entries)).weaken
      fun {fault} (never : False) => (never.elim : fault.isScriptError = true ∨ Stray text fault)
    refine checked.bind fun finding _ => ?_
    cases finding with
    | some finding => exact .inl rfl
    | none =>
        refine (checkSteps_gives 0 _ fun _ member => member).weaken fun explained => ?_
        cases explained with
        | violation => exact .inl rfl
        | unshown listed long => exact .inr (.unshown read listed long)
  · exact .inl rfl

/-- A text is read as a document that is accepted, or it is an invalid script, or its fault is a
stray one. -/
theorem readScript_gives (text : String) :
    Gives (fun fault => fault.isScriptError = true ∨ Stray text fault) (readScript text)
      fun value => readDocument text = .ok value ∧ checkDocument value = .ok () := by
  unfold readScript
  cases read : readDocument text with
  | error fault => exact .inr ((readDocument_gives text).explained read)
  | ok value =>
      have explained := checkDocument_gives read
      change Gives _ (checkDocument value >>= fun _ => pure value) _
      cases checked : checkDocument value with
      | error fault => exact explained.explained checked
      | ok => exact ⟨rfl, checked⟩

theorem readScript_eq_ok_iff {text : String} {value : Value} :
    readScript text = .ok value ↔ readDocument text = .ok value ∧ checkDocument value = .ok () := by
  constructor
  · intro accepted
    have gives := readScript_gives text
    rwa [accepted] at gives
  · rintro ⟨read, checked⟩
    rw [readScript, read]
    change checkDocument value >>= (fun _ => pure value) = _
    rw [checked]
    rfl

/-! ## Refusal by the tool -/

def HoldsText (files : Files) (path text : String) : Prop :=
  ∃ data characters, files.readBytes path = .ok data ∧ Text.Utf8.decode data = .ok characters ∧
    String.ofList (Files.plainLines characters) = text

def endingOf (path : String) (fault : Fault) : Ending :=
  if fault.isScriptError then .refused ("invalid script " ++ path ++ ": " ++ fault.message)
  else .fault fault

theorem ends_readPlan {path text : String} {console : Console} {fault : Fault}
    (holds : HoldsText console.files path text) (failed : readScript text = .error fault) :
    Effect.ends (Tool.readPlan path) console = (.error (endingOf path fault), console) := by
  obtain ⟨data, characters, read, decoded, rfl⟩ := holds
  have lifted : Effect.ends (Session.lift (Text.Utf8.decode data)) console
      = (.ok characters, console) := by
    rw [decoded]
    rfl
  unfold Tool.readPlan
  rw [Effect.ends_get_bind, read]
  dsimp only
  rw [Effect.ends_bind_of_ok lifted, failed]
  cases fault <;> rfl

/-- A text is read as a script when it writes a document that is accepted. A script that is not read
is invalid, and the tool refuses it as such; only a stray fault ends the tool in another way. -/
theorem script_read_or_explained (text : String) :
    (∀ value, readScript text = .ok value ↔
      readDocument text = .ok value ∧ checkDocument value = .ok ()) ∧
    ∀ fault, readScript text = .error fault →
      (fault.isScriptError = false → Stray text fault) ∧
      ∀ path console, HoldsText console.files path text →
        Effect.ends (Tool.readPlan path) console = (.error (endingOf path fault), console) := by
  refine ⟨fun value => readScript_eq_ok_iff, fun fault failed => ⟨fun other => ?_, ?_⟩⟩
  · rcases (readScript_gives text).explained failed with invalid | stray
    · rw [other] at invalid
      cases invalid
    · exact stray
  · exact fun path console holds => ends_readPlan holds failed

/-- A text in quotes whose escape is beyond the last code point. -/
def escapeScript : String := "\"\\U00110000\""

theorem readScript_escapeScript :
    readScript escapeScript = .error (.invalid (.other "chr() arg not in range(0x110000)")) := by
  with_unfolding_all rfl

theorem holdsText_escapeScript :
    HoldsText [("a.yaml", .bytes escapeScript.toUTF8.toList)] "a.yaml" escapeScript :=
  ⟨escapeScript.toUTF8.toList, escapeScript.toList, by with_unfolding_all rfl,
    by with_unfolding_all rfl, by with_unfolding_all rfl⟩

/-- The tool does not refuse a script with such an escape as invalid. -/
theorem escapeScript_explained :
    Stray escapeScript (.invalid (.other "chr() arg not in range(0x110000)")) ∧
    Effect.ends (Tool.readPlan "a.yaml")
        { files := [("a.yaml", .bytes escapeScript.toUTF8.toList)] }
      = (.error (.fault (.invalid (.other "chr() arg not in range(0x110000)"))),
        { files := [("a.yaml", .bytes escapeScript.toUTF8.toList)] }) := by
  obtain ⟨stray, ends⟩ := (script_read_or_explained escapeScript).2 _ readScript_escapeScript
  exact ⟨stray rfl, ends "a.yaml" _ holdsText_escapeScript⟩

/-- A date in a thirteenth month is not refused as an invalid script. -/
theorem date_escapes_refusal :
    ∃ fault, readScript "2024-13-45" = .error fault ∧ fault.isScriptError = false := by
  -- Faults cannot be compared, so the answer is matched with its form.
  have run : (match readScript "2024-13-45" with
      | .error (.invalid (.calendar .month)) => true
      | _ => false) = true := by decide +kernel
  split at run
  · rename_i same
    exact ⟨_, same, rfl⟩
  · cases run

end Schema

end BrowserScript
