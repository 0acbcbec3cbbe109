import BrowserScript.Baseline.Registry
import BrowserScript.Proofs.Json.ReadBack

/-!
# Registries in files

A file gives the registry of a JSON object, or the fault of a registry that cannot be read. Three
causes are passed on as they are: a path with a null character, bytes that are no text, and an
integer with more digits than the limit.
-/

namespace BrowserScript

namespace Json

/-- What reading can end with: an integer is refused only if it has more digits than the limit. -/
inductive KeepsLimit {α : Type} : Except Refusal α → Prop
  | ok (item : α) : KeepsLimit (.ok item)
  | problem (cause : Problem) (index : Nat) : KeepsLimit (.error (.problem cause index))
  | tooLong {digits : Nat} (long : integerDigitLimit < digits) :
      KeepsLimit (.error (.tooLong digits))

namespace KeepsLimit

variable {α β : Type}

theorem bind {result : Except Refusal α} {next : α → Except Refusal β} (first : KeepsLimit result)
    (second : ∀ item, KeepsLimit (next item)) : KeepsLimit (result >>= next) := by
  cases first with
  | ok item => exact second item
  | problem cause index => exact .problem cause index
  | tooLong long => exact .tooLong long

theorem ofNumbered (index : Nat) (rest : List Char) : KeepsLimit (numbered index rest) := by
  unfold numbered
  repeat' split
  all_goals constructor

theorem ofString (cursor : Cursor) : KeepsLimit (string cursor) := by
  have characters (start index : Nat) (rest : List Char) :
      KeepsLimit (stringFrom start index rest) := by
    fun_induction stringFrom start index rest with
    | case1 => exact .problem _ _
    | case2 => exact .ok _
    | case3 => exact .problem _ _
    | case4 index rest ih =>
        exact (ofNumbered index rest).bind fun found => (ih found.2).bind fun _ => .ok _
    | case5 => exact .problem _ _
    | case6 _ _ _ _ _ _ ih => exact ih.bind fun _ => .ok _
    | case7 => exact .problem _ _
    | case8 _ _ _ _ _ _ _ _ ih => exact ih.bind fun _ => .ok _
  exact (characters _ _ _).bind fun _ => .ok _

theorem ofPlain (cursor : Cursor) : KeepsLimit (plain cursor) := by
  unfold plain
  split
  · exact .ok _
  · unfold number
    dsimp only
    generalize (if cursor.isAt '-' then cursor.rest.drop 1 else cursor.rest) = body
    split
    · exact .problem _ _
    · split
      · split
        · rename_i long
          exact .tooLong long
        · exact .ok _
      · exact .ok _

theorem ofFurther {closing : Char} {first : Except Refusal (α × Cursor)}
    {others : Cursor → Except Refusal (List α × Cursor)} (reads : KeepsLimit first)
    (readsOthers : ∀ cursor, KeepsLimit (others cursor)) :
    KeepsLimit (further closing first others) := by
  refine reads.bind fun item => ?_
  dsimp only
  split
  · exact .ok _
  · split
    · exact .problem _ _
    · exact (readsOthers _).bind fun _ => .ok _

theorem ofRounds (rounds : Nat) :
    (∀ cursor, KeepsLimit (value rounds cursor)) ∧ (∀ cursor, KeepsLimit (members rounds cursor)) ∧
      ∀ cursor, KeepsLimit (elements rounds cursor) := by
  -- Values, members and elements read each other, each with one round less.
  induction rounds with
  | zero => exact ⟨fun _ => .problem _ _, fun _ => .problem _ _, fun _ => .problem _ _⟩
  | succ rounds ih =>
      obtain ⟨values, memberLists, elementLists⟩ := ih
      refine ⟨fun cursor => ?_, fun cursor => ?_, fun cursor => ?_⟩
      · rw [value]
        split
        · exact (ofString cursor).bind fun _ => .ok _
        · split
          · dsimp only
            split
            · exact .ok _
            · exact (memberLists _).bind fun _ => .ok _
          · split
            · dsimp only
              split
              · exact .ok _
              · exact (elementLists _).bind fun _ => .ok _
            · exact ofPlain cursor
      · rw [members_succ]
        refine ofFurther ?_ memberLists
        unfold member
        split
        · exact .problem _ _
        · refine (ofString cursor).bind fun name => ?_
          dsimp only
          split
          · exact .problem _ _
          · exact (values _).bind fun _ => .ok _
      · rw [elements_succ]
        exact ofFurther (values cursor) elementLists

theorem ofRead (text : List Char) : KeepsLimit (read text) := by
  unfold read
  dsimp only
  split
  · exact .problem _ _
  · refine ((ofRounds _).1 _).bind fun result => ?_
    split
    · exact .problem _ _
    · exact .ok _

end KeepsLimit

end Json

namespace Baseline.Registry

/-- The faults that are passed on when a file is read: a null character in the path, bytes that are
no text, and an integer with too many digits. -/
inductive PassedOn (files : Files) (path : String) : Fault → Prop
  | path (null : '\x00' ∈ path.toList) :
      PassedOn files path (.invalid (.other "embedded null byte"))
  | bytes {data : List UInt8} {text : String} (proper : '\x00' ∉ path.toList)
      (read : files.readBytes path = .ok data)
      (failed : Text.Utf8.decode data = .error (.undecodable text)) :
      PassedOn files path (.undecodable text)
  | integer {data : List UInt8} {text : List Char} {digits : Nat} (proper : '\x00' ∉ path.toList)
      (read : files.readBytes path = .ok data) (decoded : Text.Utf8.decode data = .ok text)
      (refused : Json.read (Files.plainLines text) = .error (.tooLong digits))
      (long : integerDigitLimit < digits) :
      PassedOn files path (.invalid (.integerTooLong (some digits)))

/-- A file that can be opened holds the text of a JSON object that gives a registry. -/
def Gives (files : Files) (path : String) (registry : Registry) : Prop :=
  '\x00' ∉ path.toList ∧ ∃ data text entries, files.readBytes path = .ok data ∧
    Text.Utf8.decode data = .ok text ∧ Json.read (Files.plainLines text) = .ok (.map entries) ∧
    ofValue (.map entries) = .ok registry

theorem ofFile_cases (files : Files) (path : String) :
    (∃ registry line, ofFile files path = .ok (registry, line) ∧ Gives files path registry) ∨
      ∃ fault, ofFile files path = .error fault ∧
        ((∃ text, fault = .registry text) ∨ PassedOn files path fault) := by
  unfold ofFile
  dsimp only
  split
  next null => exact .inr ⟨_, rfl, .inr (.path (List.contains_iff_mem.1 null))⟩
  next proper =>
    rw [List.contains_iff_mem] at proper
    split
    next data read =>
      cases decoded : Text.Utf8.decode data with
      | error fault =>
          obtain ⟨text, rfl⟩ : ∃ text, fault = .undecodable text := by
            unfold Text.Utf8.decode at decoded
            cases bare : Text.Utf8.decodeFrom 0 data <;> rw [bare] at decoded <;> cases decoded
            exact ⟨_, rfl⟩
          exact .inr ⟨_, rfl, .inr (.bytes proper read decoded)⟩
      | ok text =>
          have limit := Json.KeepsLimit.ofRead (Files.plainLines text)
          simp only [ofText, bind, Except.bind]
          cases known : Json.read (Files.plainLines text) with
          | error refusal =>
              rw [known] at limit
              cases limit with
              | problem cause index => exact .inr ⟨_, rfl, .inl ⟨_, rfl⟩⟩
              | tooLong long =>
                  exact .inr ⟨_, rfl, .inr (.integer proper read decoded known long)⟩
          | ok value =>
              cases value with
              | map entries =>
                  obtain ⟨registry, built⟩ : ∃ registry, ofValue (.map entries) = .ok registry := by
                    unfold ofValue
                    dsimp only
                    split <;> exact ⟨_, rfl⟩
                  dsimp only
                  rw [built]
                  exact .inl ⟨registry, _, rfl, proper, data, text, entries, read, decoded, known,
                    built⟩
              | _ => exact .inr ⟨_, rfl, .inl ⟨_, rfl⟩⟩
    next text _ => exact .inr ⟨_, rfl, .inl ⟨_, rfl⟩⟩

/-- A file gives a registry exactly if it holds the text of a JSON object. Every other file gives
the fault of a registry that cannot be read, or one that is passed on. -/
theorem file_gives_registry_or_fault (files : Files) (path : String) :
    (∀ registry, (∃ line, ofFile files path = .ok (registry, line)) ↔ Gives files path registry) ∧
      (∀ fault, ofFile files path = .error fault →
        (∃ text, fault = .registry text) ∨ PassedOn files path fault) ∧
      ∀ fault, PassedOn files path fault →
        ofFile files path = .error fault ∧ ∀ text, fault ≠ .registry text := by
  refine ⟨fun registry => ⟨?_, ?_⟩, fun fault failed => ?_, fun fault passed => ?_⟩
  · rintro ⟨line, read⟩
    rcases ofFile_cases files path with ⟨_, _, same, gives⟩ | ⟨_, same, _⟩
    · cases read.symm.trans same
      exact gives
    · cases read.symm.trans same
  · rintro ⟨proper, data, text, entries, read, decoded, known, built⟩
    simp [ofFile, proper, read, decoded, ofText, known, built, bind, Except.bind, pure, Except.pure]
  · rcases ofFile_cases files path with ⟨_, _, same, _⟩ | ⟨_, same, explained⟩
    · cases failed.symm.trans same
    · cases failed.symm.trans same
      exact explained
  · refine ⟨?_, by cases passed <;> simp⟩
    cases passed with
    | path null => exact if_pos (List.contains_iff_mem.2 null)
    | bytes proper read failed => simp [ofFile, proper, read, failed, bind, Except.bind]
    | integer proper read decoded refused _ =>
        simp [ofFile, proper, read, decoded, ofText, refused, bind, Except.bind]

/-- Bytes that are no text end with another fault than that of a registry. -/
theorem undecodable_file_passed_on :
    ofFile [("data.json", .bytes [0xff])] "data.json" = .error (.undecodable
      "'utf-8' codec can't decode byte 0xff in position 0: invalid start byte") := by
  with_unfolding_all rfl

end Baseline.Registry

end BrowserScript
