import BrowserScript.Proofs.Value.Literal
import BrowserScript.Schema.Document

/-!
# What acceptance says about a value

Shapes are checked, but programs are made from the values as they stand in the document. Each
lemma here takes an accepted value apart: what kind it is, which entries it has, and which shapes
those have in turn.
-/

namespace BrowserScript

section

-- The fields of a record are given by their places.
variable {α : Type} {first second third : α} {rest : List α}

theorem mem_second : second ∈ first :: second :: rest :=
  List.mem_cons_of_mem _ List.mem_cons_self

theorem mem_third : third ∈ first :: second :: third :: rest := List.mem_cons_of_mem _ mem_second

end

namespace Value

variable (entries : Entries)

theorem field_map {entries : Entries} {name : String} {item : Value}
    (found : Entries.get? entries name = some item) : (Value.map entries).field name = .ok item := by
  simp only [field, found]

theorem option_map (name : String) :
    (Value.map entries).option name = .ok ((Entries.get? entries name).getD .null) := rfl

theorem optionOr_map (name : String) (other : Value) :
    (Value.map entries).optionOr name other = .ok ((Entries.get? entries name).getD other) := rfl

/-- A mapping stands for itself where an empty one would take its place. -/
theorem orElse_map : (Value.map entries).orElse (.map []) = .map entries := by
  cases entries with
  | nil => rfl
  | cons entry entries => rfl

theorem eq_null_of_isNull {value : Value} (null : value.isNull = true) : value = .null := by
  cases value with
  | null => rfl
  | _ => cases null

end Value

theorem get?_nil (name : String) : Entries.get? [] name = none := rfl

theorem Entries.get?_entry (entry : Value × Value) (entries : Entries) (name : String) :
    Entries.get? (entry :: entries) name =
      if entry.1.isText name then some entry.2 else Entries.get? entries name := by
  unfold get? lookup? Value.isText
  rw [List.find?_cons]
  cases entry.1.equals (.str name) with
  | true => rfl
  | false => rfl

theorem Entries.get?_cons (key name : String) (value : Value) (entries : Entries) :
    Entries.get? ((.str key, value) :: entries) name =
      if key == name then some value else Entries.get? entries name := by
  rw [get?_entry, Value.isText_str]

namespace Schema

variable {entries : Entries} {fields : List (String × Bool × Shape)} {shape : Shape} {name : String}
  {value : Value}

def Shape.Admits (shape : Shape) (value : Value) : Prop := shape.check value = .ok none

/-- The entries of a mapping are as the fields of a record demand. -/
def Conforms (fields : List (String × Bool × Shape)) (entries : Entries) : Prop :=
  Shape.checkFields fields entries = .ok none

theorem reasoned_eq_none {reason : Reason} (accepted : reasoned reason = .ok none) :
    reason = none := by
  cases reason with
  | none => rfl
  | some text => cases accepted

theorem reasoned_iff {reason : Reason} : reasoned reason = .ok none ↔ reason = none := by
  constructor
  · exact reasoned_eq_none
  · rintro rfl
    rfl

/-- A field that is present has its shape; only a field that may be absent is absent. -/
theorem Conforms.field (conforms : Conforms fields entries) {isRequired : Bool}
    (member : (name, isRequired, shape) ∈ fields) :
    match Entries.get? entries name with
    | some item => shape.Admits item
    | none => isRequired = false := by
  induction fields with
  | nil => cases member
  | cons field fields ih =>
      obtain ⟨other, otherRequired, otherShape⟩ := field
      unfold Conforms Shape.checkFields at conforms
      cases found : Entries.get? entries other with
      | none =>
          simp only [found] at conforms
          cases otherRequired with
          | true => cases conforms
          | false =>
              rcases List.mem_cons.1 member with same | later
              · cases same
                simp only [found]
              · exact ih conforms later
      | some item =>
          simp only [found] at conforms
          obtain ⟨finding, checked, conforms⟩ := bind_eq_ok conforms
          cases finding with
          | some finding => cases conforms
          | none =>
              rcases List.mem_cons.1 member with same | later
              · cases same
                simp only [found]
                exact checked
              · exact ih conforms later

theorem Conforms.required (conforms : Conforms fields entries)
    (member : required name shape ∈ fields) :
    ∃ item, Entries.get? entries name = some item ∧ shape.Admits item := by
  have fact := conforms.field member
  cases found : Entries.get? entries name with
  | none => rw [found] at fact; cases fact
  | some item => rw [found] at fact; exact ⟨item, rfl, fact⟩

theorem Conforms.present (conforms : Conforms fields entries) {isRequired : Bool}
    (member : (name, isRequired, shape) ∈ fields) {item : Value}
    (found : Entries.get? entries name = some item) : shape.Admits item := by
  have fact := conforms.field member
  rw [found] at fact
  exact fact

/-- A field that may be null has its shape where it is given. -/
theorem Conforms.given (conforms : Conforms fields entries) (member : nullable name shape ∈ fields)
    (given : ((Entries.get? entries name).getD .null).isNull = false) :
    ∃ item, Entries.get? entries name = some item ∧ shape.Admits item := by
  cases found : Entries.get? entries name with
  | none => rw [found] at given; cases given
  | some item =>
      rw [found] at given
      have admitted : (Shape.optional shape).Admits item := conforms.present member found
      unfold Shape.Admits Shape.check at admitted
      have notNull : ¬ item.isNull = true := by
        intro null
        exact Bool.noConfusion (null.symm.trans given)
      rw [if_neg notNull] at admitted
      exact ⟨item, rfl, admitted⟩

/-- An accepted record is a mapping with the fields and the rule of the record. -/
theorem Shape.Admits.record {rule : Rule}
    (admitted : (Shape.record name fields rule).Admits value) :
    ∃ entries, value = .map entries ∧ Conforms fields entries ∧ rule.check entries = none := by
  unfold Shape.Admits Shape.check at admitted
  cases value with
  | map entries =>
      dsimp only at admitted
      obtain ⟨finding, checked, admitted⟩ := bind_eq_ok admitted
      cases finding with
      | some finding => cases admitted
      | none =>
          have silent : rule.check entries = none :=
            Option.map_eq_none_iff.1 (reasoned_eq_none admitted)
          exact ⟨entries, rfl, checked, silent⟩
  | _ => cases admitted

/-- The fields of a record are checked through their names alone, so mappings with the same findings
under these names have the same first one. -/
theorem checkFields_congr {others : Entries}
    (same : ∀ name required shape, (name, required, shape) ∈ fields →
      (Entries.get? others name).map shape.check = (Entries.get? entries name).map shape.check) :
    Shape.checkFields fields others = Shape.checkFields fields entries := by
  induction fields with
  | nil => rfl
  | cons field fields ih =>
      obtain ⟨name, required, shape⟩ := field
      have rest := ih fun other asked inner member =>
        same other asked inner (List.mem_cons_of_mem _ member)
      have first := same name required shape List.mem_cons_self
      unfold Shape.checkFields
      cases value? : Entries.get? entries name with
      | none =>
          rw [value?, Option.map_none, Option.map_eq_none_iff] at first
          simp only [first, rest]
      | some value =>
          rw [value?, Option.map_some, Option.map_eq_some_iff] at first
          obtain ⟨value', value?', checked⟩ := first
          simp only [value?', checked, rest]

theorem check_record_congr {rule : Rule} {others : Entries}
    (same : ∀ name required shape, (name, required, shape) ∈ fields →
      (Entries.get? others name).map shape.check = (Entries.get? entries name).map shape.check)
    (ruled : rule.check others = rule.check entries) :
    (Shape.record name fields rule).check (.map others) =
      (Shape.record name fields rule).check (.map entries) := by
  unfold Shape.check
  dsimp only
  rw [checkFields_congr same, ruled]

theorem Shape.Admits.word {words : List String}
    (admitted : (Shape.word words).Admits value) : ∃ word ∈ words, value = .str word := by
  unfold Shape.Admits Shape.check at admitted
  have silent := reasoned_eq_none admitted
  unfold Shape.wordReason at silent
  by_cases listed : words.any value.isText = true
  · obtain ⟨word, member, same⟩ := List.any_eq_true.1 listed
    exact ⟨word, member, Value.isText_iff.1 same⟩
  · rw [if_neg listed] at silent
    cases silent

theorem firstFinding_none {check : Value → Except Fault (Option Finding)} {index : Nat}
    {items : List Value} (accepted : firstFinding check index items = .ok none) :
    ∀ item ∈ items, check item = .ok none := by
  induction items generalizing index with
  | nil => intro item member; cases member
  | cons first items ih =>
      unfold firstFinding at accepted
      obtain ⟨finding, checked, accepted⟩ := bind_eq_ok accepted
      cases finding with
      | some finding => cases accepted
      | none => exact List.forall_mem_cons.2 ⟨checked, ih accepted⟩

/-- An accepted list is a list, a tuple or a set of accepted members. -/
theorem Shape.Admits.list (admitted : (Shape.list shape).Admits value) :
    ∃ items, listItems? value = some items ∧ ∀ item ∈ items, shape.Admits item := by
  unfold Shape.Admits Shape.check at admitted
  cases listed : listItems? value with
  | none => rw [listed] at admitted; cases admitted
  | some items =>
      rw [listed] at admitted
      exact ⟨items, rfl, firstFinding_none admitted⟩

theorem members_of_listItems {items : List Value}
    (listed : listItems? value = some items) : value.members = .ok items := by
  unfold listItems? at listed
  split at listed
  · cases listed; rfl
  · cases listed; rfl
  · cases listed; rfl
  · cases listed

theorem checkOption_none {key : String} {tags : List String} {tag : Value}
    {options : List (String × Shape)}
    (accepted : Shape.checkOption key tags tag options value = .ok none) :
    ∃ option ∈ options, tag = .str option.1 ∧ option.2.Admits value := by
  induction options with
  | nil =>
      unfold Shape.checkOption at accepted
      cases accepted
  | cons option options ih =>
      obtain ⟨name, shape⟩ := option
      unfold Shape.checkOption at accepted
      by_cases same : tag.isText name = true
      · rw [if_pos same] at accepted
        obtain ⟨finding, checked, accepted⟩ := bind_eq_ok accepted
        cases finding with
        | some finding => cases accepted
        | none => exact ⟨(name, shape), List.mem_cons_self, Value.isText_iff.1 same, checked⟩
      · rw [if_neg same] at accepted
        obtain ⟨option, member, fact⟩ := ih accepted
        exact ⟨option, List.mem_cons_of_mem _ member, fact⟩

/-- An accepted choice is a mapping whose tag picks an option that accepts it. -/
theorem Shape.Admits.choice {key : String} {options : List (String × Shape)}
    (admitted : (Shape.choice key options).Admits value) :
    ∃ entries, value = .map entries ∧ ∃ option ∈ options,
      Entries.get? entries key = some (.str option.1) ∧ option.2.Admits value := by
  unfold Shape.Admits Shape.check at admitted
  cases value with
  | map entries =>
      dsimp only at admitted
      cases found : Entries.get? entries key with
      | none => rw [found] at admitted; cases admitted
      | some tag =>
          rw [found] at admitted
          obtain ⟨option, member, same, fact⟩ := checkOption_none admitted
          exact ⟨entries, rfl, option, member, found.trans (congrArg some same), fact⟩
  | _ => cases admitted

theorem toByteArray_of_fromUTF8? {data : List UInt8} {text : String}
    (decoded : String.fromUTF8? ⟨data.toArray⟩ = some text) :
    text.toByteArray = ⟨data.toArray⟩ := by
  unfold String.fromUTF8? at decoded
  split at decoded
  · rw [← Option.some.inj decoded]
    rfl
  · cases decoded

/-- A value that has a text is that text or its bytes. -/
theorem textOf?_eq_some {text : List Char} (found : textOf? value = some (some text)) :
    value = .str (String.ofList text) ∨
      ∃ data, value = .bytes data ∧
        String.fromUTF8? ⟨data.toArray⟩ = some (String.ofList text) := by
  unfold textOf? at found
  split at found
  · rename_i shown
    have same : shown.toList = text := Option.some.inj (Option.some.inj found)
    left
    rw [← same, String.ofList_toList]
  · rename_i data
    obtain ⟨shown, decoded, same⟩ := Option.map_eq_some_iff.1 (Option.some.inj found)
    right
    refine ⟨data, rfl, ?_⟩
    rw [decoded, ← same, String.ofList_toList]
  · cases found

theorem Shape.Admits.text (admitted : Shape.text.Admits value) :
    (∃ text, value = .str text) ∨ ∃ data, value = .bytes data := by
  unfold Shape.Admits Shape.check at admitted
  have silent := reasoned_eq_none admitted
  unfold textReason at silent
  split at silent
  · rename_i text found
    rcases textOf?_eq_some found with same | ⟨data, same, _⟩
    · exact Or.inl ⟨_, same⟩
    · exact Or.inr ⟨data, same⟩
  · cases silent
  · cases silent

/-- An accepted duration is a text with a digit, or the bytes of one. -/
theorem Shape.Admits.duration (admitted : Shape.duration.Admits value) :
    ∃ text : List Char, textOf? value = some (some text) ∧ text.any isPatternDigit = true := by
  unfold Shape.Admits Shape.check at admitted
  have silent := reasoned_eq_none admitted
  unfold durationReason at silent
  split at silent
  · rename_i text found
    by_cases digits : text.any isPatternDigit = true
    · exact ⟨text, found, digits⟩
    · rw [if_neg digits] at silent
      cases silent
  · rename_i other
    unfold textReason at silent
    split at silent
    · rename_i text found
      exact absurd found (other text)
    · cases silent
    · cases silent

inductive IsNumberKind : Value → Prop where
  | bool (value : Bool) : IsNumberKind (.bool value)
  | int (value : Int) : IsNumberKind (.int value)
  | float (value : Binary64) : IsNumberKind (.float value)
  | str (text : String) : IsNumberKind (.str text)
  | bytes (data : List UInt8) : IsNumberKind (.bytes data)

theorem Shape.Admits.number (admitted : Shape.number.Admits value) : IsNumberKind value := by
  unfold Shape.Admits Shape.check at admitted
  have silent := reasoned_eq_none admitted
  cases value with
  | bool value => exact .bool value
  | int value => exact .int value
  | float value => exact .float value
  | str text => exact .str text
  | bytes data => exact .bytes data
  | _ => cases silent

/-! ## Rules of records -/

theorem isGiven_eq (entries : Entries) (field : String) :
    isGiven entries field = !((Entries.get? entries field).getD .null).isNull := by
  unfold isGiven
  cases Entries.get? entries field with
  | none => rfl
  | some item => rfl

theorem Rule.check_atLeastOne {fields : List String} {message : String}
    (silent : (Rule.atLeastOne fields message).check entries = none) :
    ∃ field ∈ fields, isGiven entries field = true := by
  simp only [Rule.check] at silent
  by_cases given : fields.any (isGiven entries) = true
  · exact List.any_eq_true.1 given
  · rw [if_neg given] at silent
    cases silent

theorem Rule.check_exactlyOne {first second message : String}
    (silent : (Rule.exactlyOne first second message).check entries = none) :
    isGiven entries first ≠ isGiven entries second := by
  simp only [Rule.check] at silent
  intro same
  rw [if_pos (beq_iff_eq.2 same)] at silent
  cases silent

end Schema

end BrowserScript
