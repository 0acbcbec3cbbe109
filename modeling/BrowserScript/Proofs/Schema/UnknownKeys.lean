import BrowserScript.Proofs.Schema.FirstFault
import Mathlib.Logic.Relation

/-!
# Keys that no shape declares

A document may hold keys that the grammar does not know, in any of its mappings. Adding one changes
neither the verdict about the document nor the first fault that is reported. The rules of records
and the choice of a shape by a word look at keys too, so the statement rests on a property of the
grammar: they look only at keys that the records declare as fields.
-/

namespace BrowserScript

/-! ## Looking up names -/

namespace Entries

theorem get?_append (before after : Entries) (name : String) :
    get? (before ++ after) name = (get? before name).or (get? after name) := by
  induction before with
  | nil => rfl
  | cons entry before ih =>
      rw [List.cons_append, get?_entry, get?_entry, ih]
      split <;> rfl

theorem get?_inserted {key : Value} {name : String} (other : key.isText name = false)
    (before after : Entries) (value : Value) :
    get? (before ++ (key, value) :: after) name = get? (before ++ after) name := by
  rw [get?_append, get?_append, get?_entry, other]
  rfl

/-- A value that is replaced is found where the one before it was, if it is found at all. -/
theorem get?_replaced (before after : Entries) (field name : String) (value value' : Value) :
    get? (before ++ (.str field, value') :: after) name =
        get? (before ++ (.str field, value) :: after) name ∨
      field = name ∧ get? (before ++ (.str field, value) :: after) name = some value ∧
        get? (before ++ (.str field, value') :: after) name = some value' := by
  rw [get?_append, get?_append, get?_cons, get?_cons]
  cases get? before name with
  | some found => exact .inl rfl
  | none =>
      by_cases same : field = name
      · refine .inr ⟨same, ?_, ?_⟩ <;> simp [same]
      · refine .inl ?_
        simp [same]

end Entries

namespace Schema

variable {options : List (String × Shape)} {key : String}

/-! ## Grammars whose rules look at declared fields only -/

def Rule.fields : Rule → List String
  | .anyFields => []
  | .atLeastOne fields _ => fields
  | .exactlyOne first second _ => [first, second]
  | .notGiven field _ => [field]

theorem Rule.check_congr {rule : Rule} {entries entries' : Entries}
    (same : ∀ field ∈ rule.fields, isGiven entries' field = isGiven entries field) :
    rule.check entries' = rule.check entries := by
  cases rule with
  | anyFields => rfl
  | atLeastOne fields message =>
      have any : fields.any (isGiven entries') = fields.any (isGiven entries) := by
        rw [Bool.eq_iff_iff, List.any_eq_true, List.any_eq_true]
        exact exists_congr fun field => and_congr_right fun member => by rw [same field member]
      simp only [Rule.check, any]
  | exactlyOne first second message =>
      simp only [Rule.check, same first List.mem_cons_self,
        same second mem_second]
  | notGiven field message => simp only [Rule.check, same field List.mem_cons_self]

def declares (fields : List (String × Bool × Shape)) (name : String) : Bool :=
  fields.any (·.1 == name)

namespace Shape

def hasField (name : String) : Shape → Bool
  | .record _ fields _ => declares fields name
  | _ => false

mutual

/-- Whether rules and choices look at declared fields only, each declared once. -/
def isProper : Shape → Bool
  | .optional shape => isProper shape
  | .record _ fields rule => rule.fields.all (declares fields) && fieldsProper fields
  | .choice key options => optionsProper key options
  | _ => true

def fieldsProper : List (String × Bool × Shape) → Bool
  | [] => true
  | (name, _, shape) :: fields => isProper shape && !declares fields name && fieldsProper fields

def optionsProper (key : String) : List (String × Shape) → Bool
  | [] => true
  | (_, shape) :: options => isProper shape && hasField key shape && optionsProper key options

end

def isPlain : Shape → Bool
  | .optional _ | .record .. | .choice .. => false
  | _ => true

theorem isProper_document : document.isProper = true := by decide

theorem isProper_payload (command : CommandName) : (payload command).isProper = true := by
  cases command <;> decide

end Shape

variable {name : String} {fields : List (String × Bool × Shape)} {shape : Shape}

theorem declares_of_mem {required : Bool} (member : (name, required, shape) ∈ fields) : declares fields name = true :=
  List.any_eq_true.2 ⟨_, member, beq_self_eq_true name⟩

/-- A field of a proper record is declared once, with a proper shape. -/
theorem field_of_proper {required : Bool} (proper : Shape.fieldsProper fields = true)
    (member : (name, required, shape) ∈ fields) :
    shape.isProper = true ∧
      ∀ required' shape', (name, required', shape') ∈ fields → shape' = shape := by
  induction fields with
  | nil => cases member
  | cons field fields ih =>
      obtain ⟨first, asked, inner⟩ := field
      simp only [Shape.fieldsProper, Bool.and_eq_true, Bool.not_eq_true'] at proper
      obtain ⟨⟨innerProper, once⟩, rest⟩ := proper
      have apart {required : Bool} {shape : Shape} (later : (first, required, shape) ∈ fields) :
          False := by
        rw [declares_of_mem later] at once
        cases once
      rcases List.mem_cons.1 member with same | later
      · cases same
        refine ⟨innerProper, fun required' shape' member' => ?_⟩
        rcases List.mem_cons.1 member' with same | later
        · cases same
          rfl
        · exact (apart later).elim
      · refine ⟨(ih rest later).1, fun required' shape' member' => ?_⟩
        rcases List.mem_cons.1 member' with same | later'
        · cases same
          exact (apart later).elim
        · exact (ih rest later).2 required' shape' later'

theorem option_of_proper (proper : Shape.optionsProper key options = true)
    (member : (name, shape) ∈ options) : shape.isProper = true ∧ shape.hasField key = true := by
  induction options with
  | nil => cases member
  | cons option options ih =>
      simp only [Shape.optionsProper, Bool.and_eq_true] at proper
      rcases List.mem_cons.1 member with rfl | later
      · exact proper.1
      · exact ih proper.2 later

/-! ## Adding a key -/

def chosen? (key : String) (options : List (String × Shape)) (entries : Entries) :
    Option (String × Shape) :=
  (Entries.get? entries key).bind fun tag => options.find? fun option => tag.isText option.1

inductive Grows : Value → Value → Prop where
  | here {before after : Entries} {key value : Value} :
      Grows (.map (before ++ after)) (.map (before ++ (key, value) :: after))
  | inside {before after : Entries} {key value value' : Value} (inner : Grows value value') :
      Grows (.map (before ++ (key, value) :: after)) (.map (before ++ (key, value') :: after))

/-- A key is added to a mapping that stands in the place of a shape or below. It is no field of the
record that the mapping is checked against. -/
inductive AddsKey : Shape → Value → Value → Prop where
  | here {name : String} {fields : List (String × Bool × Shape)} {rule : Rule}
      (before after : Entries) {key value : Value}
      (unknown : ∀ field, declares fields field = true → key.isText field = false) :
      AddsKey (.record name fields rule) (.map (before ++ after))
        (.map (before ++ (key, value) :: after))
  | field {name : String} {fields : List (String × Bool × Shape)} {rule : Rule}
      (before after : Entries) {field : String} {required : Bool} {shape : Shape}
      {value value' : Value} (member : (field, required, shape) ∈ fields)
      (inner : AddsKey shape value value') :
      AddsKey (.record name fields rule) (.map (before ++ (.str field, value) :: after))
        (.map (before ++ (.str field, value') :: after))
  | optional {shape : Shape} {value value' : Value} (inner : AddsKey shape value value') :
      AddsKey (.optional shape) value value'
  /-- The mapping is checked against the option that is chosen. -/
  | chosen {key : String} {options : List (String × Shape)} {entries entries' : Entries}
      {name : String} {shape : Shape} (option : chosen? key options entries = some (name, shape))
      (inner : AddsKey shape (.map entries) (.map entries')) :
      AddsKey (.choice key options) (.map entries) (.map entries')
  /-- No option is chosen, and the word that would choose one stays as it is. -/
  | unchosen {key : String} {options : List (String × Shape)} {entries entries' : Entries}
      (option : chosen? key options entries = none)
      (tag : Entries.get? entries' key = Entries.get? entries key)
      (grows : Grows (.map entries) (.map entries')) :
      AddsKey (.choice key options) (.map entries) (.map entries')
  /-- No mapping is asked for. -/
  | plain {shape : Shape} {value value' : Value} (plain : shape.isPlain = true)
      (grows : Grows value value') : AddsKey shape value value'

variable {field : String} {rule : Rule} {entries entries' : Entries} {value value' : Value}

namespace AddsKey

theorem maps (adds : AddsKey shape value value') :
    ∃ entries entries', value = .map entries ∧ value' = .map entries' := by
  induction adds with
  | optional inner ih => exact ih
  | plain plain grows => cases grows <;> exact ⟨_, _, rfl, rfl⟩
  | _ => exact ⟨_, _, rfl, rfl⟩

/-- What stands under a field stays the same, or is a mapping before and after. -/
theorem lookup (adds : AddsKey (.record name fields rule) (.map entries) (.map entries'))
    (declared : declares fields field = true) :
    Entries.get? entries' field = Entries.get? entries field ∨
      ∃ inner inner', Entries.get? entries field = some (.map inner) ∧
        Entries.get? entries' field = some (.map inner') := by
  cases adds with
  | here before after unknown => exact .inl (Entries.get?_inserted (unknown field declared) _ _ _)
  | field before after member inner =>
      rcases Entries.get?_replaced _ _ _ field _ _ with same | ⟨_, found, found'⟩
      · exact .inl same
      · obtain ⟨inside, inside', rfl, rfl⟩ := inner.maps
        exact .inr ⟨inside, inside', found, found'⟩
  | plain plain => cases plain

theorem lookup_of_hasField (adds : AddsKey shape (.map entries) (.map entries'))
    (declared : shape.hasField field = true) :
    Entries.get? entries' field = Entries.get? entries field ∨
      ∃ inner inner', Entries.get? entries field = some (.map inner) ∧
        Entries.get? entries' field = some (.map inner') := by
  cases shape with
  | record name fields rule => exact adds.lookup declared
  | _ => cases declared

theorem isGiven_eq (adds : AddsKey (.record name fields rule) (.map entries) (.map entries'))
    (declared : declares fields field = true) : isGiven entries' field = isGiven entries field := by
  unfold isGiven
  rcases adds.lookup declared with same | ⟨inner, inner', found, found'⟩
  · rw [same]
  · rw [found, found']
    rfl

end AddsKey

theorem checkOption_chosen {tags : List String} {tag : Value}
    (found : options.find? (fun option => tag.isText option.1) = some (name, shape)) (value : Value) :
    Shape.checkOption key tags tag options value =
      (do return (← shape.check value).map (Finding.within name)) := by
  induction options with
  | nil => cases found
  | cons option options ih =>
      obtain ⟨first, inner⟩ := option
      unfold Shape.checkOption
      rw [List.find?_cons] at found
      cases named : tag.isText first with
      | true =>
          rw [named] at found
          cases found
          rfl
      | false =>
          rw [named] at found
          exact ih found

/-- A mapping whose tag chooses nothing is refused for its tag alone. -/
theorem checkOption_unchosen {tags : List String} {tag : Value}
    (missing : options.find? (fun option => tag.isText option.1) = none) (value value' : Value) :
    Shape.checkOption key tags tag options value' = Shape.checkOption key tags tag options value := by
  induction options with
  | nil => rfl
  | cons option options ih =>
      obtain ⟨first, inner⟩ := option
      rw [List.find?_cons] at missing
      unfold Shape.checkOption
      cases named : tag.isText first with
      | true =>
          rw [named] at missing
          cases missing
      | false =>
          rw [named] at missing
          exact ih missing

theorem wordReason_map (words : List String) (entries : Entries) :
    Shape.wordReason words (.map entries) = some ("Input should be " ++ alternatives words) := by
  refine if_neg fun listed => ?_
  obtain ⟨word, _, same⟩ := List.any_eq_true.1 listed
  cases Value.isText_iff.1 same

theorem check_plain (plain : shape.isPlain = true) (entries entries' : Entries) :
    shape.check (.map entries') = shape.check (.map entries) := by
  cases shape with
  | optional | record | choice => cases plain
  | word words =>
      unfold Shape.check
      rw [wordReason_map, wordReason_map]
  | wordOrFalse words =>
      unfold Shape.check
      rw [wordReason_map, wordReason_map]
      simp only [Value.equals]
      rfl
  | _ => rfl

namespace AddsKey

theorem check_record
    (adds : AddsKey (.record name fields rule) (.map entries) (.map entries'))
    (proper : (Shape.record name fields rule).isProper = true)
    (same : ∀ name required shape, (name, required, shape) ∈ fields →
      (Entries.get? entries' name).map shape.check = (Entries.get? entries name).map shape.check) :
    (Shape.record name fields rule).check (.map entries') =
      (Shape.record name fields rule).check (.map entries) := by
  simp only [Shape.isProper, Bool.and_eq_true, List.all_eq_true] at proper
  refine check_record_congr same (Rule.check_congr fun field member => ?_)
  exact adds.isGiven_eq (proper.1 field member)

/-- Adding a key leaves the first finding as it is. -/
theorem check_eq (adds : AddsKey shape value value')
    (proper : shape.isProper = true) : shape.check value' = shape.check value := by
  induction adds with
  | here before after unknown =>
      refine check_record (here before after unknown) proper fun field required shape member => ?_
      rw [Entries.get?_inserted (unknown field (declares_of_mem member))]
  | @field _ _ _ before after name _ _ value value' member inner ih =>
      refine check_record (field before after member inner) proper fun other required shape member' => ?_
      simp only [Shape.isProper, Bool.and_eq_true] at proper
      obtain ⟨innerProper, once⟩ := field_of_proper proper.2 member
      rcases Entries.get?_replaced before after name other value value' with
        same | ⟨rfl, found, found'⟩
      · rw [same]
      · rw [found, found', once _ _ member', Option.map_some, Option.map_some, ih innerProper]
  | optional inner ih =>
      obtain ⟨entries, entries', rfl, rfl⟩ := inner.maps
      exact ih proper
  | @chosen key options entries entries' name shape option inner ih =>
      obtain ⟨tag, tagged, found⟩ := Option.bind_eq_some_iff.1 option
      obtain ⟨innerProper, declared⟩ := option_of_proper proper (List.mem_of_find?_eq_some found)
      have named := List.find?_some found
      have text : tag = .str name := Value.isText_iff.1 named
      -- The tag is a word, so that it is not what was added to.
      have tagged' : Entries.get? entries' key = some tag := by
        rcases inner.lookup_of_hasField declared with same | ⟨_, _, other, _⟩
        · rw [same, tagged]
        · rw [tagged, text] at other
          cases other
      unfold Shape.check
      simp only [tagged, tagged', checkOption_chosen found, ih innerProper]
  | @unchosen key options entries entries' option tag grows =>
      unfold Shape.check
      simp only [tag]
      cases tagged : Entries.get? entries key with
      | none => rfl
      | some word =>
          rw [chosen?, tagged] at option
          exact checkOption_unchosen option _ _
  | plain plain grows =>
      obtain ⟨entries, entries', rfl, rfl⟩ := (AddsKey.plain plain grows).maps
      exact check_plain plain entries entries'

end AddsKey

/-! ## Documents -/

/-- The shape of what a step holds under its name; an unknown command may hold anything. -/
def stepShape (name : Value) : Shape :=
  ((CommandName.ofValue? name).filter (·.isStep)).elim .anything payload

theorem isProper_stepShape (name : Value) : (stepShape name).isProper = true := by
  unfold stepShape
  cases (CommandName.ofValue? name).filter (·.isStep) with
  | none => rfl
  | some command => exact Shape.isProper_payload command

theorem stepShape_tag {name : CommandName} (isStep : name.isStep = true) :
    stepShape (.str name.tag) = payload name := by
  rw [stepShape, ofValue?_tag, Option.filter_some, if_pos isStep]
  rfl

/-- A key is added to a document, outside its steps or to what one step holds. -/
inductive DocumentAdds : Value → Value → Prop where
  | apart {value value' : Value} (adds : AddsKey document value value') : DocumentAdds value value'
  | step (before after : Entries) {sequence : List Value → Value} (steps steps' : List Value)
      {name value value' : Value} (listed : ∀ items, listItems? (sequence items) = some items)
      (adds : AddsKey (stepShape name) value value') :
      DocumentAdds
        (.map (before ++ (.str "steps", sequence (steps ++ .map [(name, value)] :: steps')) :: after))
        (.map (before ++ (.str "steps", sequence (steps ++ .map [(name, value')] :: steps')) :: after))

theorem AddsKey.checkStep_eq {name : Value}
    (adds : AddsKey (stepShape name) value value') (index : Nat) :
    checkStep index (.map [(name, value')]) = checkStep index (.map [(name, value)]) := by
  have same := adds.check_eq (isProper_stepShape name)
  unfold checkStep
  dsimp only
  cases named : (CommandName.ofValue? name).filter (·.isStep) with
  | none => rfl
  | some command =>
      rw [stepShape, named] at same
      dsimp only
      rw [show (payload command).check value' = (payload command).check value from same]

theorem checkSteps_congr {step step' : Value}
    (same : ∀ index, checkStep index step' = checkStep index step) (steps steps' : List Value)
    (index : Nat) :
    checkSteps index (steps ++ step' :: steps') = checkSteps index (steps ++ step :: steps') := by
  induction steps generalizing index with
  | nil =>
      rw [List.nil_append, List.nil_append]
      unfold checkSteps
      rw [same]
  | cons first steps ih =>
      rw [List.cons_append, List.cons_append]
      unfold checkSteps
      rw [ih]

theorem checkDocument_congr
    (whole : document.check (.map entries') = document.check (.map entries))
    (steps : checkSteps 0 (stepsOf entries') = checkSteps 0 (stepsOf entries)) :
    checkDocument (.map entries') = checkDocument (.map entries) := by
  unfold checkDocument
  dsimp only
  rw [whole, steps]

/-- Adding one key leaves the verdict about a document as it is. -/
theorem DocumentAdds.checkDocument_eq (adds : DocumentAdds value value') :
    checkDocument value' = checkDocument value := by
  cases adds with
  | apart adds =>
      have whole := adds.check_eq Shape.isProper_document
      obtain ⟨entries, entries', rfl, rfl⟩ := adds.maps
      refine checkDocument_congr whole (congrArg (checkSteps 0) ?_)
      unfold stepsOf
      have declared : document.hasField "steps" = true := by decide
      rcases adds.lookup_of_hasField declared with same | ⟨inner, inner', found, found'⟩
      · rw [same]
      · rw [found, found']
        rfl
  | @step before after sequence steps steps' name value value' listed adds =>
      have lookups := fun field => Entries.get?_replaced before after "steps" field
        (sequence (steps ++ .map [(name, value)] :: steps'))
        (sequence (steps ++ .map [(name, value')] :: steps'))
      have differ : DifferInSteps _ _ :=
        { apart := fun field other => (lookups field).resolve_right fun found => other found.1.symm
          steps := (lookups "steps").imp_right fun found =>
            ⟨_, _, _, _, found.2.1, listed _, found.2.2, listed _⟩ }
      refine checkDocument_congr differ.document_check ?_
      unfold stepsOf
      rcases lookups "steps" with same | ⟨_, found, found'⟩
      · rw [same]
      · simp only [found, found', Option.bind_some, listed, Option.getD_some]
        exact checkSteps_congr adds.checkStep_eq steps steps' 0

/-- A document is refused for a violation, unless a step has a name that cannot be shown. -/
theorem checkDocument_error {fault : Fault} (failed : checkDocument value = .error fault) :
    (∃ violation, fault = .violation violation) ∨
      fault = Fault.tooLong ∧ ∃ entries name payload, value = .map entries ∧
        .map [(name, payload)] ∈ stepsOf entries ∧ name.isWritable = false := by
  unfold checkDocument at failed
  split at failed
  · rename_i entries
    obtain ⟨finding?, checked⟩ := document.check_eq_ok (.map entries)
    rw [checked] at failed
    cases finding? with
    | some finding =>
        cases failed
        exact .inl ⟨_, rfl⟩
    | none =>
        cases (checkSteps_gives 0 (stepsOf entries) fun _ member => member).explained failed with
        | violation violation => exact .inl ⟨violation, rfl⟩
        | unshown listed long => exact .inr ⟨rfl, entries, _, _, rfl, listed, long⟩
  · cases failed
    exact .inl ⟨_, rfl⟩

/-- Keys that are no fields of the record that a mapping is checked against leave the verdict about a
document as it is, wherever they are added and however many there are. The fault is a violation, the
same one with its field and message, unless a step has a name that cannot be shown. -/
theorem unknown_keys_keep_verdict {value value' : Value}
    (added : Relation.ReflTransGen DocumentAdds value value') :
    checkDocument value' = checkDocument value ∧
    ∀ fault, checkDocument value = .error fault →
      (∃ violation, fault = .violation violation) ∨
      fault = Fault.tooLong ∧ ∃ entries name payload, value = .map entries ∧
        .map [(name, payload)] ∈ stepsOf entries ∧ name.isWritable = false := by
  constructor
  · induction added with
    | refl => rfl
    | tail _ adds ih => rw [adds.checkDocument_eq, ih]
  · exact fun fault failed => checkDocument_error failed

def heightlessStep (inPoint : Entries) : Value :=
  .map [(.str CommandName.scroll.tag,
    .map [(.str "to", .map [(.str "coords", .map (inPoint ++ [(.str "x", .int 1)]))])])]

theorem adds_inPoint : DocumentAdds (.map (stepScript (heightlessStep [])))
    (.map (stepScript (heightlessStep [(.str "z", .null)]))) := by
  have point : AddsKey coords (.map [(.str "x", .int 1)])
      (.map [(.str "z", .null), (.str "x", .int 1)]) := by
    refine .here [] _ fun field declared => ?_
    obtain rfl | rfl : "x" = field ∨ "y" = field := by simpa [declares, required] using declared
    · exact Value.isText_str "z" "x"
    · exact Value.isText_str "z" "y"
  have place : AddsKey (target "ScrollTarget") (.map [(.str "coords", .map [(.str "x", .int 1)])])
      (.map [(.str "coords", .map [(.str "z", .null), (.str "x", .int 1)])]) :=
    .field [] [] (.tail _ (.head _)) (.optional point)
  refine .step [_, _] [] [] [] (fun _ => rfl) ?_
  rw [stepShape_tag rfl]
  exact .field [] [] (.head _) (.optional place)

theorem adds_number (entries : Entries) (number : Int) :
    DocumentAdds (.map entries) (.map ((.int number, .null) :: entries)) := by
  refine .apart (.here [] entries fun field _ => ?_)
  cases named : (Value.int number).isText field with
  | false => rfl
  | true => cases Value.isText_iff.1 named

/-- The violation stays the same with one key more in the point and one in the script. -/
theorem heightlessStep_keeps_violation :
    Relation.ReflTransGen DocumentAdds (.map (stepScript (heightlessStep [])))
      (.map ((.int 7, .null) :: stepScript (heightlessStep [(.str "z", .null)]))) ∧
    checkDocument (.map ((.int 7, .null) :: stepScript (heightlessStep [(.str "z", .null)]))) =
      .error (.violation ⟨"steps.0.scroll.to.coords.y", "Field required"⟩) := by
  have added := Relation.ReflTransGen.tail (.single adds_inPoint) (adds_number _ 7)
  refine ⟨added, ?_⟩
  rw [(unknown_keys_keep_verdict added).1, checkDocument_stepScript]
  with_unfolding_all rfl

/-- A key is added to a script with a step whose name is too long, and there is no violation. -/
theorem longStep_keeps_no_violation :
    DocumentAdds (.map (stepScript longStep)) (.map ((.int 7, .null) :: stepScript longStep)) ∧
    checkDocument (.map ((.int 7, .null) :: stepScript longStep)) ≠ .ok () ∧
    ∀ violation, checkDocument (.map ((.int 7, .null) :: stepScript longStep)) ≠
      .error (.violation violation) := by
  have adds := adds_number (stepScript longStep) 7
  rw [adds.checkDocument_eq, checkDocument_stepScript, checkStep_longStep]
  refine ⟨adds, fun same => ?_, fun violation same => ?_⟩
  · cases same
  · cases same

end Schema

end BrowserScript
