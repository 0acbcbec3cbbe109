import BrowserScript.Proofs.Number.Whole
import BrowserScript.Proofs.Schema.Acceptance

/-!
# Truth values as they are validated

A field for a truth value accepts several spellings of each of the two: words, zero and one. Here
is the truth value that an accepted spelling is validated as, next to the two ways in which programs
read a spelling again: whether it is anything but false itself, and whether it counts as true in a
condition.
-/

namespace BrowserScript

namespace Schema

variable {truth : Bool} {value : Value}

def isTextual : Value → Bool
  | .str _ => true
  | .bytes _ => true
  | _ => false

def isFalseItself : Value → Bool
  | .bool false => true
  | _ => false

def falseWords : List String := ["0", "off", "f", "false", "n", "no"]

def trueWords : List String := ["1", "on", "t", "true", "y", "yes"]

def truthOfWord? (word : String) : Option Bool :=
  if falseWords.contains word then some false
  else if trueWords.contains word then some true
  else none

def truthOfWhole? (whole : Int) : Option Bool :=
  if whole == 0 then some false else if whole == 1 then some true else none

def truthOf? (value : Value) : Option Bool :=
  match value with
  | .bool truth => some truth
  | .int whole => truthOfWhole? whole
  | .float number => (wholeFloat? number).bind truthOfWhole?
  | _ =>
      match textOf? value with
      | some (some text) => truthOfWord? (String.ofList (Text.lowerAscii text))
      | _ => none

theorem truthOfWord?_isSome (word : String) :
    (truthOfWord? word).isSome = truthWords.contains word := by
  have words : truthWords = falseWords ++ trueWords := rfl
  rw [words, List.contains_append, truthOfWord?]
  cases falseWords.contains word with
  | true => rfl
  | false =>
      cases trueWords.contains word with
      | true => rfl
      | false => rfl

theorem truthOfWhole?_isSome (whole : Int) :
    (truthOfWhole? whole).isSome = (whole == 0 || whole == 1) := by
  rw [truthOfWhole?]
  cases whole == 0 with
  | true => rfl
  | false =>
      cases whole == 1 with
      | true => rfl
      | false => rfl

/-- Zero and one are accepted, and no other whole number. -/
theorem truthReason_int (whole : Int) :
    truthReason (.int whole) = none ↔ (truthOf? (.int whole)).isSome = true := by
  have listed : (truthOf? (.int whole)).isSome = (whole == 0 || whole == 1) :=
    truthOfWhole?_isSome whole
  rw [listed]
  simp only [truthReason]
  by_cases small : (whole == 0 || whole == 1) = true
  · have bounded : whole = 0 ∨ whole = 1 := by simpa using small
    rcases bounded with rfl | rfl
    · decide
    · decide
  · rw [if_neg small]
    split <;> simp [small]

theorem truthReason_float (number : Binary64) :
    truthReason (.float number) = none ↔ (truthOf? (.float number)).isSome = true := by
  simp only [truthReason, truthOf?]
  cases wholeFloat? number with
  | none => simp
  | some whole =>
      simp only [Option.bind_some, truthOfWhole?_isSome]
      split <;> simp_all

/-- A word for a truth value is accepted, also by its bytes. -/
theorem truthReason_textual (textual : isTextual value = true) :
    truthReason value = none ↔ (truthOf? value).isSome = true := by
  have each (text : List Char) :
      (if truthWords.contains (String.ofList (Text.lowerAscii text)) = true then none
        else some "Input should be a valid boolean, unable to interpret input") = none ↔
      (truthOfWord? (String.ofList (Text.lowerAscii text))).isSome = true := by
    rw [truthOfWord?_isSome]
    split <;> simp_all
  cases value with
  | str text => exact each text.toList
  | bytes data =>
      simp only [truthReason, truthOf?, textOf?]
      cases String.fromUTF8? ⟨data.toArray⟩ with
      | none => simp
      | some text => exact each text.toList
  | _ => cases textual

/-- The accepted values are those that are validated as a truth value. -/
theorem truthReason_eq_none : truthReason value = none ↔ (truthOf? value).isSome = true := by
  cases value with
  | bool truth => simp [truthReason, truthOf?]
  | int whole => exact truthReason_int whole
  | float number => exact truthReason_float number
  | str text => exact truthReason_textual rfl
  | bytes data => exact truthReason_textual rfl
  | _ => simp [truthReason, truthOf?, textOf?]

theorem truthOfWhole?_eq_some {whole : Int}
    (found : truthOfWhole? whole = some truth) : (whole == 0) = !truth := by
  unfold truthOfWhole? at found
  split at found
  · rename_i zero
    obtain rfl := Option.some.inj found
    exact zero
  · rename_i nonzero
    split at found
    · obtain rfl := Option.some.inj found
      simpa using nonzero
    · cases found

/-- A text of which something is read counts as true, if nothing is read of an empty one. -/
theorem truthy_of_read {α : Type} (read : Value → Option α) (noText : read (.str "") = none)
    (noBytes : read (.bytes []) = none) (textual : isTextual value = true)
    {result : α} (found : read value = some result) : value.truthy = true := by
  cases value with
  | str text =>
      have given : text ≠ "" := by
        rintro rfl
        cases noText.symm.trans found
      simpa [Value.truthy] using given
  | bytes data =>
      cases data with
      | nil => cases noBytes.symm.trans found
      | cons byte data => rfl
  | _ => cases textual

/-- A number counts as true exactly if it was validated as true. -/
theorem truthy_of_not_textual (plain : isTextual value = false)
    (validated : truthOf? value = some truth) : value.truthy = truth := by
  cases value with
  | bool given => exact Option.some.inj validated
  | int whole =>
      have zero := truthOfWhole?_eq_some validated
      simp [Value.truthy, bne, zero]
  | float number =>
      obtain ⟨whole, found, validated⟩ := Option.bind_eq_some_iff.1 validated
      have zero := Binary64.isZero_of_whole? (Option.filter_eq_some_iff.1 found).1
      rw [truthOfWhole?_eq_some validated] at zero
      simp [Value.truthy, zero]
  | str text => cases plain
  | bytes data => cases plain
  | _ => cases validated

/-! ## Spellings that keep their meaning -/

/-- The spellings that keep their meaning where only false itself is taken for false: those of
true, and false itself. -/
def KeptByIdentity (value : Value) : Prop := truthOf? value = some true ∨ value = .bool false

/-- The spellings that keep their meaning where a value is asked whether it counts as true: those
of true, and those of false that are no words. -/
def KeptByCondition (value : Value) : Prop :=
  truthOf? value = some true ∨ truthOf? value = some false ∧ isTextual value = false

theorem KeptByIdentity.condition (kept : KeptByIdentity value) : KeptByCondition value := by
  rcases kept with isTrue | rfl
  · exact .inl isTrue
  · exact .inr ⟨rfl, rfl⟩

theorem isFalseItself_eq (found : truthOf? value = some truth) :
    isFalseItself value = !truth ↔ KeptByIdentity value := by
  unfold KeptByIdentity
  rw [found, Option.some.injEq]
  cases value with
  | bool given =>
      obtain rfl := Option.some.inj found
      cases given <;> simp [isFalseItself]
  | _ => simp [isFalseItself]

theorem truthy_eq_truth (validated : truthOf? value = some truth) :
    value.truthy = truth ↔ KeptByCondition value := by
  unfold KeptByCondition
  rw [validated]
  cases textual : isTextual value with
  | false =>
      rw [truthy_of_not_textual textual validated]
      cases truth <;> simp
  | true =>
      rw [truthy_of_read truthOf? (by with_unfolding_all rfl) (by with_unfolding_all rfl)
        textual validated]
      cases truth <;> simp

/-! ## Fields that may be null -/

/-- The value that takes the place of an accepted one: the truth value that it was validated as,
null for null. -/
def validated (value : Value) : Value := ((truthOf? value).map Value.bool).getD value

theorem validated_eq (found : truthOf? value = some truth) : validated value = .bool truth := by
  rw [validated, found]
  rfl

def IsOptionalTruth (value : Value) : Prop := value = .null ∨ ∃ truth, truthOf? value = some truth

def entry (entries : Entries) (name : String) : Value := (Entries.get? entries name).getD .null

theorem Shape.admits_truth : Shape.truth.Admits value ↔ ∃ truth, truthOf? value = some truth := by
  rw [← Option.isSome_iff_exists, ← truthReason_eq_none]
  unfold Shape.Admits Shape.check
  exact reasoned_iff

theorem Conforms.optionalTruth {fields : List (String × Bool × Shape)} {entries : Entries}
    (conforms : Conforms fields entries) {name : String} (member : nullable name .truth ∈ fields) :
    IsOptionalTruth (entry entries name) := by
  unfold entry
  cases null : ((Entries.get? entries name).getD .null).isNull with
  | true => exact .inl (Value.eq_null_of_isNull null)
  | false =>
      obtain ⟨item, found, admitted⟩ := conforms.given member null
      rw [found]
      exact .inr (Shape.admits_truth.1 admitted)

/-- The entries with the truth values that those under some names were validated as. -/
def validatedTruths (names : List String) (entries : Entries) : Entries :=
  entries.map fun entry =>
    if names.any entry.1.isText then (entry.1, validated entry.2) else entry

theorem get?_validatedTruths (names : List String) (entries : Entries) (name : String) :
    Entries.get? (validatedTruths names entries) name =
      if names.contains name then (Entries.get? entries name).map validated
      else Entries.get? entries name := by
  have named : names.any (Value.str name).isText = names.contains name := by
    rw [List.contains_eq_any_beq]
    congr 1
    funext other
    exact Value.isText_str name other
  induction entries with
  | nil => simp [validatedTruths, Entries.get?, Entries.lookup?]
  | cons entry entries ih =>
      obtain ⟨key, value⟩ := entry
      unfold validatedTruths at ih ⊢
      rw [List.map_cons, Entries.get?_entry, Entries.get?_entry, ih]
      by_cases same : key.isText name = true
      · obtain rfl := Value.isText_iff.1 same
        rw [named]
        cases names.contains name with
        | true => simp
        | false => simp
      · cases names.any key.isText with
        | true => simp [same]
        | false => simp [same]

end Schema

end BrowserScript
