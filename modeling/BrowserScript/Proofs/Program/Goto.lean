import BrowserScript.Proofs.Program.Truth
import BrowserScript.Proofs.Url.Scheme

/-!
# Where steps go

A step that goes somewhere names an address. It is accepted for the form of its address alone: the
scheme need not be one of web pages, and there is no scheme that no accepted step has.
-/

namespace BrowserScript

open Schema

namespace Schema

/-! ## Records field by field -/

theorem conforms_cons_iff {name : String} {isRequired : Bool} {shape : Shape}
    {fields : List (String × Bool × Shape)} {entries : Entries} :
    Conforms ((name, isRequired, shape) :: fields) entries ↔
      (match Entries.get? entries name with
        | some item => shape.Admits item
        | none => isRequired = false) ∧ Conforms fields entries := by
  constructor
  · intro conforms
    refine ⟨conforms.field List.mem_cons_self, ?_⟩
    unfold Conforms Shape.checkFields at conforms
    split at conforms
    · split at conforms
      · cases conforms
      · exact conforms
    · obtain ⟨finding, _, later⟩ := bind_eq_ok conforms
      cases finding with
      | some finding => cases later
      | none => exact later
  · rintro ⟨first, others⟩
    unfold Conforms Shape.checkFields
    cases found : Entries.get? entries name with
    | none =>
        rw [found] at first
        obtain rfl : isRequired = false := first
        exact others
    | some item =>
        rw [found] at first
        have admitted : shape.check item = .ok none := first
        dsimp only
        rw [admitted]
        exact others

/-- A record without a rule admits the mappings that conform to its fields. -/
theorem Shape.admits_record_iff {name : String} {fields : List (String × Bool × Shape)}
    {value : Value} :
    (Shape.record name fields .anyFields).Admits value ↔
      ∃ entries, value = .map entries ∧ Conforms fields entries := by
  constructor
  · intro admitted
    obtain ⟨entries, same, conforms, _⟩ := admitted.record
    exact ⟨entries, same, conforms⟩
  · rintro ⟨entries, rfl, conforms⟩
    have silent : Shape.checkFields fields entries = .ok none := conforms
    unfold Shape.Admits Shape.check
    dsimp only
    rw [silent]
    rfl

theorem Shape.admits_word_iff {words : List String} {value : Value} :
    (Shape.word words).Admits value ↔ ∃ word ∈ words, value = .str word := by
  refine ⟨Shape.Admits.word, ?_⟩
  rintro ⟨word, member, rfl⟩
  have listed : words.any (Value.str word).isText = true :=
    List.any_eq_true.2 ⟨word, member, Value.isText_iff.2 rfl⟩
  unfold Shape.Admits Shape.check Shape.wordReason
  rw [if_pos listed]
  rfl

theorem Shape.admits_url_iff {value : Value} :
    Shape.url.Admits value ↔ ∃ text, textOf? value = some (some text) ∧
      Url.refusal? (String.ofList text) = none := by
  unfold Shape.Admits Shape.check urlReason
  rw [reasoned_iff]
  split
  · rename_i text found
    rw [Option.map_eq_none_iff]
    constructor
    · intro accepted
      exact ⟨text, found, accepted⟩
    · rintro ⟨other, same, accepted⟩
      cases found.symm.trans same
      exact accepted
  · rename_i other
    refine iff_of_false nofun ?_
    rintro ⟨text, same, _⟩
    exact other text same

end Schema

/-! ## Accepted steps -/

/-- The address of a payload has a scheme: the text under its key, as such or in bytes, starts with
it, and what follows is fit for it. -/
def GoesTo (payload : Value) (scheme : List Char) : Prop :=
  ∃ entries url text rest, payload = .map entries ∧ Entries.get? entries "url" = some url ∧
    textOf? url = some (some text) ∧ Url.clean text = scheme ++ ':' :: rest ∧
    Url.IsSchemeName scheme ∧ Url.FitsScheme scheme rest

def WaitsUntilKnown (payload : Value) : Prop :=
  ∃ entries, payload = .map entries ∧ ∀ item, Entries.get? entries "waitUntil" = some item →
    ∃ word ∈ ["domcontentloaded", "networkidle0", "networkidle2", "load"], item = .str word

/-- A payload goes to one scheme at most. -/
theorem GoesTo.unique {payload : Value} {scheme other : List Char} (goes : GoesTo payload scheme)
    (goesOther : GoesTo payload other) : scheme = other := by
  obtain ⟨entries, url, text, rest, rfl, found, decoded, cleaned, named, _⟩ := goes
  obtain ⟨_, _, _, behind, same, foundOther, decodedOther, cleanedOther, namedOther, _⟩ := goesOther
  cases same
  cases found.symm.trans foundOther
  cases decoded.symm.trans decodedOther
  have split := Url.splitScheme?_eq_some_iff.2 ⟨cleaned, named⟩
  have splitOther := Url.splitScheme?_eq_some_iff.2 ⟨cleanedOther, namedOther⟩
  cases split.symm.trans splitOther
  rfl

theorem admits_goto_iff {payload : Value} :
    (Schema.payload .goto).Admits payload ↔
      (∃ scheme, GoesTo payload scheme) ∧ WaitsUntilKnown payload := by
  unfold Schema.payload
  rw [Shape.admits_record_iff]
  constructor
  · rintro ⟨entries, rfl, conforms⟩
    obtain ⟨url, found, shaped⟩ := conforms.required List.mem_cons_self
    obtain ⟨text, decoded, accepted⟩ := Shape.admits_url_iff.1 shaped
    obtain ⟨scheme, rest, cleaned, named, fits⟩ := Url.refusal?_eq_none_iff.1 accepted
    rw [String.toList_ofList] at cleaned
    refine ⟨⟨scheme, entries, url, text, rest, rfl, found, decoded, cleaned, named, fits⟩,
      entries, rfl, ?_⟩
    intro item foundItem
    exact (conforms.present mem_second foundItem).word
  · rintro ⟨⟨scheme, entries, url, text, rest, rfl, found, decoded, cleaned, named, fits⟩,
      _, same, waits⟩
    cases same
    have address : Url.refusal? (String.ofList text) = none := by
      refine Url.refusal?_eq_none_iff.2 ⟨scheme, rest, ?_, named, fits⟩
      rwa [String.toList_ofList]
    refine ⟨entries, rfl, conforms_cons_iff.2 ⟨?_, conforms_cons_iff.2 ⟨?_, rfl⟩⟩⟩
    · rw [found]
      exact Shape.admits_url_iff.2 ⟨text, decoded, address⟩
    · cases foundItem : Entries.get? entries "waitUntil" with
      | none => rfl
      | some item => exact Shape.admits_word_iff.2 (waits item foundItem)

theorem checkStep_goto_iff {index : Nat} {payload : Value} :
    checkStep index (stepOf .goto payload) = .ok () ↔
      (∃ scheme, GoesTo payload scheme) ∧ WaitsUntilKnown payload :=
  ⟨fun accepted => admits_goto_iff.1 (admits_of_checkStep accepted),
    fun described => checkStep_of_admits rfl (admits_goto_iff.2 described)⟩

def gotoPayload (address : String) : Value := .map [(.str "url", .str address)]

theorem waitsUntilKnown_gotoPayload (address : String) : WaitsUntilKnown (gotoPayload address) := by
  refine ⟨_, rfl, fun item found => ?_⟩
  rw [Entries.get?_cons] at found
  cases found

/-- The payload of an address goes to the scheme of the address. -/
theorem goesTo_gotoPayload {address : String} {scheme rest : List Char}
    (cleaned : Url.clean address.toList = scheme ++ ':' :: rest) (named : Url.IsSchemeName scheme)
    (fits : Url.FitsScheme scheme rest) : GoesTo (gotoPayload address) scheme :=
  ⟨_, .str address, address.toList, rest, rfl, by simp [Entries.get?_cons], rfl, cleaned, named,
    fits⟩

/-- Where accepted steps go. A step is accepted exactly if its address has a scheme, one and only
one, with a host that is fit for it, and it waits for nothing unknown; and the schemes of accepted
steps are all the names that a scheme can have, those of web pages and any other. -/
theorem goto_takes_any_scheme (index : Nat) (payload : Value) :
    (checkStep index (stepOf .goto payload) = .ok () ↔
      (∃! scheme, GoesTo payload scheme) ∧ WaitsUntilKnown payload) ∧
    ∀ scheme, Url.IsSchemeName scheme ↔
      ∃ other, checkStep index (stepOf .goto other) = .ok () ∧ GoesTo other scheme := by
  constructor
  · rw [checkStep_goto_iff]
    constructor
    · rintro ⟨⟨scheme, goes⟩, waits⟩
      exact ⟨⟨scheme, goes, fun other goesOther => goesOther.unique goes⟩, waits⟩
    · rintro ⟨⟨scheme, goes, _⟩, waits⟩
      exact ⟨⟨scheme, goes⟩, waits⟩
  · intro scheme
    constructor
    · intro named
      have cleaned := Url.clean_plainHost named
      have goes := goesTo_gotoPayload cleaned named (Url.fitsScheme_plainHost scheme)
      exact ⟨_, checkStep_goto_iff.2 ⟨⟨scheme, goes⟩, waitsUntilKnown_gotoPayload _⟩, goes⟩
    · rintro ⟨other, _, _, _, _, _, _, _, _, _, named, _⟩
      exact named

def pageAddress : String := " HTTPS://example.com:8080/a?b#c "

theorem isSchemeName_https : Url.IsSchemeName "HTTPS".toList where
  starts := ⟨'H', "TTPS".toList, rfl, rfl⟩
  chars := List.all_eq_true.1 rfl

/-- A step that goes to a web page is accepted, and so is one that goes to its scheme with another
host. -/
theorem page_goto_accepted :
    checkStep 0 (stepOf .goto (gotoPayload pageAddress)) = .ok () ∧
      ∃ other, checkStep 0 (stepOf .goto other) = .ok () ∧ GoesTo other "HTTPS".toList := by
  have web : Url.Scheme.ofName "HTTPS".toList = .web := rfl
  have fits : Url.FitsScheme "HTTPS".toList "//example.com:8080/a?b#c".toList := by
    unfold Url.FitsScheme
    rw [web]
    decide +kernel
  have goes : GoesTo (gotoPayload pageAddress) "HTTPS".toList :=
    goesTo_gotoPayload (by with_unfolding_all rfl) isSchemeName_https fits
  obtain ⟨accepted_iff, schemes⟩ := goto_takes_any_scheme 0 (gotoPayload pageAddress)
  refine ⟨accepted_iff.2 ⟨⟨_, goes, fun other goesOther => goesOther.unique goes⟩, ?_⟩,
    (schemes _).1 isSchemeName_https⟩
  exact waitsUntilKnown_gotoPayload pageAddress

/-- A step may go to a file, and then to no web page. -/
theorem goto_opens_files :
    checkStep 0 (stepOf .goto (gotoPayload "file:///etc/passwd")) = .ok () ∧
      ∀ scheme, GoesTo (gotoPayload "file:///etc/passwd") scheme →
        scheme.map Char.toLower ∉ ["http".toList, "https".toList] := by
  have named : Url.IsSchemeName "file".toList :=
    ⟨⟨'f', "ile".toList, rfl, rfl⟩, List.all_eq_true.1 rfl⟩
  have file : Url.Scheme.ofName "file".toList = .file := rfl
  have fits : Url.FitsScheme "file".toList "///etc/passwd".toList := by
    unfold Url.FitsScheme
    rw [file]
    with_unfolding_all rfl
  have goes : GoesTo (gotoPayload "file:///etc/passwd") "file".toList :=
    goesTo_gotoPayload (by with_unfolding_all rfl) named fits
  refine ⟨checkStep_goto_iff.2 ⟨⟨_, goes⟩, waitsUntilKnown_gotoPayload _⟩, ?_⟩
  intro scheme goesOther
  rw [← goes.unique goesOther]
  decide

end BrowserScript
