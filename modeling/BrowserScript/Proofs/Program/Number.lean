import BrowserScript.Baseline.Config
import BrowserScript.Proofs.Program.Truth
import BrowserScript.Proofs.Schema.Number
import BrowserScript.Proofs.Value.Reader

/-!
# Numbers after validation

Clicks at a point and scans read the numbers of a script as they stand there, not as they were
validated. The notation that is accepted and the one that is read differ: the first has fractions
and exponents, and rounds. The numbers that come out are the validated ones exactly where both
notations give the same integer.
-/

namespace BrowserScript

open Schema

/-! ## Integers in text -/

theorem natText_injective {left right : Nat} (same : natText left = natText right) :
    left = right := by
  have read := congrArg (fun digits => Nat.ofDigitChars 10 digits 0) same
  simpa only [natText, Nat.ofDigitChars_ten_toDigits] using read

theorem not_mem_natText {c : Char} (other : c.isDigit = false) (number : Nat) :
    c ∉ natText number := by
  intro member
  have digit := List.all_eq_true.1 (Reader.all_isDigit_natText number) c member
  cases other.symm.trans digit

theorem intText_injective {left right : Int} (same : intText left = intText right) :
    left = right := by
  have noSign (number : Nat) (rest : List Char) : natText number ≠ '-' :: rest := by
    intro signed
    exact not_mem_natText (by decide) number (signed ▸ List.mem_cons_self)
  unfold intText at same
  split at same
  · split at same
    · have magnitude := natText_injective (List.cons.inj same).2
      omega
    · exact absurd same.symm (noSign _ _)
  · split at same
    · exact absurd same (noSign _ _)
    · have magnitude := natText_injective same
      omega

/-- An integer ends where a comma follows it. -/
theorem takeWhile_intText (whole : Int) (rest : List Char) :
    (intText whole ++ ',' :: rest).takeWhile (· != ',') = intText whole := by
  have noComma : ',' ∉ intText whole := by
    have digits := not_mem_natText (c := ',') (by decide) whole.natAbs
    unfold intText
    split
    · simpa using digits
    · exact digits
  have others : ∀ c ∈ intText whole, (c != ',') = true := by
    intro c member
    rw [bne_iff_ne]
    rintro rfl
    exact noComma member
  rw [List.takeWhile_append_of_pos others, List.takeWhile_cons_of_neg (by decide), List.append_nil]

/-! ## Clicks at a point -/

namespace Selenium

def clickAt (x y : Int) : Block :=
  ["actions = ActionBuilder(driver)",
    "actions.pointer_action.move_to_location(" ++ String.ofList (intText x) ++ ", " ++
      String.ofList (intText y) ++ ")",
    "actions.pointer_action.click()",
    "actions.perform()"]

theorem clickAt_injective {x y otherX otherY : Int} (same : clickAt x y = clickAt otherX otherY) :
    x = otherX ∧ y = otherY := by
  have lines := (List.cons.inj (List.cons.inj same).2).1
  have texts := congrArg String.toList lines
  simp only [String.toList_append, String.toList_ofList, List.append_assoc] at texts
  have places := List.append_cancel_left texts
  have first : intText x = intText otherX := by
    have starts := congrArg (List.takeWhile (· != ',')) places
    have comma : ", ".toList = [',', ' '] := by decide
    simpa only [comma, List.cons_append, takeWhile_intText] using starts
  rw [first] at places
  have second := List.append_cancel_right
    (List.append_cancel_left (List.append_cancel_left places))
  exact ⟨intText_injective first, intText_injective second⟩

theorem integerText_eq (whole : Int) :
    Value.integerText whole =
      if Value.isShort whole = true then .ok (intText whole) else .error Fault.tooLong := by
  unfold Value.integerText Value.isShort
  by_cases short : (natText whole.natAbs).length ≤ integerDigitLimit
  · simp [short, Nat.not_lt.2 short]
  · simp [short, Nat.not_le.1 short, Fault.tooLong]

theorem coordinate_eq {coords item : Value} {name : String} (found : coords.field name = .ok item) :
    coordinate coords name = item.truncate >>= fun whole =>
      Value.integerText whole >>= fun text => .ok (String.ofList text) := by
  unfold coordinate
  rw [found]
  rfl

theorem coordinate_eq_ok {coords item : Value} {name : String} (found : coords.field name = .ok item)
    {text : String} :
    coordinate coords name = .ok text ↔
      ∃ whole, item.truncate = .ok whole ∧ Value.isShort whole = true ∧
        text = String.ofList (intText whole) := by
  rw [coordinate_eq found]
  constructor
  · intro done
    obtain ⟨whole, read, done⟩ := bind_eq_ok done
    rw [integerText_eq] at done
    split at done
    · rename_i short
      exact ⟨whole, read, short, (Except.ok.inj done).symm⟩
    · cases done
  · rintro ⟨whole, read, short, rfl⟩
    rw [read]
    change (Value.integerText whole >>= fun text => .ok (String.ofList text)) = _
    rw [integerText_eq, if_pos short]
    rfl

/-- A click that names no element goes to a point. -/
theorem click_eq {payload point : Value} (unnamed : payload.option "selector" = .ok .null)
    (found : payload.field "coords" = .ok point) :
    click payload = coordinate point "x" >>= fun x => coordinate point "y" >>= fun y =>
      .ok ["actions = ActionBuilder(driver)",
        "actions.pointer_action.move_to_location(" ++ x ++ ", " ++ y ++ ")",
        "actions.pointer_action.click()",
        "actions.perform()"] := by
  unfold click
  rw [unnamed, found]
  rfl

/-- A click at a point goes to the integer parts of its coordinates. -/
theorem click_eq_clickAt {payload point x y : Value}
    (unnamed : payload.option "selector" = .ok .null) (found : payload.field "coords" = .ok point)
    (foundX : point.field "x" = .ok x) (foundY : point.field "y" = .ok y) {across down : Int} :
    click payload = .ok (clickAt across down) ↔
      (x.truncate = .ok across ∧ Value.isShort across = true) ∧
        (y.truncate = .ok down ∧ Value.isShort down = true) := by
  rw [click_eq unnamed found]
  constructor
  · intro done
    obtain ⟨textX, madeX, done⟩ := bind_eq_ok done
    obtain ⟨textY, madeY, done⟩ := bind_eq_ok done
    obtain ⟨wholeX, readX, shortX, rfl⟩ := (coordinate_eq_ok foundX).1 madeX
    obtain ⟨wholeY, readY, shortY, rfl⟩ := (coordinate_eq_ok foundY).1 madeY
    have same : clickAt wholeX wholeY = clickAt across down := Except.ok.inj done
    obtain ⟨rfl, rfl⟩ := clickAt_injective same
    exact ⟨⟨readX, shortX⟩, readY, shortY⟩
  · rintro ⟨⟨readX, shortX⟩, readY, shortY⟩
    rw [(coordinate_eq_ok foundX).2 ⟨across, readX, shortX, rfl⟩]
    change (coordinate point "y" >>= fun _ => _) = _
    rw [(coordinate_eq_ok foundY).2 ⟨down, readY, shortY, rfl⟩]
    rfl

end Selenium

/-! ## Options of a scan -/

/-- Options that list availabilities make a configuration, unless the year cannot be read. -/
theorem Baseline.Config.ofOptions_list {entries : Entries} {listed : List Value}
    (given : Entries.get? entries "includeAvailability" = some (.list listed)) :
    ofOptions (.map entries) =
      (fun threshold => {
        low := listed.any (·.isText "low")
        high := listed.any (·.isText "high")
        notBaseline := ((Entries.get? entries "includeNotBaseline").getD (.bool true)).truthy
        yearThreshold := threshold
        strictness := (entry entries "strictness").orElse (.str "normal")
        delay := entry entries "delay" }) <$> yearOf (entry entries "baselineYearThreshold") := by
  unfold ofOptions yearOf entry
  simp only [Value.option_map, Value.optionOr_map, given]
  generalize (Entries.get? entries "baselineYearThreshold").getD .null = year
  change (if year.truthy = true then _ else _) = _
  cases year.truthy with
  | false => rfl
  | true =>
      rw [if_pos rfl, if_pos rfl]
      cases year.truncate with
      | error fault => rfl
      | ok whole => rfl

namespace ScanOptions

/-- The texts of zeros, which are accepted where false is. -/
def zeroTexts : List String := ["0", "0.0", "-0.0"]

/-- The text of a value that equals false tells false itself from the zeros. -/
theorem availabilityText_of_equals {item : Value} (same : item.equals (.bool false) = true) :
    ∃ text, availabilityText item = .ok text ∧
      (item = .bool false ∧ text = "false" ∨
        item ≠ .bool false ∧ (∀ word, item ≠ .str word) ∧ text ∈ zeroTexts) := by
  unfold Value.equals at same
  cases item with
  | bool truth =>
      cases truth with
      | false => exact ⟨_, rfl, .inl ⟨rfl, rfl⟩⟩
      | true => cases same
  | int whole =>
      obtain rfl : whole = 0 := by simpa [Value.equalsAtom, Value.wholeNumber?] using same
      exact ⟨_, rfl, .inr ⟨by rintro ⟨⟩, by rintro _ ⟨⟩, by decide⟩⟩
  | float number =>
      have zero : number.whole? = some 0 := by
        cases found : number.whole? with
        | none => simp [Value.equalsAtom, Value.wholeNumber?, found] at same
        | some whole => simpa [Value.equalsAtom, Value.wholeNumber?, found] using same
      have isZero := Binary64.isZero_of_whole? zero
      refine ⟨_, rfl, .inr ⟨by rintro ⟨⟩, by rintro _ ⟨⟩, ?_⟩⟩
      cases number with
      | finite negative significand exponent =>
          obtain rfl : significand = 0 := by simpa [Binary64.isZero] using isZero
          cases negative
          · exact mem_second
          · exact mem_third
      | _ => cases isZero
  | _ => cases same

/-- The text of an accepted availability is a given word, other than those of the zeros, exactly if
the availability is that word, or false itself for the word false. -/
theorem availabilityText_eq_iff {words : List String} {item : Value}
    (admitted : (Shape.wordOrFalse words).Admits item) :
    ∃ text, availabilityText item = .ok text ∧ ∀ word ∉ zeroTexts,
      (text = word ↔ item = .str word ∨ word = "false" ∧ item = .bool false) := by
  unfold Shape.Admits Shape.check at admitted
  split at admitted
  · rename_i same
    obtain ⟨text, shown, ⟨rfl, rfl⟩ | ⟨other, noWord, zero⟩⟩ := availabilityText_of_equals same
    · refine ⟨_, shown, fun word _ => ?_⟩
      simp [eq_comm]
    · refine ⟨text, shown, fun word plain => iff_of_false ?_ ?_⟩
      · rintro rfl
        exact plain zero
      · rintro (isWord | ⟨_, isFalse⟩)
        · exact noWord word isWord
        · exact other isFalse
  · have listed : (Shape.word words).Admits item := by
      have silent := Option.map_eq_none_iff.1 (Except.ok.inj admitted)
      unfold Shape.Admits Shape.check
      exact reasoned_iff.2 silent
    obtain ⟨shown, _, rfl⟩ := listed.word
    refine ⟨shown, rfl, fun word _ => ?_⟩
    simp

/-- The texts of accepted availabilities hold a word exactly if the availabilities do. -/
theorem mem_texts_iff {words : List String} {items : List Value}
    (admitted : ∀ item ∈ items, (Shape.wordOrFalse words).Admits item) :
    ∃ texts, items.mapM availabilityText = .ok texts ∧ ∀ word ∉ zeroTexts,
      (word ∈ texts ↔ .str word ∈ items ∨ word = "false" ∧ .bool false ∈ items) := by
  induction items with
  | nil => exact ⟨[], rfl, fun word _ => by simp⟩
  | cons item items ih =>
      obtain ⟨first, others⟩ := List.forall_mem_cons.1 admitted
      obtain ⟨text, shown, same⟩ := availabilityText_eq_iff first
      obtain ⟨texts, all, mem⟩ := ih others
      refine ⟨text :: texts, ?_, fun word plain => ?_⟩
      · rw [List.mapM_cons, shown, all]
        rfl
      · rw [List.mem_cons, mem word plain, List.mem_cons, List.mem_cons, eq_comm, same word plain,
          eq_comm (b := item), eq_comm (a := Value.bool false)]
        constructor
        · rintro ((isWord | ⟨isFalse, itself⟩) | isWord | ⟨isFalse, later⟩)
          · exact .inl (.inl isWord)
          · exact .inr ⟨isFalse, .inl itself⟩
          · exact .inl (.inr isWord)
          · exact .inr ⟨isFalse, .inr later⟩
        · rintro ((isWord | isWord) | ⟨isFalse, itself | later⟩)
          · exact .inl (.inl isWord)
          · exact .inr (.inl isWord)
          · exact .inl (.inr ⟨isFalse, itself⟩)
          · exact .inr (.inr ⟨isFalse, later⟩)

/-- The options of an accepted scan exist. -/
theorem exists_ofPayload {entries : Entries}
    (admitted : (Schema.payload .baselineScan).Admits (.map entries)) :
    ∃ options, ofPayload (.map entries) = .ok options := by
  obtain ⟨_, same, conforms, _⟩ := admitted.record
  cases same
  obtain ⟨listed, found, shaped⟩ := conforms.required List.mem_cons_self
  obtain ⟨items, members, each⟩ := shaped.list
  obtain ⟨texts, made, _⟩ := mem_texts_iff each
  unfold ofPayload
  rw [Value.optionOr_map, found]
  change ∃ options, (listed.members >>= fun items => _) = _
  rw [members_of_listItems members]
  change ∃ options, (items.mapM availabilityText >>= fun texts => _) = _
  rw [made]
  exact ⟨_, rfl⟩

/-- The options of a scan hand its year on. -/
theorem ofOptions_ofPayload {entries : Entries} {options : Value}
    (made : ofPayload (.map entries) = .ok options) :
    ∃ config : Option Int → Baseline.Config, (∀ year, (config year).yearThreshold = year) ∧
      Baseline.Config.ofOptions options = config <$> yearOf (entry entries "year") := by
  unfold ofPayload at made
  obtain ⟨_, _, made⟩ := bind_eq_ok made
  obtain ⟨_, _, made⟩ := bind_eq_ok made
  obtain ⟨texts, _, made⟩ := bind_eq_ok made
  obtain ⟨year, given, made⟩ := bind_eq_ok made
  obtain ⟨strictness, _, made⟩ := bind_eq_ok made
  obtain ⟨delay, _, made⟩ := bind_eq_ok made
  obtain rfl := Except.ok.inj made
  obtain rfl : entry entries "year" = year := Except.ok.inj given
  have lists (listed : List Value) (rest : Entries) :
      Entries.get? ((.str "includeAvailability", .list listed) :: rest) "includeAvailability" =
        some (.list listed) := by simp [Entries.get?_cons]
  have dates (listed year : Value) (rest : Entries) :
      entry ((.str "includeAvailability", listed) :: (.str "baselineYearThreshold", year) :: rest)
        "baselineYearThreshold" = year := by simp [entry, Entries.get?_cons]
  rw [Baseline.Config.ofOptions_list (lists _ _), dates]
  exact ⟨_, fun _ => rfl, rfl⟩

end ScanOptions

/-! ## Numbers of accepted scripts -/

/-- What accepted numbers mean to clicks and scans. A click at a point goes to the integer parts of
its validated coordinates exactly if both are finite numbers or integers that the floating-point
format holds, also where texts spell them out. A scan has a configuration unless its year is a text
that spells out no integer; the year is the validated one, none for zero, exactly if it is a number
or a text that spells out another integer than zero. -/
theorem accepted_numbers (index : Nat) (payload : Value) :
    (checkStep index (stepOf .click payload) = .ok () →
      payload.option "selector" = .ok .null →
      ∃ point x y across down, payload.field "coords" = .ok point ∧
        point.field "x" = .ok x ∧ point.field "y" = .ok y ∧
        numberOf? x = some across ∧ numberOf? y = some down ∧
        OnlyNumeric (Selenium.click payload) ∧
        ((∃ wholeX wholeY, across.truncate? = some wholeX ∧ down.truncate? = some wholeY ∧
            Selenium.click payload = .ok (Selenium.clickAt wholeX wholeY)) ↔
          KeepsInteger x ∧ KeepsInteger y)) ∧
    (checkStep index (stepOf .baselineScan payload) = .ok () →
      ∃ options year whole, ScanOptions.ofPayload payload = .ok options ∧
        payload.field "year" = .ok year ∧ wholeOf? year = some whole ∧
        ((∃ config, Baseline.Config.ofOptions options = .ok config) ↔
          (isTextual year = true → ∃ given, spelled? year = some given)) ∧
        ((∃ config, Baseline.Config.ofOptions options = .ok config ∧
            config.yearThreshold = if whole = 0 then none else some whole) ↔
          KeepsYear year)) := by
  constructor
  · intro accepted unnamed
    have admitted := admits_of_checkStep accepted
    obtain ⟨entries, rfl, _, _⟩ := admitted.record
    have null : ((Entries.get? entries "selector").getD .null).isNull = true := by
      rw [Except.ok.inj unnamed]
      rfl
    obtain ⟨point, found, shaped⟩ := coords_of_target admitted null
    obtain ⟨x, foundX, shapedX⟩ := shaped.required List.mem_cons_self
    obtain ⟨y, foundY, shapedY⟩ := shaped.required (List.mem_cons_of_mem _ List.mem_cons_self)
    obtain ⟨across, validX⟩ := Shape.admits_number.1 shapedX
    obtain ⟨down, validY⟩ := Shape.admits_number.1 shapedY
    refine ⟨point, x, y, across, down, found, foundX, foundY, validX, validY,
      Selenium.click_onlyNumeric (hasTarget_of_target admitted), ?_⟩
    rw [← truncate_iff_keepsInteger validX, ← truncate_iff_keepsInteger validY]
    constructor
    · rintro ⟨wholeX, wholeY, partX, partY, clicks⟩
      obtain ⟨readsX, readsY⟩ :=
        (Selenium.click_eq_clickAt unnamed found foundX foundY).1 clicks
      exact ⟨⟨wholeX, partX, readsX⟩, wholeY, partY, readsY⟩
    · rintro ⟨⟨wholeX, partX, readsX⟩, wholeY, partY, readsY⟩
      exact ⟨wholeX, wholeY, partX, partY,
        (Selenium.click_eq_clickAt unnamed found foundX foundY).2 ⟨readsX, readsY⟩⟩
  · intro accepted
    have admitted := admits_of_checkStep accepted
    obtain ⟨entries, rfl, conforms, _⟩ := admitted.record
    obtain ⟨options, made⟩ := ScanOptions.exists_ofPayload admitted
    obtain ⟨year, foundYear, shapedYear⟩ :=
      conforms.required (List.mem_cons_of_mem _ List.mem_cons_self)
    obtain ⟨whole, valid⟩ := Shape.admits_whole.1 shapedYear
    obtain ⟨config, hands, reads⟩ := ScanOptions.ofOptions_ofPayload made
    have given : entry entries "year" = year := by
      unfold entry
      rw [foundYear]
      rfl
    rw [given] at reads
    refine ⟨options, year, whole, made, Value.field_map foundYear, valid, ?_, ?_⟩
    · rw [← yearOf_eq_ok valid, reads]
      cases yearOf year with
      | error fault => simp
      | ok threshold => simp
    · rw [← yearOf_iff_keepsYear valid, reads]
      cases yearOf year with
      | error fault => simp
      | ok threshold => simp [hands]

def pointAt (x y : Value) : Value := .map [(.str "x", x), (.str "y", y)]

def clickPayload (x y : Value) : Value := .map [(.str "coords", pointAt x y)]

theorem clickPayload_unnamed (x y : Value) : (clickPayload x y).option "selector" = .ok .null := by
  simp [clickPayload, Value.option_map, Entries.get?_cons, get?_nil]

theorem clickPayload_coords (x y : Value) : (clickPayload x y).field "coords" = .ok (pointAt x y) :=
  Value.field_map (by simp [Entries.get?_cons])

theorem pointAt_x (x y : Value) : (pointAt x y).field "x" = .ok x :=
  Value.field_map (by simp [Entries.get?_cons])

theorem pointAt_y (x y : Value) : (pointAt x y).field "y" = .ok y :=
  Value.field_map (by simp [Entries.get?_cons])

theorem clickPayload_accepted {x y : Value} {across down : Binary64}
    (validX : numberOf? x = some across) (validY : numberOf? y = some down) :
    checkStep 0 (stepOf .click (clickPayload x y)) = .ok () := by
  have silentX : numberReason x = none :=
    numberReason_eq_none.2 (Option.isSome_iff_exists.2 ⟨across, validX⟩)
  have silentY : numberReason y = none :=
    numberReason_eq_none.2 (Option.isSome_iff_exists.2 ⟨down, validY⟩)
  refine checkStep_of_admits rfl ?_
  simp [Shape.Admits, clickPayload, pointAt, Schema.payload, target, coords, Shape.check,
    Shape.checkFields, Entries.get?_cons, get?_nil, required, nullable, reasoned, Rule.check,
    isGiven, silentX, silentY, Value.isNull, bind, Except.bind]

def scanPayload (year : Value) : Value :=
  .map [(.str "availability", .list []), (.str "year", year)]

theorem scanPayload_accepted {year : Value} {whole : Int} (valid : wholeOf? year = some whole) :
    checkStep 0 (stepOf .baselineScan (scanPayload year)) = .ok () := by
  have silent : wholeReason year = none :=
    wholeReason_eq_none.2 (Option.isSome_iff_exists.2 ⟨whole, valid⟩)
  refine checkStep_of_admits rfl ?_
  simp [Shape.Admits, scanPayload, Schema.payload, baselineScan, Shape.check, Shape.checkFields,
    Entries.get?_cons, get?_nil, required, nullable, reasoned, Rule.check, silent, listItems?,
    firstFinding, bind, Except.bind]

theorem scanPayload_year (year : Value) : (scanPayload year).field "year" = .ok year :=
  Value.field_map (by simp [Entries.get?_cons])

def oneAndHalf : Binary64 := .finite false 0x18000000000000 (-52)

/-- A number with a fraction and an integer that is spelled out are clicked at, and a year that is
spelled out is kept. -/
theorem kept_numbers :
    checkStep 0 (stepOf .click (clickPayload (.float oneAndHalf) (.str "+1_000"))) = .ok () ∧
      checkStep 0 (stepOf .baselineScan (scanPayload (.str "2020"))) = .ok () ∧
      Selenium.click (clickPayload (.float oneAndHalf) (.str "+1_000")) =
        .ok (Selenium.clickAt 1 1000) ∧
      ∃ options config, ScanOptions.ofPayload (scanPayload (.str "2020")) = .ok options ∧
        Baseline.Config.ofOptions options = .ok config ∧ config.yearThreshold = some 2020 := by
  have validX : numberOf? (.float oneAndHalf) = some oneAndHalf := rfl
  have validY : numberOf? (.str "+1_000") = some (.ofQuotient false 1000 1) := by decide +kernel
  have validYear : wholeOf? (.str "2020") = some 2020 := by decide +kernel
  have clicks := clickPayload_accepted validX validY
  have scans := scanPayload_accepted validYear
  refine ⟨clicks, scans, ?_, ?_⟩
  · obtain ⟨point, x, y, across, down, found, foundX, foundY, partX, partY, _, iff⟩ :=
      (accepted_numbers 0 _).1 clicks (clickPayload_unnamed _ _)
    cases (clickPayload_coords _ _).symm.trans found
    cases (pointAt_x _ _).symm.trans foundX
    cases (pointAt_y _ _).symm.trans foundY
    cases validX.symm.trans partX
    cases validY.symm.trans partY
    have keepsX : KeepsInteger (.float oneAndHalf) :=
      keepsInteger_finite false (by decide) (by decide)
    have keepsY : KeepsInteger (.str "+1_000") :=
      .inr ⟨1000, rfl, 1000, 0, by decide, by decide, rfl⟩
    obtain ⟨wholeX, wholeY, truncatedX, truncatedY, same⟩ := iff.2 ⟨keepsX, keepsY⟩
    cases truncatedX.symm.trans (by decide +kernel : oneAndHalf.truncate? = some 1)
    cases truncatedY.symm.trans
      (by decide +kernel : (Binary64.ofQuotient false 1000 1).truncate? = some 1000)
    exact same
  · obtain ⟨options, year, whole, made, found, valid, _, iff⟩ :=
      (accepted_numbers 0 _).2 scans
    cases (scanPayload_year _).symm.trans found
    cases validYear.symm.trans valid
    have keeps : KeepsYear (.str "2020") := fun _ => ⟨2020, rfl, by decide⟩
    obtain ⟨config, read, threshold⟩ := iff.2 keeps
    exact ⟨options, config, made, read, threshold⟩

/-- The text of one and a half is accepted as a coordinate, but no click goes there. -/
theorem fraction_in_text_is_not_clicked :
    checkStep 0 (stepOf .click (clickPayload (.str "1.5") (.int 2))) = .ok () ∧
      numberOf? (.str "1.5") = some oneAndHalf ∧ oneAndHalf.truncate? = some 1 ∧
      Selenium.click (clickPayload (.str "1.5") (.int 2)) =
        .error (.invalid (.integer 10 "'1.5'")) := by
  have valid : numberOf? (.str "1.5") = some oneAndHalf := by decide +kernel
  have refused : (Value.str "1.5").truncate = .error (.invalid (.integer 10 "'1.5'")) := rfl
  refine ⟨clickPayload_accepted valid rfl, valid, by decide +kernel, ?_⟩
  rw [Selenium.click_eq (clickPayload_unnamed _ _) (clickPayload_coords _ _),
    Selenium.coordinate_eq (pointAt_x _ _), refused]
  rfl

end BrowserScript
