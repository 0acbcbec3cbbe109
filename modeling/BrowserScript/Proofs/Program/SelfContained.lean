import BrowserScript.Proofs.Program.BlockTemplate
import BrowserScript.Proofs.Program.Number
import BrowserScript.Proofs.Value.Evaluate

/-!
# What blocks mention

The literals of a block evaluate to the values that its template holds, unless these hold days,
moments, empty sets or numbers that are not finite. Acceptance keeps such values out of all blocks
but those of clicks, of scrolling and of assertions: coordinates and distances may be infinite, and
keys that no field of a record names may have any value.
-/

namespace BrowserScript

open Schema Template Piece

namespace Value

/-! ## Proper and closed values -/

/-- A proper value whose literal mentions no names but those of constants. -/
structure IsLiteral (value : Value) : Prop where
  proper : value.isProper = true
  closed : value.isClosed = true

theorem areProper_eq_all (items : List Value) : areProper items = items.all isProper := by
  induction items with
  | nil => rfl
  | cons item items ih => rw [areProper, ih, List.all_cons]

theorem areClosed_eq_all (items : List Value) : areClosed items = items.all isClosed := by
  induction items with
  | nil => rfl
  | cons item items ih => rw [areClosed, ih, List.all_cons]

theorem isProper_of_get? {entries : Entries} {name : String} {item : Value}
    (proper : (Value.map entries).isProper = true) (found : Entries.get? entries name = some item) :
    item.isProper = true := by
  have each := (Bool.and_eq_true_iff.1 proper).1
  clear proper
  induction entries with
  | nil => cases found
  | cons entry entries ih =>
      simp only [entriesProper, Bool.and_eq_true] at each
      rw [Entries.get?_entry] at found
      split at found
      · cases found
        exact each.1.2
      · exact ih found each.2

/-- The entries of a proper value are proper. -/
theorem field_proper {value : Value} (proper : value.isProper = true) (name : String) :
    Returns (·.isProper = true) (value.field name) := by
  unfold field
  split
  · split
    · rename_i found
      exact .ok (isProper_of_get? proper found)
    · exact .error _
  · exact .error _

theorem isLiteral_null : IsLiteral .null := ⟨rfl, rfl⟩

theorem isLiteral_bool (truth : Bool) : IsLiteral (.bool truth) := ⟨rfl, rfl⟩

theorem isLiteral_int (whole : Int) : IsLiteral (.int whole) := ⟨rfl, rfl⟩

theorem isLiteral_str (text : String) : IsLiteral (.str text) := ⟨rfl, rfl⟩

theorem isLiteral_list {items : List Value} (each : ∀ item ∈ items, IsLiteral item) :
    IsLiteral (.list items) := by
  refine ⟨?_, ?_⟩
  · rw [isProper, areProper_eq_all]
    exact List.all_eq_true.2 fun item member => (each item member).proper
  · rw [isClosed, areClosed_eq_all]
    exact List.all_eq_true.2 fun item member => (each item member).closed

theorem isLiteral_orElse {value other : Value} (first : IsLiteral value) (second : IsLiteral other) :
    IsLiteral (value.orElse other) := by
  unfold orElse
  split
  · exact first
  · exact second

/-- Options under different names. -/
theorem isLiteral_options (options : List (String × Value))
    (different : (options.map (·.1)).Nodup) (each : ∀ option ∈ options, IsLiteral option.2) :
    IsLiteral (.map (options.map fun option => (.str option.1, option.2))) := by
  have pairwise : (options.map fun option => (Value.str option.1, option.2)).Pairwise
      fun earlier later => earlier.1.equals later.1 = false := by
    refine List.pairwise_map.2 ((List.pairwise_map.1 different).imp ?_)
    intro earlier later other
    have same := isText_str earlier.1 later.1
    rw [isText] at same
    rw [same]
    exact beq_eq_false_iff_ne.2 other
  have parts : entriesProper (options.map fun option => (Value.str option.1, option.2)) = true ∧
      entriesClosed (options.map fun option => (Value.str option.1, option.2)) = true := by
    clear pairwise different
    induction options with
    | nil => exact ⟨rfl, rfl⟩
    | cons option options ih =>
        obtain ⟨first, others⟩ := List.forall_mem_cons.1 each
        obtain ⟨proper, closed⟩ := ih others
        simp [entriesProper, entriesClosed, isKey, isProper, isClosed, first.proper, first.closed,
          proper, closed]
  refine ⟨?_, parts.2⟩
  rw [isProper, parts.1, decide_eq_true pairwise]
  rfl

end Value

open Value

/-! ## Shapes of closed values -/

namespace Schema.Shape

def AdmitsClosed (shape : Shape) : Prop := ∀ value, shape.Admits value → value.isClosed = true

theorem isClosed_of_textOf? {value : Value} {text : Option (List Char)}
    (found : textOf? value = some text) : value.isClosed = true := by
  cases value with
  | str text => rfl
  | bytes data => rfl
  | _ => cases found

theorem text_admitsClosed : AdmitsClosed .text := by
  intro value admitted
  obtain ⟨text, rfl⟩ | ⟨data, rfl⟩ := admitted.text <;> rfl

theorem duration_admitsClosed : AdmitsClosed .duration := by
  intro value admitted
  obtain ⟨text, found, _⟩ := admitted.duration
  exact isClosed_of_textOf? found

theorem word_admitsClosed (words : List String) : AdmitsClosed (.word words) := by
  intro value admitted
  obtain ⟨word, _, rfl⟩ := admitted.word
  rfl

theorem url_admitsClosed : AdmitsClosed .url := by
  intro value admitted
  have silent := reasoned_eq_none admitted
  unfold urlReason at silent
  split at silent
  · rename_i found
    exact isClosed_of_textOf? found
  · cases silent

/-- A floating-point number that stands for an integer is finite. -/
theorem isFinite_of_wholeFloat? {number : Binary64} {whole : Int}
    (found : wholeFloat? number = some whole) : number.isFinite = true := by
  cases number with
  | finite => rfl
  | infinite => cases found
  | nan => cases found

theorem truth_admitsClosed : AdmitsClosed .truth := by
  intro value admitted
  obtain ⟨truth, found⟩ := admits_truth.1 admitted
  cases value with
  | float number =>
      obtain ⟨whole, isWhole, _⟩ := Option.bind_eq_some_iff.1 found
      exact isFinite_of_wholeFloat? isWhole
  | bool | int | str | bytes | null => rfl
  | _ => cases found

theorem whole_admitsClosed : AdmitsClosed .whole := by
  intro value admitted
  obtain ⟨whole, found⟩ := admits_whole.1 admitted
  cases value with
  | float number => exact isFinite_of_wholeFloat? found
  | bool | int | str | bytes | null => rfl
  | _ => cases found

theorem Admits.optional_cases {shape : Shape} {value : Value}
    (admitted : (Shape.optional shape).Admits value) : value = .null ∨ shape.Admits value := by
  unfold Admits check at admitted
  split at admitted
  · rename_i null
    exact .inl (eq_null_of_isNull null)
  · exact .inr admitted

theorem AdmitsClosed.optional {shape : Shape} (closed : shape.AdmitsClosed) :
    (Shape.optional shape).AdmitsClosed := by
  intro value admitted
  rcases admitted.optional_cases with rfl | admitted
  · rfl
  · exact closed value admitted

/-- A number is closed unless it is infinite or no number at all. -/
theorem Admits.number_cases {value : Value} (admitted : Shape.number.Admits value) :
    value.isClosed = true ∨ ∃ number, value = .float number ∧ number.isFinite = false := by
  cases admitted.number with
  | float number =>
      cases finite : number.isFinite with
      | true => exact .inl finite
      | false => exact .inr ⟨number, rfl, finite⟩
  | _ => exact .inl rfl

variable {payload : Value} {title name : String} {fields : List (String × Bool × Shape)}
  {rule : Rule} {isRequired : Bool} {shape : Shape}

theorem Admits.field (admitted : (Shape.record title fields rule).Admits payload)
    (member : (name, isRequired, shape) ∈ fields) : Returns shape.Admits (payload.field name) := by
  obtain ⟨entries, rfl, conforms, _⟩ := admitted.record
  unfold Value.field
  dsimp only
  split
  · rename_i found
    exact .ok (conforms.present member found)
  · exact .error _

/-- A field whose shape admits closed values only. -/
theorem Admits.field_literal (admitted : (Shape.record title fields rule).Admits payload)
    (proper : payload.isProper = true) (member : (name, isRequired, shape) ∈ fields)
    (closed : shape.AdmitsClosed) : Returns IsLiteral (payload.field name) := by
  intro item found
  exact ⟨field_proper proper name item found, closed item (admitted.field member item found)⟩

theorem Admits.optionOr_literal (admitted : (Shape.record title fields rule).Admits payload)
    (proper : payload.isProper = true) (member : (name, isRequired, shape) ∈ fields)
    (closed : shape.AdmitsClosed) {other : Value} (otherwise : IsLiteral other) :
    Returns IsLiteral (payload.optionOr name other) := by
  obtain ⟨entries, rfl, conforms, _⟩ := admitted.record
  refine .ok ?_
  cases found : Entries.get? entries name with
  | none => exact otherwise
  | some item =>
      exact ⟨isProper_of_get? proper found, closed item (conforms.present member found)⟩

end Schema.Shape

/-! ## Values of templates -/

namespace Template

variable {template : Template}

def Holds (property : Value → Prop) (template : Template) : Prop :=
  ∀ value ∈ template.values, property value

theorem values_cons (pieces : List Piece) (template : Template) :
    values (pieces :: template) = pieces.filterMap value? ++ values template := by
  simp [values]

theorem values_ofBlock (block : Block) : values (ofBlock block) = [] := by
  induction block with
  | nil => rfl
  | cons line block ih => simpa [ofBlock, values_cons, value?] using ih

theorem filterMap_code (text : String) (pieces : List Piece) :
    (.code text :: pieces).filterMap value? = pieces.filterMap value? := rfl

theorem filterMap_literal (value : Value) (pieces : List Piece) :
    (.literal value :: pieces).filterMap value? = value :: pieces.filterMap value? := rfl

theorem filterMap_separated (parts : List (List Piece)) :
    (separated parts).filterMap value? = parts.flatten.filterMap value? := by
  fun_induction separated parts with
  | case1 => rfl
  | case2 part => rw [List.flatten_singleton]
  | case3 part parts _ ih =>
      rw [List.flatten_cons, List.filterMap_append, List.filterMap_append, filterMap_code, ih]

theorem filterMap_call (start : String) (values : List Value) (finish : String) :
    (call start values finish).filterMap value? = values := by
  have each : (values.map fun value => [Piece.literal value]).flatten.filterMap value? = values := by
    induction values with
    | nil => rfl
    | cons value values ih =>
        rw [List.map_cons, List.flatten_cons, List.singleton_append, filterMap_literal, ih]
  rw [call, List.cons_append, filterMap_code, List.filterMap_append, literals, filterMap_separated,
    each]
  exact List.append_nil values

/-- Null arguments are not written. -/
theorem filterMap_arguments (options : List (String × Value)) :
    (arguments options).filterMap value? =
      (options.filter fun option => !option.2.isNull).map (·.2) := by
  rw [arguments, filterMap_separated]
  induction options.filter fun option => !option.2.isNull with
  | nil => rfl
  | cons option options ih =>
      rw [List.map_cons, List.flatten_cons, List.cons_append, List.singleton_append, filterMap_code,
        filterMap_literal, ih, List.map_cons]

/-- The literals of a template that can be written can be written. -/
theorem exists_literalText {block : Block} (written : template.write = .ok block) :
    template.Holds fun value => ∃ text, value.literalText = .ok text := by
  have line : ∀ (pieces : List Piece) (text : String), writeAll pieces = .ok text →
      ∀ value ∈ pieces.filterMap value?, ∃ text, value.literalText = .ok text := by
    intro pieces
    induction pieces with
    | nil => exact fun _ _ => List.forall_mem_nil _
    | cons piece pieces ih =>
        intro text done
        rw [writeAll] at done
        obtain ⟨first, here, done⟩ := bind_eq_ok done
        obtain ⟨others, further, _⟩ := bind_eq_ok done
        cases piece with
        | code => exact ih others further
        | literal value => exact List.forall_mem_cons.2 ⟨⟨first, here⟩, ih others further⟩
  rw [write] at written
  induction template generalizing block with
  | nil => exact List.forall_mem_nil _
  | cons pieces template ih =>
      rw [List.mapM_cons] at written
      obtain ⟨text, first, written⟩ := bind_eq_ok written
      obtain ⟨rest, further, _⟩ := bind_eq_ok written
      rw [Holds, values_cons]
      exact List.forall_mem_append.2 ⟨line pieces text first, ih further⟩

variable {property : Value → Prop}

theorem holds_ofBlock (block : Block) : Holds property (ofBlock block) := by
  rw [Holds, values_ofBlock]
  exact List.forall_mem_nil _

theorem holds_nil : Holds property [] := List.forall_mem_nil _

/-- A line of a template. -/
theorem holds_cons {pieces : List Piece}
    (here : ∀ value ∈ pieces.filterMap value?, property value) (rest : Holds property template) :
    Holds property (pieces :: template) := by
  rw [Holds, values_cons]
  exact List.forall_mem_append.2 ⟨here, rest⟩

/-- A line that calls a function. -/
theorem holds_call {values : List Value} (start finish : String)
    (here : ∀ value ∈ values, property value) (rest : Holds property template) :
    Holds property (call start values finish :: template) :=
  holds_cons (by rwa [filterMap_call]) rest

/-- A line that calls a function with named arguments. -/
theorem holds_arguments {options : List (String × Value)}
    (start finish : String) (here : ∀ option ∈ options, property option.2)
    (rest : Holds property template) :
    Holds property ((.code start :: arguments options ++ [.code finish]) :: template) := by
  refine holds_cons ?_ rest
  rw [List.cons_append, filterMap_code, List.filterMap_append, filterMap_arguments]
  refine List.forall_mem_append.2 ⟨?_, List.forall_mem_nil _⟩
  intro value member
  obtain ⟨option, kept, rfl⟩ := List.mem_map.1 member
  exact here option (List.mem_of_mem_filter kept)

/-- A line without literals. -/
theorem holds_code (line : String) (rest : Holds property template) :
    Holds property ([.code line] :: template) := holds_cons (List.forall_mem_nil _) rest

end Template

/-! ## Commands that write closed values only -/

/-- The template of a command, if it is found, holds proper and closed values only. -/
abbrev Clean (template : Except Fault Template) : Prop := Returns (Holds IsLiteral) template

section Literals

variable {first second third : Value}

theorem isLiteral_pair (left : IsLiteral first) (right : IsLiteral second) :
    ∀ value ∈ [first, second], IsLiteral value :=
  List.forall_mem_cons.2 ⟨left, List.forall_mem_singleton.2 right⟩

theorem isLiteral_triple (left : IsLiteral first) (middle : IsLiteral second)
    (right : IsLiteral third) : ∀ value ∈ [first, second, third], IsLiteral value :=
  List.forall_mem_cons.2 ⟨left, isLiteral_pair middle right⟩

theorem isLiteral_option (name : String) (literal : IsLiteral first) :
    IsLiteral (.map [(.str name, first)]) :=
  isLiteral_options [(name, first)] (List.nodup_singleton name) (List.forall_mem_singleton.2 literal)

end Literals

/-- A line with one literal. -/
theorem clean_call {read : Except Fault Value} (literal : Returns IsLiteral read)
    (start finish : String) : Clean (read >>= fun value => pure [call start [value] finish]) :=
  literal.bind fun _ literal =>
    .pure (holds_call _ _ (List.forall_mem_singleton.2 literal) holds_nil)

theorem keyDelay_literal (payload : Value) : Returns IsLiteral (PageCalls.keyDelay payload) := by
  intro delay read
  obtain ⟨count, rfl⟩ | ⟨truth, rfl⟩ := PageCalls.keyDelay_cases read
  · exact isLiteral_int count
  · exact isLiteral_bool truth

section Commands

variable {payload : Value} (proper : payload.isProper = true)
include proper

theorem emulate_clean (admitted : (Schema.payload .emulate).Admits payload) (backend : Backend) :
    Clean (backend.template .emulate payload) := by
  have device : Returns IsLiteral (payload.field "device") :=
    admitted.field_literal proper List.mem_cons_self Shape.text_admitsClosed
  cases backend with
  | playwright =>
      refine device.bind fun device literal => .pure ?_
      have single : ∀ value ∈ [device], IsLiteral value := List.forall_mem_singleton.2 literal
      exact holds_call _ _ single (holds_code _ (holds_call _ _ single (holds_code _
        (holds_code _ holds_nil))))
  | _ => exact .ok (holds_ofBlock _)

theorem goto_clean (admitted : (Schema.payload .goto).Admits payload) (backend : Backend) :
    Clean (backend.template .goto payload) := by
  have url : Returns IsLiteral (payload.field "url") :=
    admitted.field_literal proper List.mem_cons_self Shape.url_admitsClosed
  have event : Returns IsLiteral (payload.optionOr "waitUntil" (.str "load")) :=
    admitted.optionOr_literal proper mem_second
      (Shape.word_admitsClosed _) (isLiteral_str "load")
  cases backend with
  | puppeteer =>
      refine event.bind fun event literalEvent => url.bind fun url literal => .pure ?_
      exact holds_call _ _ (isLiteral_pair literal (isLiteral_option _ literalEvent)) holds_nil
  | playwright =>
      refine event.bind fun _ _ => .after fun event => url.bind fun url literal => .pure ?_
      exact holds_cons (isLiteral_pair literal (isLiteral_str event)) holds_nil
  | selenium => exact clean_call url _ _

/-- The one entry of waiting for an element, focussing it and moving the pointer to it. -/
theorem selector_literal (admitted : Schema.selector.Admits payload) :
    Returns IsLiteral (payload.field "selector") :=
  admitted.field_literal proper List.mem_cons_self Shape.text_admitsClosed

theorem screenshot_clean (admitted : (Schema.payload .screenshot).Admits payload)
    (backend : Backend) : Clean (backend.template .screenshot payload) := by
  have path : Returns IsLiteral (payload.field "path") :=
    admitted.field_literal proper List.mem_cons_self Shape.text_admitsClosed
  have whole : Returns IsLiteral (payload.option "fullPage") :=
    admitted.optionOr_literal proper mem_second
      Shape.truth_admitsClosed.optional isLiteral_null
  cases backend with
  | puppeteer =>
      refine path.bind fun path literal => whole.bind fun whole literalWhole => .pure ?_
      have options : IsLiteral (.map ((.str "path", path) :: Puppeteer.renamed "fullPage" whole)) := by
        unfold Puppeteer.renamed
        split
        · exact isLiteral_option "path" literal
        · refine isLiteral_options [("path", path), ("fullPage", whole)] (by simp) ?_
          exact List.forall_mem_cons.2 ⟨literal, List.forall_mem_singleton.2 literalWhole⟩
      exact holds_call _ _ (List.forall_mem_singleton.2 options) holds_nil
  | playwright =>
      refine path.bind fun path literal => whole.bind fun whole literalWhole => .pure ?_
      exact holds_arguments _ _
        (List.forall_mem_cons.2 ⟨literal, List.forall_mem_singleton.2 literalWhole⟩) holds_nil
  | selenium => exact clean_call path _ _

theorem type_clean (admitted : (Schema.payload .type).Admits payload) (backend : Backend) :
    Clean (backend.template .type payload) := by
  have selector : Returns IsLiteral (payload.field "selector") :=
    admitted.field_literal proper List.mem_cons_self Shape.text_admitsClosed
  have text : Returns IsLiteral (payload.field "text") :=
    admitted.field_literal proper mem_second
      Shape.text_admitsClosed
  have delay := keyDelay_literal payload
  cases backend with
  | puppeteer =>
      refine delay.bind fun delay literalDelay => selector.bind fun selector literal =>
        text.bind fun text literalText => .pure ?_
      exact holds_call _ _ (isLiteral_triple literal literalText (isLiteral_option _ literalDelay))
        holds_nil
  | playwright =>
      refine selector.bind fun selector literal => delay.bind fun delay literalDelay =>
        text.bind fun text literalText => .pure ?_
      exact holds_call _ _ (List.forall_mem_singleton.2 literal)
        (holds_cons (isLiteral_triple literal literalText literalDelay) holds_nil)
  | selenium =>
      refine selector.bind fun selector literal => text.bind fun text literalText => .pure ?_
      exact holds_call _ _ (List.forall_mem_singleton.2 literal)
        (holds_cons (isLiteral_pair literal literalText) holds_nil)

theorem press_clean (admitted : (Schema.payload .press).Admits payload) (backend : Backend) :
    Clean (backend.template .press payload) := by
  have key : Returns IsLiteral (payload.field "key") :=
    admitted.field_literal proper List.mem_cons_self Shape.text_admitsClosed
  cases backend with
  | selenium =>
      refine key.bind fun key _ => ?_
      cases key with
      | str key =>
          exact .pure (holds_call _ _ (isLiteral_pair (isLiteral_str _) (isLiteral_str key)) holds_nil)
      | _ => exact .pure holds_nil
  | _ => exact clean_call key _ _

theorem baselineScan_clean (admitted : (Schema.payload .baselineScan).Admits payload)
    (backend : Backend) : Clean (backend.template .baselineScan payload) := by
  have year : Returns IsLiteral (payload.option "year") :=
    admitted.optionOr_literal proper mem_second
      Shape.whole_admitsClosed isLiteral_null
  have delay : Returns IsLiteral (payload.option "delay") :=
    admitted.optionOr_literal proper
      mem_third
      Shape.duration_admitsClosed.optional isLiteral_null
  have strictness : Returns IsLiteral (payload.option "strictness") :=
    admitted.optionOr_literal proper
      (List.mem_cons_of_mem _ mem_third)
      Shape.text_admitsClosed.optional isLiteral_null
  have options : Returns IsLiteral (ScanOptions.ofPayload payload) := by
    refine .after fun given => .after fun listed => .after fun availability => ?_
    refine year.bind fun year literalYear => strictness.bind fun strictness literalStrictness =>
      delay.bind fun delay literalDelay => .pure ?_
    refine isLiteral_options
      [("includeAvailability",
          .list ((availability.filter fun text => text == "low" || text == "high").map .str)),
       ("baselineYearThreshold", year),
       ("includeNotBaseline", .bool (availability.contains "false")),
       ("strictness", strictness.orElse (.str "relaxed")),
       ("delay", delay)] (by simp) ?_
    have statuses : IsLiteral
        (.list ((availability.filter fun text => text == "low" || text == "high").map .str)) := by
      refine isLiteral_list fun item member => ?_
      obtain ⟨text, _, rfl⟩ := List.mem_map.1 member
      exact isLiteral_str text
    simp only [List.forall_mem_cons]
    exact ⟨statuses, literalYear, isLiteral_bool _,
      isLiteral_orElse literalStrictness (isLiteral_str _), literalDelay, List.forall_mem_nil _⟩
  exact options.bind fun options literal =>
    .pure (holds_call _ _ (isLiteral_pair literal (isLiteral_str _)) holds_nil)

end Commands

/-! ## Commands that write other values -/

/-- The values that the block of a command may write without their being closed. -/
inductive Exposed (backend : Backend) (payload : Value) : CommandName → Value → Prop where
  /-- An assertion writes its whole payload. -/
  | assertion : Exposed backend payload .assert payload
  /-- A click at a point writes its coordinates, unless it truncates them. -/
  | coordinate {point : Value} {axis : String} {number : Binary64} (page : backend ≠ .selenium)
      (found : payload.field "coords" = .ok point) (entry : point.field axis = .ok (.float number))
      (unbounded : number.isFinite = false) : Exposed backend payload .click (.float number)
  /-- Scrolling to a point writes the whole point. -/
  | destination {target point : Value} (page : backend ≠ .selenium)
      (found : payload.option "to" = .ok target) (entry : target.field "coords" = .ok point) :
      Exposed backend payload .scroll point
  /-- Scrolling by a distance writes the whole distance. -/
  | distance {offset : Value} (page : backend ≠ .selenium)
      (found : payload.field "by" = .ok offset) : Exposed backend payload .scroll offset
  /-- Scrolling by a script writes the numbers of the point or distance. -/
  | number {number : Binary64} (isSelenium : backend = .selenium)
      (unbounded : number.isFinite = false) : Exposed backend payload .scroll (.float number)

/-- A proper value that is closed or one of those that a command may write anyway. -/
def Permitted (backend : Backend) (name : CommandName) (payload value : Value) : Prop :=
  value.isProper = true ∧ (value.isClosed = true ∨ Exposed backend payload name value)

section Permitted

variable {backend : Backend} {name : CommandName} {payload : Value}

theorem permitted_of_isLiteral {value : Value} (literal : IsLiteral value) :
    Permitted backend name payload value :=
  ⟨literal.proper, .inl literal.closed⟩

theorem permitted_of_clean {template : Except Fault Template} (clean : Clean template) :
    Returns (Holds (Permitted backend name payload)) template :=
  fun found same value member => permitted_of_isLiteral (clean found same value member)

theorem permitted_pair {first second : Value} (left : Permitted backend name payload first)
    (right : Permitted backend name payload second) :
    ∀ value ∈ [first, second], Permitted backend name payload value :=
  List.forall_mem_cons.2 ⟨left, List.forall_mem_singleton.2 right⟩

/-- An entry for a number, of which all are permitted that are not finite. -/
theorem permitted_number {record : Value} (proper : record.isProper = true) {title field : String}
    {fields : List (String × Bool × Shape)} {isRequired : Bool}
    (admitted : (Shape.record title fields .anyFields).Admits record)
    (member : (field, isRequired, .number) ∈ fields)
    (exposed : ∀ number, record.field field = .ok (.float number) → number.isFinite = false →
      Exposed backend payload name (.float number)) :
    Returns (Permitted backend name payload) (record.field field) := by
  intro item found
  refine ⟨field_proper proper field item found, ?_⟩
  rcases (admitted.field member item found).number_cases with closed | ⟨number, rfl, unbounded⟩
  · exact .inl closed
  · exact .inr (exposed number found unbounded)

end Permitted

/-- A point that an accepted target has is a record of two numbers. -/
theorem admits_coords {title : String} {target point : Value}
    (admitted : (Schema.target title).Admits target) (found : target.field "coords" = .ok point) :
    point = .null ∨ coords.Admits point :=
  (admitted.field mem_second point found).optional_cases

section Commands

variable {payload : Value} (proper : payload.isProper = true)
include proper

theorem click_permitted (admitted : (Schema.payload .click).Admits payload) (backend : Backend) :
    Returns (Holds (Permitted backend .click payload)) (backend.template .click payload) := by
  have selector : Returns IsLiteral (payload.field "selector") :=
    admitted.field_literal proper List.mem_cons_self Shape.text_admitsClosed.optional
  have axes {point : Value} (found : payload.field "coords" = .ok point)
      (page : backend ≠ .selenium) {axis : String} (member : required axis .number ∈
        [required "x" .number, required "y" .number]) :
      Returns (Permitted backend .click payload) (point.field axis) := by
    -- A null point has no entries, so the block is not written then.
    rcases admits_coords admitted found with rfl | shaped
    · exact .error _
    · exact permitted_number (field_proper proper "coords" point found) shaped member
        fun number entry unbounded => .coordinate page found entry unbounded
  have page (other : backend ≠ .selenium) : Returns (Holds (Permitted backend .click payload))
      (PageCalls.clickTemplate payload) := by
    refine .after fun selected => ?_
    split
    · intro template made
      obtain ⟨point, found, made⟩ := bind_eq_ok made
      have x := axes found other List.mem_cons_self
      have y := axes found other mem_second
      exact (x.bind fun x permittedX => y.bind fun y permittedY =>
        .pure (holds_call _ _ (permitted_pair permittedX permittedY) holds_nil)) template made
    · exact permitted_of_clean (clean_call selector _ _)
  cases backend with
  | selenium =>
      refine permitted_of_clean (.after fun selected => ?_)
      split
      · refine .after fun point => .after fun x => .after fun across => .after fun y =>
          .after fun down => .pure (holds_code _ ?_)
        exact holds_call _ _ (isLiteral_pair (isLiteral_int across) (isLiteral_int down))
          (holds_code _ (holds_code _ holds_nil))
      · exact clean_call selector _ _
  | _ => exact page (by decide)

/-- A target to scroll to, if there is one. -/
theorem scroll_target (admitted : (Schema.payload .scroll).Admits payload) {destination : Value}
    (found : payload.option "to" = .ok destination) (given : destination.isNull = false) :
    destination.isProper = true ∧ (target "ScrollTarget").Admits destination := by
  obtain ⟨entries, rfl, conforms, _⟩ := admitted.record
  cases found
  obtain ⟨item, present, shaped⟩ := conforms.given List.mem_cons_self given
  rw [present]
  exact ⟨isProper_of_get? proper present, shaped⟩

theorem pageScroll_permitted (admitted : (Schema.payload .scroll).Admits payload)
    {backend : Backend} (page : backend ≠ .selenium) :
    Returns (Holds (Permitted backend .scroll payload)) (PageCalls.scrollTemplate payload) := by
  have evaluates (function : String) {argument : Value}
      (permitted : Permitted backend .scroll payload argument) :
      Holds (Permitted backend .scroll payload) (PageCalls.evaluateTemplate function argument) :=
    holds_call _ _ (permitted_pair (permitted_of_isLiteral (isLiteral_str _)) permitted) holds_nil
  intro template made
  obtain ⟨destination, found, made⟩ := bind_eq_ok made
  split at made
  · obtain ⟨offset, entry, made⟩ := bind_eq_ok made
    cases made
    exact evaluates _ ⟨field_proper proper "by" offset entry, .inr (.distance page entry)⟩
  · rename_i given
    obtain ⟨properTarget, shaped⟩ := scroll_target proper admitted found (by simpa using given)
    obtain ⟨selected, _, made⟩ := bind_eq_ok made
    split at made
    · obtain ⟨point, entry, made⟩ := bind_eq_ok made
      cases made
      exact evaluates _ ⟨field_proper properTarget "coords" point entry,
        .inr (.destination page found entry)⟩
    · obtain ⟨selector, entry, made⟩ := bind_eq_ok made
      cases made
      exact evaluates _ (permitted_of_isLiteral (shaped.field_literal properTarget
        List.mem_cons_self Shape.text_admitsClosed.optional selector entry))

omit proper in
/-- A page script that is called with two numbers of a record. -/
theorem execute_permitted {record : Value} (properRecord : record.isProper = true)
    {title first second : String}
    (admitted : (Shape.record title [required first .number, required second .number]
      .anyFields).Admits record) (script : String) :
    Returns (Holds (Permitted .selenium .scroll payload)) (do
      let left ← record.field first
      let right ← record.field second
      return Selenium.executeTemplate script [left, right]) := by
  have number {field : String} (member : required field .number ∈
      [required first .number, required second .number]) :
      Returns (Permitted .selenium .scroll payload) (record.field field) :=
    permitted_number properRecord admitted member fun _ _ unbounded => .number rfl unbounded
  refine (number List.mem_cons_self).bind fun left permittedLeft => ?_
  refine (number mem_second).bind fun right permittedRight => ?_
  exact .pure (holds_call _ _ (List.forall_mem_cons.2
    ⟨permitted_of_isLiteral (isLiteral_str script), permitted_pair permittedLeft permittedRight⟩)
    holds_nil)

theorem seleniumScroll_permitted (admitted : (Schema.payload .scroll).Admits payload) :
    Returns (Holds (Permitted .selenium .scroll payload)) (Selenium.scrollTemplate payload) := by
  intro template made
  obtain ⟨destination, found, made⟩ := bind_eq_ok made
  split at made
  · obtain ⟨offset, entry, made⟩ := bind_eq_ok made
    have shaped := admitted.field mem_second offset entry
    -- As for clicks, no script is called with the entries of null.
    rcases shaped.optional_cases with rfl | shaped
    · cases made
    · exact execute_permitted (field_proper proper "by" offset entry) shaped _ template made
  · rename_i given
    obtain ⟨properTarget, shaped⟩ := scroll_target proper admitted found (by simpa using given)
    obtain ⟨selected, _, made⟩ := bind_eq_ok made
    split at made
    · obtain ⟨point, entry, made⟩ := bind_eq_ok made
      rcases admits_coords shaped entry with rfl | shapedPoint
      · cases made
      · exact execute_permitted (field_proper properTarget "coords" point entry) shapedPoint _
          template made
    · obtain ⟨selector, entry, made⟩ := bind_eq_ok made
      cases made
      have literal := shaped.field_literal properTarget List.mem_cons_self
        Shape.text_admitsClosed.optional selector entry
      exact holds_call _ _ (permitted_pair (permitted_of_isLiteral (isLiteral_str _))
        (permitted_of_isLiteral literal)) holds_nil

/-- The literals of a block are permitted, whatever the command and the backend are. -/
theorem template_permitted {name : CommandName} (isStep : name.isStep = true)
    (admitted : (Schema.payload name).Admits payload) (backend : Backend) :
    Returns (Holds (Permitted backend name payload)) (backend.template name payload) := by
  cases name with
  | newPage =>
      unfold Backend.template
      dsimp only
      split <;> exact .ok (holds_ofBlock _)
  | close => exact .ok (holds_ofBlock _)
  | emulate => exact permitted_of_clean (emulate_clean proper admitted backend)
  | goto => exact permitted_of_clean (goto_clean proper admitted backend)
  | wait =>
      have timeout : Returns IsLiteral (payload.field "timeout") :=
        admitted.field_literal proper List.mem_cons_self Shape.duration_admitsClosed
      exact permitted_of_clean (clean_call timeout _ _)
  | waitForSelector =>
      have clean := clean_call (selector_literal proper admitted)
      cases backend <;> exact permitted_of_clean (clean _ _)
  | screenshot => exact permitted_of_clean (screenshot_clean proper admitted backend)
  | type => exact permitted_of_clean (type_clean proper admitted backend)
  | press => exact permitted_of_clean (press_clean proper admitted backend)
  | focus =>
      have clean := clean_call (selector_literal proper admitted)
      cases backend <;> exact permitted_of_clean (clean _ _)
  | hover =>
      have clean := clean_call (selector_literal proper admitted)
      cases backend <;> exact permitted_of_clean (clean _ _)
  | baselineScan => exact permitted_of_clean (baselineScan_clean proper admitted backend)
  | click => exact click_permitted proper admitted backend
  | scroll =>
      cases backend with
      | selenium => exact seleniumScroll_permitted proper admitted
      | _ => exact pageScroll_permitted proper admitted (by decide)
  | assert =>
      exact .ok (holds_call _ _ (List.forall_mem_singleton.2 ⟨proper, .inr .assertion⟩) holds_nil)
  | _ => cases isStep

end Commands

/-- An accepted step is one command with its payload. -/
theorem exists_stepOf {index : Nat} {step : Value} (accepted : checkStep index step = .ok ()) :
    ∃ name payload, step = stepOf name payload ∧ name.isStep = true ∧
      (Schema.payload name).Admits payload := by
  have shape : ∃ key payload, step = .map [(key, payload)] := by
    unfold checkStep at accepted
    dsimp only at accepted
    split at accepted
    · exact ⟨_, _, rfl⟩
    · cases accepted
  obtain ⟨key, payload, rfl⟩ := shape
  obtain ⟨command, made, name, named, isStep, admitted⟩ := checkStep_ok accepted
  cases made
  have key : key = .str name.tag := named
  exact ⟨name, payload, by rw [key]; rfl, isStep, admitted⟩

theorem stepOf_injective {name other : CommandName} {payload value : Value}
    (same : stepOf name payload = stepOf other value) : name = other ∧ payload = value := by
  have entries := Value.map.inj same
  have entry := (List.cons.inj entries).1
  have keys : Value.str name.tag = .str other.tag := congrArg Prod.fst entry
  have read := ofValue?_tag name
  rw [keys, ofValue?_tag] at read
  exact ⟨(Option.some.inj read).symm, congrArg Prod.snd entry⟩

/-- Every literal in the block of an accepted step mentions no names but those of constants exactly
if its value is closed, and evaluates to its value then. The values that are not closed are payloads
of assertions, points and distances of scrolling, and coordinates that are not finite. -/
theorem accepted_step_literals (index : Nat) (step : Value)
    (accepted : checkStep index step = .ok ()) (proper : step.isProper = true) :
    ∃ name payload, step = stepOf name payload ∧
      ∀ (backend : Backend) (block : Block), backend.dialect.block name payload = .ok block →
        ∃ template, backend.template name payload = .ok template ∧ template.write = .ok block ∧
          ∀ value ∈ template.values, ∃ text, value.literalText = .ok text ∧
            (Expression.isClosed text.toList = true ↔ value.isClosed = true) ∧
            (value.isClosed = true → Expression.read? text.toList = some value) ∧
            (value.isClosed = true ∨ Exposed backend payload name value) := by
  obtain ⟨name, payload, rfl, isStep, admitted⟩ := exists_stepOf accepted
  have properPayload : payload.isProper = true := by
    simp only [stepOf, isProper, entriesProper, Bool.and_eq_true] at proper
    exact proper.1.1.2
  refine ⟨name, payload, rfl, fun backend block made => ?_⟩
  have other : name ≠ .framework := by
    rintro rfl
    cases isStep
  obtain ⟨template, found, fits⟩ := backend.block_makes other payload block made
  refine ⟨template, found, fits.written, fun value member => ?_⟩
  obtain ⟨properValue, permitted⟩ :=
    template_permitted properPayload isStep admitted backend template found value member
  obtain ⟨text, written⟩ := exists_literalText fits.written value member
  obtain ⟨source, literal, same⟩ := bind_eq_ok written
  cases same
  have spelled := literal_spelled value source literal
  refine ⟨_, written, ?_, fun closed => ?_, permitted⟩
  · rw [String.toList_ofList, spelled.closed]
  · rw [String.toList_ofList]
    exact Expression.read?_of_reads (Expression.reads_literal value closed properValue literal)

def markedAssertion : Value :=
  .map [(.str "selector", .str "#total"), (.str "exists", .bool true),
    (.str "marks", .set [.float oneAndHalf, .tuple [.int (-3), .bytes [0x27, 0xff]]])]

/-- What an assertion does not read is written all the same, and evaluates to what it was. -/
theorem markedAssertion_reads_back :
    checkStep 0 (stepOf .assert markedAssertion) = .ok () ∧
      (stepOf .assert markedAssertion).isProper = true ∧
      ∃ text, markedAssertion.literalText = .ok text ∧
        Expression.isClosed text.toList = true ∧
        Expression.read? text.toList = some markedAssertion := by
  have accepted : checkStep 0 (stepOf .assert markedAssertion) = .ok () := by
    refine checkStep_of_admits rfl ?_
    simp [Shape.Admits, markedAssertion, Schema.payload, assertion, Shape.check, Shape.checkFields,
      Entries.get?_cons, get?_nil, required, nullable, reasoned, Rule.check, isGiven, textReason,
      textOf?, truthReason, Value.isNull, bind, Except.bind]
  have canonical : oneAndHalf.isCanonical = true := by decide
  have proper : (stepOf .assert markedAssertion).isProper = true := by
    simp [stepOf, markedAssertion, isProper, entriesProper, areProper, isKey, areKeys, canonical,
      Value.equals, Value.equalsAtom, Value.wholeNumber?]
  have writable : markedAssertion.isWritable = true := by
    have short : isShort (-3) = true := by decide
    simp [markedAssertion, isWritable, areWritable, entriesWritable, short]
  have closed : markedAssertion.isClosed = true := by
    simp [markedAssertion, isClosed, areClosed, entriesClosed, oneAndHalf, Binary64.isFinite]
  refine ⟨accepted, proper, ?_⟩
  obtain ⟨name, payload, same, each⟩ :=
    accepted_step_literals 0 (stepOf .assert markedAssertion) accepted proper
  obtain ⟨rfl, rfl⟩ := stepOf_injective same
  obtain ⟨literal, written⟩ := (literalText_writtenWhen markedAssertion).ok writable
  have made : Backend.puppeteer.dialect.block .assert markedAssertion =
      .ok [Backend.puppeteer.dialect.assertionCall ++ "(" ++ Backend.puppeteer.dialect.target ++ ", "
        ++ literal ++ ")"] := by
    rw [Dialect.block, Dialect.assert, written]
    rfl
  obtain ⟨template, found, _, literals⟩ := each .puppeteer _ made
  cases found
  have member : markedAssertion ∈
      Template.values (Backend.puppeteer.dialect.assertTemplate markedAssertion) := by
    rw [Dialect.assertTemplate, values_cons, filterMap_call]
    exact List.mem_cons_self
  obtain ⟨text, done, iff, read, _⟩ := literals markedAssertion member
  exact ⟨text, done, iff.2 closed, read closed⟩

def infinity : Value := .float (.infinite false)

/-- A click at an infinite coordinate is accepted, and its line mentions a name that is not
defined. The value has a closed literal. -/
theorem infinite_click_mentions_inf :
    checkStep 0 (stepOf .click (clickPayload infinity (.int 2))) = .ok () ∧
      (stepOf .click (clickPayload infinity (.int 2))).isProper = true ∧
      Backend.puppeteer.dialect.block .click (clickPayload infinity (.int 2)) =
        .ok ["await page.mouse.click(inf, 2)"] ∧
      infinity.literalText = .ok "inf" ∧
      Expression.names "inf".toList = ["inf".toList] ∧
      Expression.isClosed "inf".toList = false ∧ Expression.read? "inf".toList = none ∧
      Expression.isClosed "1e309".toList = true ∧
      Expression.read? "1e309".toList = some infinity := by
  have two : (Value.int 2).literalText = .ok "2" := rfl
  have large : Numeral.readDecimal? false "1e309".toList = some (.infinite false) := by
    decide +kernel
  have reads : Expression.Reads (Expression.tokens "1e309".toList) infinity :=
    Expression.reads_token (congrArg (Option.map Value.float) large)
  refine ⟨clickPayload_accepted rfl rfl, ?_, ?_, rfl, by decide, by decide, by decide, by decide,
    Expression.read?_of_reads reads⟩
  · simp [stepOf, clickPayload, pointAt, infinity, isProper, entriesProper, isKey,
      Binary64.isCanonical, Value.equals, Value.equalsAtom]
  · change PageCalls.click _ = _
    unfold PageCalls.click
    rw [clickPayload_unnamed, clickPayload_coords]
    simp only [bind, Except.bind, pointAt_x, pointAt_y, two]
    rfl

end BrowserScript
