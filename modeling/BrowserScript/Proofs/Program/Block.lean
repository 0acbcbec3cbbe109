import BrowserScript.Program.Compile
import BrowserScript.Proofs.Duration
import BrowserScript.Proofs.Schema.Payload

/-!
# Blocks of accepted payloads

A block reads its payload as it stands in the document. Where the payload is accepted, every entry
that the block reads is there and of a kind that the block can write, so that only numbers can
fail. Two blocks are exceptions: the selenium dialect has no constant for a key given by its bytes,
and the other two read the delay between keys, in which only the later tables may know a digit.
-/

namespace BrowserScript

open Schema

variable {payload : Value}

theorem arguments_onlyNumeric (options : Entries) : OnlyNumeric (Block.arguments options) := by
  unfold Block.arguments
  refine .bind (.mapM fun option _ => ?_) fun _ => .pure _
  exact .bind (display_onlyNumeric _) fun _ => .literal fun _ => .pure _

/-- An accepted number has an integer part, or it is infinite, not a number or no whole numeral. -/
theorem truncate_onlyNumeric {value : Value} (kind : IsNumberKind value) :
    OnlyNumeric value.truncate := by
  have ofDigits (shown : Value) (text : List Char) :
      OnlyNumeric (Value.truncate.ofDigits shown text) := by
    unfold Value.truncate.ofDigits
    split
    · exact .ok _
    · intro fault failed
      cases failed
      rfl
    · refine .literal fun literal => ?_
      intro fault failed
      cases failed
      rfl
  cases kind with
  | bool value => exact .ok _
  | int value => exact .ok _
  | float value =>
      cases value with
      | finite negative significand exponent => exact .ok _
      | _ => intro fault failed; cases failed; rfl
  | str text => exact ofDigits _ _
  | bytes data => exact ofDigits _ _

theorem option_onlyNumeric (entries : Entries) (name : String) :
    OnlyNumeric ((Value.map entries).option name) := by
  rw [Value.option_map]
  exact .ok _

theorem optionOr_onlyNumeric (entries : Entries) (name : String) (other : Value) :
    OnlyNumeric ((Value.map entries).optionOr name other) := by
  rw [Value.optionOr_map]
  exact .ok _

/-- A field that is there can be read, whatever is done with its item. -/
theorem Schema.HasField.onlyNumeric {α : Type} {name : String}
    {next : Value → Except Fault α} (present : HasField name payload)
    (rest : ∀ item, OnlyNumeric (next item)) : OnlyNumeric (payload.field name >>= next) := by
  obtain ⟨item, found⟩ := present
  exact .after found (rest item)

theorem not_isText_launch : ¬ (Value.str "connect").isText "launch" = true := by
  simp

/-! ## Calls on a page object -/

namespace PageCalls

theorem withField_onlyNumeric {call name : String}
    (present : HasField name payload) : OnlyNumeric (withField call name payload) :=
  present.onlyNumeric fun _ => .literal fun _ => .pure _

theorem click_onlyNumeric (present : HasTarget payload) : OnlyNumeric (click payload) := by
  obtain ⟨selector, read, rest⟩ := present
  unfold click
  refine .after read ?_
  cases null : selector.isNull with
  | false =>
      rw [null] at rest
      exact withField_onlyNumeric rest
  | true =>
      rw [null] at rest
      obtain ⟨point, found, x, y, ⟨foundX, _⟩, ⟨foundY, _⟩⟩ := rest
      refine .after found (.after foundX ?_)
      refine .literal fun _ => .after foundY ?_
      exact .literal fun _ => .pure _

theorem evaluate_onlyNumeric (function : String) (argument : Value) :
    OnlyNumeric (evaluate function argument) :=
  .literal fun _ =>
    .literal fun _ => .pure _

theorem scroll_onlyNumeric (admitted : (Schema.payload .scroll).Admits payload) :
    OnlyNumeric (scroll payload) := by
  obtain ⟨destination, read, rest⟩ := scroll_payload admitted
  unfold scroll
  refine .after read ?_
  cases null : destination.isNull with
  | true =>
      rw [null] at rest
      obtain ⟨distance, found, _⟩ := rest
      exact .after found (evaluate_onlyNumeric _ distance)
  | false =>
      rw [null] at rest
      obtain ⟨selector, readSelector, place⟩ := rest
      refine .after readSelector ?_
      cases nullSelector : selector.isNull with
      | true =>
          rw [nullSelector] at place
          obtain ⟨point, found, _⟩ := place
          exact .after found (evaluate_onlyNumeric _ point)
      | false =>
          rw [nullSelector] at place
          exact HasField.onlyNumeric place fun item => evaluate_onlyNumeric _ item

def HasUnreadDelay (payload : Value) : Prop :=
  ∃ delay, payload.field "delay" = .ok delay ∧ Duration.IsUnread delay

theorem keyDelay_onlyNumeric (admitted : (Schema.payload .type).Admits payload)
    (known : ¬ HasUnreadDelay payload) : OnlyNumeric (keyDelay payload) := by
  obtain ⟨entries, same, conforms, _⟩ := admitted.record
  subst same
  refine .after (Value.optionOr_map entries "delay" (.str "0ms")) ?_
  cases found : Entries.get? entries "delay" with
  | none => exact Duration.milliseconds_of_digits rfl rfl
  | some delay =>
      refine Duration.milliseconds_onlyNumeric (conforms.present
        mem_third found) ?_
      exact fun unread => known ⟨delay, Value.field_map found, unread⟩

theorem keyDelay_unread (unread : HasUnreadDelay payload) :
    ∃ shown, keyDelay payload = .error (.invalid (.duration shown)) := by
  obtain ⟨delay, given, unread⟩ := unread
  obtain ⟨shown, _, failed⟩ := Duration.milliseconds_unread unread
  refine ⟨shown, ?_⟩
  unfold Value.field at given
  split at given
  · rename_i entries
    cases found : Entries.get? entries "delay" with
    | none => rw [found] at given; cases given
    | some item =>
        rw [found] at given
        cases given
        unfold keyDelay
        rw [Value.optionOr_map, found]
        exact failed
  · cases given

end PageCalls

/-! ## The puppeteer dialect -/

namespace Puppeteer

theorem browser_onlyNumeric (admitted : browserChoice.Admits payload) :
    OnlyNumeric (browser payload) := by
  unfold browser
  rcases browser_payload admitted with ⟨mode, launch, read, _⟩ | ⟨mode, connect, found, address⟩
  · refine .after mode ?_
    rw [if_pos (Value.isText_iff.2 rfl)]
    refine .after read ?_
    rw [Value.orElse_map]
    refine .bind (optionOr_onlyNumeric launch "headless" _) fun _ => ?_
    refine .bind (option_onlyNumeric launch "executablePath") fun _ => ?_
    refine .bind (option_onlyNumeric launch "viewport") fun _ => ?_
    exact .literal fun _ => .pure _
  · refine .after mode ?_
    rw [if_neg not_isText_launch]
    refine .after found (address.onlyNumeric fun _ => ?_)
    exact .literal fun _ => .pure _

theorem goto_onlyNumeric (admitted : (Schema.payload .goto).Admits payload) :
    OnlyNumeric (goto payload) := by
  obtain ⟨address, found, _⟩ := admitted.required List.mem_cons_self
  obtain ⟨entries, same, _⟩ := admitted.record
  subst same
  refine .after (Value.optionOr_map entries "waitUntil" (.str "load")) (.after found ?_)
  refine .literal fun _ => ?_
  exact .literal fun _ => .pure _

theorem screenshot_onlyNumeric
    (admitted : (Schema.payload .screenshot).Admits payload) : OnlyNumeric (screenshot payload) := by
  obtain ⟨path, found, _⟩ := admitted.required List.mem_cons_self
  obtain ⟨entries, same, _⟩ := admitted.record
  subst same
  refine .after found (.after (Value.option_map entries "fullPage") ?_)
  exact .literal fun _ => .pure _

theorem type_onlyNumeric (admitted : (Schema.payload .type).Admits payload)
    (known : ¬ PageCalls.HasUnreadDelay payload) : OnlyNumeric (type payload) := by
  obtain ⟨selector, foundSelector, _⟩ := admitted.required List.mem_cons_self
  obtain ⟨text, foundText, _⟩ := admitted.required mem_second
  refine .bind (PageCalls.keyDelay_onlyNumeric admitted known) fun delay => ?_
  refine .after foundSelector (.literal fun _ => ?_)
  refine .after foundText (.literal fun _ => ?_)
  exact .literal fun _ => .pure _

theorem teardown_ok (present : HasField "operation" payload) :
    ∃ lines, teardown payload = .ok lines := by
  obtain ⟨operation, found⟩ := present
  unfold teardown
  rw [found]
  dsimp only [bind, Except.bind]
  split
  · exact ⟨_, rfl⟩
  · exact ⟨_, rfl⟩

end Puppeteer

/-! ## The playwright dialect -/

namespace Playwright

theorem browser_onlyNumeric (admitted : browserChoice.Admits payload) :
    OnlyNumeric (browser payload) := by
  unfold browser
  rcases browser_payload admitted with ⟨mode, launch, read, _⟩ | ⟨mode, connect, found, address⟩
  · refine .after mode ?_
    rw [if_pos (Value.isText_iff.2 rfl)]
    refine .after read ?_
    rw [Value.orElse_map]
    refine .bind (optionOr_onlyNumeric launch "headless" _) fun _ => ?_
    refine .bind (option_onlyNumeric launch "executablePath") fun _ => ?_
    refine .bind (arguments_onlyNumeric _) fun _ => ?_
    refine .bind (option_onlyNumeric launch "viewport") fun _ => ?_
    exact .bind (arguments_onlyNumeric _) fun _ => .pure _
  · refine .after mode ?_
    rw [if_neg not_isText_launch]
    refine .after found (address.onlyNumeric fun _ => ?_)
    exact .literal fun _ => .pure _

theorem emulate_onlyNumeric (admitted : (Schema.payload .emulate).Admits payload) :
    OnlyNumeric (emulate payload) := by
  obtain ⟨device, found, _⟩ := admitted.required List.mem_cons_self
  exact .after found (.literal fun _ => .pure _)

theorem loadEvent_onlyNumeric (event : String) : OnlyNumeric (loadEvent (.str event)) := by
  unfold loadEvent
  simp only [Value.isKey, Bool.not_true]
  split
  · rename_i impossible
    cases impossible
  · split
    · exact .ok _
    · split
      · exact .ok _
      · exact .ok _

theorem goto_onlyNumeric (admitted : (Schema.payload .goto).Admits payload) :
    OnlyNumeric (goto payload) := by
  obtain ⟨address, found, _⟩ := admitted.required List.mem_cons_self
  obtain ⟨entries, same, conforms, _⟩ := admitted.record
  subst same
  refine .after (Value.optionOr_map entries "waitUntil" (.str "load")) ?_
  have event : ∃ word, (Entries.get? entries "waitUntil").getD (.str "load") = .str word := by
    cases present : Entries.get? entries "waitUntil" with
    | none => exact ⟨"load", rfl⟩
    | some item =>
        obtain ⟨word, _, equal⟩ :=
          (conforms.present mem_second present).word
        exact ⟨word, equal⟩
  obtain ⟨word, equal⟩ := event
  rw [equal]
  refine .bind (loadEvent_onlyNumeric word) fun _ => .after found ?_
  refine .literal fun _ => ?_
  exact .literal fun _ => .pure _

theorem screenshot_onlyNumeric
    (admitted : (Schema.payload .screenshot).Admits payload) : OnlyNumeric (screenshot payload) := by
  obtain ⟨path, found, _⟩ := admitted.required List.mem_cons_self
  obtain ⟨entries, same, _⟩ := admitted.record
  subst same
  refine .after found (.after (Value.option_map entries "fullPage") ?_)
  exact .bind (arguments_onlyNumeric _) fun _ => .pure _

theorem type_onlyNumeric (admitted : (Schema.payload .type).Admits payload)
    (known : ¬ PageCalls.HasUnreadDelay payload) : OnlyNumeric (type payload) := by
  obtain ⟨selector, foundSelector, _⟩ := admitted.required List.mem_cons_self
  obtain ⟨text, foundText, _⟩ := admitted.required mem_second
  refine .after foundSelector (.literal fun _ => ?_)
  refine .bind (PageCalls.keyDelay_onlyNumeric admitted known) fun delay => ?_
  refine .after foundText (.literal fun _ => ?_)
  exact .bind (display_onlyNumeric _) fun _ => .pure _

theorem teardown_ok (present : HasField "operation" payload) :
    ∃ lines, teardown payload = .ok lines := by
  obtain ⟨operation, found⟩ := present
  unfold teardown
  rw [found]
  dsimp only [bind, Except.bind]
  split
  · exact ⟨_, rfl⟩
  · exact ⟨_, rfl⟩

end Playwright

/-! ## The selenium dialect -/

namespace Selenium

theorem binaryLines_onlyNumeric (path : Value) : OnlyNumeric (binaryLines path) := by
  unfold binaryLines
  split
  · exact .pure _
  · exact .literal fun _ => .pure _

theorem sizeLines_onlyNumeric {viewport : Value} (sides : viewport.isNull = false →
    HasField "width" viewport ∧ HasField "height" viewport) : OnlyNumeric (sizeLines viewport) := by
  unfold sizeLines
  split
  · exact .pure _
  · rename_i given
    obtain ⟨width, height⟩ := sides (Bool.eq_false_iff.2 given)
    refine width.onlyNumeric fun _ => .literal fun _ => ?_
    exact height.onlyNumeric fun _ => .literal fun _ => .pure _

theorem browser_onlyNumeric (admitted : browserChoice.Admits payload) :
    OnlyNumeric (browser payload) := by
  unfold browser
  rcases browser_payload admitted with
    ⟨mode, launch, read, sides⟩ | ⟨mode, connect, found, address⟩
  · refine .after mode ?_
    rw [if_pos (Value.isText_iff.2 rfl)]
    refine .after read ?_
    rw [Value.orElse_map]
    refine .bind (option_onlyNumeric launch "headless") fun _ => ?_
    refine .bind (option_onlyNumeric launch "executablePath") fun path => ?_
    refine .bind (binaryLines_onlyNumeric path) fun _ => ?_
    refine .after (Value.option_map launch "viewport") ?_
    have sized := sizeLines_onlyNumeric (sides _ (Value.option_map launch "viewport"))
    exact .bind sized fun _ => .pure _
  · refine .after mode ?_
    rw [if_neg not_isText_launch]
    refine .after found (address.onlyNumeric fun _ => ?_)
    exact .literal fun _ => .pure _

theorem find_onlyNumeric (selector : Value) : OnlyNumeric (find selector) :=
  .literal fun _ => .pure _

theorem type_onlyNumeric (selects : HasField "selector" payload)
    (types : HasField "text" payload) : OnlyNumeric (type payload) := by
  refine selects.onlyNumeric fun _ => .bind (find_onlyNumeric _) fun _ => ?_
  exact types.onlyNumeric fun _ => .literal fun _ => .pure _

theorem coordinate_onlyNumeric {coords : Value} {name : String} {item : Value}
    (found : coords.field name = .ok item) (kind : IsNumberKind item) :
    OnlyNumeric (coordinate coords name) := by
  refine .after found (.bind (truncate_onlyNumeric kind) fun whole => ?_)
  exact .bind (integerText_onlyNumeric whole) fun _ => .pure _

theorem click_onlyNumeric (present : HasTarget payload) : OnlyNumeric (click payload) := by
  obtain ⟨selector, read, rest⟩ := present
  unfold click
  refine .after read ?_
  cases null : selector.isNull with
  | false =>
      rw [null] at rest
      exact HasField.onlyNumeric rest fun _ => .bind (find_onlyNumeric _) fun _ => .pure _
  | true =>
      rw [null] at rest
      obtain ⟨point, found, x, y, ⟨foundX, kindX⟩, ⟨foundY, kindY⟩⟩ := rest
      refine .after found (.bind (coordinate_onlyNumeric foundX kindX) fun _ => ?_)
      exact .bind (coordinate_onlyNumeric foundY kindY) fun _ => .pure _

theorem execute_onlyNumeric (script : String) (arguments : List String) :
    OnlyNumeric (execute script arguments) :=
  .literal fun _ => .pure _

theorem scroll_onlyNumeric (admitted : (Schema.payload .scroll).Admits payload) :
    OnlyNumeric (scroll payload) := by
  obtain ⟨destination, read, rest⟩ := scroll_payload admitted
  unfold scroll
  refine .after read ?_
  cases null : destination.isNull with
  | true =>
      rw [null] at rest
      obtain ⟨distance, found, dx, dy, ⟨foundDx, _⟩, ⟨foundDy, _⟩⟩ := rest
      refine .after found (.after foundDx (.literal fun _ => ?_))
      refine .after foundDy (.literal fun _ => ?_)
      exact execute_onlyNumeric _ _
  | false =>
      rw [null] at rest
      obtain ⟨selector, readSelector, place⟩ := rest
      refine .after readSelector ?_
      cases nullSelector : selector.isNull with
      | true =>
          rw [nullSelector] at place
          obtain ⟨point, found, x, y, ⟨foundX, _⟩, ⟨foundY, _⟩⟩ := place
          refine .after found (.after foundX (.literal fun _ => ?_))
          refine .after foundY (.literal fun _ => ?_)
          exact execute_onlyNumeric _ _
      | false =>
          rw [nullSelector] at place
          refine HasField.onlyNumeric place fun _ => .literal fun _ => ?_
          exact execute_onlyNumeric _ _

end Selenium

/-! ## Blocks of steps -/

theorem availabilityText_onlyNumeric (item : Value) :
    OnlyNumeric (ScanOptions.availabilityText item) := by
  unfold ScanOptions.availabilityText
  split
  · exact .ok _
  · exact display_onlyNumeric _

theorem ofPayload_onlyNumeric (admitted : (Schema.payload .baselineScan).Admits payload) :
    OnlyNumeric (ScanOptions.ofPayload payload) := by
  obtain ⟨entries, same, conforms, _⟩ := admitted.record
  obtain ⟨listed, found, shaped⟩ := conforms.required List.mem_cons_self
  obtain ⟨items, members, _⟩ := shaped.list
  subst same
  refine .after (Value.optionOr_map entries "availability" (.list [])) ?_
  rw [found]
  refine .after (members_of_listItems members) ?_
  refine .bind (.mapM fun item _ => availabilityText_onlyNumeric item) fun _ => ?_
  refine .bind (option_onlyNumeric entries "year") fun _ => ?_
  refine .bind (option_onlyNumeric entries "strictness") fun _ => ?_
  exact .bind (option_onlyNumeric entries "delay") fun _ => .pure _

namespace Dialect

theorem baselineScan_onlyNumeric (dialect : Dialect)
    (admitted : (Schema.payload .baselineScan).Admits payload) :
    OnlyNumeric (dialect.baselineScan payload) :=
  .bind (ofPayload_onlyNumeric admitted) fun _ => .literal fun _ =>
    .literal fun _ => .pure _

end Dialect

/-- A command whose block cannot be written: a key given by its bytes, to be pressed by selenium. -/
def PressesBytes (backend : Backend) (name : CommandName) (payload : Value) : Prop :=
  backend = .selenium ∧ name = .press ∧ ∃ data, payload.field "key" = .ok (.bytes data)

/-- A command whose block cannot be written: keys to be typed on a page with an unread delay. -/
def DelaysUnread (backend : Backend) (name : CommandName) (payload : Value) : Prop :=
  backend ≠ .selenium ∧ name = .type ∧ PageCalls.HasUnreadDelay payload

/-- An accepted payload has the field that its shape asks for first. -/
theorem hasField_of_admits {name field : String} {shape : Shape}
    {fields : List (String × Bool × Shape)} {rule : Rule}
    (admitted : (Shape.record name (required field shape :: fields) rule).Admits payload) :
    HasField field payload := by
  obtain ⟨item, found, _⟩ := admitted.required List.mem_cons_self
  exact ⟨item, found⟩

section

variable {name field : String} {shape : Shape} {fields : List (String × Bool × Shape)} {rule : Rule}
  {block : String → Block}
  (admitted : (Shape.record name (required field shape :: fields) rule).Admits payload)
include admitted

/-- A block that writes the first field of a payload. -/
theorem written_onlyNumeric : OnlyNumeric (do
    let text ← (← payload.field field).literalText
    return block text) :=
  (hasField_of_admits admitted).onlyNumeric fun _ => .literal fun _ => .pure _

/-- A block that finds the element that the first field of a payload selects. -/
theorem found_onlyNumeric : OnlyNumeric (do
    let element ← Selenium.find (← payload.field field)
    return block element) :=
  (hasField_of_admits admitted).onlyNumeric fun _ => .bind (Selenium.find_onlyNumeric _) fun _ =>
    .pure _

end

/-- The block of an accepted step fails only in the conversion of a number, or because it presses
bytes or types with an unread delay. -/
theorem block_onlyNumeric (backend : Backend) {name : CommandName} (isStep : name.isStep = true)
    (admitted : (Schema.payload name).Admits payload)
    (pressable : ¬ PressesBytes backend name payload)
    (readable : ¬ DelaysUnread backend name payload) :
    OnlyNumeric (backend.dialect.block name payload) := by
  cases name with
  | newPage =>
      unfold Dialect.block
      dsimp only
      split
      · exact .ok _
      · exact .ok _
  | close => exact .ok _
  | wait => exact written_onlyNumeric admitted
  | assert => exact .literal fun _ => .pure _
  | baselineScan => exact Dialect.baselineScan_onlyNumeric _ admitted
  | emulate =>
      cases backend with
      | puppeteer => exact .ok _
      | playwright => exact Playwright.emulate_onlyNumeric admitted
      | selenium => exact .ok _
  | goto =>
      cases backend with
      | puppeteer => exact Puppeteer.goto_onlyNumeric admitted
      | playwright => exact Playwright.goto_onlyNumeric admitted
      | selenium => exact written_onlyNumeric admitted
  | waitForSelector =>
      cases backend with
      | selenium => exact written_onlyNumeric admitted
      | _ => exact written_onlyNumeric admitted
  | screenshot =>
      cases backend with
      | puppeteer => exact Puppeteer.screenshot_onlyNumeric admitted
      | playwright => exact Playwright.screenshot_onlyNumeric admitted
      | selenium => exact written_onlyNumeric admitted
  | type =>
      cases backend with
      | puppeteer =>
          exact Puppeteer.type_onlyNumeric admitted fun unread => readable ⟨by decide, rfl, unread⟩
      | playwright =>
          exact Playwright.type_onlyNumeric admitted fun unread => readable ⟨by decide, rfl, unread⟩
      | selenium =>
          obtain ⟨text, found, _⟩ := admitted.required mem_second
          exact Selenium.type_onlyNumeric (hasField_of_admits admitted) ⟨text, found⟩
  | click =>
      cases backend with
      | selenium => exact Selenium.click_onlyNumeric (hasTarget_of_target admitted)
      | _ => exact PageCalls.click_onlyNumeric (hasTarget_of_target admitted)
  | press =>
      cases backend with
      | selenium =>
          obtain ⟨key, found, shaped⟩ := admitted.required List.mem_cons_self
          rcases shaped.text with ⟨text, same⟩ | ⟨data, same⟩
          · subst same
            exact .after found (.literal fun _ => .pure _)
          · subst same
            exact absurd ⟨rfl, rfl, data, found⟩ pressable
      | _ => exact written_onlyNumeric admitted
  | focus =>
      cases backend with
      | selenium => exact found_onlyNumeric admitted
      | _ => exact written_onlyNumeric admitted
  | hover =>
      cases backend with
      | selenium => exact found_onlyNumeric admitted
      | _ => exact written_onlyNumeric admitted
  | scroll =>
      cases backend with
      | selenium => exact Selenium.scroll_onlyNumeric admitted
      | _ => exact PageCalls.scroll_onlyNumeric admitted
  | _ => cases isStep

theorem block_type_unread {backend : Backend} (admitted : (Schema.payload .type).Admits payload)
    (delays : DelaysUnread backend .type payload) :
    ∃ shown, backend.dialect.block .type payload = .error (.invalid (.duration shown)) := by
  obtain ⟨other, _, unread⟩ := delays
  obtain ⟨shown, failed⟩ := PageCalls.keyDelay_unread unread
  refine ⟨shown, ?_⟩
  cases backend with
  | selenium => exact absurd rfl other
  | puppeteer =>
      change Puppeteer.type payload = _
      unfold Puppeteer.type
      rw [failed]
      rfl
  | playwright =>
      obtain ⟨selector, found, shaped⟩ := admitted.required List.mem_cons_self
      change Playwright.type payload = _
      unfold Playwright.type
      rw [found]
      rcases shaped.text with ⟨text, rfl⟩ | ⟨data, rfl⟩
      · change (PageCalls.keyDelay payload >>= _) = _
        rw [failed]
        rfl
      · change (PageCalls.keyDelay payload >>= _) = _
        rw [failed]
        rfl

theorem browser_block_onlyNumeric (backend : Backend) (admitted : browserChoice.Admits payload) :
    OnlyNumeric (backend.dialect.block .browser payload) := by
  cases backend with
  | puppeteer => exact Puppeteer.browser_onlyNumeric admitted
  | playwright => exact Playwright.browser_onlyNumeric admitted
  | selenium => exact Selenium.browser_onlyNumeric admitted

end BrowserScript
