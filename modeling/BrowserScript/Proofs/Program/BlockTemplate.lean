import BrowserScript.Proofs.Program.Template

/-!
# The templates of commands

For every command of every dialect, the block is its template filled in: all that a payload
contributes to a program are the literals of the template, and no line of a block starts like the
report of a command.
-/

namespace BrowserScript

open Template Piece

/-! ## Calls on a page object -/

namespace PageCalls

def fieldTemplate (start name : String) (payload : Value) : Except Fault Template := do
  return [call (start ++ "(") [← payload.field name] ")"]

def clickTemplate (payload : Value) : Except Fault Template := do
  if (← payload.option "selector").isNull then
    let coords ← payload.field "coords"
    return [call "await page.mouse.click(" [← coords.field "x", ← coords.field "y"] ")"]
  else fieldTemplate "await page.click" "selector" payload

def evaluateTemplate (function : String) (argument : Value) : Template :=
  [call "await page.evaluate(" [.str function, argument] ")"]

def scrollTemplate (payload : Value) : Except Fault Template := do
  let target ← payload.option "to"
  if target.isNull then return evaluateTemplate scrollBy (← payload.field "by")
  else if (← target.option "selector").isNull then
    return evaluateTemplate scrollTo (← target.field "coords")
  else return evaluateTemplate scrollIntoView (← target.field "selector")

theorem withField_makes {start : String} {chars : List Char} (same : start = String.ofList chars)
    (starts : startsLine chars = true) (name : String) (payload : Value) :
    Makes (fieldTemplate start name payload) (withField start name payload) := by
  refine makes_bind fun value _ => makes_after fun text literal => makes_ok ?_
  refine .add (writeAll_call _ _ literal) ?_ rfl .nil
  rw [same, String.toList_append, String.toList_ofList]
  exact startsLine_append starts (by decide)

theorem click_makes (payload : Value) : Makes (clickTemplate payload) (click payload) := by
  refine makes_bind fun selector _ => ?_
  split
  · refine makes_bind fun coords _ => makes_bind fun x _ => makes_after fun left literalX =>
      makes_bind fun y _ => makes_after fun top literalY => makes_ok (.single ?_ rfl rfl rfl)
    simp [writeAll_literal literalX, writeAll_literal literalY, Except.map,
      String.append_assoc]
  · exact withField_makes rfl rfl "selector" payload

theorem evaluate_makes (function : String) (argument : Value) :
    Makes (.ok (evaluateTemplate function argument)) (evaluate function argument) := by
  refine makes_after fun code literalCode => makes_after fun text literal =>
    makes_ok (.single ?_ rfl rfl rfl)
  simp [writeAll_literal literalCode, writeAll_literal literal, Except.map,
    String.append_assoc]

theorem scroll_makes (payload : Value) : Makes (scrollTemplate payload) (scroll payload) := by
  refine makes_bind fun target _ => ?_
  split
  · exact makes_bind fun offset _ => evaluate_makes scrollBy offset
  · refine makes_bind fun selector _ => ?_
    split
    · exact makes_bind fun coords _ => evaluate_makes scrollTo coords
    · exact makes_bind fun element _ => evaluate_makes scrollIntoView element

/-- The pause between keys is a whole number or a truth value. -/
theorem keyDelay_cases {payload delay : Value} (read : keyDelay payload = .ok delay) :
    (∃ count, delay = .int count) ∨ ∃ truth, delay = .bool truth := by
  obtain ⟨token, _, read⟩ := bind_eq_ok read
  rw [Duration.milliseconds.eq_def] at read
  split at read
  · exact .inl ⟨_, (Except.ok.inj read).symm⟩
  · exact .inr ⟨_, (Except.ok.inj read).symm⟩
  · obtain ⟨text, _, read⟩ := bind_eq_ok read
    split at read
    · exact .inl ⟨_, (Except.ok.inj read).symm⟩
    · cases read
    · obtain ⟨shown, _, read⟩ := bind_eq_ok read
      cases read

end PageCalls

/-! ## Puppeteer -/

namespace Puppeteer

variable (payload : Value)

def browserTemplate (payload : Value) : Except Fault Template := do
  let opener ←
    if (← payload.field "mode").isText "launch" then do
      let launch := (← payload.option "launch").orElse (.map [])
      let options := (.str "headless", ← launch.optionOr "headless" (.bool false))
        :: renamed "executablePath" (← launch.option "executablePath")
        ++ renamed "defaultViewport" (← launch.option "viewport")
      pure (call "browser = await launch(" [.map options] ")")
    else do
      let address ← (← payload.field "connect").field "wsUrl"
      pure (call "browser = await connect(" [.map [(.str "browserWSEndpoint", address)]] ")")
  return [opener, [.code "page = await browser.newPage()"]]

def gotoTemplate (payload : Value) : Except Fault Template := do
  let options := Value.map [(.str "waitUntil", ← payload.optionOr "waitUntil" (.str "load"))]
  return [call "await page.goto(" [← payload.field "url", options] ")"]

def screenshotTemplate (payload : Value) : Except Fault Template := do
  let path ← payload.field "path"
  let options := (.str "path", path) :: renamed "fullPage" (← payload.option "fullPage")
  return [call "await page.screenshot(" [.map options] ")"]

def typeTemplate (payload : Value) : Except Fault Template := do
  let options := Value.map [(.str "delay", ← PageCalls.keyDelay payload)]
  let selector ← payload.field "selector"
  let text ← payload.field "text"
  return [call "await page.type(" [selector, text, options] ")"]

def teardownTemplate (payload : Value) : Except Fault Template :=
  ofBlock <$> teardown payload

theorem browser_makes : Makes (browserTemplate payload) (browser payload) := by
  have page : Fits [[.code "page = await browser.newPage()"]] ["page = await browser.newPage()"] :=
    .line rfl rfl .nil
  refine makes_bind fun mode _ => ?_
  dsimp only
  split
  · exact makes_bind fun given _ => makes_bind fun headless _ => makes_bind fun path _ =>
      makes_bind fun viewport _ => makes_after fun options literal =>
        makes_ok (.cons (writeAll_call _ _ literal) rfl rfl rfl page)
  · exact makes_bind fun connection _ => makes_bind fun address _ =>
      makes_after fun options literal => makes_ok (.cons (writeAll_call _ _ literal) rfl rfl rfl page)

theorem goto_makes : Makes (gotoTemplate payload) (goto payload) := by
  refine makes_bind fun event _ => makes_bind fun url _ => makes_after fun address literal =>
    makes_after fun options literalOptions => makes_ok (.single ?_ rfl rfl rfl)
  simp [writeAll_literal literal, writeAll_literal literalOptions, Except.map,
    String.append_assoc]

theorem screenshot_makes : Makes (screenshotTemplate payload) (screenshot payload) :=
  makes_bind fun _ _ => makes_bind fun _ _ => makes_after fun _ literal =>
    makes_ok (.single (writeAll_call _ _ literal) rfl rfl rfl)

theorem type_makes : Makes (typeTemplate payload) (type payload) := by
  refine makes_bind fun delay _ => makes_bind fun selector _ => makes_after fun element literal =>
    makes_bind fun content _ => makes_after fun text literalText =>
      makes_after fun options literalOptions => makes_ok (.single ?_ rfl rfl rfl)
  simp [writeAll_literal literal, writeAll_literal literalText,
    writeAll_literal literalOptions, Except.map, String.append_assoc]

theorem teardown_makes : Makes (teardownTemplate payload) (teardown payload) := by
  refine makes_ofBlock (.after fun operation => ?_)
  split <;> exact .ok ⟨List.cons_ne_nil _ _, by decide⟩

end Puppeteer

/-! ## Playwright -/

namespace Playwright

variable (payload : Value)

def browserTemplate (payload : Value) : Except Fault Template := do
  let opening ←
    if (← payload.field "mode").isText "launch" then do
      let launch := (← payload.option "launch").orElse (.map [])
      let headless ← launch.optionOr "headless" (.bool false)
      let path ← launch.option "executablePath"
      let viewport ← launch.option "viewport"
      pure [.code "browser = await playwright.chromium.launch("
          :: arguments [("headless", headless), ("executable_path", path)] ++ [.code ")"],
        .code "context = await browser.new_context(" :: arguments [("viewport", viewport)]
          ++ [.code ")"]]
    else do
      let address ← (← payload.field "connect").field "wsUrl"
      pure [call "browser = await playwright.chromium.connect_over_cdp(" [address] ")",
        [.code "context = browser.contexts[0] if browser.contexts else await browser.new_context()"]]
  return [.code "playwright = await async_playwright().start()"] :: opening
    ++ [[.code "page = await context.new_page()"]]

def emulateTemplate (payload : Value) : Except Fault Template := do
  let device ← payload.field "device"
  return [call "device = playwright.devices.get(" [device] ")",
    [.code "if device is None:"],
    call "    logging.warning(\"Unknown device %r, viewport left unchanged\", " [device] ")",
    [.code "else:"],
    [.code "    await page.set_viewport_size(device[\"viewport\"])"]]

def gotoTemplate (payload : Value) : Except Fault Template := do
  let event ← loadEvent (← payload.optionOr "waitUntil" (.str "load"))
  return [[.code "await page.goto(", .literal (← payload.field "url"), .code ", wait_until=",
    .literal (.str event), .code ")"]]

def screenshotTemplate (payload : Value) : Except Fault Template := do
  let path ← payload.field "path"
  let whole ← payload.option "fullPage"
  return [.code "await page.screenshot(" :: arguments [("path", path), ("full_page", whole)]
    ++ [.code ")"]]

def typeTemplate (payload : Value) : Except Fault Template := do
  let selector ← payload.field "selector"
  let delay ← PageCalls.keyDelay payload
  let text ← payload.field "text"
  return [call "await page.fill(" [selector] ", \"\")",
    [.code "await page.locator(", .literal selector, .code ").press_sequentially(", .literal text,
      .code ", delay=", .literal delay, .code ")"]]

def teardownTemplate (payload : Value) : Except Fault Template :=
  ofBlock <$> teardown payload

theorem browser_makes : Makes (browserTemplate payload) (browser payload) := by
  have page :
      Fits [[.code "page = await context.new_page()"]] ["page = await context.new_page()"] :=
    .line rfl rfl .nil
  refine makes_bind fun mode _ => ?_
  dsimp only
  split
  · exact makes_bind fun given _ => makes_bind fun headless _ => makes_bind fun path _ =>
      makes_after fun options literal => makes_bind fun viewport _ =>
        makes_after fun context literalContext => makes_ok (.line rfl rfl
          (.cons (writeAll_around _ _ (writeAll_arguments literal)) rfl rfl
            (plain_arguments ["headless", "executable_path"] rfl (by decide))
            (.cons (writeAll_around _ _ (writeAll_arguments literalContext)) rfl rfl
              (plain_arguments ["viewport"] rfl (by decide)) page)))
  · exact makes_bind fun connection _ => makes_bind fun address _ =>
      makes_after fun endpoint literal =>
        makes_ok (.line rfl rfl (.cons (writeAll_call _ _ literal) rfl rfl rfl (.line rfl rfl page)))

theorem emulate_makes : Makes (emulateTemplate payload) (emulate payload) :=
  makes_bind fun _ _ => makes_after fun _ literal =>
    makes_ok (.cons (writeAll_call _ _ literal) rfl rfl rfl (.line rfl rfl
      (.cons (writeAll_call _ _ literal) rfl rfl rfl (.line rfl rfl (.line rfl rfl .nil)))))

theorem goto_makes : Makes (gotoTemplate payload) (goto payload) := by
  refine makes_bind fun given _ => makes_bind fun event _ => makes_bind fun url _ =>
    makes_after fun address literal => makes_after fun moment literalEvent =>
      makes_ok (.single ?_ rfl rfl rfl)
  simp [writeAll_literal literal, writeAll_literal literalEvent, Except.map, String.append_assoc]

theorem screenshot_makes : Makes (screenshotTemplate payload) (screenshot payload) :=
  makes_bind fun _ _ => makes_bind fun _ _ => makes_after fun _ literal =>
    makes_ok (.single (writeAll_around _ _ (writeAll_arguments literal)) rfl rfl
      (plain_arguments ["path", "full_page"] rfl (by decide)))

theorem type_makes : Makes (typeTemplate payload) (type payload) := by
  refine makes_bind fun selector _ => makes_after fun element literal =>
    makes_bind fun delay read => makes_bind fun content _ => makes_after fun text literalText =>
      makes_after fun pause shown => makes_ok ?_
  have literalDelay : delay.literalText = .ok pause := by
    obtain ⟨_, rfl⟩ | ⟨_, rfl⟩ := PageCalls.keyDelay_cases read <;> exact shown
  refine .cons (writeAll_call _ _ literal) rfl rfl rfl (.single ?_ rfl rfl rfl)
  simp [writeAll_literal literal, writeAll_literal literalText, writeAll_literal literalDelay,
    Except.map, String.append_assoc]

theorem teardown_makes : Makes (teardownTemplate payload) (teardown payload) := by
  refine makes_ofBlock (.after fun operation => ?_)
  split <;> exact .ok ⟨List.cons_ne_nil _ _, by decide⟩

end Playwright

/-! ## Selenium -/

namespace Selenium

variable (payload : Value)

def binaryTemplate (path : Value) : Template :=
  if path.isNull then [] else [[.code "options.binary_location = ", .literal path]]

def sizeTemplate (viewport : Value) : Except Fault Template := do
  if viewport.isNull then return []
  else
    let width ← viewport.field "width"
    let height ← viewport.field "height"
    return [call "driver.set_window_size(" [width, height] ")"]

def browserTemplate (payload : Value) : Except Fault Template := do
  if (← payload.field "mode").isText "launch" then
    let launch := (← payload.option "launch").orElse (.map [])
    let headless := if (← launch.option "headless").truthy
      then [[.code "options.add_argument(\"--headless=new\")"]] else []
    let binary := binaryTemplate (← launch.option "executablePath")
    let size ← sizeTemplate (← launch.option "viewport")
    return [.code "options = webdriver.ChromeOptions()"] :: headless ++ binary
      ++ [.code "driver = webdriver.Chrome(options=options)"] :: size
  else
    let address ← (← payload.field "connect").field "wsUrl"
    return [call "driver = webdriver.Remote(command_executor=" [address]
      ", options=webdriver.ChromeOptions())"]

def findPieces (start : String) (selector : Value) (finish : String) : List Piece :=
  call (start ++ "driver.find_element(By.CSS_SELECTOR, ") [selector] (")" ++ finish)

def gotoTemplate (payload : Value) : Except Fault Template := do
  return [call "driver.get(" [← payload.field "url"] ")"]

def waitForSelectorTemplate (payload : Value) : Except Fault Template := do
  return [call "WebDriverWait(driver, 10).until(EC.presence_of_element_located((By.CSS_SELECTOR, "
    [← payload.field "selector"] ")))"]

def screenshotTemplate (payload : Value) : Except Fault Template := do
  return [call "driver.save_screenshot(" [← payload.field "path"] ")"]

def typeTemplate (payload : Value) : Except Fault Template := do
  let selector ← payload.field "selector"
  let text ← payload.field "text"
  return [findPieces "" selector ".clear()",
    [.code "driver.find_element(By.CSS_SELECTOR, ", .literal selector, .code ").send_keys(",
      .literal text, .code ")"]]

def clickTemplate (payload : Value) : Except Fault Template := do
  if (← payload.option "selector").isNull then
    let coords ← payload.field "coords"
    let x ← (← coords.field "x").truncate
    let y ← (← coords.field "y").truncate
    return [[.code "actions = ActionBuilder(driver)"],
      call "actions.pointer_action.move_to_location(" [.int x, .int y] ")",
      [.code "actions.pointer_action.click()"],
      [.code "actions.perform()"]]
  else return [findPieces "" (← payload.field "selector") ".click()"]

def pressTemplate (payload : Value) : Except Fault Template := do
  match ← payload.field "key" with
  | .str key =>
      let constant := String.ofList (keyConstant key.toList)
      return [call "ActionChains(driver).send_keys(getattr(Keys, " [.str constant, .str key]
        ")).perform()"]
  | _ => return []

def focusTemplate (payload : Value) : Except Fault Template := do
  let selector ← payload.field "selector"
  return [findPieces "driver.execute_script(\"arguments[0].focus();\", " selector ")"]

def hoverTemplate (payload : Value) : Except Fault Template := do
  return [findPieces "ActionChains(driver).move_to_element(" (← payload.field "selector")
    ").perform()"]

def executeTemplate (script : String) (arguments : List Value) : Template :=
  [call "driver.execute_script(" (.str script :: arguments) ")"]

def scrollTemplate (payload : Value) : Except Fault Template := do
  let target ← payload.option "to"
  if target.isNull then
    let offset ← payload.field "by"
    return executeTemplate "window.scrollBy(arguments[0], arguments[1]);"
      [← offset.field "dx", ← offset.field "dy"]
  else if (← target.option "selector").isNull then
    let coords ← target.field "coords"
    return executeTemplate "window.scrollTo(arguments[0], arguments[1]);"
      [← coords.field "x", ← coords.field "y"]
  else
    return executeTemplate ("const el = document.querySelector(arguments[0]); "
      ++ "if (el) \x7b el.scrollIntoView(\x7b behavior: 'smooth', block: 'center' \x7d); \x7d")
      [← target.field "selector"]

theorem binaryLines_makes (path : Value) :
    MakesBy Fits (.ok (binaryTemplate path)) (binaryLines path) := by
  unfold binaryTemplate binaryLines
  split
  · exact .ok ⟨_, rfl, .nil⟩
  · refine makes_after fun text literal => .ok ⟨_, rfl, .single ?_ rfl rfl rfl⟩
    simp [writeAll_literal literal, Except.map]

theorem sizeLines_makes (viewport : Value) :
    MakesBy Fits (sizeTemplate viewport) (sizeLines viewport) := by
  unfold sizeTemplate sizeLines
  split
  · exact .ok ⟨_, rfl, .nil⟩
  · refine makes_bind fun width _ => makes_after fun across literal => makes_bind fun height _ =>
      makes_after fun down literalHeight => .ok ⟨_, rfl, .single ?_ rfl rfl rfl⟩
    simp [writeAll_literal literal, writeAll_literal literalHeight, Except.map,
      String.append_assoc]

theorem browser_makes : Makes (browserTemplate payload) (browser payload) := by
  refine makes_bind fun mode _ => ?_
  dsimp only
  split
  · refine makes_bind fun given _ => makes_bind fun headless _ => makes_bind fun path _ =>
      makes_after fun binary binaryWritten => makes_bind fun viewport _ =>
        makes_after fun size sizeWritten => ?_
    obtain ⟨_, same, binaryFits⟩ := binaryLines_makes path binary binaryWritten
    cases same
    obtain ⟨template, found, sizeFits⟩ := sizeLines_makes viewport size sizeWritten
    rw [found]
    refine makes_ok (.line rfl rfl (.append (.append ?_ binaryFits) (.line rfl rfl sizeFits)))
    split
    · exact .line rfl rfl .nil
    · exact .nil
  · exact makes_bind fun connection _ => makes_bind fun address _ =>
      makes_after fun endpoint literal => makes_ok (.single (writeAll_call _ _ literal) rfl rfl rfl)

theorem find_written {selector : Value} {element : String} (start finish : String)
    (found : find selector = .ok element) :
    writeAll (findPieces start selector finish) = .ok (start ++ element ++ finish) := by
  obtain ⟨text, literal, found⟩ := bind_eq_ok found
  cases found
  rw [findPieces, writeAll_call _ _ literal]
  simp only [String.append_assoc]

theorem goto_makes : Makes (gotoTemplate payload) (goto payload) :=
  makes_bind fun _ _ => makes_after fun _ literal =>
    makes_ok (.single (writeAll_call _ _ literal) rfl rfl rfl)

theorem waitForSelector_makes : Makes (waitForSelectorTemplate payload) (waitForSelector payload) :=
  makes_bind fun _ _ => makes_after fun _ literal =>
    makes_ok (.single (writeAll_call _ _ literal) rfl rfl rfl)

theorem screenshot_makes : Makes (screenshotTemplate payload) (screenshot payload) :=
  makes_bind fun _ _ => makes_after fun _ literal =>
    makes_ok (.single (writeAll_call _ _ literal) rfl rfl rfl)

theorem type_makes : Makes (typeTemplate payload) (type payload) := by
  refine makes_bind fun selector _ => makes_after fun element found => makes_bind fun content _ =>
    makes_after fun text literalText => makes_ok ?_
  have cleared := find_written "" ".clear()" found
  rw [String.empty_append] at cleared
  obtain ⟨name, literal, found⟩ := bind_eq_ok found
  cases found
  refine .add cleared (by decide) rfl (.single ?_ rfl rfl rfl)
  simp [writeAll_literal literal, writeAll_literal literalText, Except.map, String.append_assoc]

theorem literal_of_coordinate {coords : Value} {name text : String}
    (written : coordinate coords name = .ok text) :
    ∃ value whole, coords.field name = .ok value ∧ value.truncate = .ok whole ∧
      (Value.int whole).literalText = .ok text := by
  obtain ⟨value, read, written⟩ := bind_eq_ok written
  obtain ⟨whole, truncated, written⟩ := bind_eq_ok written
  exact ⟨value, whole, read, truncated, written⟩

theorem click_makes : Makes (clickTemplate payload) (click payload) := by
  refine makes_bind fun selector _ => ?_
  split
  · refine makes_bind fun coords _ => makes_after fun left writtenX =>
      makes_after fun top writtenY => ?_
    obtain ⟨x, column, readX, truncatedX, literalX⟩ := literal_of_coordinate writtenX
    obtain ⟨y, row, readY, truncatedY, literalY⟩ := literal_of_coordinate writtenY
    simp only [readX, truncatedX, readY, truncatedY, bind, Except.bind]
    refine makes_ok (.line rfl rfl (.cons ?_ rfl rfl rfl (.line rfl rfl (.line rfl rfl .nil))))
    simp [writeAll_literal literalX, writeAll_literal literalY, Except.map,
      String.append_assoc]
  · refine makes_bind fun name _ => makes_after fun element found => makes_ok ?_
    have clicked := find_written "" ".click()" found
    rw [String.empty_append] at clicked
    exact .add clicked (by decide) rfl .nil

theorem press_makes : Makes (pressTemplate payload) (press payload) := by
  refine makes_bind fun value _ => ?_
  cases value with
  | str key =>
      refine makes_after fun text literal => makes_ok (.single ?_ rfl rfl rfl)
      have constant : (Value.str (String.ofList (keyConstant key.toList))).literalText =
          .ok (String.ofList (Quoted.encode (keyConstant key.toList))) := by
        rw [Value.literalText, Value.literal, String.toList_ofList]
        rfl
      simp [writeAll_literal constant, writeAll_literal literal, Except.map,
        String.append_assoc]
  | _ => exact Returns.error _

theorem focus_makes : Makes (focusTemplate payload) (focus payload) :=
  makes_bind fun _ _ => makes_after fun _ found => makes_ok (.add (find_written _ _ found)
    (by decide) rfl .nil)

theorem hover_makes : Makes (hoverTemplate payload) (hover payload) :=
  makes_bind fun _ _ => makes_after fun _ found => makes_ok (.add (find_written _ _ found)
    (by decide) rfl .nil)

theorem execute_makes {script : String} {arguments : List Value} {texts : List String}
    (written : arguments.mapM Value.literalText = .ok texts) :
    Makes (.ok (executeTemplate script arguments)) (execute script texts) := by
  refine makes_after fun code literal => makes_ok ?_
  have all : (Value.str script :: arguments).mapM Value.literalText = .ok (code :: texts) := by
    rw [List.mapM_cons, literal, written]
    rfl
  have given : writeAll (literals (.str script :: arguments)) =
      .ok (String.intercalate ", " (code :: texts)) :=
    writeAll_separated (fun value text written => by simp [writeAll_literal written, Except.map]) all
  exact .single (writeAll_around _ _ given) rfl rfl (plain_literals _ _ (by decide))

theorem scroll_makes : Makes (scrollTemplate payload) (scroll payload) := by
  refine makes_bind fun target _ => ?_
  split
  · refine makes_bind fun offset _ => makes_bind fun dx _ => makes_after fun right literalX =>
      makes_bind fun dy _ => makes_after fun down literalY => execute_makes ?_
    simp [literalX, literalY, bind, Except.bind, pure, Except.pure]
  · refine makes_bind fun selector _ => ?_
    split
    · refine makes_bind fun coords _ => makes_bind fun x _ => makes_after fun left literalX =>
        makes_bind fun y _ => makes_after fun top literalY => execute_makes ?_
      simp [literalX, literalY, bind, Except.bind, pure, Except.pure]
    · refine makes_bind fun element _ => makes_after fun text literal => execute_makes ?_
      simp [literal, bind, Except.bind, pure, Except.pure]

end Selenium

/-! ## Every command -/

namespace Dialect

def waitTemplate (payload : Value) : Except Fault Template := do
  return [call "await sleep(" [← payload.field "timeout"] ")"]

def assertTemplate (dialect : Dialect) (payload : Value) : Template :=
  [call (dialect.assertionCall ++ "(" ++ dialect.target ++ ", ") [payload] ")"]

def scanTemplate (dialect : Dialect) (payload : Value) : Except Fault Template := do
  let options ← ScanOptions.ofPayload payload
  return [call ("await baseline_scan_pipeline(" ++ dialect.target ++ ", ")
    [options, .str dialect.backend.tag] ")"]

theorem wait_makes (payload : Value) : Makes (waitTemplate payload) (wait payload) :=
  makes_bind fun _ _ => makes_after fun _ literal =>
    makes_ok (.single (writeAll_call _ _ literal) rfl rfl rfl)

end Dialect

namespace Backend

variable (backend : Backend)

/-- The template of a command of the vocabulary for a backend; the framework has no literals. -/
def template (backend : Backend) (name : CommandName) (payload : Value) : Except Fault Template :=
  match name with
  | .framework => .ok (ofBlock backend.dialect.prologue)
  | .browser =>
      match backend with
      | .puppeteer => Puppeteer.browserTemplate payload
      | .playwright => Playwright.browserTemplate payload
      | .selenium => Selenium.browserTemplate payload
  | .newPage =>
      match payload with
      | .bool false => .ok (ofBlock (Block.disabled .newPage))
      | _ => .ok (ofBlock backend.dialect.newPage)
  | .emulate =>
      match backend with
      | .playwright => Playwright.emulateTemplate payload
      | other => .ok (ofBlock (Block.unsupported .emulate other))
  | .goto =>
      match backend with
      | .puppeteer => Puppeteer.gotoTemplate payload
      | .playwright => Playwright.gotoTemplate payload
      | .selenium => Selenium.gotoTemplate payload
  | .wait => Dialect.waitTemplate payload
  | .waitForSelector =>
      match backend with
      | .puppeteer => PageCalls.fieldTemplate "await page.waitForSelector" "selector" payload
      | .playwright => PageCalls.fieldTemplate "await page.wait_for_selector" "selector" payload
      | .selenium => Selenium.waitForSelectorTemplate payload
  | .screenshot =>
      match backend with
      | .puppeteer => Puppeteer.screenshotTemplate payload
      | .playwright => Playwright.screenshotTemplate payload
      | .selenium => Selenium.screenshotTemplate payload
  | .type =>
      match backend with
      | .puppeteer => Puppeteer.typeTemplate payload
      | .playwright => Playwright.typeTemplate payload
      | .selenium => Selenium.typeTemplate payload
  | .click =>
      match backend with
      | .selenium => Selenium.clickTemplate payload
      | _ => PageCalls.clickTemplate payload
  | .press =>
      match backend with
      | .selenium => Selenium.pressTemplate payload
      | _ => PageCalls.fieldTemplate "await page.keyboard.press" "key" payload
  | .focus =>
      match backend with
      | .selenium => Selenium.focusTemplate payload
      | _ => PageCalls.fieldTemplate "await page.focus" "selector" payload
  | .hover =>
      match backend with
      | .selenium => Selenium.hoverTemplate payload
      | _ => PageCalls.fieldTemplate "await page.hover" "selector" payload
  | .scroll =>
      match backend with
      | .selenium => Selenium.scrollTemplate payload
      | _ => PageCalls.scrollTemplate payload
  | .assert => .ok (backend.dialect.assertTemplate payload)
  | .baselineScan => backend.dialect.scanTemplate payload
  | .close => .ok (ofBlock backend.dialect.close)
  | .teardown =>
      match backend with
      | .puppeteer => Puppeteer.teardownTemplate payload
      | .playwright => Playwright.teardownTemplate payload
      | .selenium => .ok (ofBlock ["driver.quit()"])

theorem assert_makes (payload : Value) :
    Makes (.ok (backend.dialect.assertTemplate payload)) (backend.dialect.assert payload) := by
  refine makes_after fun text literal => makes_ok (.add (writeAll_call _ _ literal) ?_ rfl .nil)
  cases backend <;> decide

theorem scan_makes (payload : Value) :
    Makes (backend.dialect.scanTemplate payload) (backend.dialect.baselineScan payload) := by
  refine makes_bind fun options _ => makes_after fun text literal =>
    makes_after fun name literalName => makes_ok (.add ?_ (by cases backend <;> decide) rfl .nil)
  simp [writeAll_literal literal, writeAll_literal literalName, Except.map,
    String.append_assoc]

/-- The block of every command but the framework is its template filled in. -/
theorem block_makes {name : CommandName} (other : name ≠ .framework) (payload : Value) :
    Makes (backend.template name payload) (backend.dialect.block name payload) := by
  cases name with
  | framework => exact absurd rfl other
  | browser =>
      cases backend with
      | puppeteer => exact Puppeteer.browser_makes payload
      | playwright => exact Playwright.browser_makes payload
      | selenium => exact Selenium.browser_makes payload
  | newPage =>
      by_cases closed : payload = .bool false
      · subst closed
        exact makes_ok (fits_ofBlock (by decide))
      · rw [template, Dialect.block]
        · cases backend <;> exact makes_ok (fits_ofBlock (by decide))
        · exact closed
        · exact closed
  | emulate =>
      cases backend with
      | puppeteer => exact makes_ok (fits_ofBlock (by decide))
      | playwright => exact Playwright.emulate_makes payload
      | selenium => exact makes_ok (fits_ofBlock (by decide))
  | goto =>
      cases backend with
      | puppeteer => exact Puppeteer.goto_makes payload
      | playwright => exact Playwright.goto_makes payload
      | selenium => exact Selenium.goto_makes payload
  | wait => exact Dialect.wait_makes payload
  | waitForSelector =>
      cases backend with
      | selenium => exact Selenium.waitForSelector_makes payload
      | _ => exact PageCalls.withField_makes rfl rfl _ payload
  | screenshot =>
      cases backend with
      | puppeteer => exact Puppeteer.screenshot_makes payload
      | playwright => exact Playwright.screenshot_makes payload
      | selenium => exact Selenium.screenshot_makes payload
  | type =>
      cases backend with
      | puppeteer => exact Puppeteer.type_makes payload
      | playwright => exact Playwright.type_makes payload
      | selenium => exact Selenium.type_makes payload
  | click =>
      cases backend with
      | selenium => exact Selenium.click_makes payload
      | _ => exact PageCalls.click_makes payload
  | press =>
      cases backend with
      | selenium => exact Selenium.press_makes payload
      | _ => exact PageCalls.withField_makes rfl rfl _ payload
  | focus =>
      cases backend with
      | selenium => exact Selenium.focus_makes payload
      | _ => exact PageCalls.withField_makes rfl rfl _ payload
  | hover =>
      cases backend with
      | selenium => exact Selenium.hover_makes payload
      | _ => exact PageCalls.withField_makes rfl rfl _ payload
  | scroll =>
      cases backend with
      | selenium => exact Selenium.scroll_makes payload
      | _ => exact PageCalls.scroll_makes payload
  | assert => exact assert_makes backend payload
  | baselineScan => exact scan_makes backend payload
  | close =>
      cases backend <;> exact makes_ok (fits_ofBlock (by decide))
  | teardown =>
      cases backend with
      | puppeteer => exact Puppeteer.teardown_makes payload
      | playwright => exact Playwright.teardown_makes payload
      | selenium => exact makes_ok (fits_ofBlock (by decide))

end Backend

/-- The block of a command holds lines, whatever its payload is. -/
theorem block_holdsLines (backend : Backend) {name : CommandName} (other : name ≠ .framework)
    (payload : Value) : Returns Block.HoldsLines (backend.dialect.block name payload) := by
  intro block written
  obtain ⟨_, _, fills⟩ := backend.block_makes other payload block written
  exact fills.holdsLines

end BrowserScript
