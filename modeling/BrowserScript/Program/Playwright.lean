import BrowserScript.Program.PageCalls

/-!
# The playwright dialect
-/

namespace BrowserScript.Playwright

def assertionHelper : List String :=
  ["async def check_assertion(page, options):",
   "    \"\"\"Locate the element with Playwright primitives and evaluate the assertion.\"\"\"",
   "    selector = options[\"selector\"]",
   "    try:",
   "        if options.get(\"timeout\"):",
   "            await page.wait_for_selector(selector, timeout=parse_timeout(options[\"timeout\"]))",
   "        element = await page.query_selector(selector)",
   "        text = ((await element.text_content()) or \"\").strip() if element else \"\"",
   "        visible = await element.is_visible() if element and \"visible\" in options else False",
   "        passed, message = evaluate_assertion(options, element is not None, text, visible)",
   "    except Exception as exc:",
   "        passed, message = False, f\"Assertion error: \x7bexc\x7d\"",
   "    return settle_assertion(options, passed, message)",
   ""]

def browser (payload : Value) : Except Fault Block := do
  let opening ←
    if (← payload.field "mode").isText "launch" then do
      let launch := (← payload.option "launch").orElse (.map [])
      let options ← Block.arguments
        [(.str "headless", ← launch.optionOr "headless" (.bool false)),
         (.str "executable_path", ← launch.option "executablePath")]
      let context ← Block.arguments [(.str "viewport", ← launch.option "viewport")]
      pure ["browser = await playwright.chromium.launch(" ++ options ++ ")",
        "context = await browser.new_context(" ++ context ++ ")"]
    else do
      let address ← (← (← payload.field "connect").field "wsUrl").literalText
      pure ["browser = await playwright.chromium.connect_over_cdp(" ++ address ++ ")",
        "context = browser.contexts[0] if browser.contexts else await browser.new_context()"]
  return "playwright = await async_playwright().start()" :: opening
    ++ ["page = await context.new_page()"]

def emulate (payload : Value) : Except Fault Block := do
  let device ← (← payload.field "device").literalText
  return ["device = playwright.devices.get(" ++ device ++ ")",
    "if device is None:",
    "    logging.warning(\"Unknown device %r, viewport left unchanged\", " ++ device ++ ")",
    "else:",
    "    await page.set_viewport_size(device[\"viewport\"])"]

/-- The load event that a script's event stands for; unknown ones mean the default. -/
def loadEvent (event : Value) : Except Fault String :=
  if !event.isKey then .error (.wrongKind ("unhashable type: '" ++ event.kindName ++ "'"))
  else if event.isText "domcontentloaded" then .ok "domcontentloaded"
  else if event.isText "networkidle0" || event.isText "networkidle2" then .ok "networkidle"
  else .ok "load"

def goto (payload : Value) : Except Fault Block := do
  let event ← loadEvent (← payload.optionOr "waitUntil" (.str "load"))
  let address ← (← payload.field "url").literalText
  return ["await page.goto(" ++ address ++ ", wait_until="
    ++ (← (Value.str event).literalText) ++ ")"]

def screenshot (payload : Value) : Except Fault Block := do
  let options ← Block.arguments
    [(.str "path", ← payload.field "path"), (.str "full_page", ← payload.option "fullPage")]
  return ["await page.screenshot(" ++ options ++ ")"]

def type (payload : Value) : Except Fault Block := do
  let selector ← (← payload.field "selector").literalText
  let delay ← PageCalls.keyDelay payload
  let text ← (← payload.field "text").literalText
  return ["await page.fill(" ++ selector ++ ", \"\")",
    "await page.locator(" ++ selector ++ ").press_sequentially(" ++ text ++ ", delay="
      ++ (← delay.display) ++ ")"]

def teardown (payload : Value) : Except Fault Block := do
  if (← payload.field "operation").isText "close" then
    return ["await browser.close()", "await playwright.stop()"]
  else return ["await playwright.stop()"]

def dialect : Dialect where
  backend := .playwright
  target := "page"
  imports := ["from playwright.async_api import async_playwright"]
  assertionHelper := assertionHelper
  assertionCall := "await check_assertion"
  browser := browser
  newPage := ["page = await context.new_page()"]
  emulate := emulate
  goto := goto
  waitForSelector := PageCalls.withField "await page.wait_for_selector" "selector"
  screenshot := screenshot
  type := type
  click := PageCalls.click
  press := PageCalls.withField "await page.keyboard.press" "key"
  focus := PageCalls.withField "await page.focus" "selector"
  hover := PageCalls.withField "await page.hover" "selector"
  scroll := PageCalls.scroll
  close := ["await page.close()"]
  teardown := teardown

end BrowserScript.Playwright
