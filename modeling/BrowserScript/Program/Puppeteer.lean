import BrowserScript.Program.PageCalls

/-!
# The puppeteer dialect
-/

namespace BrowserScript.Puppeteer

def assertionHelper : List String :=
  ["async def check_assertion(page, options):",
   "    \"\"\"Locate the element with Puppeteer primitives and evaluate the assertion.\"\"\"",
   "    selector = options[\"selector\"]",
   "    try:",
   "        if options.get(\"timeout\"):",
   "            await page.waitForSelector(selector, \x7b\"timeout\": parse_timeout(options[\"timeout\"])\x7d)",
   "        element = await page.querySelector(selector)",
   "        text = \"\"",
   "        if element:",
   "            text = await page.querySelectorEval(selector, \"el => (el.textContent || '').trim()\")",
   "        visible = await element.isIntersectingViewport() if element and \"visible\" in options else False",
   "        passed, message = evaluate_assertion(options, element is not None, text, visible)",
   "    except Exception as exc:",
   "        passed, message = False, f\"Assertion error: \x7bexc\x7d\"",
   "    return settle_assertion(options, passed, message)",
   ""]

/-- An entry under another name, left out when it is null. -/
def renamed (name : String) (value : Value) : Entries :=
  if value.isNull then [] else [(.str name, value)]

def browser (payload : Value) : Except Fault Block := do
  let opener ←
    if (← payload.field "mode").isText "launch" then do
      let launch := (← payload.option "launch").orElse (.map [])
      let options := (.str "headless", ← launch.optionOr "headless" (.bool false))
        :: renamed "executablePath" (← launch.option "executablePath")
        ++ renamed "defaultViewport" (← launch.option "viewport")
      pure ("browser = await launch(" ++ (← (Value.map options).literalText) ++ ")")
    else do
      let address ← (← payload.field "connect").field "wsUrl"
      let endpoint := Value.map [(.str "browserWSEndpoint", address)]
      pure ("browser = await connect(" ++ (← endpoint.literalText) ++ ")")
  return [opener, "page = await browser.newPage()"]

def goto (payload : Value) : Except Fault Block := do
  let options := Value.map [(.str "waitUntil", ← payload.optionOr "waitUntil" (.str "load"))]
  let address ← (← payload.field "url").literalText
  return ["await page.goto(" ++ address ++ ", " ++ (← options.literalText) ++ ")"]

def screenshot (payload : Value) : Except Fault Block := do
  let path ← payload.field "path"
  let options := (.str "path", path) :: renamed "fullPage" (← payload.option "fullPage")
  return ["await page.screenshot(" ++ (← (Value.map options).literalText) ++ ")"]

def type (payload : Value) : Except Fault Block := do
  let options := Value.map [(.str "delay", ← PageCalls.keyDelay payload)]
  let selector ← (← payload.field "selector").literalText
  let text ← (← payload.field "text").literalText
  return ["await page.type(" ++ selector ++ ", " ++ text ++ ", " ++ (← options.literalText) ++ ")"]

def teardown (payload : Value) : Except Fault Block := do
  if (← payload.field "operation").isText "close" then return ["await browser.close()"]
  else return ["await browser.disconnect()"]

def dialect : Dialect where
  backend := .puppeteer
  target := "page"
  imports := ["from pyppeteer import connect, launch"]
  assertionHelper := assertionHelper
  assertionCall := "await check_assertion"
  browser := browser
  newPage := ["page = await browser.newPage()"]
  emulate := fun _ => .ok (Block.unsupported .emulate .puppeteer)
  goto := goto
  waitForSelector := PageCalls.withField "await page.waitForSelector" "selector"
  screenshot := screenshot
  type := type
  click := PageCalls.click
  press := PageCalls.withField "await page.keyboard.press" "key"
  focus := PageCalls.withField "await page.focus" "selector"
  hover := PageCalls.withField "await page.hover" "selector"
  scroll := PageCalls.scroll
  close := ["await page.close()"]
  teardown := teardown

end BrowserScript.Puppeteer
