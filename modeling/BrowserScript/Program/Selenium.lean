import BrowserScript.Program.Dialect
import BrowserScript.Text.Casing

/-!
# The selenium dialect

Calls are synchronous and act on a driver. Positions of clicks are whole numbers.
-/

namespace BrowserScript.Selenium

def imports : List String :=
  ["from selenium import webdriver",
   "from selenium.webdriver.common.action_chains import ActionChains",
   "from selenium.webdriver.common.actions.action_builder import ActionBuilder",
   "from selenium.webdriver.common.by import By",
   "from selenium.webdriver.common.keys import Keys",
   "from selenium.webdriver.support import expected_conditions as EC",
   "from selenium.webdriver.support.ui import WebDriverWait"]

def assertionHelper : List String :=
  ["def check_assertion(driver, options):",
   "    \"\"\"Locate the element with WebDriver primitives and evaluate the assertion.\"\"\"",
   "    selector = options[\"selector\"]",
   "    try:",
   "        if options.get(\"timeout\"):",
   "            WebDriverWait(driver, parse_timeout(options[\"timeout\"]) / 1000).until(",
   "                EC.presence_of_element_located((By.CSS_SELECTOR, selector))",
   "            )",
   "        elements = driver.find_elements(By.CSS_SELECTOR, selector)",
   "        element = elements[0] if elements else None",
   "        text = element.text.strip() if element else \"\"",
   "        visible = element.is_displayed() if element and \"visible\" in options else False",
   "        passed, message = evaluate_assertion(options, element is not None, text, visible)",
   "    except Exception as exc:",
   "        passed, message = False, f\"Assertion error: \x7bexc\x7d\"",
   "    return settle_assertion(options, passed, message)",
   ""]

/-- The line that sets the program of the browser, if one is given. -/
def binaryLines (path : Value) : Except Fault Block := do
  if path.isNull then return []
  else return ["options.binary_location = " ++ (← path.literalText)]

/-- The line that sets the size of the window, if one is given. -/
def sizeLines (viewport : Value) : Except Fault Block := do
  if viewport.isNull then return []
  else
    let width ← (← viewport.field "width").literalText
    let height ← (← viewport.field "height").literalText
    return ["driver.set_window_size(" ++ width ++ ", " ++ height ++ ")"]

def browser (payload : Value) : Except Fault Block := do
  if (← payload.field "mode").isText "launch" then
    let launch := (← payload.option "launch").orElse (.map [])
    let headless := if (← launch.option "headless").truthy
      then ["options.add_argument(\"--headless=new\")"] else []
    let binary ← binaryLines (← launch.option "executablePath")
    let size ← sizeLines (← launch.option "viewport")
    return "options = webdriver.ChromeOptions()" :: headless ++ binary
      ++ "driver = webdriver.Chrome(options=options)" :: size
  else
    let address ← (← (← payload.field "connect").field "wsUrl").literalText
    return ["driver = webdriver.Remote(command_executor=" ++ address
      ++ ", options=webdriver.ChromeOptions())"]

/-- An underscore before every capital letter of a name but a first one. -/
def splitCapitals : List Char → List Char
  | [] => []
  | c :: rest => if 'A' ≤ c && c ≤ 'Z' then '_' :: c :: splitCapitals rest else c :: splitCapitals rest

/-- The constant that a key is known by: its words in capitals, joined by underscores. -/
def keyConstant (key : List Char) : List Char :=
  match key with
  | [] => []
  | first :: rest => Text.upper (first :: splitCapitals rest)

def find (selector : Value) : Except Fault String := do
  return "driver.find_element(By.CSS_SELECTOR, " ++ (← selector.literalText) ++ ")"

def goto (payload : Value) : Except Fault Block := do
  return ["driver.get(" ++ (← (← payload.field "url").literalText) ++ ")"]

def waitForSelector (payload : Value) : Except Fault Block := do
  return ["WebDriverWait(driver, 10).until(EC.presence_of_element_located((By.CSS_SELECTOR, "
    ++ (← (← payload.field "selector").literalText) ++ ")))"]

def screenshot (payload : Value) : Except Fault Block := do
  return ["driver.save_screenshot(" ++ (← (← payload.field "path").literalText) ++ ")"]

def type (payload : Value) : Except Fault Block := do
  let element ← find (← payload.field "selector")
  let text ← (← payload.field "text").literalText
  return [element ++ ".clear()", element ++ ".send_keys(" ++ text ++ ")"]

def coordinate (coords : Value) (name : String) : Except Fault String := do
  let whole ← (← coords.field name).truncate
  return String.ofList (← Value.integerText whole)

def click (payload : Value) : Except Fault Block := do
  if (← payload.option "selector").isNull then
    let coords ← payload.field "coords"
    let x ← coordinate coords "x"
    let y ← coordinate coords "y"
    return ["actions = ActionBuilder(driver)",
      "actions.pointer_action.move_to_location(" ++ x ++ ", " ++ y ++ ")",
      "actions.pointer_action.click()",
      "actions.perform()"]
  else return [(← find (← payload.field "selector")) ++ ".click()"]

def press (payload : Value) : Except Fault Block := do
  match ← payload.field "key" with
  | .str key =>
      let constant := String.ofList (Quoted.encode (keyConstant key.toList))
      let literal ← (Value.str key).literalText
      return ["ActionChains(driver).send_keys(getattr(Keys, " ++ constant ++ ", " ++ literal
        ++ ")).perform()"]
  | other =>
      throw (.wrongKind ("expected string or bytes-like object, got '" ++ other.kindName ++ "'"))

def focus (payload : Value) : Except Fault Block := do
  return ["driver.execute_script(\"arguments[0].focus();\", "
    ++ (← find (← payload.field "selector")) ++ ")"]

def hover (payload : Value) : Except Fault Block := do
  return ["ActionChains(driver).move_to_element(" ++ (← find (← payload.field "selector"))
    ++ ").perform()"]

def execute (script : String) (arguments : List String) : Except Fault Block := do
  return ["driver.execute_script("
    ++ String.intercalate ", " ((← (Value.str script).literalText) :: arguments) ++ ")"]

def scroll (payload : Value) : Except Fault Block := do
  let target ← payload.option "to"
  if target.isNull then
    let offset ← payload.field "by"
    let dx ← (← offset.field "dx").literalText
    let dy ← (← offset.field "dy").literalText
    execute "window.scrollBy(arguments[0], arguments[1]);" [dx, dy]
  else if (← target.option "selector").isNull then
    let coords ← target.field "coords"
    let x ← (← coords.field "x").literalText
    let y ← (← coords.field "y").literalText
    execute "window.scrollTo(arguments[0], arguments[1]);" [x, y]
  else
    let selector ← (← target.field "selector").literalText
    execute ("const el = document.querySelector(arguments[0]); "
      ++ "if (el) \x7b el.scrollIntoView(\x7b behavior: 'smooth', block: 'center' \x7d); \x7d")
      [selector]

def dialect : Dialect where
  backend := .selenium
  target := "driver"
  imports := imports
  assertionHelper := assertionHelper
  assertionCall := "check_assertion"
  browser := browser
  newPage := ["driver.switch_to.new_window(\"tab\")"]
  emulate := fun _ => .ok (Block.unsupported .emulate .selenium)
  goto := goto
  waitForSelector := waitForSelector
  screenshot := screenshot
  type := type
  click := click
  press := press
  focus := focus
  hover := hover
  scroll := scroll
  close := ["driver.close()"]
  teardown := fun _ => .ok ["driver.quit()"]

end BrowserScript.Selenium
