import BrowserScript.Program.Dialect

/-!
# Calls on a page object

Two of the libraries offer a page object with the same calls for clicks, keys and scrolling.
-/

namespace BrowserScript.PageCalls

def scrollIntoView : String :=
  "(selector) => \x7b const el = document.querySelector(selector); "
    ++ "if (el) \x7b el.scrollIntoView(\x7b behavior: 'smooth', block: 'center' \x7d); \x7d \x7d"

def scrollTo : String := "(coords) => \x7b window.scrollTo(coords.x, coords.y); \x7d"

def scrollBy : String := "(by) => \x7b window.scrollBy(by.dx, by.dy); \x7d"

def withField (call name : String) (payload : Value) : Except Fault Block := do
  return [call ++ "(" ++ (← (← payload.field name).literalText) ++ ")"]

def click (payload : Value) : Except Fault Block := do
  if (← payload.option "selector").isNull then
    let coords ← payload.field "coords"
    let x ← (← coords.field "x").literalText
    let y ← (← coords.field "y").literalText
    return ["await page.mouse.click(" ++ x ++ ", " ++ y ++ ")"]
  else withField "await page.click" "selector" payload

def evaluate (function : String) (argument : Value) : Except Fault Block := do
  return ["await page.evaluate(" ++ (← (Value.str function).literalText) ++ ", "
    ++ (← argument.literalText) ++ ")"]

def scroll (payload : Value) : Except Fault Block := do
  let target ← payload.option "to"
  if target.isNull then evaluate scrollBy (← payload.field "by")
  else if (← target.option "selector").isNull then evaluate scrollTo (← target.field "coords")
  else evaluate scrollIntoView (← target.field "selector")

def keyDelay (payload : Value) : Except Fault Value := do
  Duration.milliseconds (← payload.optionOr "delay" (.str "0ms"))

end BrowserScript.PageCalls
