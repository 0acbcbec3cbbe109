import BrowserScript.Yaml.Cursor
import BrowserScript.Yaml.Token
import BrowserScript.Text.Digit
import BrowserScript.Number.Notation

/-!
# Anchors, tags and directives

The names and addresses that stand before nodes and documents.
-/

namespace BrowserScript.Yaml.Property

open Scan

def name : Scan (List Char) := do
  let taken ← span isNameChar
  require (!taken.isEmpty)
  return taken

/-- The name of an anchor or alias after its indicator. -/
def anchorName : Scan String := do
  skip 1
  let taken ← name
  let next ← peek 0
  require (endsWord next || (next.any fun c => "?:,]\x7d%@`".toList.contains c))
  return String.ofList taken

def isUriChar (c : Char) : Bool :=
  c.isAlphanum || "-;/?:@&=+$,_.!~*'()[]%".toList.contains c

def escapedBytes : Nat → Scan (List UInt8)
  | 0 => return []
  | rounds + 1 => do
      if (← peek 0) == some '%' then
        skip 1
        let digits := (← get).rest.take 2
        require (digits.length == 2 && digits.all Text.isHexDigit)
        skip 2
        return UInt8.ofNat (Text.ofHex digits) :: (← escapedBytes rounds)
      else return []

def uriFrom : Nat → Scan (List Char)
  | 0 => return []
  | rounds + 1 => do
      let taken ← span fun c => isUriChar c && c != '%'
      if (← peek 0) == some '%' then
        let bytes ← escapedBytes rounds
        match String.fromUTF8? ⟨bytes.toArray⟩ with
        | some text => return taken ++ text.toList ++ (← uriFrom rounds)
        | none => refuse
      else return taken

def uri : Scan String := do
  require ((← peek 0).any isUriChar)
  return String.ofList (← uriFrom ((← get).rest.length + 1))

/-- A handle: a name between exclamation marks, or one mark before a space. -/
def handle : Scan String := do
  require ((← peek 0) == some '!')
  let names := ((← get).rest.drop 1).takeWhile isNameChar
  if (← peek 1) == some ' ' then
    skip 1
    return "!"
  else
    require ((← peek (names.length + 1)) == some '!')
    skip (names.length + 2)
    return String.ofList ('!' :: names ++ ['!'])

/-- Whether a tag names its handle: a second mark stands before the next space. -/
def namesHandle (rest : List Char) : Bool :=
  (rest.takeWhile fun c => !endsField (some c)).contains '!'

def tag : Scan Token := do
  let result ←
    match ← peek 1 with
    | some '<' => do
        skip 2
        let address ← uri
        require ((← peek 0) == some '>')
        skip 1
        pure (Token.tag none address)
    | next =>
        if endsWord next then do
          skip 1
          pure (Token.tag none "!")
        else if namesHandle ((← get).rest.drop 1) then do
          let named ← handle
          pure (Token.tag (some named) (← uri))
        else do
          skip 1
          pure (Token.tag (some "!") (← uri))
  require (endsField (← peek 0))
  return result

def versionNumber : Scan Nat := do
  let digits ← span Char.isDigit
  require (!digits.isEmpty)
  if integerDigitLimit < digits.length then
    throw (.invalid (.integerTooLong (some digits.length)))
  return Numeral.ofDigits digits

def directiveOf (word : String) : Scan Directive := do
  if word == "YAML" then
    let _ ← span (· == ' ')
    let major ← versionNumber
    require ((← peek 0) == some '.')
    skip 1
    let _ ← versionNumber
    require (endsField (← peek 0))
    return .version major
  else if word == "TAG" then
    let _ ← span (· == ' ')
    let named ← handle
    require ((← peek 0) == some ' ')
    let _ ← span (· == ' ')
    let address ← uri
    require (endsField (← peek 0))
    return .handle named address
  else
    let _ ← span fun c => !isBreak c
    return .other

def directive : Scan Token := do
  skip 1
  let word ← name
  require (endsField (← peek 0))
  let result ← directiveOf (String.ofList word)
  emptyLine
  return .directive result

end BrowserScript.Yaml.Property
