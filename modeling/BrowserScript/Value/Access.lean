import BrowserScript.Value.Literal

/-!
# Access to the parts of values

Payloads are read without knowing their kind. A mapping answers for its keys; any other kind of
value is the wrong kind for an entry that must be there, and has no operation for one that may be
absent.
-/

namespace BrowserScript.Value

def field (value : Value) (name : String) : Except Fault Value :=
  match value with
  | .map entries =>
      match Entries.get? entries name with
      | some item => .ok item
      | none => .error (.missingKey (.str name))
  | _ => .error (.wrongKind ("'" ++ value.kindName ++ "' object is not subscriptable"))

def option? (value : Value) (name : String) : Except Fault (Option Value) :=
  match value with
  | .map entries => .ok (Entries.get? entries name)
  | _ => .error (.noOperation ("'" ++ value.kindName ++ "' object has no attribute 'get'"))

def optionOr (value : Value) (name : String) (other : Value) : Except Fault Value := do
  return (← value.option? name).getD other

def option (value : Value) (name : String) : Except Fault Value := value.optionOr name .null

def members : Value → Except Fault (List Value)
  | .list items => .ok items
  | .tuple items => .ok items
  | .set items => .ok items
  | .map entries => .ok (entries.map (·.1))
  | .str text => .ok (text.toList.map fun c => .str c.toString)
  | .bytes data => .ok (data.map fun byte => .int byte.toNat)
  | value => .error (.wrongKind ("'" ++ value.kindName ++ "' object is not iterable"))

/-- The value, or another one where it counts as false. -/
def orElse (value other : Value) : Value := if value.truthy then value else other

def isText (value : Value) (text : String) : Bool := value.equals (.str text)

def truncate : Value → Except Fault Int
  | .bool value => .ok (if value then 1 else 0)
  | .int value => .ok value
  | .float value =>
      match value with
      | .nan => .error (.invalid .notANumber)
      | .infinite _ => .error (.overflow .infinityToInteger)
      | finite => .ok (finite.truncate?.getD 0)
  | .str text => ofDigits (.str text) text.toList
  | .bytes data => ofDigits (.bytes data) (data.map byteChar)
  | value => .error (.wrongKind ("int() argument must be a string, a bytes-like object or a real "
      ++ "number, not '" ++ value.kindName ++ "'"))
where
  /-- The seven-bit character of a byte; other bytes are no part of an integer. -/
  byteChar (byte : UInt8) : Char := if byte < 0x80 then Char.ofNat byte.toNat else '\uFFFD'
  /-- The integer that a text denotes, the whole value being shown if it denotes none. -/
  ofDigits (shown : Value) (text : List Char) : Except Fault Int :=
    match Numeral.readInt text with
    | .value result => .ok result
    | .tooLong digits => .error (.invalid (.integerTooLong (some digits)))
    | .malformed => do throw (.invalid (.integer 10 (← shown.literalText)))

end BrowserScript.Value
