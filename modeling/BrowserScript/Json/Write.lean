import BrowserScript.Value.Access

/-!
# Writing JSON

A layout says whether other than seven-bit characters are escaped, whether the text is spread over
lines, and whether values that JSON lacks are shown as texts.
-/

namespace BrowserScript.Json

structure Layout where
  sevenBit : Bool
  /-- The spaces by which each level is indented, one line for the whole text without. -/
  indent : Option Nat
  /-- Whether other values are written as the text that shows them. -/
  showOthers : Bool

def unitEscape (unit : Nat) : List Char := '\\' :: 'u' :: Text.hexFixed 4 unit

def charText (sevenBit : Bool) (c : Char) : List Char :=
  let point := c.toNat
  if c == '"' then ['\\', '"']
  else if c == '\\' then ['\\', '\\']
  else if c == '\n' then ['\\', 'n']
  else if c == '\r' then ['\\', 'r']
  else if c == '\t' then ['\\', 't']
  else if point == 8 then ['\\', 'b']
  else if point == 12 then ['\\', 'f']
  else if point < 0x20 then unitEscape point
  else if sevenBit && 0x7e < point then
    if point < 0x10000 then unitEscape point
    else
      unitEscape (0xd800 + (point - 0x10000) / 0x400)
        ++ unitEscape (0xdc00 + (point - 0x10000) % 0x400)
  else [c]

def stringText (sevenBit : Bool) (text : List Char) : List Char :=
  '"' :: text.flatMap (charText sevenBit) ++ ['"']

def floatText : Binary64 → List Char
  | .nan => "NaN".toList
  | .infinite true => "-Infinity".toList
  | .infinite false => "Infinity".toList
  | number => number.text

/-- The name of a member: texts, numbers, truth values and null have one. -/
def keyText : Value → Except Fault (List Char)
  | .str text => .ok text.toList
  | .null => .ok "null".toList
  | .bool true => .ok "true".toList
  | .bool false => .ok "false".toList
  | .int value => Value.integerText value
  | .float value => .ok (floatText value)
  | value => .error (.wrongKind
      ("keys must be str, int, float, bool or None, not " ++ value.kindName))

/-- The line end and indentation before a part on a level. -/
def lineStart (layout : Layout) (level : Nat) : List Char :=
  match layout.indent with
  | none => []
  | some width => '\n' :: List.replicate (width * level) ' '

def enclosed (layout : Layout) (level : Nat) (opening closing : Char) (parts : List (List Char)) :
    List Char :=
  if parts.isEmpty then [opening, closing]
  else
    let comma := if layout.indent.isSome then [','] else [',', ' ']
    opening :: lineStart layout (level + 1)
      ++ joined (comma ++ lineStart layout (level + 1)) parts
      ++ lineStart layout level ++ [closing]

mutual

def valueText (layout : Layout) (level : Nat) : Value → Except Fault (List Char)
  | .null => .ok "null".toList
  | .bool true => .ok "true".toList
  | .bool false => .ok "false".toList
  | .int value => Value.integerText value
  | .float value => .ok (floatText value)
  | .str text => .ok (stringText layout.sevenBit text.toList)
  | .list items => do
      return enclosed layout level '[' ']' (← itemTexts layout (level + 1) items)
  | .tuple items => do
      return enclosed layout level '[' ']' (← itemTexts layout (level + 1) items)
  | .map entries => do
      return enclosed layout level '\x7b' '\x7d' (← memberTexts layout (level + 1) entries)
  | value =>
      if layout.showOthers then do
        return stringText layout.sevenBit (← value.display).toList
      else
        .error (.wrongKind ("Object of type " ++ value.kindName ++ " is not JSON serializable"))

def itemTexts (layout : Layout) (level : Nat) : List Value → Except Fault (List (List Char))
  | [] => .ok []
  | item :: items => do
      let first ← valueText layout level item
      return first :: (← itemTexts layout level items)

def memberTexts (layout : Layout) (level : Nat) :
    List (Value × Value) → Except Fault (List (List Char))
  | [] => .ok []
  | (key, value) :: entries => do
      let name ← keyText key
      let item ← valueText layout level value
      return (stringText layout.sevenBit name ++ ':' :: ' ' :: item)
        :: (← memberTexts layout level entries)

end

def write (layout : Layout) (value : Value) : Except Fault String := do
  return String.ofList (← valueText layout 0 value)

end BrowserScript.Json
