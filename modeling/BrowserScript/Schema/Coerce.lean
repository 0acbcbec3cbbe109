import BrowserScript.Text.Casing
import BrowserScript.Url.Address
import BrowserScript.Value.Access

/-!
# Plain kinds of fields

Each kind accepts the values that denote one of its members, and gives the reason for which it
does not accept the others. Texts may be given as their bytes, truth values and numbers also as
texts.
-/

namespace BrowserScript.Schema

/-- The reason for which a value is not accepted, none for one that is. -/
abbrev Reason := Option String

/-- The text that a value is or whose bytes it is. The outer result is none for values of other
kinds, the inner one for bytes that are no text. -/
def textOf? : Value → Option (Option (List Char))
  | .str text => some (some text.toList)
  | .bytes data => some ((String.fromUTF8? ⟨data.toArray⟩).map String.toList)
  | _ => none

def textReason (value : Value) : Reason :=
  match textOf? value with
  | some (some _) => none
  | some none => some "Input should be a valid string, unable to parse raw data as a unicode string"
  | none => some "Input should be a valid string"

/-- Whether a character is a digit in the patterns of texts, which know the later tables. -/
def isPatternDigit (c : Char) : Bool := Text.isDigit c || Text.isLaterDigit c

def durationReason (value : Value) : Reason :=
  match textOf? value with
  | some (some text) =>
      if text.any isPatternDigit then none else some "String should match pattern '\\d+'"
  | _ => textReason value

def truthWords : List String :=
  ["0", "off", "f", "false", "n", "no", "1", "on", "t", "true", "y", "yes"]

/-- The first whole number above those of 64 bits with sign. -/
def wordLimit : Int := 0x8000000000000000

def wholeFloat? (number : Binary64) : Option Int :=
  number.whole?.filter fun whole => -wordLimit < whole && whole < wordLimit

def truthReason (value : Value) : Reason :=
  let unclear := some "Input should be a valid boolean, unable to interpret input"
  let wrong := some "Input should be a valid boolean"
  let ofWhole (whole : Int) : Reason := if whole == 0 || whole == 1 then none else unclear
  match value with
  | .bool _ => none
  | .int whole => if -wordLimit ≤ whole && whole < wordLimit then ofWhole whole else wrong
  | .float number =>
      match wholeFloat? number with
      | some whole => ofWhole whole
      | none => wrong
  | _ =>
      match textOf? value with
      | some (some text) =>
          if truthWords.contains (String.ofList (Text.lowerAscii text)) then none else unclear
      | some none => unclear
      | none => wrong

namespace WholeText

/-- A number without the zeros in front of it. Underscores between them are passed over, a zero
before the point is kept; other characters refuse the text. -/
def dropZeros? (previous : Char) : List Char → Option (List Char)
  | [] => some [previous]
  | c :: rest =>
      if c == '0' || c == '_' then dropZeros? c rest
      else if c == '.' then some (previous :: c :: rest)
      else if c == '-' || '1' ≤ c && c ≤ '9' then some (c :: rest)
      else none

/-- A text that starts with a digit or a sign, without zeros in front. -/
def leading? : List Char → Option (List Char)
  | [] => none
  | c :: rest =>
      if c == '0' then dropZeros? c rest
      else if c == '-' || '1' ≤ c && c ≤ '9' then some (c :: rest)
      else none

def dropFraction (text : List Char) : List Char :=
  let whole := text.takeWhile (· != '.')
  if (text.drop (whole.length + 1)).all (· == '0') then whole else text

/-- A text without its underscores, if all of them stand alone inside it. -/
def dropUnderscores (text : List Char) : List Char :=
  if text.head? == some '_' || text.getLast? == some '_' || hasDouble text then text
  else text.filter (· != '_')
where
  /-- Whether two underscores stand side by side. -/
  hasDouble : List Char → Bool
    | '_' :: '_' :: _ => true
    | _ :: rest => hasDouble rest
    | [] => false

/-- Whether a text is a sign and digits without zeros in front. -/
def isPlain (text : List Char) : Bool :=
  let digits := if text.head? == some '-' then text.drop 1 else text
  !digits.isEmpty && digits.all Char.isDigit && (digits.length == 1 || digits.head? != some '0')

def clean? (text : List Char) : Option (List Char) := do
  let trimmed := Text.trimSpace text
  let unsigned :=
    match trimmed with
    | '+' :: '-' :: _ => trimmed
    | '+' :: rest => rest
    | _ => trimmed
  let plain := dropUnderscores (dropFraction (← leading? unsigned))
  if isPlain plain then some plain else none

end WholeText

def wholeReason (value : Value) : Reason :=
  let tooLong := some "Unable to parse input string as an integer, exceeded maximum size"
  let unclear := some "Input should be a valid integer, unable to parse string as an integer"
  match value with
  | .bool _ => none
  | .int _ => none
  | .float number =>
      if !number.isFinite then some "Input should be a finite number"
      else if number.whole?.isNone then
        some "Input should be a valid integer, got a number with a fractional part"
      else if (wholeFloat? number).isNone then tooLong
      else none
  | _ =>
      match textOf? value with
      | some (some text) =>
          match WholeText.clean? text with
          | some digits => if integerDigitLimit < digits.length then tooLong else none
          | none => unclear
      | some none => unclear
      | none => some "Input should be a valid integer"

def isNumberText (text : List Char) : Bool :=
  (Numeral.readPlain? (Text.trimSpace text)).isSome
    || text.contains '_' && (Numeral.readPlain? (WholeText.dropUnderscores text)).isSome

/-- Numbers, also as texts; an integer must not be too large for a floating-point number. -/
def numberReason (value : Value) : Reason :=
  let unclear := some "Input should be a valid number, unable to parse string as a number"
  let wrong := some "Input should be a valid number"
  match value with
  | .bool _ => none
  | .float _ => none
  | .int whole => if (Binary64.ofInt whole).isFinite then none else wrong
  | _ =>
      match textOf? value with
      | some (some text) => if isNumberText text then none else unclear
      | some none => unclear
      | none => wrong

def urlReason (value : Value) : Reason :=
  match textOf? value with
  | some (some text) =>
      (Url.refusal? (String.ofList text)).map fun refusal =>
        "Input should be a valid URL, " ++ refusal.message
  | _ => some "URL input should be a string or URL"

end BrowserScript.Schema
