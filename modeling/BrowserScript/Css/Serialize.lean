import BrowserScript.Css.Component
import BrowserScript.Text.Digit

/-!
# From component values to text

Names are escaped where they would not read back, strings stand between quotation marks, and an
empty comment keeps two neighbours apart that would join to one token.
-/

namespace BrowserScript.Css

def escapeNameChar (c : Char) : String :=
  if c == '\n' then "\\A "
  else if c == '\r' then "\\D "
  else if c == '\x0c' then "\\C "
  else String.ofList ['\\', c]

def nameCharText (c : Char) : String :=
  if c.isAlphanum || c == '-' || c == '_' || 0x7f < c.toNat then c.toString else escapeNameChar c

def nameText (name : List Char) : String := String.join (name.map nameCharText)

def firstCharText (c : Char) : String :=
  if c.isAlpha || c == '_' || 0x7f < c.toNat then c.toString
  else if c.isDigit then "\\" ++ String.ofList (Text.hexFixed 2 c.toNat) ++ " "
  else escapeNameChar c

def identText (name : String) : String :=
  match name.toList with
  | ['-'] => "\\-"
  | '-' :: '-' :: rest => "--" ++ nameText rest
  | '-' :: c :: rest => "-" ++ firstCharText c ++ nameText rest
  | c :: rest => firstCharText c ++ nameText rest
  | [] => ""

def stringCharText (c : Char) : String :=
  if c == '"' then "\\\""
  else if c == '\\' then "\\\\"
  else if c == '\n' || c == '\r' || c == '\x0c' then escapeNameChar c
  else c.toString

def urlCharText (c : Char) : String :=
  if "'\"\\ ()".toList.contains c then String.ofList ['\\', c]
  else if c == '\t' then "\\9 "
  else if c == '\n' || c == '\r' || c == '\x0c' then escapeNameChar c
  else c.toString

def hexText (value : Nat) : String := String.ofList ((Nat.toDigits 16 value).map Char.toUpper)

/-- The text of a dimension; a unit that reads as an exponent is escaped. -/
def dimensionText (shown unit : String) : String :=
  match unit.toList with
  | [c] => if c == 'e' || c == 'E' then shown ++ "\\65 " else shown ++ identText unit
  | c :: '-' :: rest =>
      if c == 'e' || c == 'E' then shown ++ "\\65 " ++ nameText ('-' :: rest)
      else shown ++ identText unit
  | _ => shown ++ identText unit

def Damage.text : Damage → String
  | .string => "\"[bad string]\n"
  | .url => "url([bad url])"
  | .unmatched bracket => bracket.toString
  | .endInString => ""
  | .endInUrl => ""

/-- What decides whether two neighbours may touch: the kind of a token, or the punctuation. -/
def Component.kind : Component → String
  | .ident _ => "ident"
  | .atKeyword _ => "at-keyword"
  | .hash .. => "hash"
  | .string .. => "string"
  | .url .. => "url"
  | .unicodeRange .. => "unicode-range"
  | .whitespace _ => "whitespace"
  | .comment _ => "comment"
  | .literal text => text
  | .number _ => "number"
  | .percentage _ => "percentage"
  | .dimension .. => "dimension"
  | .damaged _ => "error"
  | .block .round _ => "() block"
  | .block .square _ => "[] block"
  | .block .curly _ => "\x7b\x7d block"
  | .function .. => "function"

def endsName (kind : String) : Bool := ["ident", "at-keyword", "hash", "dimension"].contains kind

def wouldJoin (left right : String) : Bool :=
  ((endsName left || ["#", "-", "number"].contains left)
      && ["ident", "function", "url", "number", "percentage", "dimension", "unicode-range"].contains
        right)
    || (endsName left && ["-", "-->"].contains right)
    || (["unicode-range", ".", "+"].contains left
      && ["number", "percentage", "dimension"].contains right)
    || (left == "@" && ["ident", "function", "url", "unicode-range", "-"].contains right)
    || (left == "unicode-range" && ["ident", "function", "?"].contains right)
    || (["$", "*", "^", "~", "|"].contains left && right == "=")
    || (left == "ident" && right == "() block")
    || (left == "|" && right == "|")
    || (left == "/" && right == "*")

/-- What stands between two neighbours, the first given by its kind. -/
def separator (left : String) (right : Component) : String :=
  if wouldJoin left right.kind then "/**/"
  else if left == "\\" then
    match right with
    | .whitespace text => if text.toList.head? == some '\n' then "" else "\n"
    | _ => "\n"
  else ""

mutual

/-- Whether the last argument, or the last of the functions that end the list, is a string that
the end of the text cuts off. -/
def endsInString : List Component → Bool
  | [] => false
  | [last] => cutInString last
  | _ :: rest => endsInString rest

/-- Whether a last argument is the mark of a cut string or a function that ends with one. -/
def cutInString : Component → Bool
  | .damaged .endInString => true
  | .function _ arguments => endsInString arguments
  | _ => false

end

mutual

def Component.text : Component → String
  | .ident name => identText name
  | .atKeyword name => "@" ++ identText name
  | .hash name isIdent => "#" ++ (if isIdent then identText name else nameText name.toList)
  | .string value closed =>
      "\"" ++ String.join (value.toList.map stringCharText) ++ (if closed then "\"" else "")
  | .url value closed =>
      "url(" ++ String.join (value.toList.map urlCharText) ++ (if closed then ")" else "")
  | .unicodeRange first last =>
      "U+" ++ hexText first ++ (if first == last then "" else "-" ++ hexText last)
  | .whitespace text => text
  | .comment text => "/*" ++ text ++ "*/"
  | .literal text => text
  | .number shown => shown
  | .percentage shown => shown ++ "%"
  | .dimension shown unit => dimensionText shown unit
  | .damaged damage => damage.text
  | .block .round content => "(" ++ serializeAfter "" content ++ ")"
  | .block .square content => "[" ++ serializeAfter "" content ++ "]"
  | .block .curly content => "\x7b" ++ serializeAfter "" content ++ "\x7d"
  | .function name arguments =>
      identText name ++ "(" ++ serializeAfter "" arguments
        ++ (if endsInString arguments then "" else ")")

/-- The text of components after a neighbour of a kind. -/
def serializeAfter (left : String) : List Component → String
  | [] => ""
  | component :: rest =>
      separator left component ++ component.text ++ serializeAfter component.kind rest

end

def serialize (components : List Component) : String := serializeAfter "" components

end BrowserScript.Css
