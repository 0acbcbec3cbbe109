/-!
# Component values

Style sheet text is a tree of component values: single tokens, and brackets or functions that
enclose others. Comments leave no trace when a text is read. The weight of a list counts the
components at all depths; what a bracket encloses weighs less than the list that the bracket stands
in.
-/

namespace BrowserScript.Css

inductive Bracket where
  | round
  | square
  | curly
  deriving DecidableEq

/-- What is left of text that forms no token. -/
inductive Damage where
  /-- A string that a line break cuts off. -/
  | string
  | url
  /-- A closing bracket without its opening one. -/
  | unmatched (bracket : Char)
  /-- The mark after a string that the end of the text cuts off. -/
  | endInString
  /-- The mark after an address that the end of the text cuts off. -/
  | endInUrl
  deriving DecidableEq

inductive Component where
  | ident (name : String)
  | atKeyword (name : String)
  /-- A name after a number sign, and whether it could stand alone as an identifier. -/
  | hash (name : String) (isIdent : Bool)
  /-- A string, and whether its closing mark is there. -/
  | string (text : String) (closed : Bool)
  /-- An address, and whether its closing bracket is there. -/
  | url (text : String) (closed : Bool)
  | unicodeRange (first last : Nat)
  | whitespace (text : String)
  | comment (text : String)
  /-- Punctuation of one or more characters. -/
  | literal (text : String)
  | number (shown : String)
  | percentage (shown : String)
  | dimension (shown : String) (unit : String)
  | damaged (damage : Damage)
  | block (bracket : Bracket) (content : List Component)
  | function (name : String) (arguments : List Component)
  deriving Inhabited

namespace Component

mutual

/-- The number of components of a tree. -/
def weight : Component → Nat
  | .block _ content => totalWeight content + 1
  | .function _ arguments => totalWeight arguments + 1
  | _ => 1

def totalWeight : List Component → Nat
  | [] => 0
  | component :: components => weight component + totalWeight components

end

def isLiteral (component : Component) (text : String) : Bool :=
  match component with
  | .literal other => other == text
  | _ => false

def isWhitespace : Component → Bool
  | .whitespace _ => true
  | _ => false

/-- Whether a component is passed over between others: blank space or a comment. -/
def isGap (component : Component) : Bool :=
  match component with
  | .comment _ => true
  | _ => component.isWhitespace

end Component

end BrowserScript.Css
