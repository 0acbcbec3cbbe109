import BrowserScript.Value.Basic

/-!
# Faults

The causes for which an operation gives no result, and the wording of those that have one.
-/

namespace BrowserScript

/-- The stage at which a document text is refused. -/
inductive Unreadable where
  /-- A character that no document may hold. -/
  | character
  /-- Characters that form no token. -/
  | token
  /-- Tokens in an order that the grammar does not allow. -/
  | grammar
  /-- Anchors or documents that do not compose to one tree. -/
  | composition
  /-- A tree that denotes no value. -/
  | construction
  deriving DecidableEq

inductive InvalidValue where
  /-- A token without digits, with its literal. -/
  | duration (shown : String)
  /-- An integer with more digits than text may have, with their number when it is read. -/
  | integerTooLong (digits : Option Nat)
  /-- A text that is no integer in a base, with its literal, of which the start is shown. -/
  | integer (base : Nat) (shown : String)
  /-- A text that is no number, with its literal. -/
  | number (shown : String)
  /-- A value that names no backend, with its literal. -/
  | backend (shown : String)
  /-- A program without a framework. -/
  | noFramework
  /-- A number that is not one has no integer part. -/
  | notANumber
  | calendar (fault : CalendarFault)
  | other (text : String)

def CalendarFault.message : CalendarFault → String
  | .year value => "year " ++ String.ofList (natText value) ++ " is out of range"
  | .month => "month must be in 1..12"
  | .day => "day is out of range for month"
  | .hour => "hour must be in 0..23"
  | .minute => "minute must be in 0..59"
  | .second => "second must be in 0..59"
  | .ahead days seconds =>
      "offset must be a timedelta strictly between -timedelta(hours=24) and "
        ++ "timedelta(hours=24), not datetime.timedelta(days=" ++ String.ofList (intText days)
        ++ (if seconds == 0 then "" else ", seconds=" ++ String.ofList (natText seconds)) ++ ")."

def InvalidValue.message : InvalidValue → String
  | .duration shown => "Invalid duration: " ++ shown
  | .integerTooLong none =>
      "Exceeds the limit (4300 digits) for integer string conversion; "
        ++ "use sys.set_int_max_str_digits() to increase the limit"
  | .integerTooLong (some digits) =>
      "Exceeds the limit (4300 digits) for integer string conversion: value has "
        ++ String.ofList (natText digits)
        ++ " digits; use sys.set_int_max_str_digits() to increase the limit"
  | .integer base shown =>
      "invalid literal for int() with base " ++ String.ofList (natText base) ++ ": "
        ++ String.ofList (shown.toList.take 200)
  | .number shown => "could not convert string to float: " ++ shown
  | .backend shown => shown ++ " is not a valid Backend"
  | .noFramework => "IR has no framework command"
  | .notANumber => "cannot convert float NaN to integer"
  | .calendar fault => fault.message
  | .other text => text

inductive Overflow where
  | infinityToInteger
  | quotient
  | integerToFloat
  | codePoint
  | repetition
  deriving DecidableEq

def Overflow.message : Overflow → String
  | .infinityToInteger => "cannot convert float infinity to integer"
  | .quotient => "integer division result too large for a float"
  | .integerToFloat => "int too large to convert to float"
  | .codePoint => "Python int too large to convert to C int"
  | .repetition => "the repetition number is too large"

structure Violation where
  field : String
  message : String
  deriving DecidableEq

inductive Fault where
  /-- A value of a kind that the operation does not take. -/
  | wrongKind (text : String)
  /-- A value without the operation that is asked of it. -/
  | noOperation (text : String)
  | outOfBounds
  | missingKey (key : Value)
  /-- A mapping without a first entry. -/
  | nothingFirst
  | invalid (cause : InvalidValue)
  | overflow (cause : Overflow)
  | badPattern
  /-- A byte sequence that is no text. -/
  | undecodable (text : String)
  | violation (violation : Violation)
  | unreadable (stage : Unreadable)
  | registry (text : String)
  | assertion (text : String)
  /-- A script that failed in the page. -/
  | page (text : String)
  /-- An answer of the network that did not arrive. -/
  | network (text : String)

end BrowserScript
