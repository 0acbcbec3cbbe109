/-!
# Log lines

Operations report what they did as a list of lines, in the order in which they were written.
-/

namespace BrowserScript

inductive LogLevel where
  | debug
  | info
  | warning
  | error
  deriving DecidableEq

def LogLevel.tag : LogLevel → String
  | .debug => "DEBUG"
  | .info => "INFO"
  | .warning => "WARNING"
  | .error => "ERROR"

/-- Whether a line of a level is shown, which for the least important one needs a wordy log. -/
def LogLevel.isShown (wordy : Bool) : LogLevel → Bool
  | .debug => wordy
  | _ => true

structure LogLine where
  level : LogLevel
  message : String
  deriving DecidableEq

end BrowserScript
