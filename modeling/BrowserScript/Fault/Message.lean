import BrowserScript.Value.Literal

/-!
# The wording of faults
-/

namespace BrowserScript

def Fault.message : Fault → String
  | .wrongKind text => text
  | .noOperation text => text
  | .outOfBounds => "list index out of range"
  | .missingKey key => key.literalText.toOption.getD ""
  | .nothingFirst => ""
  | .invalid cause => cause.message
  | .overflow cause => cause.message
  | .badPattern => "invalid pattern"
  | .undecodable text => text
  | .violation broken => broken.field ++ ": " ++ broken.message
  | .unreadable _ => "<document>: invalid YAML"
  | .registry text => text
  | .assertion text => text
  | .page text => text
  | .network text => text

end BrowserScript
