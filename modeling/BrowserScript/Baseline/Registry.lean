import BrowserScript.Files
import BrowserScript.Json.Read
import BrowserScript.Log

/-!
# The feature registry

A registry holds an entry for each feature of the web platform, as it was published. It is read
from a file or from an answer of the network.
-/

namespace BrowserScript.Baseline

structure Registry where
  features : Entries

namespace Registry

/-- The registry in published data: the features alone, or under the key that holds them. -/
def ofValue (data : Value) : Except Fault Registry :=
  match data with
  | .map entries =>
      match Entries.get? entries "features" with
      | some (.map features) => .ok ⟨features⟩
      | _ => .ok ⟨entries⟩
  | other => .error (.registry ("registry must be a JSON object, got " ++ other.kindName))

def countText (registry : Registry) : String := String.ofList (natText registry.features.length)

/-- The registry in a text; what is wrong with the text is told after an introduction. -/
def ofText (introduction : String) (text : List Char) : Except Fault Registry :=
  match Json.read text with
  | .ok data => ofValue data
  | .error (.problem cause index) =>
      .error (.registry (introduction ++ Json.problemText text cause index))
  | .error (.tooLong digits) => .error (.invalid (.integerTooLong (some digits)))

/-- The registry in a file. A path holds no character that ends a name. -/
def ofFile (files : Files) (path : String) : Except Fault (Registry × LogLine) :=
  let introduction := "cannot read registry " ++ path ++ ": "
  if path.toList.contains '\x00' then .error (.invalid (.other "embedded null byte"))
  else match files.readBytes path with
    | .ok data => do
        let registry ← ofText introduction (Files.plainLines (← Text.Utf8.decode data))
        return (registry,
          ⟨.debug, "Loaded " ++ registry.countText ++ " features from " ++ path⟩)
    | .error text => .error (.registry (introduction ++ text))

def ofAnswer (url body : String) : Except Fault (Registry × LogLine) := do
  let registry ← ofText ("cannot fetch registry " ++ url ++ ": ") body.toList
  return (registry, ⟨.debug, "Fetched " ++ registry.countText ++ " features from " ++ url⟩)

end Registry

end BrowserScript.Baseline
