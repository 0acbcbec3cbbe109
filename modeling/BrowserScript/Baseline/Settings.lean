import BrowserScript.Value.Literal

/-!
# Where the registry comes from

Variables of the environment name the file or the address of the registry and the time that a
connection may take. The file wins over the address. Empty variables count as absent.
-/

namespace BrowserScript.Baseline

structure Settings where
  registryPath : Option String := none
  registryUrl : String := "https://unpkg.com/web-features/data.json"
  /-- In seconds. -/
  fetchTimeout : Value := .float (Binary64.ofQuotient false 30 1)

namespace Settings

/-- The value of a variable that is set and not empty. -/
def setting? (environment : List (String × String)) (name : String) : Option String :=
  match environment.reverse.find? fun binding => binding.1 == name with
  | some (_, "") => none
  | some (_, value) => some value
  | none => none

def ofEnvironment (environment : List (String × String)) : Except Fault Settings := do
  let defaults : Settings := {}
  let limit ←
    match setting? environment "BASESCRIPT_FETCH_TIMEOUT" with
    | none => pure defaults.fetchTimeout
    | some text =>
        match Numeral.readFloat? text.toList with
        | some seconds => pure (Value.float seconds)
        | none => throw (.invalid (.number (← (Value.str text).literalText)))
  return {
    registryPath := setting? environment "BASESCRIPT_REGISTRY_PATH"
    registryUrl := (setting? environment "BASESCRIPT_REGISTRY_URL").getD defaults.registryUrl
    fetchTimeout := limit }

end Settings

end BrowserScript.Baseline
