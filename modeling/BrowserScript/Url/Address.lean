import BrowserScript.Url.Host

/-!
# Addresses

An address has a scheme; those of the web and of files have a host with a name. Only the scheme,
host and port can make a text no address: all of the path, query and fragment is taken.
-/

namespace BrowserScript.Url

inductive Scheme where
  | web
  | file
  | other
  deriving DecidableEq

def Scheme.ofName (name : List Char) : Scheme :=
  let word := String.ofList (name.map Char.toLower)
  if ["http", "https", "ws", "wss", "ftp"].contains word then .web
  else if word == "file" then .file
  else .other

/-- Whether a slash of either kind stands here; the second kind counts where names are. -/
def isSlash (c : Char) : Bool := c == '/' || c == '\\'

def splitScheme? (text : List Char) : Option (List Char × List Char) :=
  let name := text.takeWhile fun c => c.isAlphanum || c == '+' || c == '-' || c == '.'
  if name.head?.any Char.isAlpha && (text.drop name.length).head? == some ':' then
    some (name, text.drop (name.length + 1))
  else none

def endsAuthority (scheme : Scheme) (c : Char) : Bool :=
  c == '/' || c == '?' || c == '#' || c == '\\' && scheme != .other

/-- The length of a host: up to a colon outside brackets. -/
def hostLength (inBrackets : Bool) : List Char → Nat
  | [] => 0
  | c :: rest =>
      if c == ':' && !inBrackets then 0
      else hostLength (if c == '[' then true else if c == ']' then false else inBrackets) rest + 1

/-- Why a port is none; one without digits is the usual one. -/
def portRefusal? (text : List Char) : Option Refusal :=
  let digits := text.takeWhile fun c => !(c == '/' || c == '\\' || c == '?' || c == '#')
  if digits.all Char.isDigit && Numeral.ofDigits digits < 65536 then none else some .port

/-- The characters before and after the last sign that ends the user. -/
def splitUser (authority : List Char) : Option (List Char) × List Char :=
  let host := (authority.reverse.takeWhile (· != '@')).reverse
  if host.length == authority.length then (none, authority)
  else (some (authority.take (authority.length - host.length - 1)), host)

def authorityRefusal? (scheme : Scheme) (text : List Char) : Option Refusal :=
  let authority := text.takeWhile fun c => !endsAuthority scheme c
  let path := text.drop authority.length
  let (user, hostAndPort) := splitUser authority
  let length := hostLength false hostAndPort
  let host := hostAndPort.take length
  let rest := hostAndPort.drop length
  if user == some [] && hostAndPort.isEmpty && !path.isEmpty then some .emptyHost
  else if scheme == .web && host.isEmpty then some .emptyHost
  else
    match (if scheme == .web then Host.named? host else Host.other? host) with
    | some refusal => some refusal
    | none =>
        match rest with
        | ':' :: port =>
            if host.isEmpty then some .emptyHost
            else portRefusal? (port ++ path)
        | _ =>
            let hasUser := user.any fun name => !name.isEmpty && name != [':']
            if host.isEmpty && hasUser then some .emptyHost else none

/-- Why the host of a file is none; a drive is no host. -/
def fileRefusal? (text : List Char) : Option Refusal :=
  match text with
  | first :: second :: rest =>
      if isSlash first && isSlash second then
        let host := rest.takeWhile fun c => !(isSlash c || c == '?' || c == '#')
        let isDrive :=
          match host with
          | [letter, mark] => letter.isAlpha && (mark == ':' || mark == '|')
          | _ => false
        if host.isEmpty || isDrive then none else Host.named? host
      else none
  | _ => none

/-- The text without controls and spaces at its ends, and without tabs and line ends. -/
def clean (text : List Char) : List Char :=
  let isOuter (c : Char) : Bool := c.toNat ≤ 0x20
  let trimmed := ((text.dropWhile isOuter).reverse.dropWhile isOuter).reverse
  trimmed.filter fun c => !(c == '\t' || c == '\n' || c == '\r')

def refusal? (text : String) : Option Refusal :=
  if text == "" then some .emptyText
  else
    match splitScheme? (clean text.toList) with
    | none => some .noScheme
    | some (name, rest) =>
        match Scheme.ofName name with
        | .web => authorityRefusal? .web (rest.dropWhile isSlash)
        | .file => fileRefusal? rest
        | .other =>
            match rest with
            | '/' :: '/' :: authority => authorityRefusal? .other authority
            | _ => none

end BrowserScript.Url
