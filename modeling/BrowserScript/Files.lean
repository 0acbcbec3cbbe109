import BrowserScript.Text.Utf8
import BrowserScript.Value.Literal

/-!
# Files

The files as an operation sees them: names and contents, from the directory it works in or from
the root. Directories exist where a file lies below them, and so do those above the working
directory.
-/

namespace BrowserScript

inductive FileContent where
  | directory
  | bytes (data : List UInt8)

abbrev Files := List (String × FileContent)

namespace Files

def isAbsolute (path : String) : Bool := path.toList.head? == some '/'

def pieces (path : String) : List String := (path.toList.splitOn '/').map String.ofList

/-- The place that a name stands for; a slash is the first part of those from the root. -/
def parts (path : String) : List String :=
  (if isAbsolute path then ["/"] else [])
    ++ (pieces path).filter fun part => part != "" && part != "."

def nameOf (place : List String) : String :=
  match place with
  | "/" :: rest => "/" ++ String.intercalate "/" rest
  | _ => String.intercalate "/" place

def startsWith (whole start : List String) : Bool := whole.take start.length == start

/-- Whether a place is the working directory or one above it. -/
def isAbove (place : List String) : Bool := place == ["/"] || place.all (· == "..")

def parent (place : List String) : List String :=
  if place == ["/"] then place
  else if isAbove place then place ++ [".."]
  else place.dropLast

def content? (files : Files) (place : List String) : Option FileContent :=
  if isAbove place then some .directory
  else match files.reverse.find? fun file => parts file.1 == place with
    | some (_, content) => some content
    | none =>
        if files.any fun file => startsWith (parts file.1) place then some .directory else none

inductive Opened where
  | bytes (place : List String) (data : List UInt8)
  | directory
  /-- Nothing, but a file may be put at a place. -/
  | absent (place : List String)
  /-- A directory on the way is missing. -/
  | missing
  /-- A file stands where a directory must be. -/
  | notDirectory

/-- Follow the parts of a path from a place. Every part but the first needs a directory before
it. -/
def follow (files : Files) (place : List String) : List String → Opened
  | [] =>
      match files.content? place with
      | some (.bytes data) => .bytes place data
      | some .directory => .directory
      | none => .absent place
  | part :: rest =>
      match files.content? place with
      | some (.bytes _) => .notDirectory
      | none => .missing
      | some .directory =>
          if part == "" || part == "." then follow files place rest
          else if part == ".." then follow files (parent place) rest
          else follow files (place ++ [part]) rest

def openPath (files : Files) (path : String) : Opened :=
  if path == "" then .missing
  else files.follow (if isAbsolute path then ["/"] else []) (pieces path)

def shown (path : String) : String := String.ofList (Quoted.encode path.toList)

def missingText (path : String) : String := "[Errno 2] No such file or directory: " ++ shown path

def directoryText (path : String) : String := "[Errno 21] Is a directory: " ++ shown path

def notDirectoryText (path : String) : String := "[Errno 20] Not a directory: " ++ shown path

def existsText (path : String) : String := "[Errno 17] File exists: " ++ shown path

def readBytes (files : Files) (path : String) : Except String (List UInt8) :=
  match files.openPath path with
  | .bytes _ data => .ok data
  | .directory => .error (directoryText path)
  | .notDirectory => .error (notDirectoryText path)
  | _ => .error (missingText path)

def directoryOf (path : String) : String :=
  let head := (path.toList.reverse.dropWhile (· != '/'))
  if head.all (· == '/') then String.ofList head
  else String.ofList (head.dropWhile (· == '/')).reverse

/-- The directories of a path, each inside of the one before. -/
def ancestors : (fuel : Nat) → String → List String
  | 0, _ => []
  | fuel + 1, path =>
      if path == "" || path == "/" then [] else ancestors fuel (directoryOf path) ++ [path]

/-- A change of the files. Where it ends with the wording of a problem, what was done before stays
done. -/
abbrev Change := ExceptT String (StateM Files) Unit

def makeDirectory (path : String) : Change := do
  match (← get).openPath path with
  | .absent place => modify fun files => files ++ [(nameOf place, .directory)]
  | .notDirectory => throw (notDirectoryText path)
  | .missing => throw (missingText path)
  | _ => return

/-- Make the directories of a path, the last of which must not be a file. -/
def makeDirectories (path : String) : Change := do
  (ancestors path.length path).forM makeDirectory
  match (← get).openPath path with
  | .bytes _ _ => throw (existsText path)
  | _ => return

def write (path : String) (data : List UInt8) : Change := do
  makeDirectories (directoryOf path)
  match (← get).openPath path with
  | .bytes place _ => modify fun files => files ++ [(nameOf place, .bytes data)]
  | .absent place => modify fun files => files ++ [(nameOf place, .bytes data)]
  | .directory => throw (directoryText path)
  | .missing => throw (missingText path)
  | .notDirectory => throw (notDirectoryText path)

def plainLines : List Char → List Char
  | [] => []
  | '\r' :: '\n' :: rest => '\n' :: plainLines rest
  | '\r' :: rest => '\n' :: plainLines rest
  | c :: rest => c :: plainLines rest

end Files

end BrowserScript
