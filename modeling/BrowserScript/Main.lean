import BrowserScript.CommandLine.Tool

/-!
# The program

Reads the files that the words of the command line name, runs the tool on them, writes the files
that it leaves and prints what it says. Starting a compiled program is left to the caller, who is
told the command line.
-/

namespace BrowserScript

/-- The file or directory that a word names, if there is one. -/
def readNamed (word : String) : IO (Option FileContent) :=
  try
    let data ← IO.FS.readBinFile word
    return some (.bytes data.toList)
  catch problem =>
    match problem with
    | .inappropriateType .. => return some .directory
    | _ => return none

def readAll (words : List String) : IO Files :=
  words.filterMapM fun word => do return (← readNamed word).map fun content => (word, content)

def writeNamed (name : String) (data : List UInt8) : IO Unit := do
  let directory := Files.directoryOf name
  if directory != "" then IO.FS.createDirAll directory
  IO.FS.writeBinFile name (ByteArray.mk data.toArray)

end BrowserScript

open BrowserScript in
def main (words : List String) : IO UInt32 := do
  let files ← readAll words
  let outcome := CommandLine.Tool.outcome files ⟨"python3", 0⟩ words
  let console := outcome.console
  for (name, content) in console.files.drop files.length do
    if let .bytes data := content then writeNamed name data
  IO.print console.output
  IO.eprint console.errors
  for program in console.started do
    IO.eprintln (String.intercalate " " program.words)
  if let some fault := outcome.fault then IO.eprintln fault.message
  return outcome.exitCode.toNat.toUInt32
