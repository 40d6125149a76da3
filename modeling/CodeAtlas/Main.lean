/-
  CodeAtlas.Main — the program.

  The manifest of the files that a run may read comes on standard input; the arguments say what to
  do with them.  The files are loaded, the command line is executed on the disk that they make up,
  and what has changed on that disk is written back.
-/
import CodeAtlas.CommandLine
import CodeAtlas.Disk.Manifest

namespace CodeAtlas.Console

/-- The lines of a stream without their ends, the last line first. -/
partial def reversedLines (stream : IO.FS.Stream) (read : List String) : IO (List String) := do
  let line ← stream.getLine
  if line.isEmpty then return read
  else reversedLines stream ((Text.dropSuffix? "\n" line).getD line :: read)

/-- What a file holds, nothing if it cannot be read. -/
def load : ManifestEntry → IO ByteArray
  | .file path => try IO.FS.readBinFile path catch _ => return ByteArray.empty
  | _ => return ByteArray.empty

/-- Adds an entry of a manifest to a disk; an entry that does not fit is left out. -/
def addEntry (d : Disk) (e : ManifestEntry) : IO Disk := do
  match d.add (← load e) e with
  | .ok d => return d
  | .error _ => return d

/-- The disk that a manifest describes. -/
def loadDisk (manifest : List String) : IO Disk := do
  let here := toString (← IO.currentDir)
  let empty : Disk := { cwd := (Path.segments here).filter (· != "") }
  let start := match empty.makeDirectories here with
    | .ok d => d
    | .error _ => empty
  (manifest.map ManifestEntry.ofLine).foldlM addEntry start

/-- Writes an entry. -/
def save (change : String × DiskEntry) : IO Unit :=
  match change.2 with
  | .file bytes => IO.FS.writeBinFile change.1 bytes
  | .directory => IO.FS.createDirAll change.1
  | .link _ => return

/-- Prints how a command ended. -/
def report : CommandLine.Ending → IO Unit
  | .usage => IO.eprintln "error: wrong arguments\n\nFor more information, try '--help'."
  | .shown text => IO.print text
  | .failed attempt cause => do
    IO.eprintln (CommandLine.Ending.errorLine attempt ++ "\n\nCaused by:")
    for line in CommandLine.Ending.causeLines cause do
      IO.eprintln ("    " ++ line)
  | .faulted f => IO.eprintln f.message
  | .finished summary => summary.forM IO.eprintln

end CodeAtlas.Console

open CodeAtlas in
/-- Executes the command line on the files of the manifest. -/
def main (args : List String) : IO UInt32 := do
  let manifest ← Console.reversedLines (← IO.getStdin) []
  let d ← Console.loadDisk manifest.reverse
  let (ending, after) := CommandLine.execute d.grammar d args
  (Disk.changesSince d after).forM Console.save
  Console.report ending
  return ending.exitCode.toUInt32
