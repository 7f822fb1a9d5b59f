import QueryAudit.CommandLine.Places
import Std.Time

/-! The program. It copies what a command looks at from the disk, runs the command on the copy, and
prints the outcome. -/
namespace QueryAudit.Disk

/-- What stands at a path, with empty files. A link to a directory is not followed. -/
partial def shape? (path : String) : IO (Option FileTree) := do
  try
    let real ← IO.FS.realPath path
    if !(← real.isDir) then
      return if ← real.pathExists then some (.file .empty) else none
    let entries ← (← real.readDir).toList.filterMapM fun entry => do
      let isLink := (← IO.FS.realPath entry.path) != entry.path
      if isLink && (← entry.path.isDir) then return none
      return (← shape? entry.path.toString).map fun tree => (entry.fileName, tree)
    return some (.directory entries)
  catch _ => return none

/-- Adds the shape of a place, or an empty directory for the nearest one above it that exists. -/
partial def addShape (fs : FileSystem) (place : Path) : IO FileSystem := do
  let place := Path.resolve fs.cwd place
  match ← shape? place.text with
  | some tree => return { fs with root := tree.insert place.parts fs.root }
  | none => if place.parts.isEmpty then return fs else addShape fs place.parent

/-- Adds the content of a file, or locks it if it cannot be read. -/
def addContent (fs : FileSystem) (place : Path) : IO FileSystem := do
  let place := Path.resolve fs.cwd place
  try
    let content ← IO.FS.readBinFile place.text
    return { fs with root := (FileTree.file content).insert place.parts fs.root }
  catch _ =>
    if (fs.find? place).any (·.isFile) then
      return { fs with root := FileTree.locked.insert place.parts fs.root }
    else return fs

/-- All that a command looks at. -/
def copyFor (arguments : List String) : IO FileSystem := do
  let cwd := Path.ofText (← IO.currentDir).toString
  let mut fs : FileSystem := ⟨(FileTree.directory []).insert cwd.parts (.directory []), cwd⟩
  fs ← (CommandLine.argumentPlaces arguments).foldlM addShape fs
  match CommandLine.Arguments.read fs arguments with
  | .ok (some read) =>
    fs ← read.config.toList.foldlM addContent fs
    match CommandLine.configure fs read with
    | .ok config =>
      fs ← config.places.foldlM addShape fs
      (config.files fs).foldlM addContent fs
    | .error _ => return fs
  | _ => return fs

/-- The time as log lines show it. -/
def now : IO String := do
  let instant ← Std.Time.Timestamp.now
  let time := Std.Time.DateTime.ofTimestamp instant Std.Time.TimeZone.ZoneRules.UTC
  return time.format "uuuu-MM-dd HH:mm:ss"

end QueryAudit.Disk

open QueryAudit in
def main (arguments : List String) : IO UInt32 := do
  let outcome := CommandLine.run (← Disk.copyFor arguments) arguments
  let time ← Disk.now
  for notice in outcome.notices do
    IO.eprint (notice.print time)
  if outcome.crash.isSome then
    IO.eprintln "The command stopped at input that it cannot handle."
  IO.print outcome.output
  return outcome.exitCode.toUInt32
