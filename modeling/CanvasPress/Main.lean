/-
# The program

The command line on a real machine: files are read and written, what is reported
goes to the error stream, and the exit code tells how the run ended.
-/

import CanvasPress.CommandLine.Run
import Std.Time.DateTime.Timestamp

namespace CanvasPress.CommandLine

/-- Why the system refused. -/
def faultOf : IO.Error → FileFault
  | .noFileOrDirectory _ _ _ => .notFound
  | .alreadyExists _ _ _ => .alreadyExists
  | .inappropriateType _ 21 _ => .isDirectory
  | .inappropriateType _ _ _ => .notDirectory
  | other => .other (toString other)

/-- What stands under a path. -/
def contentAt (path : String) : IO FileContent := do
  match ← (IO.FS.readBinFile path).toBaseIO with
  | .ok bytes => return .bytes bytes.toList
  | .error cause =>
    match faultOf cause with
    | .isDirectory => return .directory
    | cause => return .unreadable cause

/-- The names in a directory. -/
def namesAt (path : String) : IO (Except FileFault (List String)) := do
  match ← (do (← IO.FS.realPath path).readDir).toBaseIO with
  | .ok found => return .ok (found.toList.map fun entry => entry.fileName)
  | .error cause => return .error (faultOf cause)

/-- What is found under the path of a directory of templates.  Files that cannot be
templates by their names are left out. -/
def listingAt (path : String) : IO Listing := do
  if ((← (IO.FS.realPath path).toBaseIO) matches .error _) then return .missing
  match ← namesAt path with
  | .error .notDirectory => return .file
  | .error cause => return .broken [] cause
  | .ok names =>
    let names := names.filter fun name => (Path.splitExtension name).2 = some "svg"
    return .entries (← names.mapM fun name => do return (name, ← contentAt (Path.join path name)))

/-- Why directories along a path cannot be made, unless they can be or are there. -/
def obstacleAt : List String → IO (Option FileFault)
  | [] => return none
  | stage :: rest => do
    match ← namesAt stage with
    | .ok _ => obstacleAt rest
    | .error .notFound => return none
    | .error .notDirectory => return some (if rest.isEmpty then .alreadyExists else .notDirectory)
    | .error cause => return some cause

/-- The disk of the machine. -/
def Disk.machine : Disk IO where
  read path := do
    match ← (IO.FS.readBinFile path).toBaseIO with
    | .ok bytes => return (FileContent.bytes bytes.toList).text
    | .error cause => return .error (faultOf cause)
  list := listingAt
  obstacle path := obstacleAt (Path.stages path)
  write path body := do
    let directory := Path.directoryOf path
    if !directory.isEmpty then IO.FS.createDirAll directory
    IO.FS.writeBinFile path body.bytes
  report lines := do
    for line in lines do
      if line.level != .debug then IO.eprintln line.shown

/-- The time of day. -/
def timeOfDay : IO Timestamp := do
  let nanos := (← Std.Time.Timestamp.now).toNanosecondsSinceUnixEpoch.val
  return ⟨nanos / 1000000000, (nanos % 1000000000).toNat⟩

/-- The number of processors that the system lists, at least one. -/
def processorCount : IO Nat := do
  match ← (IO.FS.readFile "/proc/cpuinfo").toBaseIO with
  | .ok text =>
    return max 1 ((text.splitOn "\n").filter fun line => line.startsWith "processor").length
  | .error _ => return 1

/-- Print how a run ended. -/
def Ending.print : Ending → IO Unit
  | done output => IO.print output.written
  | failed (.panic report) => IO.eprintln report
  | failed complaint => do
    IO.eprintln ("Error: " ++ complaint.message)
    match complaint.cause? with
    | some cause => IO.eprintln ("\nCaused by:\n    " ++ cause)
    | none => return ()
  | misused => IO.eprintln ("error: unusable arguments\n\n" ++ programHelp)

end CanvasPress.CommandLine

open CanvasPress.CommandLine in
/-- Run the program with the words of its command line. -/
def main (words : List String) : IO UInt32 := do
  let host : Host := ⟨.missing, ← timeOfDay, ← processorCount⟩
  let ending ← run Disk.machine host words
  ending.print
  return ending.exitCode.toUInt32
