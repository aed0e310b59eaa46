/-
# Paths of files

Paths are texts with components between slashes.  A file name has an extension
behind its last dot, unless that dot comes first.
-/

namespace CanvasPress.Path

/-- A path continued by another; an absolute path stands for itself. -/
def join (directory name : String) : String :=
  if name.startsWith "/" then name
  else if directory.isEmpty || directory.endsWith "/" then directory ++ name
  else directory ++ "/" ++ name

/-- Stem and extension of a file name. -/
def splitExtension (name : String) : String × Option String :=
  let back := name.toList.reverse
  let tail := back.takeWhile (· != '.')
  match back.dropWhile (· != '.') with
  | [] => (name, none)
  | [_] => (name, none)
  | _ :: stem =>
    if name = ".." then (name, none)
    else (String.ofList stem.reverse, some (String.ofList tail.reverse))

/-- The components of a path, without empty ones and those for the directory
itself. -/
def components (path : String) : List String :=
  (path.splitOn "/").filter fun c => c != "" && c != "."

/-- The steps that a path asks for.  Slashes in a row count as one; one at the end
stays at the directory that the path names, as `.` does, and one in front starts
at the root. -/
def steps (path : String) : List String :=
  let parts := (path.splitOn "/").filter (· != "")
  let parts := if path.endsWith "/" then parts ++ ["."] else parts
  if path.startsWith "/" then "/" :: parts else parts

/-- The place where a step from a place leads.  Places above the start are given
by the way up. -/
def step (place : List String) (part : String) : List String :=
  if part = "." then place
  else if part = ".." then
    if place.all (· = "..") then place ++ [part]
    else if place = ["/"] then place
    else place.dropLast
  else place ++ [part]

/-- The places that steps lead through, from the one where they begin to the one
where they end. -/
def places (place : List String) : List String → List (List String)
  | [] => [place]
  | part :: rest => place :: places (step place part) rest

/-- Where a path ends, without regard to what is there. -/
def target (path : String) : List String :=
  (steps path).foldl step []

/-- The path of the directory that a file is in. -/
def directoryOf (path : String) : String :=
  String.ofList ((path.toList.reverse.dropWhile (· != '/')).reverse)

/-- The paths of the directories that a path leads through, the outermost first,
and the path itself. -/
def stages (path : String) : List String :=
  let start := if path.startsWith "/" then "/" else ""
  let parts := components path
  (List.range parts.length).map fun n => start ++ String.intercalate "/" (parts.take (n + 1))

end CanvasPress.Path
