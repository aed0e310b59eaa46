/-
# Trees of files

A directory with all that is in it, as a list of paths with what stands there.
Paths are relative to the directory and given by their components.
-/

import CanvasPress.Conversion
import CanvasPress.Storage.Listing
import CanvasPress.Storage.Path

namespace CanvasPress

/-- What stands under a path. -/
inductive Stored where
  | found (content : FileContent)
  /-- An artifact that was written. -/
  | written (body : Body)

/-- The text of what stands under a path; a picture is no text. -/
def Stored.text : Stored → Except FileFault String
  | found content => content.text
  | written (.text content) =>
    match String.fromUTF8? content with
    | some text => .ok text
    | none => .error .invalidText
  | written (.picture _) => .error .invalidText

/-- The files and directories below a directory. -/
abbrev FileTree := List (List String × Stored)

namespace FileTree

/-- The tree of files with the given paths. -/
def ofFiles (files : List (String × FileContent)) : FileTree :=
  files.map fun f => (Path.target f.1, .found f.2)

/-- What stands under a path. -/
def at? (tree : FileTree) (path : List String) : Option Stored :=
  (tree.find? fun entry => entry.1 == path).map (·.2)

/-- Whether a place is a directory.  The start and the directories above it are
there always, and so is the root. -/
def isDirectory (tree : FileTree) (place : List String) : Bool :=
  place.all (· = "..") || place = ["/"] || (tree.at? place matches some (.found .directory))

/-- Whether a place is a file. -/
def isFile (tree : FileTree) (place : List String) : Bool :=
  (tree.at? place).isSome && !tree.isDirectory place

/-- Where a path ends, if it leads through directories only. -/
def follow (tree : FileTree) (path : String) : Except FileFault (List String) :=
  let passed := (Path.places [] (Path.steps path)).dropLast
  if path.isEmpty then .error .notFound
  else
    match passed.find? fun place => !tree.isDirectory place with
    | some place => .error (if tree.isFile place then .notDirectory else .notFound)
    | none => .ok (Path.target path)

/-- The text of a file. -/
def read (tree : FileTree) (path : String) : Except FileFault String := do
  let place ← tree.follow path
  match tree.at? place with
  | some stored => stored.text
  | none => if tree.isDirectory place then throw .isDirectory else throw .notFound

/-- The names in a directory with what stands under them. -/
def entries (tree : FileTree) (path : List String) : List (String × Stored) :=
  tree.filterMap fun entry =>
    if entry.1.dropLast = path then entry.1.getLast?.map (·, entry.2) else none

/-- What is found under the path of a directory. -/
def list (tree : FileTree) (path : String) : Listing :=
  match tree.follow path with
  | .error _ => .missing
  | .ok place =>
    if tree.isFile place then .file
    else if tree.isDirectory place then
      .entries ((tree.entries place).filterMap fun
        | (name, .found content) => some (name, content)
        | _ => none)
    else .missing

/-- Why a directory cannot be made, unless it can be or is there. -/
def obstacle (tree : FileTree) (path : String) : Option FileFault :=
  let place := Path.target path
  if tree.isFile place then some .alreadyExists
  else if (Path.places [] (Path.steps path)).any tree.isFile then some .notDirectory
  else none

/-- The tree after a file is written and the directories are made that its path
leads through. -/
def write (tree : FileTree) (path : String) (body : Body) : FileTree :=
  let place := Path.target path
  let passed := (Path.places [] (Path.steps path)).dropLast
  let missing := (passed.filter fun p => !tree.isDirectory p).eraseDups
  (tree.filter fun entry => entry.1 != place) ++ missing.map (·, .found .directory) ++
    [(place, .written body)]

end FileTree

end CanvasPress
