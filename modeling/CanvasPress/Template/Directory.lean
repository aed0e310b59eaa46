/-
# Loading template overrides from a directory

A file `kind_theme.svg` overrides the template of a kind in one theme, a file
`kind.svg` in every theme.  Loading a directory registers its acceptable files
in the order of the listing; all others are passed over, with a report unless
they are not meant as templates.
-/

import CanvasPress.Log
import CanvasPress.Storage.Listing
import CanvasPress.Storage.Path
import CanvasPress.Template.Store
import CanvasPress.Text.Quoted

namespace CanvasPress.Template

open Text

/-- The parts of a template's name: in front of the first underscore, and
behind it. -/
def splitStem (stem : String) : String × Option String :=
  let chars := stem.toList
  match chars.dropWhile (· != '_') with
  | [] => (stem, none)
  | _ :: theme => (String.ofList (chars.takeWhile (· != '_')), some (String.ofList theme))

/-- What becomes of one directory entry. -/
inductive Verdict where
  /-- Not meant as a template. -/
  | skipped
  | unknownKind (name : String)
  | unreadable (cause : FileFault)
  | accepted (kind : Kind) (theme : Option String) (template : String)
deriving DecidableEq

/-- Judge an entry by its name and content. -/
def judge (name : String) (content : FileContent) : Verdict :=
  match Path.splitExtension name with
  | (stem, some "svg") =>
    let (kindName, theme) := splitStem stem
    match Kind.ofName? kindName with
    | none => .unknownKind kindName
    | some kind =>
      match content.text with
      | .ok template => .accepted kind theme template
      | .error cause => .unreadable cause
  | _ => .skipped

/-- Apply the verdict on an entry to a store. -/
def Verdict.apply (store : Store) : Verdict → Store
  | .accepted kind theme template => store.register kind theme template
  | _ => store

/-- What is reported about the entry at a path. -/
def Verdict.log (path : String) : Verdict → List LogLine
  | .skipped => []
  | .unknownKind name =>
    [⟨.warn, "Ignoring template " ++ quoted path ++ ": unknown canvas type '" ++ name ++ "'"⟩]
  | .unreadable cause =>
    [⟨.warn, "Failed to read template " ++ quoted path ++ ": " ++ cause.message⟩]
  | .accepted _ _ _ => [⟨.debug, "Loaded template override " ++ quoted path⟩]

/-- Judge an entry as the system has it.  Of a name that is no text, either the stem
is no text or the extension is not that of templates. -/
def judgeEntry (entry : FileName × FileContent) : Verdict :=
  match entry.1.text? with
  | some name => judge name entry.2
  | none => .skipped

/-- The store that the entries of a directory make. -/
def Store.ofEntries (entries : List (FileName × FileContent)) : Store :=
  entries.foldl (fun store entry => (judgeEntry entry).apply store) .empty

/-- The store for what is found under a path. -/
def Store.load : Listing → Except Fault Store
  | .missing => .ok .empty
  | .file => .error (.file .notDirectory)
  | .found entries => .ok (.ofEntries entries)
  | .broken _ cause => .error (.file cause)

/-- What is reported about the entries of the directory at a path. -/
def entriesLog (path : String) (entries : List (FileName × FileContent)) : List LogLine :=
  entries.flatMap fun entry =>
    match entry.1.text? with
    | some name => (judge name entry.2).log (Path.join path name)
    | none => []

/-- What loading reports. -/
def loadLog (path : String) : Listing → List LogLine
  | .missing =>
    [⟨.debug, "Template directory " ++ quoted path ++ " does not exist; using built-ins"⟩]
  | .file => []
  | .found entries => entriesLog path entries
  | .broken entries _ => entriesLog path entries

end CanvasPress.Template
