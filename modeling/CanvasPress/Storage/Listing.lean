/-
# Files as they are found

What a directory holds, as far as loading needs to know it.  The system does not
ask that the names of files be text, nor that it may be read what they hold.
-/

import CanvasPress.Fault

namespace CanvasPress

/-- What stands under a name in a directory. -/
inductive FileContent where
  | bytes (data : List UInt8)
  | directory
  /-- The system refuses to read it. -/
  | unreadable (cause : FileFault)
deriving DecidableEq, Inhabited

/-- The text that bytes encode, if they encode one. -/
def textOfBytes? (data : List UInt8) : Option String :=
  String.fromUTF8? (ByteArray.mk data.toArray)

/-- The text of a file. -/
def FileContent.text : FileContent → Except FileFault String
  | .directory => .error .isDirectory
  | .unreadable cause => .error cause
  | .bytes data =>
    match textOfBytes? data with
    | some s => .ok s
    | none => .error .invalidText

/-- The name of a directory entry, as the system has it. -/
structure FileName where
  bytes : List UInt8
deriving DecidableEq, Inhabited

/-- The name that a text spells. -/
def FileName.ofText (name : String) : FileName :=
  ⟨name.toUTF8.data.toList⟩

/-- What a name spells, if it is text. -/
def FileName.text? (name : FileName) : Option String :=
  textOfBytes? name.bytes

/-- What is found under the path of a directory. -/
inductive Listing where
  /-- Nothing has this path. -/
  | missing
  /-- The path is that of a file. -/
  | file
  /-- The entries in the order in which the system lists them. -/
  | found (entries : List (FileName × FileContent))
  /-- The system stops listing after these entries. -/
  | broken (entries : List (FileName × FileContent)) (cause : FileFault)
deriving DecidableEq, Inhabited

/-- The listing of entries with these texts as their names. -/
def Listing.entries (found : List (String × FileContent)) : Listing :=
  .found (found.map fun entry => (.ofText entry.1, entry.2))

end CanvasPress
