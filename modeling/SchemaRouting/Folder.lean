import SchemaRouting.Text.Split
import SchemaRouting.Text.Utf8
import SchemaRouting.Keyed

/-!
The folder that documents and settings are read from: files with their bytes, and other
folders. A path is followed step by step, each of which needs a folder to start from: an empty
step and a single point stay where they are, two points lead to the folder around. Of the
folders around this one nothing is known but that they are there.
-/

set_option autoImplicit false

namespace SchemaRouting

inductive FolderEntry
  | file (bytes : List UInt8)
  | folder

/-- The entries of a folder by name. -/
abbrev Folder := List (String × FolderEntry)

namespace Folder

/-- Where a path stands: in a folder that the given names lead to, the innermost first, in a
folder around this one, or at a file. -/
inductive Place
  | within (names : List String)
  | around
  | file (bytes : List UInt8)

/-- What is under the given names, the innermost first. -/
def place? (folder : Folder) (names : List String) : Option Place :=
  let name := String.intercalate "/" names.reverse
  if (Keyed.keys folder).any (·.startsWith (name ++ "/")) then some (.within names)
  else
    match Keyed.find? name folder with
    | some (.file bytes) => some (.file bytes)
    | some .folder => some (.within names)
    | none => none

/-- One step of a path. -/
def step (folder : Folder) (place : Place) (part : String) : Option Place :=
  match place with
  | .file _ => none
  | .around => if part = "" || part = "." || part = ".." then some .around else none
  | .within names =>
    if part = "" || part = "." then some place
    else if part = ".." then
      match names with
      | [] => some .around
      | _ :: names => some (.within names)
    else folder.place? (part :: names)

/-- What a path leads to; the empty path leads nowhere, and one that starts with a slash starts
outside this folder. -/
def find? (folder : Folder) (path : String) : Option FolderEntry :=
  let start := if path.startsWith "/" then Place.around else .within []
  if path.isEmpty then none
  else
    match (Text.split '/' path).foldlM folder.step start with
    | some (.file bytes) => some (.file bytes)
    | some _ => some .folder
    | none => none

/-- The folder after something is written at a path: a file replaces a file, and whatever else
is there stays. -/
def write (path : String) (entry : FolderEntry) (folder : Folder) : Folder :=
  let names := (Text.split '/' path).filter fun part => part ≠ "" && part ≠ "."
  let written := Keyed.put (String.intercalate "/" names) entry folder
  match entry, folder.place? names.reverse with
  | _, none => written
  | .file _, some (.file _) => written
  | _, some _ => folder

/-- The folder that entries make which are written one after the other. -/
def ofEntries (entries : List (String × FolderEntry)) : Folder :=
  entries.foldl (fun folder (path, entry) => folder.write path entry) []

def contains (folder : Folder) (path : String) : Bool := (folder.find? path).isSome

/-- The text of a file, if the path leads to a file whose bytes are a text. -/
def readText? (folder : Folder) (path : String) : Option String :=
  match folder.find? path with
  | some (.file bytes) => Text.ofUtf8? bytes
  | _ => none

end Folder

end SchemaRouting
