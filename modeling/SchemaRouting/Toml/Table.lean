import SchemaRouting.Json.Tree

/-!
The tables of a TOML document while it is read. A table is implicit while only a longer name
has mentioned it, and dotted if a dotted key has. A key is given once; a table is opened by
one header only; a dotted key may extend only what dotted keys have made.
-/

set_option autoImplicit false

namespace SchemaRouting.Toml

/-- An entry of a table: a value, a table, or a list of tables, the latest last. -/
inductive Item
  | value (t : Tree)
  | table (implicit dotted : Bool) (entries : List (String × Item))
  | tables (elements : List (List (String × Item)))

abbrev Entries := List (String × Item)

namespace Item

mutual

def toTree : Item → Tree
  | value t => t
  | table _ _ entries => .object (entriesToTree entries) .lenient
  | tables elements => .array (elementsToTree elements) .lenient

def entriesToTree : List (String × Item) → List (String × Tree)
  | [] => []
  | (key, item) :: rest => (key, toTree item) :: entriesToTree rest

def elementsToTree : List (List (String × Item)) → List Tree
  | [] => []
  | entries :: rest => .object (entriesToTree entries) .lenient :: elementsToTree rest

end

end Item

namespace Entries

/-- Puts an item under a key in its place, or at the end. -/
def set (key : String) (item : Item) (entries : Entries) : Entries := Keyed.put key item entries

/-- Changes the table that a path of keys leads to, making implicit tables on the way; of a
list of tables the latest is meant. Dotted keys do not enter a table that has a header. -/
def update (dotted : Bool) (change : Bool → Entries → Option Entries) (isDotted : Bool) :
    List String → Entries → Option Entries
  | [], entries => change isDotted entries
  | key :: path, entries =>
    match Keyed.find? key entries with
    | none => do
      let inner ← update dotted change dotted path []
      return set key (.table true dotted inner) entries
    | some (.value _) => none
    | some (.table implicit inDotted inner) =>
      if dotted && !implicit then none
      else do
        let inner ← update dotted change inDotted path inner
        return set key (.table implicit inDotted inner) entries
    | some (.tables elements) =>
      match elements.reverse with
      | [] => none
      | last :: before => do
        let last ← update dotted change false path last
        return set key (.tables (before.reverse ++ [last])) entries

/-- Sets the value of a dotted key in a table. -/
def assign (path : List String) (key : String) (t : Tree) (entries : Entries) : Option Entries :=
  update true (fun isDotted inner =>
    if isDotted = path.isEmpty || Keyed.contains key inner then none
    else some (inner ++ [(key, .value t)])) false path entries

/-- Opens a table by its header: the entries that it has already, if longer names have
mentioned it, and the rest without it. -/
def open? (path : List String) (key : String) (entries : Entries) :
    Option (Entries × Entries) := do
  let found ← lookup path entries
  match Keyed.find? key found with
  | none => return ([], ← update false (fun _ inner => some inner) false path entries)
  | some (.table true false inner) =>
    return (inner, ← update false (fun _ inner => some (Keyed.erase key inner)) false path entries)
  | some _ => none
where
  lookup : List String → Entries → Option Entries
    | [], entries => some entries
    | key :: path, entries =>
      match Keyed.find? key entries with
      | none => some []
      | some (.value _) => none
      | some (.table _ _ inner) => lookup path inner
      | some (.tables elements) => (elements.getLast?).bind (lookup path)

/-- Puts a table that was opened by its header back at the end of its parent. -/
def close (path : List String) (key : String) (entries table : Entries) : Option Entries :=
  update false (fun _ inner => some (set key (.table false false table) inner)) false path entries

/-- Announces a list of tables, which must not be anything else yet. -/
def openList (path : List String) (key : String) (entries : Entries) : Option Entries :=
  update false (fun _ inner =>
    match Keyed.find? key inner with
    | none => some (inner ++ [(key, .tables [])])
    | some (.tables _) => some inner
    | some _ => none) false path entries

/-- Adds a table to a list of tables. -/
def closeList (path : List String) (key : String) (entries table : Entries) : Option Entries :=
  update false (fun _ inner =>
    match Keyed.find? key inner with
    | some (.tables elements) => some (set key (.tables (elements ++ [table])) inner)
    | _ => none) false path entries

end Entries

end SchemaRouting.Toml
