import ChartParsing.Command.Failure

/-!
Contract: files held in memory.

Owns directories as plain data, so that commands can be answered without a disk, and how a path leads
through them. A path is followed name by name: an empty name and `.` stay, `..` goes up, and every
other name must be there, in a directory. Nothing above the current directory is known but that
directories are there, and the top of all directories is above itself.
-/

set_option autoImplicit false

namespace ChartParsing.Command

/-! ## Trees -/

/-- What stands at a place of a file tree. -/
inductive FileEntry where
  | directory
  | file (bytes : ByteArray)

def FileEntry.text : FileEntry → Except ReadError String
  | .directory => .error .isDirectory
  | .file bytes =>
    match String.fromUTF8? bytes with
    | none => .error .notText
    | some text => .ok text

/-- What is known to be below a directory, with the names that lead there. -/
structure FileTree where
  entries : List (List String × FileEntry)

namespace FileTree

def unknown : FileTree :=
  ⟨[]⟩

/-- Whether a name in a path leads nowhere else. -/
def stays (name : String) : Bool :=
  name = "" || name = "."

def pathNames (path : String) : List String :=
  path.splitOn "/"

/-- The tree with given entries, each with the path that leads there. -/
def ofPaths (entries : List (String × FileEntry)) : FileTree :=
  ⟨entries.map fun (path, entry) => ((pathNames path).filter (!stays ·), entry)⟩

/-- What stands where names lead. Directories stand on the way to every entry. -/
def entry? (tree : FileTree) (names : List String) : Option FileEntry :=
  match tree.entries.lookup names with
  | some entry => some entry
  | none =>
    if tree.entries.any fun (known, _) => names.isPrefixOf known then some .directory else none

/-! ## Paths -/

/-- The most bytes a name in a path may have. -/
def nameLimit : Nat := 255

/-- The bytes that are too many for a path. -/
def pathLimit : Nat := 4096

/-- Follows names from a place in a tree. The place is given by the names that lead to it, the last
one first; `beyond` is the tree above the top. -/
def follow (beyond : FileTree) :
    FileTree → List String → List String → Except ReadError FileEntry
  | _, _, [] => .ok .directory
  | tree, place, name :: others =>
    if stays name then follow beyond tree place others
    else if name = ".." then
      match place with
      | [] => follow beyond beyond [] others
      | _ :: above => follow beyond tree above others
    else if nameLimit < name.utf8ByteSize then .error .nameTooLong
    else
      match tree.entry? (name :: place).reverse, others with
      | none, _ => .error .notFound
      | some (.file bytes), [] => .ok (.file bytes)
      | some (.file _), _ :: _ => .error .notDirectory
      | some .directory, _ => follow beyond tree (name :: place) others

/-- What stands at a path, given the current directory and the top of all directories. -/
def find (current top : FileTree) (path : String) : Except ReadError FileEntry :=
  if path.toList.contains '\x00' then .error .nulInPath
  else if pathLimit ≤ path.utf8ByteSize then .error .nameTooLong
  else
    match path.toList with
    | '/' :: _ => follow top top [] (pathNames path)
    | _ => follow unknown current [] (pathNames path)

def files (current top : FileTree) : Files := fun path =>
  match find current top path with
  | .error cause => .error cause
  | .ok entry => entry.text

end FileTree

end ChartParsing.Command
