import TrustRouter.Directory.Discovery

/-! # Directory trees

A file system as a value: files with their bytes, and directories with named entries. Paths are
followed the way the system follows them: part by part from the root, `.` and an empty part staying
where they are and `..` going up, every part but the last having to be a directory.

Opening a file for appending makes it if it is not there. A path that ends in a slash or in a dot
part can only be a directory, so it is refused as one.
-/

namespace TrustRouter

/-- A file or a directory. -/
inductive Node where
  | file (contents : ByteArray)
  | directory (entries : List (Name × Node))

namespace Node

/-! ### Following paths -/

/-- A node with the way to it: its name in its parent, and so on up to the root. -/
structure Place where
  node : Node
  above : List (Name × Node)

/-- The greatest number of bytes of a name. -/
def maxNameLength : Nat := 255

/-- The number of bytes that no path reaches. -/
def pathLimit : Nat := 4096

/-- The place one level up; the root is above itself. -/
def Place.parent (here : Place) : Place :=
  match here.above with
  | [] => here
  | (_, node) :: above => ⟨node, above⟩

/-- The names from the root to a place. -/
def Place.names (here : Place) : List Name := (here.above.map Prod.fst).reverse

/-- The entry of a name. -/
def entry (entries : List (Name × Node)) (name : Name) : Except OsError Node :=
  if maxNameLength < name.length then .error .nameTooLong
  else (entries.lookup name).elim (.error .notFound) .ok

/-- Follows the parts of a path. -/
def walk (here : Place) : List String → Except OsError Place
  | [] => .ok here
  | part :: parts =>
    match here.node with
    | .file _ => .error .notDirectory
    | .directory entries =>
      if part = "" ∨ part = "." then walk here parts
      else if part = ".." then walk here.parent parts
      else
        match entry entries (.ofString part) with
        | .error e => .error e
        | .ok node => walk ⟨node, (.ofString part, here.node) :: here.above⟩ parts

/-- The parts of a path, or why it is none. -/
def parts (path : String) : Except OsError (List String) :=
  if path.contains '\x00' then .error .nulInPath
  else if path.isEmpty then .error .notFound
  else if pathLimit ≤ path.utf8ByteSize then .error .nameTooLong
  else .ok (path.splitOn "/")

/-- The node at a path. -/
def locate (root : Node) (path : String) : Except OsError Node := do
  return (← walk ⟨root, []⟩ (← parts path)).node

/-! ### Reading -/

/-- The bytes of the file at a path. A directory can be opened, but not read. -/
def read (root : Node) (path : String) : Except FileError ByteArray :=
  match root.locate path with
  | .error e => .error (.opening, e)
  | .ok (.file contents) => .ok contents
  | .ok (.directory _) => .error (.reading, .isDirectory)

/-- The node as an entry of its directory. -/
def asEntry : Node → Entry
  | .file contents => .file (.ok contents)
  | .directory _ => .other

/-- The entries of the directory at a path. The listing shows every name, but what an entry is can
only be told along its own path, and not when that path is too long. -/
def list (root : Node) (path : String) : Except ListingError Listing :=
  match root.locate path with
  | .error e => .error (.directory e)
  | .ok (.file _) => .error (.directory .notDirectory)
  | .ok (.directory entries) => .ok <| entries.map fun (name, node) ↦
      (name, if (entryPath path name).utf8ByteSize < pathLimit then node.asEntry else .other)

/-! ### Writing -/

/-- Puts a new node at the end of a list of names, making the directories on the way. -/
def put (here : Node) : List Name → Node → Node
  | [], new => new
  | name :: names, new =>
    let entries := match here with
      | .file _ => []
      | .directory entries => entries
    match entries.lookup name with
    | none => .directory (entries ++ [(name, put (.directory []) names new)])
    | some child =>
      .directory (entries.map fun e ↦ if e.1 = name then (name, put child names new) else e)

/-- The node at the end of a list of names. -/
def at? : List Name → Node → Option Node
  | [], here => some here
  | name :: names, .directory entries => (entries.lookup name).bind (at? names)
  | _ :: _, .file _ => none

/-- Makes the directories along a path that are not there yet. -/
def makeDirectories (root : Node) (path : String) : Node :=
  let step := fun ((root, here) : Node × List Name) (part : String) ↦
    if part = "" ∨ part = "." then (root, here)
    else if part = ".." then (root, here.dropLast)
    else
      let names := here ++ [.ofString part]
      (if (root.at? names).isSome then root else root.put names (.directory []), names)
  ((path.splitOn "/").foldl step (root, [])).1

/-- Opens the file at a path for appending: the names that lead to it, and the tree with the file
in it. -/
def openAppend (root : Node) (path : String) : Except OsError (List Name × Node) := do
  let reversed := (← parts path).reverse
  match reversed.dropWhile (· = "") with
  | [] => .error .isDirectory
  | last :: before =>
    let here ← walk ⟨root, []⟩ before.reverse
    match here.node with
    | .file _ => .error .notDirectory
    | .directory entries =>
      if reversed.head? = some "" ∨ last = "." ∨ last = ".." then .error .isDirectory
      else
        let names := here.names ++ [.ofString last]
        match entry entries (.ofString last) with
        | .error .notFound => .ok (names, root.put names (.file ByteArray.empty))
        | .error e => .error e
        | .ok (.directory _) => .error .isDirectory
        | .ok (.file _) => .ok (names, root)

/-- Writes a file at a path, in place of the one that is there. -/
def write (root : Node) (path : String) (contents : ByteArray) : Except OsError Node := do
  let (names, root) ← root.openAppend path
  return root.put names (.file contents)

/-- Appends bytes to the file at the end of a list of names. -/
def append (root : Node) (names : List Name) (bytes : ByteArray) : Node :=
  match root.at? names with
  | some (.file contents) => root.put names (.file (contents ++ bytes))
  | _ => root

end Node

end TrustRouter
