/-!
# File trees

The files below one directory, as far as programs see them: bytes under paths.

## Main Definitions

* `FileTree` — what there is, by path.
* `FileTree.names`, `FileTree.resolve` — the names of a written path, and the
  place that they lead to.
* `FileTree.bytes`, `FileTree.read`, `FileTree.write`, `FileTree.rename`,
  `FileTree.makeDirs` — the operations, with the problems that they run into.

## Design Notes

A path is the list of the names on the way down to a place.  The names of a
written path may also be blank, `.` and `..`; they are followed step by step,
because a step onwards from a file or from nothing is already a problem.

A file holds bytes, and not every sequence of bytes is a text.  Files are moved
and written over whatever they hold; only reading a text asks for UTF-8.
-/

namespace Workflow

/-- What stands at a path. -/
inductive FileTree.Entry where
  /-- A file with its contents. -/
  | file (contents : ByteArray)
  /-- A directory. -/
  | directory

/-- The names on the way down to a place. -/
abbrev FileTree.Path := List String

/-- Files and directories below a directory, which is itself always there. -/
structure FileTree where
  /-- What stands where, every path once. -/
  entries : List (FileTree.Path × FileTree.Entry)

namespace FileTree

/-- Why an operation failed. -/
inductive Problem where
  | notFound | exists | notDirectory | isDirectory | notText
  deriving DecidableEq, Repr

namespace Problem

/-- The wording of a problem. -/
def message : Problem → String
  | .notFound => "No such file or directory (os error 2)"
  | .exists => "File exists (os error 17)"
  | .notDirectory => "Not a directory (os error 20)"
  | .isDirectory => "Is a directory (os error 21)"
  | .notText => "stream did not contain valid UTF-8"

end Problem

/-- The tree without files. -/
def empty : FileTree := ⟨[]⟩

/-- What stands at a place. -/
def get? (t : FileTree) (path : Path) : Option Entry :=
  if path = [] then some .directory else (t.entries.find? (·.1 == path)).map (·.2)

/-- The tree without what stands at a place. -/
def remove (t : FileTree) (path : Path) : FileTree := ⟨t.entries.filter (·.1 != path)⟩

/-- The tree with an entry at a place. -/
def put (t : FileTree) (path : Path) (e : Entry) : FileTree :=
  ⟨(path, e) :: (t.remove path).entries⟩

/-- Whether one may step on from a place. -/
def enter (t : FileTree) (path : Path) : Except Problem Unit :=
  match t.get? path with
  | some .directory => .ok ()
  | some (.file _) => .error .notDirectory
  | none => .error .notFound

/-- The place above. -/
def up (path : Path) : Path :=
  match path.getLast? with
  | none => [".."]
  | some ".." => path ++ [".."]
  | some "/" => path
  | some _ => path.dropLast

/-- The place that a written name leads to. -/
def step (path : Path) (name : String) : Path :=
  if name = "" ∨ name = "." then path
  else if name = ".." then up path
  else path ++ [name]

/-- The names of a written path.  One that starts at the very top starts with the name `/`. -/
def names (written : String) : List String :=
  match written.splitOn "/" with
  | "" :: name :: more => "/" :: name :: more
  | names => names

/-- The place that some names lead to from a place. -/
def resolveFrom (t : FileTree) (path : Path) : List String → Except Problem Path
  | [] => .ok path
  | name :: more => do
    t.enter path
    t.resolveFrom (step path name) more

/-- The place that some names lead to. -/
def resolve (t : FileTree) (names : List String) : Except Problem Path := t.resolveFrom [] names

/-- The contents of the file at a place. -/
def bytes (t : FileTree) (path : Path) : Except Problem ByteArray := do
  match path with
  | [] => .error .isDirectory
  | _ =>
    t.enter path.dropLast
    match t.get? path with
    | some (.file contents) => .ok contents
    | some .directory => .error .isDirectory
    | none => .error .notFound

/-- The text of the file at a place. -/
def read (t : FileTree) (path : Path) : Except Problem String := do
  match String.fromUTF8? (← t.bytes path) with
  | some text => .ok text
  | none => .error .notText

/-- Write a file at a place in a directory. -/
def write (t : FileTree) (path : Path) (contents : ByteArray) : Except Problem FileTree := do
  match t.get? path with
  | some .directory => .error .isDirectory
  | _ =>
    t.enter path.dropLast
    .ok (t.put path (.file contents))

/-- Move a file onto another place in a directory, over a file that may be there. -/
def rename (t : FileTree) (source target : Path) : Except Problem FileTree := do
  let contents ← t.bytes source
  (t.remove source).write target contents

/-- Make the directories on the way from a place along some names, and find the last one. -/
def makeDirsFrom (t : FileTree) (path : Path) :
    List String → Except Problem (FileTree × Path)
  | [] => .ok (t, path)
  | name :: more => do
    t.enter path
    let place := step path name
    match t.get? place with
    | some .directory => t.makeDirsFrom place more
    | some (.file _) => .error (if more = [] then .exists else .notDirectory)
    | none => (t.put place .directory).makeDirsFrom place more

/-- Make a directory and those above it, as far as they are missing, and find its place. -/
def makeDirs (t : FileTree) (names : List String) : Except Problem (FileTree × Path) :=
  t.makeDirsFrom [] names

/-- The names in a directory, in order; none when there is no such directory. -/
def list (t : FileTree) (path : Path) : List String :=
  match t.get? path with
  | some .directory =>
    (t.entries.filterMap fun (place, _) =>
      match place.getLast? with
      | some name => if place.dropLast = path then some name else none
      | none => none).mergeSort (· ≤ ·)
  | _ => []

/-- The tree with a file, and with the directories that it needs. -/
def withFile (t : FileTree) (names : List String) (contents : ByteArray) :
    Except Problem FileTree := do
  let (t, path) ← t.makeDirs names.dropLast
  t.write (step path (names.getLastD "")) contents

/-- The tree of some files under their written paths. -/
def ofFiles (files : List (String × ByteArray)) : FileTree :=
  files.foldl
    (fun t (written, contents) =>
      match t.withFile (names written) contents with
      | .ok t => t
      | .error _ => t)
    empty

end FileTree

end Workflow
