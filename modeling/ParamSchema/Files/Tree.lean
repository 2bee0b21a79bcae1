import ParamSchema.Entries
import ParamSchema.Files.Basic

/-!
Contract: a file system held in memory.

Owns:
- trees of files and directories, and finding a path in one;
- the answers of a tree, writing a file and removing one.

Does not own: links, permissions and anything outside the working directory.
-/

namespace ParamSchema

/-- A file, whose text is absent when it is not UTF-8, or a directory. -/
inductive FileTree where
  | file (text : Option String)
  | directory (entries : List (String × FileTree))

namespace FileTree

def parts (path : String) : List String :=
  path.splitOn "/"

/-- The longest name of a file or directory, in bytes. -/
def nameLimit : Nat := 255

/-- The longest path, in bytes. -/
def pathLimit : Nat := 4095

/-- The tree at the parts of a path, given the directories on the way, the nearest first. An empty
part and a point stay in a directory, two points leave it. -/
def find (around : List FileTree) : FileTree → List String → Except FileFault FileTree
  | tree, [] => .ok tree
  | .file _, _ :: _ => .error .notADirectory
  | .directory entries, part :: rest =>
      if part = "" ∨ part = "." then find around (.directory entries) rest
      else if part = ".." then
        match around with
        | [] => .error .notFound
        | parent :: others => find others parent rest
      else if nameLimit < part.utf8ByteSize then .error .nameTooLong
      else
        match entries.lookup part with
        | none => .error .notFound
        | some tree => find (.directory entries :: around) tree rest

/-- The tree at a path from the working directory. -/
def locate (root : FileTree) (path : String) : Except FileFault FileTree :=
  if path.contains '\x00' then .error .unusablePath
  else if pathLimit < path.utf8ByteSize then .error .nameTooLong
  else if path.isEmpty || path.startsWith "/" then .error .notFound
  else find [] root (parts path)

def files (root : FileTree) : Files where
  readText path := do
    match ← root.locate path with
    | .directory _ => throw .isADirectory
    | .file none => throw .notText
    | .file (some text) => return text
  listing path := do
    match ← root.locate path with
    | .directory entries => return entries.map fun entry => .ok entry.1
    | .file _ => throw .notADirectory

/-! ## Changes -/

def empty : FileTree :=
  .directory []

def entries : FileTree → List (String × FileTree)
  | .file _ => []
  | .directory entries => entries

/-- The names from the root to where one part of a path leads. -/
def enter (place : List String) (part : String) : List String :=
  if part = "" ∨ part = "." then place
  else if part = ".." then place.dropLast
  else place ++ [part]

/-- The places that the parts of a path lead through, each as the names from the root. -/
def way (place : List String) : List String → List (List String)
  | [] => []
  | part :: rest => enter place part :: way (enter place part) rest

def target (path : String) : List String :=
  (parts path).foldl enter []

/-- A tree put at a place, in directories made for it where they are missing. -/
def put (content : FileTree) : List String → FileTree → FileTree
  | [], _ => content
  | name :: rest, tree =>
      let inner := (tree.entries.lookup name).getD empty
      .directory (Entries.insert name (put content rest inner) tree.entries)

/-- A tree with a directory at a place; what is there stays. -/
def makeDirectory (root : FileTree) (place : List String) : FileTree :=
  match find [] root place with
  | .ok _ => root
  | .error _ => put empty place root

/-- A tree with a file or directory at a path. The directories that the path leads through are
made first, also those that it leaves again; a directory that is there stays. -/
def write (root : FileTree) (path : String) (content : FileTree) : FileTree :=
  let prepared := (way [] (parts path)).dropLast.foldl makeDirectory root
  match content with
  | .directory _ => makeDirectory prepared (target path)
  | .file _ => put content (target path) prepared

/-- A tree without what stands at a place. -/
def erase : List String → FileTree → FileTree
  | [], tree => tree
  | [name], tree => .directory (tree.entries.filter fun entry => entry.1 != name)
  | name :: rest, tree =>
      match tree.entries.lookup name with
      | none => tree
      | some inner => .directory (Entries.insert name (erase rest inner) tree.entries)

/-- A tree without what a path leads to, if it leads to anything. -/
def remove (root : FileTree) (path : String) : FileTree :=
  match root.locate path with
  | .ok _ => erase (target path) root
  | .error _ => root

end FileTree

end ParamSchema
