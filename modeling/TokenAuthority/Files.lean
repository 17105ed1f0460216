import TokenAuthority.Text.Split

/-!
# Files

A tree of files and directories, and how paths lead through it. A path is walked name by name from the
root or from the working directory. Every name but the last has to lead to a directory, `.` stays where
it is, `..` goes to the parent, and an empty path leads nowhere.
-/

namespace TokenAuthority
namespace Files

/-- A file with its bytes, or a directory with the names in it. -/
inductive Node where
  | file (content : List UInt8)
  | directory (entries : List (String × Node))
deriving Inhabited

/-- Why a path cannot be read. -/
inductive Failure where
  | notFound
  /-- Something is there, or stands in the way, that is not a readable text. -/
  | unreadable
deriving DecidableEq, Repr

namespace Node

/-- What a directory holds under a name. -/
def child? (node : Node) (name : String) : Option Node :=
  match node with
  | file _ => none
  | directory entries => (entries.find? fun (other, _) => other == name).map Prod.snd

/-- A directory. -/
def isDirectory : Node → Bool
  | file _ => false
  | directory _ => true

end Node

/-- Walks along names from a node, given with the directories above it, the nearest first. -/
def walk (node : Node) (above : List Node) : List String → Except Failure Node
  | [] => .ok node
  | name :: names =>
    match node with
    | .file _ => .error .unreadable
    | .directory entries =>
      if name = "" ∨ name = "." then walk (.directory entries) above names
      else if name = ".." then
        match above with
        | [] => walk (.directory entries) [] names
        | parent :: above => walk parent above names
      else
        match Node.child? (.directory entries) name with
        | none => .error .notFound
        | some child => walk child (.directory entries :: above) names

/-- A tree of files with a working directory. -/
structure Tree where
  root : Node
  /-- The names that lead from the root to the working directory. -/
  workingDirectory : List String := []
deriving Inhabited

/-- A path from the root. -/
def isAbsolute (path : String) : Bool :=
  path.toList.head? = some '/'

/-- The path of something inside a directory; an absolute one stands for itself. -/
def join (directory inside : String) : String :=
  if isAbsolute inside then inside
  else if directory.isEmpty || directory.toList.getLast? = some '/' then directory ++ inside
  else directory ++ "/" ++ inside

namespace Tree

/-- What a path leads to. -/
def find (tree : Tree) (path : String) : Except Failure Node :=
  if path.isEmpty then .error .notFound
  else if path.toList.contains (Char.ofNat 0) then .error .unreadable
  else
    let names := Text.splitAll '/' path
    walk tree.root [] (if isAbsolute path then names else tree.workingDirectory ++ names)

/-- A path leads to something. -/
def contains (tree : Tree) (path : String) : Bool :=
  (tree.find path).toBool

/-- A path leads to a directory. -/
def isDirectory (tree : Tree) (path : String) : Bool :=
  match tree.find path with
  | .ok node => node.isDirectory
  | .error _ => false

/-- A path leads to a file. -/
def isFile (tree : Tree) (path : String) : Bool :=
  match tree.find path with
  | .ok node => !node.isDirectory
  | .error _ => false

/-- The names in the directory that a path leads to. -/
def names? (tree : Tree) (path : String) : Option (List String) :=
  match tree.find path with
  | .ok (.directory entries) => some (entries.map Prod.fst)
  | _ => none

/-- The text of the file that a path leads to. -/
def readText (tree : Tree) (path : String) : Except Failure String :=
  match tree.find path with
  | .error failure => .error failure
  | .ok (.directory _) => .error .unreadable
  | .ok (.file content) =>
    match String.fromUTF8? ⟨content.toArray⟩ with
    | some text => .ok text
    | none => .error .unreadable

end Tree

/-- Puts a node at the end of a path of plain names, making the directories on the way. -/
def Node.insert (node : Node) : List String → Node → Node
  | [], added => added
  | name :: names, added =>
    let entries := match node with
      | directory entries => entries
      | file _ => []
    let child := ((entries.find? fun (other, _) => other == name).map Prod.snd).getD (directory [])
    directory ((entries.filter fun (other, _) => other != name) ++ [(name, child.insert names added)])

/-- Puts a node into a tree at a path, in place of what the path leads to. -/
def Tree.insert (tree : Tree) (path : String) (added : Node) : Tree :=
  let names := if isAbsolute path then Text.splitAll '/' path
    else tree.workingDirectory ++ Text.splitAll '/' path
  let plain := names.foldl (fun plain name =>
    if name = "" ∨ name = "." then plain
    else if name = ".." then plain.dropLast
    else plain ++ [name]) []
  { tree with root := tree.root.insert plain added }

end Files
end TokenAuthority
