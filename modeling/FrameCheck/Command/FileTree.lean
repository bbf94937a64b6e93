import FrameCheck.Command.Path

/-! Files and directories, held in memory. Entries stand in the order in which they are searched. -/

namespace FrameCheck.Command

mutual

inductive Node where
  | file (content : List UInt8)
  | directory (entries : Entries)
  /-- Something that is neither a file nor a directory, and that is empty when it is read. -/
  | device

inductive Entries where
  | nil
  | cons (name : Text) (node : Node) (rest : Entries)

end

instance : Inhabited Node := ⟨.device⟩

namespace Entries

def find? (name : Text) : Entries → Option Node
  | .nil => none
  | .cons other node rest => if other = name then some node else rest.find? name

def insert (name : Text) (node : Node) : Entries → Entries
  | .nil => .cons name node .nil
  | .cons other otherNode rest =>
    if other = name then .cons other node rest
    else if name < other then .cons name node (.cons other otherNode rest)
    else .cons other otherNode (rest.insert name node)

end Entries

namespace Node

def entries : Node → Entries
  | .directory entries => entries
  | _ => .nil

/-- Write a node at a path below a directory. Directories on the way are made; a directory
that is there stays when it is written again. -/
def write (node : Node) (new : Node) : List Text → Node
  | [] =>
    match node, new with
    | .directory entries, .directory .nil => .directory entries
    | _, _ => new
  | name :: names =>
    let inner := (node.entries.find? name).getD (.directory .nil)
    .directory (node.entries.insert name (inner.write new names))

/-- The node that names lead to, from a node with those above it at hand. Two dots lead up;
above the top there is only the top. -/
def descend (above : List Node) (node : Node) : List Text → Option Node
  | [] => some node
  | name :: names =>
    match node with
    | .directory entries =>
      if name = ".." then
        match above with
        | [] => descend [] node names
        | parent :: others => descend others parent names
      else
        match entries.find? name with
        | some inner => descend (node :: above) inner names
        | none => none
    | _ => none

end Node

mutual

/-- The contents of all scripts in a node with a name, in the order of the search. -/
def Node.scripts (name : Text) : Node → List (List UInt8)
  | .file content => if name.endsWith ".py" then [content] else []
  | .directory entries => entries.scripts
  | .device => []

def Entries.scripts : Entries → List (List UInt8)
  | .nil => []
  | .cons name node rest => node.scripts name ++ rest.scripts

end

structure FileTree where
  workingDirectory : Node := .directory .nil
  root : Node := .directory (.cons "dev" (.directory (.cons "null" .device .nil)) .nil)

namespace FileTree

/-- The directory above the working directory. All that is known of it is that it holds the
working directory, which stands there under a name that no path has. -/
def outerDirectory (tree : FileTree) : Node :=
  .directory (.cons "" tree.workingDirectory .nil)

def find? (tree : FileTree) (path : Path) : Option Node :=
  match path.root with
  | .here => tree.workingDirectory.descend [tree.outerDirectory] path.names
  | _ => tree.root.descend [] path.names

def write (tree : FileTree) (path : Path) (node : Node) : FileTree :=
  { tree with workingDirectory := tree.workingDirectory.write node path.names }

end FileTree

end FrameCheck.Command
