import FrameCheck.Text.Basic
import FrameCheck.Text.Split

/-!
Paths of files: a root, and the names on the way. Empty names and names of a single dot say
nothing and are left out; two dots stay.
-/

namespace FrameCheck.Command

inductive PathRoot where
  | here
  | slash
  /-- Exactly two slashes. -/
  | doubleSlash
deriving DecidableEq, Repr

def PathRoot.text : PathRoot → Text
  | .here => ""
  | .slash => "/"
  | .doubleSlash => "//"

structure Path where
  root : PathRoot
  names : List Text
deriving DecidableEq, Repr

namespace Path

def rootOf : List CodePoint → PathRoot
  | .char '/' :: .char '/' :: .char '/' :: _ => .slash
  | .char '/' :: .char '/' :: _ => .doubleSlash
  | .char '/' :: _ => .slash
  | _ => .here

def ofText (text : Text) : Path where
  root := rootOf text.points
  names := ((Text.split (.char '/') text.points).map Text.mk).filter fun name =>
    name != "" && name != "."

def text (path : Path) : Text :=
  if path.root = .here ∧ path.names = [] then "."
  else path.root.text ++ Text.intercalate "/" path.names

end Path

end FrameCheck.Command
