import Conformance.Listing
import Conformance.FileSystem.Tree

/-! # Following paths

A path is followed name by name from the root or from the working directory.  Symbolic
links are followed wherever they stand, the last name included, up to a limit on their
number.
-/

namespace Conformance

/-! ## Limits -/

/-- The longest name a directory can hold, in bytes. -/
def longestName : Nat := 255

/-- The longest path that can be followed, in bytes. -/
def longestPath : Nat := 4095

/-- How many symbolic links may be followed on the way. -/
def mostLinks : Nat := 40

namespace Tree

/-- Where following names came to: the place of the last one, a fault, or a symbolic
    link, with the directory it stands in and the names after it. -/
inductive Descent where
  | arrived (location : Location)
  | stopped (fault : IoFault)
  | atLink (dir : Location) (target : Path) (rest : List Name)
deriving Repr, DecidableEq

/-- The name of a directory in itself. -/
def here : Name := [0x2E]

/-- The name of a directory's parent in it. -/
def parent : Name := [0x2E, 0x2E]

/-- Follows names down the tree until the first symbolic link.  Every name, also an
    empty one, needs a directory to stand in. -/
def descend (tree : Tree) (location : Location) : List Name → Descent
  | [] => .arrived location
  | name :: rest =>
    if !tree.isDir location then .stopped .notADirectory
    else if name = [] ∨ name = here then tree.descend location rest
    else if name = parent then tree.descend location.dropLast rest
    else if longestName < name.length then .stopped .nameTooLong
    else
      match tree.node? (location ++ [name]) with
      | none => .stopped .notFound
      | some (.link target) => .atLink location target rest
      | some _ => tree.descend (location ++ [name]) rest

/-- Where a path starts. -/
def startOf (path : Path) (location : Location) : Location :=
  if path.isAbsolute then [] else location

/-- Follows names and at most `links` symbolic links. -/
def follow (tree : Tree) (links : Nat) (location : Location) (names : List Name) :
    Except IoFault Location :=
  match tree.descend location names with
  | .arrived location => .ok location
  | .stopped fault => .error fault
  | .atLink dir target rest =>
    match links with
    | 0 => .error .tooManyLinks
    | links + 1 => tree.follow links (startOf target dir) (target.parts ++ rest)

/-- The place a path leads to from a working directory. -/
def resolve (tree : Tree) (workingDir : Location) (path : Path) : Except IoFault Location :=
  if path.bytes.isEmpty then .error .notFound
  else if longestPath < path.bytes.length then .error .nameTooLong
  else tree.follow mostLinks (startOf path workingDir) path.parts

/-! ## What paths are used for -/

/-- Lists the directory at a path. -/
def list (tree : Tree) (workingDir : Location) (path : Path) : Listing :=
  if path.hasNul then .error .nulInPath
  else
    match tree.resolve workingDir path with
    | .error fault => .error fault
    | .ok location =>
      if tree.isDir location then .ok ((tree.names location).map .named)
      else .error .notADirectory

/-- Looks for a program without a separator in its name.  None of the directories that
    are searched holds one, but each holds itself and its parent, which cannot be run. -/
def searchProgram (name : List UInt8) : Except IoFault Unit :=
  if name = here ∨ name = parent then .error .permissionDenied
  else if longestName < name.length then .error .nameTooLong
  else .error .notFound

/-- Whether a program can be started. -/
def checkProgram (tree : Tree) (workingDir : Location) (program : Path) : Except IoFault Unit :=
  if !program.bytes.contains Path.separator then searchProgram program.bytes
  else
    match tree.resolve workingDir program with
    | .error fault => .error fault
    | .ok location =>
      if tree.node? location = some (.file true) then .ok () else .error .permissionDenied

/-! ## Planting -/

/-- The directory that a name leads to from a directory; it is put there if there is
    nothing.  The name of the parent leads out of wherever links have led. -/
def enter (state : Tree × Location) (name : Name) : Tree × Location :=
  let (tree, location) := state
  let inside := location ++ [name]
  if name = parent then (tree, location.dropLast)
  else
    match tree.node? inside with
    | none => (tree.add inside .dir, inside)
    | some _ => (tree, (tree.follow mostLinks location [name]).toOption.getD inside)

/-- Puts a node at a path, and directories where they are missing on the way. -/
def plant (tree : Tree) (workingDir : Location) (path : Path) (node : Node) : Tree :=
  let names := path.parts.filter fun name => !(name.isEmpty || name == here)
  let (tree, location) := names.dropLast.foldl enter (tree, workingDir)
  match names.getLast? with
  | some name => if name = parent then tree else tree.add (location ++ [name]) node
  | none => tree

end Tree

end Conformance
