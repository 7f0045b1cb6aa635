import Conformance.Path

/-! # Directory trees

A file system as data: the nodes of a tree under one root, each at the list of names
that leads to it.
-/

namespace Conformance

/-- A name in a directory. -/
abbrev Name := List UInt8

/-- The place of a node: the names from the root to it, outermost first. -/
abbrev Location := List Name

/-- What stands at a place. -/
inductive Node where
  | dir
  | file (executable : Bool)
  | link (target : Path)
deriving Repr, DecidableEq

/-- A directory tree.  The root is always there, and a directory. -/
structure Tree where
  nodes : List (Location × Node) := []
deriving Repr, DecidableEq

namespace Tree

/-- The node at a place. -/
def node? (tree : Tree) (location : Location) : Option Node :=
  if location.isEmpty then some .dir else tree.nodes.lookup location

/-- Whether a directory stands at a place. -/
def isDir (tree : Tree) (location : Location) : Bool := tree.node? location == some .dir

/-- The names in a directory, in the order in which they came there. -/
def names (tree : Tree) (location : Location) : List Name :=
  tree.nodes.filterMap fun (place, _) =>
    if place.dropLast = location then place.getLast? else none

/-- Puts a node at a place where there is none. -/
def add (tree : Tree) (location : Location) (node : Node) : Tree :=
  if (tree.node? location).isSome then tree else ⟨tree.nodes ++ [(location, node)]⟩

end Tree

end Conformance
