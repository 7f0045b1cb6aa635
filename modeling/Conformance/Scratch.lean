import Conformance.FileSystem.Resolve
import Conformance.Program
import Conformance.Subject.Invoke

/-! # Scratch worlds

A world that is described from the inside: a working directory with the entries that
are wished for, and a scripted subject at `subject` in it.
-/

namespace Conformance

/-- The description of a world. -/
structure Scratch where
  /-- The entries of the working directory, by their paths in it. -/
  entries : List (Path × Node) := []
  subject : Subject := {}

namespace Scratch

/-- The directory that holds nothing but the working directory. -/
def outerDir : Location := [Utf8.encode "scratch"]

/-- The working directory. -/
def workingDir : Location := outerDir ++ [Utf8.encode "work"]

/-- Where the program of the subject is. -/
def programPath : Path := .ofString "/bin/subject"

/-- The tree around the working directory. -/
def surroundings : Tree :=
  [(programPath, Node.file true), (.ofString "/dev/null", .file false)].foldl
    (fun tree (path, node) => tree.plant [] path node)
    ⟨[(outerDir, .dir), (workingDir, .dir)]⟩

/-- The whole tree. -/
def tree (scratch : Scratch) : Tree :=
  ((.ofString "subject", .link programPath) :: scratch.entries).foldl
    (fun tree (path, node) => tree.plant workingDir path node) surroundings

/-- Lists a directory of the scratch world. -/
def list (scratch : Scratch) : Path → Listing := scratch.tree.list workingDir

/-- Invokes the subject of the scratch world. -/
def invoke (scratch : Scratch) : Settings → Fixture → Observation :=
  Invoke.invoke (scratch.tree.checkProgram workingDir) scratch.subject

/-- The scratch world as a world for commands. -/
def world (scratch : Scratch) : World := { list := scratch.list, invoke := scratch.invoke }

end Scratch

end Conformance
