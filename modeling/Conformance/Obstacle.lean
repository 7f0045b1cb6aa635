import Conformance.Fixture
import Conformance.OsError
import Conformance.Path
import Conformance.Text.Page

/-! # Obstacles

What can keep a run from completing.  Every obstacle has a message, and where there is
one a cause and a piece of advice; `Obstacle.render` lays all of them out as the
diagnostic a user sees.
-/

namespace Conformance

/-! ## Causes -/

/-- Why an operation on the outside world failed. -/
inductive IoFault where
  | os (code : Int)
  | because (text : String)
deriving Repr, DecidableEq

namespace IoFault

/-- The fault in words. -/
def text : IoFault → String
  | .os code => osErrorText code ++ " (os error " ++ toString code ++ ")"
  | .because text => text

/-- A name on the way does not exist. -/
def notFound : IoFault := .os 2

/-- The object exists but may not be used this way. -/
def permissionDenied : IoFault := .os 13

/-- A name on the way is not that of a directory. -/
def notADirectory : IoFault := .os 20

/-- A program was given an argument, or all in all arguments, of too many bytes. -/
def argumentsTooLong : IoFault := .os 7

/-- The device takes no more bytes. -/
def noSpace : IoFault := .os 28

/-- A component or the whole of a path is too long. -/
def nameTooLong : IoFault := .os 36

/-- Following a path met too many symbolic links. -/
def tooManyLinks : IoFault := .os 40

/-- A path to be listed contains a NUL byte. -/
def nulInPath : IoFault := .because "file name contained an unexpected NUL byte"

/-- A program or one of its arguments contains a NUL byte. -/
def nulInArgument : IoFault := .because "nul byte found in provided data"

end IoFault

/-! ## Obstacles -/

/-- Why a fixture directory could not be read. -/
inductive ListingError where
  | missing (dir : Path)
  | unlistable (dir : Path) (cause : IoFault)
  | notText (dir : Path)
deriving Repr, DecidableEq

/-- Why a run could not be completed. -/
inductive Obstacle where
  | listing (error : ListingError)
  | noSubject (subject : Path)
  | cannotStart (subject : Path) (cause : IoFault)
  | cannotWait (fixture : Fixture) (cause : IoFault)
  | cannotReport (cause : IoFault)
deriving Repr, DecidableEq

namespace ListingError

/-- The error in one line. -/
def message : ListingError → String
  | .missing dir => "fixture directory '" ++ dir.display ++ "' does not exist"
  | .unlistable dir _ => "cannot list fixture directory '" ++ dir.display ++ "'"
  | .notText dir => "fixture directory '" ++ dir.display ++ "' is not valid UTF-8"

end ListingError

namespace Obstacle

/-- The obstacle in one line. -/
def message : Obstacle → String
  | .listing error => error.message
  | .noSubject subject => "subject program '" ++ subject.display ++ "' was not found"
  | .cannotStart subject _ => "failed to start subject program '" ++ subject.display ++ "'"
  | .cannotWait fixture _ => "failed to wait for subject on fixture '" ++ fixture.id ++ "'"
  | .cannotReport _ => "failed to write report"

/-- What brought the obstacle about. -/
def cause? : Obstacle → Option IoFault
  | .listing (.unlistable _ cause) => some cause
  | .listing _ => none
  | .noSubject _ => none
  | .cannotStart _ cause => some cause
  | .cannotWait _ cause => some cause
  | .cannotReport cause => some cause

/-- The diagnostic code, under which an obstacle can be looked up. -/
def code : Obstacle → String
  | .listing (.missing _) => "harness::discovery::missing"
  | .listing (.unlistable _ _) => "harness::discovery::unreadable"
  | .listing (.notText _) => "harness::discovery::non_utf8"
  | .noSubject _ => "harness::invoke::subject_not_found"
  | .cannotStart _ _ => "harness::invoke::spawn"
  | .cannotWait _ _ => "harness::invoke::wait"
  | .cannotReport _ => "harness::report"

/-- What the user can do about the obstacle. -/
def help? : Obstacle → Option String
  | .listing (.missing _) =>
    some "create the directory or point the harness at another one with --fixtures <DIR>"
  | .listing (.notText _) =>
    some "fixture paths are passed to the subject verbatim; rename the directory"
  | .noSubject _ =>
    some "relative subject paths resolve against the working directory; check --subject"
  | _ => none

/-- The diagnostic: code, message, cause and advice, laid out on a page. -/
def render (obstacle : Obstacle) : String :=
  obstacle.code ++ "\n\n" ++
    Page.layOut "  × " "  │ " obstacle.message ++
    ((obstacle.cause?.map fun cause => Page.layOut "  ╰─▶ " "      " cause.text).getD "") ++
    ((obstacle.help?.map fun help => Page.layOut "  help: " "        " help).getD "")

end Obstacle

end Conformance
