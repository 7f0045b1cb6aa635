import Conformance.Log
import Conformance.Settings

/-! # Listings

The fixtures of a directory are its visible entries, in order and each once.  Listing a
directory is the business of the outside world; what is made of a listing is decided
here.
-/

namespace Conformance

/-- An entry of a directory as a listing gives it. -/
inductive DirEntry where
  | named (name : List UInt8)
  | unreadable (cause : IoFault)
deriving Repr, DecidableEq

/-- A listing of a directory, in the order the file system gives it. -/
abbrev Listing := Except IoFault (List DirEntry)

namespace Listing

/-- A name in a directory: the directory as it stands, a separator unless it is empty
    or ends in one, and the name.  A name that starts at the root stands alone. -/
def join (dir name : String) : String :=
  if name.toList.head? = some '/' then name
  else if dir = "" ∨ dir.toList.getLast? = some '/' then dir ++ name
  else dir ++ "/" ++ name

/-- Whether a name is that of a hidden entry. -/
def isHidden (name : String) : Bool := name.toList.head? == some '.'

/-- The fixture an entry of `dir` stands for.  Only a readable entry with a visible
    UTF-8 name stands for one. -/
def fixture? (dir : String) : DirEntry → Option Fixture
  | .unreadable _ => none
  | .named bytes =>
    match Utf8.decode? bytes with
    | none => none
    | some name => if isHidden name then none else some ⟨join dir name⟩

/-- What is logged about an entry.  Entries that cannot be fixtures for a reason the
    user may not know are mentioned; hidden ones are not. -/
def log? (dir : Path) : DirEntry → Option LogEvent
  | .unreadable cause => some (.unreadableEntry dir cause)
  | .named bytes => if Utf8.isValid bytes then none else some (.nonUtf8Name bytes)

/-- The fixtures among the entries of `dir`, in order, each once. -/
def fixturesAmong (dir : String) (entries : List DirEntry) : List Fixture :=
  (Fixture.sort (entries.filterMap (fixture? dir))).eraseReps

/-- The error a failed listing amounts to. -/
def errorOf (dir : Path) (fault : IoFault) : ListingError :=
  if fault = IoFault.notFound then .missing dir else .unlistable dir fault

/-- The fixtures of a directory.  A directory whose path is not UTF-8 is not listed,
    because the paths of its fixtures could not be passed on. -/
def gather (list : Path → Listing) (dir : Path) :
    Logged (Except ListingError (List Fixture)) :=
  match dir.text? with
  | none => { value := .error (.notText dir) }
  | some text =>
    match list dir with
    | .error fault => { value := .error (errorOf dir fault) }
    | .ok entries =>
      let fixtures := fixturesAmong text entries
      { logs := entries.filterMap (log? dir) ++ [.discovered fixtures.length]
        value := .ok fixtures }

/-- The fixtures of a directory, with tolerance for one that cannot be read or
    without. -/
def gatherWith (tolerance : Tolerance) (list : Path → Listing) (dir : Path) :
    Logged (Except Obstacle (List Fixture)) :=
  let gathered := gather list dir
  match gathered.value, tolerance with
  | .ok fixtures, _ => ⟨gathered.logs, .ok fixtures⟩
  | .error error, .permissive => ⟨gathered.logs ++ [.noFixtures error], .ok []⟩
  | .error error, .strict => ⟨gathered.logs, .error (.listing error)⟩

end Listing

/-- The fixtures that settings ask for. -/
def Settings.fixtures (settings : Settings) (list : Path → Listing) :
    Logged (Except Obstacle (List Fixture)) :=
  let gathered := Listing.gatherWith settings.tolerance list settings.fixtureDir
  ⟨gathered.logs, gathered.value.map (Fixture.select settings.keyword)⟩

end Conformance
