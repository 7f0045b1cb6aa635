import Conformance.Text.Lines

/-! # Fixtures

A fixture is known by an identifier, usually a path.  Its last component decides what
is expected of it and whether a keyword selects it.
-/

namespace Conformance

/-- A fixture, known by the identifier that is passed to the subject as it stands. -/
structure Fixture where
  id : String
deriving Repr, DecidableEq, Inhabited

namespace Fixture

/-- The last component of a path: what follows the last separator once every trailing
    separator is gone. -/
def lastComponent (path : List Char) : List Char :=
  ((path.reverse.dropWhile (· = '/')).takeWhile (· ≠ '/')).reverse

/-- The name of a fixture. -/
def name (fixture : Fixture) : String :=
  String.ofList (lastComponent fixture.id.toList)

/-- Fixtures are ordered by the bytes of their identifiers, which for UTF-8 is the order
    of the code points. -/
def precedes (a b : Fixture) : Bool := decide (a.id ≤ b.id)

/-- The three way comparison of two fixtures. -/
def order (a b : Fixture) : Ordering :=
  if a.id = b.id then .eq else if a.precedes b then .lt else .gt

/-- The fixtures in order; equal ones stay. -/
def sort (fixtures : List Fixture) : List Fixture := fixtures.mergeSort precedes

/-- Whether a keyword selects a fixture: its name contains the keyword. -/
def isSelectedBy (keyword : String) (fixture : Fixture) : Bool :=
  Text.contains keyword fixture.name

/-- The fixtures a keyword selects, in order; without a keyword, all of them. -/
def select (keyword : Option String) (fixtures : List Fixture) : List Fixture :=
  match keyword with
  | some word => fixtures.filter (isSelectedBy word)
  | none => fixtures

end Fixture

end Conformance
