import Conformance.Duration
import Conformance.Path
import Conformance.Verdict

/-! # Settings

One value describes a run or a listing.  It is made from the defaults by single
settings, each of which changes one field.
-/

namespace Conformance

/-- What to make of a fixture directory that cannot be read. -/
inductive Tolerance where
  /-- Go on as if it were empty. -/
  | permissive
  /-- Give up. -/
  | strict
deriving Repr, DecidableEq

/-- The forms of a report a user can choose from. -/
inductive ReportForm where
  | console
  | json
deriving Repr, DecidableEq

/-- When a console report is coloured. -/
inductive Coloring where
  | auto
  | always
  | never
deriving Repr, DecidableEq

/-- Whether to colour, given whether the output goes to a terminal. -/
def Coloring.isOn (coloring : Coloring) (onTerminal : Bool) : Bool :=
  match coloring with
  | .auto => onTerminal
  | .always => true
  | .never => false

/-- The description of a run or a listing. -/
structure Settings where
  /-- The program under test. -/
  subject : Path := ⟨[]⟩
  /-- The arguments the subject gets before the mode. -/
  subjectArgs : List String := []
  /-- Where the fixtures are. -/
  fixtureDir : Path := .ofString "tests"
  /-- The argument the subject gets before the fixture. -/
  mode : String := "test"
  /-- What marks the name of a fixture that is to be rejected. -/
  marker : String := Convention.defaultMarker
  /-- How long the subject may take on a fixture. -/
  timeout : Option Duration := none
  /-- Whether a run stops at the first failure. -/
  failFast : Bool := false
  /-- Which fixtures to use. -/
  keyword : Option String := none
  /-- What to make of a fixture directory that cannot be read. -/
  tolerance : Tolerance := .permissive
  /-- What the report looks like. -/
  format : ReportForm := .console
  /-- When the report is coloured. -/
  coloring : Coloring := .auto
  /-- Whether the report gives details on every fixture. -/
  verbose : Bool := false
deriving DecidableEq

/-- A choice for one field. -/
inductive Setting where
  | subject (program : Path)
  | subjectArg (argument : String)
  | fixtureDir (dir : Path)
  | mode (argument : String)
  | marker (word : String)
  | timeout (limit : Duration)
  | failFast (on : Bool)
  | keyword (word : String)
  | tolerance (tolerance : Tolerance)
  | format (format : ReportForm)
  | coloring (coloring : Coloring)
  | verbose (on : Bool)
deriving DecidableEq

namespace Settings

/-- The settings with one choice made.  Subject arguments add up; any other choice
    replaces the one before it. -/
def choose (settings : Settings) : Setting → Settings
  | .subject program => { settings with subject := program }
  | .subjectArg argument => { settings with subjectArgs := settings.subjectArgs ++ [argument] }
  | .fixtureDir dir => { settings with fixtureDir := dir }
  | .mode argument => { settings with mode := argument }
  | .marker word => { settings with marker := word }
  | .timeout limit => { settings with timeout := some limit }
  | .failFast on => { settings with failFast := on }
  | .keyword word => { settings with keyword := some word }
  | .tolerance tolerance => { settings with tolerance := tolerance }
  | .format format => { settings with format := format }
  | .coloring coloring => { settings with coloring := coloring }
  | .verbose on => { settings with verbose := on }

/-- The settings that choices make of the defaults. -/
def ofChoices (choices : List Setting) : Settings := choices.foldl choose {}

/-- The convention the marker stands for. -/
def convention (settings : Settings) : Convention := .marked settings.marker

/-- The arguments of the subject on a fixture. -/
def arguments (settings : Settings) (fixture : Fixture) : List String :=
  settings.subjectArgs ++ [settings.mode, fixture.id]

end Settings

end Conformance
