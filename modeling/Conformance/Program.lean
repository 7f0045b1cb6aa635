import Conformance.CommandLine.Parser
import Conformance.Listing
import Conformance.Run

/-! # The program

A command is carried out against a world: directories that can be listed, a subject
that can be invoked, and a standard output.  It succeeds with exit code zero or one, or
fails with two.
-/

namespace Conformance

/-- What a command needs of the outside. -/
structure World where
  /-- Lists a directory. -/
  list : Path → Listing
  /-- Invokes the subject of some settings on a fixture. -/
  invoke : Settings → Fixture → Observation
  /-- Whether standard output is a terminal. -/
  terminal : Bool := false
  /-- How long a run takes by the clock. -/
  elapsed : Duration := .zero

/-- Why a command failed. -/
inductive Failure where
  | obstacle (met : Obstacle)
  /-- No command was given. -/
  | noCommand
deriving DecidableEq

/-- What the user is told about a failure. -/
def Failure.message : Failure → String
  | .obstacle met => met.render
  | .noCommand => CommandLine.HelpPage.overview.text

/-- The exit code of a failure. -/
def Failure.exitCode (_ : Failure) : Nat := 2

/-- What carrying out a command came to. -/
structure Execution where
  logs : List LogEvent
  /-- Standard output afterwards. -/
  sink : Sink
  /-- The exit code of the command, or its failure. -/
  result : Except Failure Nat

/-- The exit code of the program. -/
def Execution.exitCode (execution : Execution) : Nat :=
  match execution.result with
  | .ok code => code
  | .error failure => failure.exitCode

namespace Settings

/-- The style of report that settings ask for. -/
def style (settings : Settings) (terminal : Bool) : Style :=
  match settings.format with
  | .console =>
    .console { color := settings.coloring.isOn terminal, verbose := settings.verbose }
  | .json => .jsonLines

/-- The run that settings ask for. -/
def plan (settings : Settings) (world : World) (fixtures : List Fixture) : Plan Sink where
  fixtures := fixtures
  invoke := world.invoke settings
  expect := settings.convention
  reporter := (settings.style world.terminal).reporter
  failFast := settings.failFast
  elapsed := world.elapsed

end Settings

namespace Program

/-- The exit code of a command that ran the subject. -/
def exitCodeFor (summary : Summary) : Nat := if summary.tally.isClean then 0 else 1

/-- Runs the subject on the fixtures that settings ask for. -/
def run (world : World) (settings : Settings) (sink : Sink) : Execution :=
  let gathered := settings.fixtures world.list
  match gathered.value with
  | .error obstacle => ⟨gathered.logs, sink, .error (.obstacle obstacle)⟩
  | .ok fixtures =>
    let trace := (settings.plan world fixtures).run sink
    let logs :=
      gathered.logs ++ .startingRun settings.subject fixtures.length :: Effect.logs trace.effects
    match trace.result with
    | .error obstacle => ⟨logs, trace.state, .error (.obstacle obstacle)⟩
    | .ok summary => ⟨logs, trace.state, .ok (exitCodeFor summary)⟩

/-- The line of a fixture in a listing. -/
def listingLine (convention : Convention) (fixture : Fixture) : String :=
  (convention fixture).label ++ " " ++ fixture.id ++ "\n"

/-- Lists the fixtures that settings ask for, with what is expected of them. -/
def list (world : World) (settings : Settings) (sink : Sink) : Execution :=
  let gathered := settings.fixtures world.list
  match gathered.value with
  | .error obstacle => ⟨gathered.logs, sink, .error (.obstacle obstacle)⟩
  | .ok fixtures =>
    let text := String.join (fixtures.map (listingLine settings.convention))
    match sink.put (Utf8.encode text) true with
    | (sink, some fault) => ⟨gathered.logs, sink, .error (.obstacle (.cannotReport fault))⟩
    | (sink, none) => ⟨gathered.logs, sink, .ok 0⟩

/-- Carries out what a command line asks for. -/
def execute (world : World) (command : Option CommandLine.Command) (sink : Sink) : Execution :=
  match command with
  | some (.run choices) => run world (.ofChoices choices) sink
  | some (.list choices) => list world (.ofChoices choices) sink
  | none => ⟨[], sink, .error .noCommand⟩

/-- What the program leaves behind. -/
structure Response where
  exitCode : Nat
  stdout : List UInt8
  stderr : String

/-- Tells the user why no command was read.  Misuse goes to standard error; help goes to
    standard output, whether or not that takes it. -/
def interrupt (sink : Sink) (interruption : CommandLine.Interruption) : Response :=
  match interruption with
  | .misuse _ => ⟨interruption.exitCode, sink.taken, interruption.message⟩
  | .help _ | .version =>
    let sink := (sink.write (Utf8.encode interruption.message)).1
    ⟨interruption.exitCode, sink.taken, ""⟩

/-- The whole program: reads a command line and carries it out. -/
def respond (world : World) (sink : Sink) (words : List (List UInt8)) : Response :=
  match CommandLine.parse words with
  | .error interruption => interrupt sink interruption
  | .ok command =>
    let execution := execute world command sink
    let stderr :=
      match execution.result with
      | .ok _ => ""
      | .error failure => failure.message ++ "\n"
    ⟨execution.exitCode, execution.sink.taken, stderr⟩

end Program

end Conformance
