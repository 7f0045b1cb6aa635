import Conformance.CommandLine.Opt
import Conformance.Version

/-! # Help pages

The help of the program and of its commands, set from the table of options.  The `run`
command has a summary and a full page; the other pages have one form.
-/

namespace Conformance.CommandLine

/-- The pages of the manual. -/
inductive HelpPage where
  | overview
  | runSummary
  | runFull
  | list
  | help
deriving Repr, DecidableEq

namespace HelpPage

/-- A text filled up with blanks to a width. -/
def padded (width : Nat) (text : String) : String :=
  text ++ String.ofList (List.replicate (width - text.length) ' ')

/-- The greatest length among texts. -/
def widest (texts : List String) : Nat := (texts.map String.length).foldl max 0

/-- The spellings of an option, as the left column shows them. -/
def spelling (opt : Opt) : String :=
  match opt.spec.short, opt.spec.long with
  | some short, some long => "-" ++ short.toString ++ ", --" ++ long ++ opt.valueLabel
  | some short, none => "-" ++ short.toString ++ opt.valueLabel
  | none, some long => "    --" ++ long ++ opt.valueLabel
  | none, none => opt.valueLabel

/-- What the page says an option is for.  The two pages of `run` point at each other. -/
def about (page : HelpPage) (opt : Opt) : String :=
  match page, opt with
  | .runSummary, .help => opt.spec.about ++ " (see more with '--help')"
  | .runFull, .help => opt.spec.about ++ " (see a summary with '-h')"
  | _, _ => opt.spec.about

/-! ## Options in one line each -/

/-- The default and the choices of an option, behind its explanation. -/
def remarks (opt : Opt) : String :=
  (opt.spec.default.map fun value => " [default: " ++ value ++ "]").getD "" ++
    (if opt.spec.choices.isEmpty then ""
     else " [possible values: " ++ ", ".intercalate (opt.spec.choices.map Prod.fst) ++ "]")

/-- The lines of a summary of options. -/
def summaryLines (page : HelpPage) (options : List Opt) : String :=
  let width := widest (options.map spelling)
  String.join <| options.map fun opt =>
    "  " ++ padded width (spelling opt) ++ "  " ++ page.about opt ++ remarks opt ++ "\n"

/-! ## Options in a paragraph each -/

/-- The indentation of explanations. -/
def indent : String := String.ofList (List.replicate 10 ' ')

/-- The line of a choice. -/
def choiceLine (width : Nat) (choice : String × Option String) : String :=
  match choice.2 with
  | some explanation =>
    indent ++ "- " ++ padded (width + 1) (choice.1 ++ ":") ++ " " ++ explanation ++ "\n"
  | none => indent ++ "- " ++ choice.1 ++ "\n"

/-- The choices of an option, one to a line. -/
def choiceLines (choices : List (String × Option String)) : String :=
  if choices.isEmpty then ""
  else
    "\n" ++ indent ++ "Possible values:\n" ++
      String.join (choices.map (choiceLine (widest (choices.map Prod.fst))))

/-- The default of an option, below a line of blanks. -/
def defaultLines (value : String) : String :=
  indent ++ "\n" ++ indent ++ "[default: " ++ value ++ "]\n"

/-- The paragraph of an option. -/
def paragraph (page : HelpPage) (opt : Opt) : String :=
  "  " ++ spelling opt ++ "\n" ++ indent ++ page.about opt ++ "\n" ++
    choiceLines opt.spec.choices ++ (opt.spec.default.map defaultLines).getD ""

/-! ## Pages -/

/-- What a command is for. -/
def commandAbout (name : String) : String := (commands.lookup name).getD ""

/-- The lines of the commands. -/
def commandLines : String :=
  let width := widest (commands.map Prod.fst)
  String.join <| commands.map fun command =>
    "  " ++ padded width command.1 ++ "  " ++ command.2 ++ "\n"

/-- The opening of a page: what the command is for, and how it is called. -/
def opening (about usage : String) : String :=
  about ++ "\n\nUsage: " ++ programName ++ " " ++ usage ++ "\n\n"

/-- The text of a page. -/
def text : HelpPage → String
  | .overview =>
    opening "Run a subject program against a directory of fixtures and check its exit status"
      "[COMMAND]" ++
    "Commands:\n" ++ commandLines ++
    "\nOptions:\n" ++ summaryLines .overview Scope.program.options
  | .runSummary =>
    opening (commandAbout "run") "run [OPTIONS] --subject <PATH>" ++
    "Options:\n" ++ summaryLines .runSummary Scope.run.options
  | .runFull =>
    opening (commandAbout "run") "run [OPTIONS] --subject <PATH>" ++
    "Options:\n" ++ "\n".intercalate (Scope.run.options.map (paragraph .runFull))
  | .list =>
    opening (commandAbout "list") "list [OPTIONS]" ++
    "Options:\n" ++ summaryLines .list Scope.list.options
  | .help =>
    opening (commandAbout "help") "help [COMMAND]..." ++
    "Arguments:\n  [COMMAND]...  Print help for the subcommand(s)\n"

/-- The page an option asks for. -/
def ofScope (scope : Scope) (full : Bool) : HelpPage :=
  match scope with
  | .program => .overview
  | .run => if full then .runFull else .runSummary
  | .list => .list

end HelpPage

/-- The text that tells the version. -/
def versionText : String := programName ++ " " ++ version ++ "\n"

end Conformance.CommandLine
