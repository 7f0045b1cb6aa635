import Conformance.CommandLine.Help
import Conformance.CommandLine.Value

/-! # Reading a command line

Words are read from left to right.  An option that takes a value and has none attached
stays pending: the next word gives it its value, and the word after that, or the end,
settles it.  Settling is when a value is checked and when a repetition is noticed, so a
word that has no place at all is reported before a bad value that is still pending.

Requests for help and for the version take effect as soon as they are reached.
-/

namespace Conformance.CommandLine

/-- Why reading stops short of a command. -/
inductive Interruption where
  | misuse (found : Misuse)
  | help (page : HelpPage)
  | version
deriving Repr, DecidableEq

/-- What the user is told. -/
def Interruption.message : Interruption → String
  | .misuse found => found.message
  | .help page => page.text
  | .version => versionText

/-- The exit code: asking for help is no mistake. -/
def Interruption.exitCode : Interruption → Nat
  | .misuse _ => 2
  | .help _ | .version => 0

/-- What a command line asks for. -/
inductive Command where
  | run (choices : List Setting)
  | list (choices : List Setting)
deriving DecidableEq

/-- The settings of a command. -/
def Command.settings : Command → Settings
  | .run choices | .list choices => .ofChoices choices

/-! ## Words -/

/-- A word of the command line by its shape. -/
inductive Word where
  /-- The word `--`. -/
  | divider
  /-- The word `--name` or `--name=value`. -/
  | long (name : List UInt8) (value : Option (List UInt8))
  /-- A word `-abc`: its letters, and the bytes after them that are no characters. -/
  | letters (letters : List Char) (rest : List UInt8)
  /-- Any other word; also `-` alone. -/
  | plain
deriving Repr, DecidableEq

/-- The byte `-`. -/
def hyphen : UInt8 := 0x2D

/-- The byte `=`. -/
def equals : UInt8 := 0x3D

/-- The shape of a word. -/
def Word.ofBytes (bytes : List UInt8) : Word :=
  match bytes with
  | first :: rest =>
    if first ≠ hyphen then .plain
    else
      match rest with
      | [] => .plain
      | second :: name =>
        if second ≠ hyphen then
          let split := Utf8.splitValid rest
          .letters split.1 split.2
        else if name.isEmpty then .divider
        else
          .long (name.takeWhile (· ≠ equals))
            (if name.contains equals then some ((name.dropWhile (· ≠ equals)).drop 1) else none)
  | [] => .plain

/-! ## Progress -/

/-- What has been read so far. -/
structure Progress where
  /-- The options that took effect. -/
  given : List Opt := []
  /-- The settings they chose, in order. -/
  choices : List Setting := []
  /-- The option read last that takes a value, with the value once it has one. -/
  pending : Option (Opt × Option (List UInt8)) := none
  /-- Whether the divider was read, after which every word stands for itself. -/
  divided : Bool := false

/-- An attempt to read further. -/
abbrev Reading := Except Interruption Progress

namespace Progress

/-- Lets an option take effect. -/
def add (progress : Progress) (opt : Opt) (setting : Setting) : Progress :=
  { progress with
    given := progress.given ++ [opt]
    choices := progress.choices ++ [setting] }

/-- Whether an option was given before and may not be given again. -/
def repeats (progress : Progress) (opt : Opt) : Bool :=
  progress.given.contains opt && !opt.spec.repeatable

/-- Lets an option with a value take effect. -/
def take (progress : Progress) (opt : Opt) (read : List UInt8 → Except Misuse Setting)
    (value : List UInt8) : Reading :=
  if progress.repeats opt then .error (.misuse (.repeatedOption opt))
  else
    match read value with
    | .ok setting => .ok (progress.add opt setting)
    | .error misuse => .error (.misuse misuse)

/-- Settles the pending option. -/
def settle (progress : Progress) : Reading :=
  match progress.pending with
  | none => .ok progress
  | some (opt, none) => .error (.misuse (.missingValue opt))
  | some (opt, some value) =>
    match opt.action with
    | .take read => { progress with pending := none }.take opt read value
    | _ => .ok { progress with pending := none }

/-- Lets an option without a value take effect. -/
def flag (scope : Scope) (opt : Opt) (full : Bool) (progress : Progress) : Reading :=
  match opt.action with
  | .set setting =>
    if progress.repeats opt then .error (.misuse (.repeatedOption opt))
    else .ok (progress.add opt setting)
  | .take _ => .ok { progress with pending := some (opt, none) }
  | .showHelp => .error (.help (.ofScope scope full))
  | .showVersion => .error .version

/-- Reads an option that stands in its long form. -/
def long (scope : Scope) (progress : Progress) (name : List UInt8)
    (value : Option (List UInt8)) : Reading :=
  match (Utf8.decode? name).bind scope.long? with
  | none => .error (.misuse (.unknownArgument ("--" ++ Utf8.decodeLossy name)))
  | some opt =>
    match opt.action, value with
    | .take read, some value => progress.settle.bind fun progress => progress.take opt read value
    | _, some value => .error (.misuse (.unexpectedValue opt (Utf8.decodeLossy value)))
    | _, none => progress.settle.bind (flag scope opt true)

/-- The value attached to a letter: what follows it, without one equals sign. -/
def attached (rest : List UInt8) : List UInt8 :=
  match rest with
  | first :: value => if first = equals then value else rest
  | [] => []

/-- Reads a word of letters.  A letter that takes a value takes the rest of the word, if
    there is any. -/
def letters (scope : Scope) (progress : Progress) (rest : List UInt8) : List Char → Reading
  | [] =>
    if rest.isEmpty then .ok progress
    else .error (.misuse (.unknownArgument ("-" ++ Utf8.decodeLossy rest)))
  | letter :: more =>
    match scope.short? letter with
    | none => .error (.misuse (.unknownArgument ("-" ++ letter.toString)))
    | some opt =>
      match opt.action with
      | .take read =>
        match more.flatMap String.utf8EncodeChar ++ rest with
        | [] => progress.settle.bind (flag scope opt false)
        | value => progress.settle.bind fun progress => progress.take opt read (attached value)
      | _ =>
        match progress.settle.bind (flag scope opt false) with
        | .ok progress => letters scope progress rest more
        | .error interruption => .error interruption

/-- A word that stands for itself.  Commands take none; where a command should stand it
    is no command, or one that comes too late. -/
def stray (scope : Scope) (divided : Bool) (word : List UInt8) : Misuse :=
  let shown := Utf8.decodeLossy word
  match scope with
  | .program =>
    if divided && (commands.lookup shown).isSome then .unknownArgument shown
    else .unknownCommand shown
  | _ => .unknownArgument shown

/-- Reads one word. -/
def step (scope : Scope) (progress : Progress) (word : List UInt8) : Reading :=
  if progress.divided then .error (.misuse (stray scope true word))
  else
    match progress.pending, Word.ofBytes word with
    | some (opt, none), shape =>
      let taken : Progress := { progress with pending := some (opt, some word) }
      if opt.spec.takesAnyWord then .ok taken
      else
        match shape with
        | .divider => .ok { progress with divided := true }
        | .long name value => progress.long scope name value
        | .letters letters rest => Progress.letters scope progress rest letters
        | .plain => .ok taken
    | _, .divider => .ok { progress with divided := true }
    | _, .long name value => progress.long scope name value
    | _, .letters letters rest => Progress.letters scope progress rest letters
    | _, .plain => .error (.misuse (stray scope false word))

end Progress

/-! ## Commands -/

/-- Reads the words after a command. -/
def readOptions (scope : Scope) (words : List (List UInt8)) : Reading := do
  let progress ← words.foldlM (Progress.step scope) {}
  progress.settle

/-- Reads the words after `run`. -/
def readRun (words : List (List UInt8)) : Except Interruption Command := do
  let progress ← readOptions .run words
  if progress.given.contains .subject then .ok (.run progress.choices)
  else .error (.misuse (.missingOption .subject))

/-- Reads the words after `list`. -/
def readList (words : List (List UInt8)) : Except Interruption Command := do
  let progress ← readOptions .list words
  .ok (.list progress.choices)

/-- The page of the command with the given name. -/
def helpPage? (name : String) : Option HelpPage :=
  match name with
  | "run" => some .runFull
  | "list" => some .list
  | "help" => some .help
  | _ => none

/-- Reads the words after `help`: at most one command. -/
def readHelp (words : List (List UInt8)) : Interruption :=
  match words with
  | [] => .help .overview
  | word :: words =>
    match (Utf8.decode? word).bind helpPage?, words with
    | none, _ => .misuse (.unknownCommand (Utf8.decodeLossy word))
    | some page, [] => .help page
    | some _, next :: _ => .misuse (.unknownCommand (Utf8.decodeLossy next))

/-- Reads a command line from its first word on. -/
def readWords (progress : Progress) : List (List UInt8) → Except Interruption (Option Command)
  | [] => .ok none
  | word :: words =>
    match if progress.divided then none else Utf8.decode? word with
    | some "run" => (readRun words).map some
    | some "list" => (readList words).map some
    | some "help" => .error (readHelp words)
    | _ =>
      match progress.step .program word with
      | .ok progress => readWords progress words
      | .error interruption => .error interruption

/-- Reads a command line.  Without a command it asks for nothing. -/
def parse (words : List (List UInt8)) : Except Interruption (Option Command) :=
  readWords {} words

end Conformance.CommandLine
