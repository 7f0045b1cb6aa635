import Conformance.Text.LineBreak.Class

/-! # Where a line may end

Between two characters a line may end or not, depending on their classes and on what
stands before them.  The rules are tried in order, and the first that applies decides; a
break that no rule forbids is allowed.

A rule sees the class of the character that follows and a summary of the text before it,
which one step per character keeps up to date.
-/

namespace Conformance.Text.LineBreak

/-! ## The text before -/

/-- What the rules need to know about the text before a place. -/
structure Context where
  /-- The class of the last character that is no space and joins no other. -/
  last : Option BreakClass := none
  /-- Whether spaces stand behind that character. -/
  spaced : Bool := false
  /-- Whether it is a hyphen or the like directly behind a letter of Hebrew. -/
  behindHebrew : Bool := false
  /-- Whether it is the second regional indicator of a pair. -/
  paired : Bool := false
  /-- Whether the very last character is a joiner. -/
  joined : Bool := false
deriving Repr, DecidableEq

/-- The classes that end a line. -/
def endsLine (c : BreakClass) : Bool :=
  [.mandatory, .carriageReturn, .lineFeed, .nextLine].contains c

namespace Context

/-- Whether the place is right behind one of some classes. -/
def isBehind (context : Context) (classes : List BreakClass) : Bool :=
  !context.spaced && context.last.any classes.contains

/-- Whether the place is behind one of some classes, with or without spaces between. -/
def follows (context : Context) (classes : List BreakClass) : Bool :=
  context.last.any classes.contains

/-- Whether a combining mark at this place joins the character before it. -/
def takesMark (context : Context) : Bool :=
  !context.spaced && context.last.any fun c => !endsLine c && c != .zeroWidthSpace

/-- The class that counts for the character at this place.  A mark that joins the
    character before it has none, and one that cannot is a letter. -/
def resolve (context : Context) (c : BreakClass) : Option BreakClass :=
  if c = .combining ∨ c = .joiner then
    if context.takesMark then none else some .letter
  else some c

/-- The context behind a character that is neither a space nor joins another. -/
def behind (context : Context) (c : BreakClass) : Context where
  last := some c
  behindHebrew := (c = .hyphen || c = .breakAfter) && context.isBehind [.hebrew]
  paired := c = .regional && context.isBehind [.regional] && !context.paired

/-- The context behind a space.  Spaces at the start of a line follow nothing. -/
def behindSpace (context : Context) : Context where
  last := if context.last.any endsLine then none else context.last
  spaced := true

/-- The context behind one more character. -/
def advance (context : Context) (c : BreakClass) : Context :=
  let next :=
    match context.resolve c with
    | none => context
    | some .space => context.behindSpace
    | some c => context.behind c
  { next with joined := c = .joiner }

end Context

/-! ## The rules -/

/-- A rule: whether a line may end before a character, if the rule applies. -/
abbrev Rule := Context → BreakClass → Option Bool

/-- No line ends between a character of the first classes and one of the second. -/
def together (before after : List BreakClass) : Rule := fun context c =>
  if context.isBehind before && after.contains c then some false else none

/-- No line ends between a character of the first classes and one of the second, even
    after spaces. -/
def togetherOverSpaces (before after : List BreakClass) : Rule := fun context c =>
  if context.follows before && after.contains c then some false else none

/-- No line ends before a character of the classes. -/
def notBefore (classes : List BreakClass) : Rule := fun _ c =>
  if classes.contains c then some false else none

/-- No line ends right behind a character of the classes. -/
def notBehind (classes : List BreakClass) : Rule := fun context _ =>
  if context.isBehind classes then some false else none

/-- A line may end where a condition holds. -/
def breakIf (condition : Context → BreakClass → Bool) : Rule := fun context c =>
  if condition context c then some true else none

/-- No line ends where a condition holds. -/
def keepIf (condition : Context → BreakClass → Bool) : Rule := fun context c =>
  if condition context c then some false else none

/-- Letters of any alphabet. -/
def letters : List BreakClass := [.letter, .hebrew]

/-- Ideographs and pictographs. -/
def ideographs : List BreakClass := [.ideograph, .emojiBase, .emojiModifier]

/-- Parts and syllables of Hangul. -/
def hangul : List BreakClass :=
  [.leadingJamo, .vowelJamo, .trailingJamo, .syllableLV, .syllableLVT]

/-- The rules on line ends, spaces, joiners and punctuation. -/
def generalRules : List Rule :=
  [keepIf fun context _ => context.last.isNone && !context.spaced,
   together [.carriageReturn] [.lineFeed],
   breakIf fun context _ => !context.spaced && context.last.any endsLine,
   keepIf fun _ c => endsLine c,
   notBefore [.space, .zeroWidthSpace],
   breakIf fun context _ => context.follows [.zeroWidthSpace],
   keepIf fun context _ => context.joined,
   notBefore [.wordJoiner],
   notBehind [.wordJoiner, .glue],
   keepIf fun context c =>
     c = .glue && !context.spaced && !context.isBehind [.breakAfter, .hyphen],
   notBefore [.closing, .closingParenthesis, .exclamation, .separator, .solidus],
   keepIf fun context _ => context.follows [.opening],
   togetherOverSpaces [.quotation] [.opening],
   togetherOverSpaces [.closing, .closingParenthesis] [.nonstarter],
   togetherOverSpaces [.breakAround] [.breakAround],
   breakIf fun context _ => context.spaced,
   notBefore [.quotation],
   notBehind [.quotation],
   breakIf fun context c => c = .contingent || context.isBehind [.contingent],
   notBefore [.breakAfter, .hyphen, .nonstarter],
   notBehind [.breakBefore],
   keepIf fun context _ => context.behindHebrew]

/-- The rules on words, numbers and scripts. -/
def wordRules : List Rule :=
  [together [.solidus] [.hebrew],
   notBefore [.inseparable],
   together letters [.numeric],
   together [.numeric] letters,
   together [.unitBefore] ideographs,
   together ideographs [.unitAfter],
   together [.unitBefore, .unitAfter] letters,
   together letters [.unitBefore, .unitAfter],
   together [.closing, .closingParenthesis, .numeric] [.unitAfter, .unitBefore],
   together [.unitAfter, .unitBefore] [.opening, .numeric],
   together [.hyphen, .separator, .numeric, .solidus] [.numeric],
   together [.leadingJamo] [.leadingJamo, .vowelJamo, .syllableLV, .syllableLVT],
   together [.vowelJamo, .syllableLV] [.vowelJamo, .trailingJamo],
   together [.trailingJamo, .syllableLVT] [.trailingJamo],
   together hangul [.unitAfter],
   together [.unitBefore] hangul,
   together letters letters,
   together [.separator] letters,
   together [.letter, .hebrew, .numeric] [.opening],
   together [.closingParenthesis] [.letter, .hebrew, .numeric],
   keepIf fun context c => c = .regional && context.isBehind [.regional] && !context.paired,
   together [.emojiBase] [.emojiModifier]]

/-- Whether a line may end before a character of a class. -/
def isAllowed (context : Context) (c : BreakClass) : Bool :=
  match context.resolve c with
  | none => false
  | some c => ((generalRules ++ wordRules).findSome? fun rule => rule context c).getD true

/-! ## Whole lines -/

/-- A walk along a line: the context, and for each character passed whether a line may
    end before it, latest first. -/
structure Walk where
  context : Context := {}
  flags : List Bool := []

/-- Passes one character. -/
def Walk.step (walk : Walk) (c : Char) : Walk :=
  let group := BreakClass.ofChar c
  ⟨walk.context.advance group, isAllowed walk.context group :: walk.flags⟩

/-- For each character of a line, whether a line may end before it. -/
def allowedBefore (line : List Char) : List Bool := (line.foldl Walk.step {}).flags.reverse

end Conformance.Text.LineBreak
