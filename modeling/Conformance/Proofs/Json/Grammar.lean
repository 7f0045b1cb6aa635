import Conformance.Proofs.Json

/-! # The grammar of JSON

The rules of RFC 8259 as relations between a text, what it denotes and what is left behind it.
Numbers denote rationals and strings denote texts; an escaped surrogate denotes a character
together with its partner only.  An object is the list of its members in the order written, so
a key that occurs twice can be seen.

No text denotes two values (`IsText.unique`).  A run of digits could end anywhere, and a blank
could be left to what follows, but not if the rest has to go on as the rules demand: behind a
value there is a blank, a comma, a bracket or nothing (`Stops`).

The reader of records accepts nothing but what the rules derive (`isText_of_read?`), so what a
record is written as denotes the record, and nothing else.
-/

namespace Conformance.Json

/-- What a text can denote. -/
inductive Value where
  | null
  | bool (value : Bool)
  | number (value : Rat)
  | text (value : String)
  | array (items : List Value)
  | object (members : List (String × Value))

/-! ## Rules -/

def isBlank (c : Char) : Bool := c == ' ' || c == '\t' || c == '\n' || c == '\r'

/-- `ws`: blanks may be passed over. -/
def Blank (text rest : List Char) : Prop :=
  ∃ blanks, text = blanks ++ rest ∧ ∀ c ∈ blanks, isBlank c = true

/-- `1*DIGIT` -/
def Digits (text : List Char) : Prop := text ≠ [] ∧ ∀ c ∈ text, c.isDigit = true

/-- `int`: digits, the first of which is zero only if it is the only one. -/
def Whole (text : List Char) : Prop := Digits text ∧ (text.head? = some '0' → text = ['0'])

def digitsValue (digits : List Char) : Nat := Nat.ofDigitChars 10 digits 0

/-- `[ frac ]` -/
inductive Fraction : List Char → Rat → Prop where
  | absent : Fraction [] 0
  | point {digits : List Char} (written : Digits digits) :
      Fraction ('.' :: digits) (digitsValue digits / 10 ^ digits.length)

/-- `[ exp ]` -/
inductive Exponent : List Char → Int → Prop where
  | absent : Exponent [] 0
  | unsigned {e : Char} {digits : List Char} (letter : e = 'e' ∨ e = 'E')
      (written : Digits digits) : Exponent (e :: digits) (digitsValue digits)
  | plus {e : Char} {digits : List Char} (letter : e = 'e' ∨ e = 'E')
      (written : Digits digits) : Exponent (e :: '+' :: digits) (digitsValue digits)
  | minus {e : Char} {digits : List Char} (letter : e = 'e' ∨ e = 'E')
      (written : Digits digits) : Exponent (e :: '-' :: digits) (-digitsValue digits)

/-- `int [ frac ] [ exp ]` -/
inductive Magnitude : List Char → Rat → Prop where
  | parts {whole fraction exponent : List Char} {f : Rat} {e : Int} (wholePart : Whole whole)
      (fractionPart : Fraction fraction f) (exponentPart : Exponent exponent e) :
      Magnitude (whole ++ (fraction ++ exponent)) ((digitsValue whole + f) * 10 ^ e)

/-- `number` -/
inductive Number : List Char → Rat → Prop where
  | unsigned {text : List Char} {q : Rat} (magnitude : Magnitude text q) : Number text q
  | minus {text : List Char} {q : Rat} (magnitude : Magnitude text q) : Number ('-' :: text) (-q)

/-- The number that four hexadecimal digits give. -/
def hexCode? (a b c d : Char) : Option Nat :=
  match hexValue? a, hexValue? b, hexValue? c, hexValue? d with
  | some a, some b, some c, some d => some (((a * 16 + b) * 16 + c) * 16 + d)
  | _, _, _, _ => none

/-- `*char quotation-mark` -/
inductive Chars : List Char → List Char → List Char → Prop where
  | close (rest : List Char) : Chars ('"' :: rest) [] rest
  | unescaped {c : Char} {text chars rest : List Char} (printable : 0x20 ≤ c.toNat)
      (notQuote : c ≠ '"') (notBackslash : c ≠ '\\') (more : Chars text chars rest) :
      Chars (c :: text) (c :: chars) rest
  | letter {l c : Char} {text chars rest : List Char} (escape : letterEscape? l = some c)
      (more : Chars text chars rest) : Chars ('\\' :: l :: text) (c :: chars) rest
  | code {a b c d : Char} {n : Nat} {text chars rest : List Char}
      (escape : hexCode? a b c d = some n) (valid : n.isValidChar) (more : Chars text chars rest) :
      Chars ('\\' :: 'u' :: a :: b :: c :: d :: text) (Char.ofNat n :: chars) rest
  | pair {a b c d a' b' c' d' : Char} {high low : Nat} {text chars rest : List Char}
      (first : hexCode? a b c d = some high) (second : hexCode? a' b' c' d' = some low)
      (isHigh : 0xD800 ≤ high ∧ high < 0xDC00) (isLow : 0xDC00 ≤ low ∧ low < 0xE000)
      (more : Chars text chars rest) :
      Chars ('\\' :: 'u' :: a :: b :: c :: d :: '\\' :: 'u' :: a' :: b' :: c' :: d' :: text)
        (Char.ofNat (0x10000 + (high - 0xD800) * 0x400 + (low - 0xDC00)) :: chars) rest

mutual

/-- `value` -/
inductive Reads : List Char → Value → List Char → Prop where
  | null (rest : List Char) : Reads ('n' :: 'u' :: 'l' :: 'l' :: rest) .null rest
  | yes (rest : List Char) : Reads ('t' :: 'r' :: 'u' :: 'e' :: rest) (.bool true) rest
  | no (rest : List Char) : Reads ('f' :: 'a' :: 'l' :: 's' :: 'e' :: rest) (.bool false) rest
  | number {text token rest : List Char} {q : Rat} (split : text = token ++ rest)
      (written : Number token q) : Reads text (.number q) rest
  | text {text chars rest : List Char} (written : Chars text chars rest) :
      Reads ('"' :: text) (.text (String.ofList chars)) rest
  | emptyArray {text rest : List Char} (closes : Blank text (']' :: rest)) :
      Reads ('[' :: text) (.array []) rest
  | array {text rest : List Char} {items : List Value} (written : Items text items rest) :
      Reads ('[' :: text) (.array items) rest
  | emptyObject {text rest : List Char} (closes : Blank text ('\x7d' :: rest)) :
      Reads ('\x7b' :: text) (.object []) rest
  | object {text rest : List Char} {members : List (String × Value)}
      (written : Members text members rest) : Reads ('\x7b' :: text) (.object members) rest

/-- `value *( value-separator value ) end-array` -/
inductive Items : List Char → List Value → List Char → Prop where
  | last {text first after rest : List Char} {value : Value} (before : Blank text first)
      (written : Reads first value after) (closes : Blank after (']' :: rest)) :
      Items text [value] rest
  | more {text first after next rest : List Char} {value : Value} {items : List Value}
      (before : Blank text first) (written : Reads first value after)
      (comma : Blank after (',' :: next)) (others : Items next items rest) :
      Items text (value :: items) rest

/-- `member *( value-separator member ) end-object` -/
inductive Members : List Char → List (String × Value) → List Char → Prop where
  | last {text after rest : List Char} {member : String × Value}
      (written : Member text member after) (closes : Blank after ('\x7d' :: rest)) :
      Members text [member] rest
  | more {text after next rest : List Char} {member : String × Value}
      {members : List (String × Value)} (written : Member text member after)
      (comma : Blank after (',' :: next)) (others : Members next members rest) :
      Members text (member :: members) rest

/-- `string name-separator value` -/
inductive Member : List Char → String × Value → List Char → Prop where
  | pair {text first key behind next start after : List Char} {value : Value}
      (before : Blank text ('"' :: first)) (name : Chars first key behind)
      (colon : Blank behind (':' :: next)) (gap : Blank next start)
      (written : Reads start value after) : Member text (String.ofList key, value) after

end

/-- `JSON-text`: a value between blanks. -/
def IsText (text : List Char) (value : Value) : Prop :=
  ∃ first after, Blank text first ∧ Reads first value after ∧ Blank after []

/-! ## Where a rule has to stop -/

/-- Nothing in front of the rest has the property. -/
def Free (p : Char → Bool) (rest : List Char) : Prop := ∀ c, rest.head? = some c → p c = false

theorem free_cons {p : Char → Bool} {c : Char} {rest : List Char} (other : p c = false) :
    Free p (c :: rest) := by
  intro d first
  cases first
  exact other

theorem free_nil (p : Char → Bool) : Free p [] := by
  intro c first
  cases first

/-- Where a run of characters cannot go on, its end is determined. -/
theorem run_unique {p : Char → Bool} {first second rest other : List Char}
    (firstRun : ∀ c ∈ first, p c = true) (secondRun : ∀ c ∈ second, p c = true)
    (free : Free p rest) (otherFree : Free p other) (same : first ++ rest = second ++ other) :
    first = second ∧ rest = other := by
  have longest {run rest : List Char} (all : ∀ c ∈ run, p c = true) (free : Free p rest) :
      (run ++ rest).takeWhile p = run := by
    rw [List.takeWhile_append_of_pos all]
    cases rest with
    | nil => simp
    | cons c rest => simp [free c rfl]
  have runs : first = second := by
    rw [← longest firstRun free, same, longest secondRun otherFree]
  subst runs
  exact ⟨rfl, List.append_cancel_left same⟩

theorem Blank.unique {text rest other : List Char} (first : Blank text rest)
    (second : Blank text other) (free : Free isBlank rest) (otherFree : Free isBlank other) :
    rest = other := by
  obtain ⟨blanks, rfl, all⟩ := first
  obtain ⟨others, same, otherAll⟩ := second
  exact (run_unique all otherAll free otherFree same).2

/-- The characters that occur in numbers. -/
def isNumberChar (c : Char) : Bool :=
  c.isDigit || c == '-' || c == '+' || c == '.' || c == 'e' || c == 'E'

/-- No number goes on with these characters. -/
def Stops (rest : List Char) : Prop := Free isNumberChar rest

theorem not_isNumberChar_of_isBlank {c : Char} (blank : isBlank c = true) :
    isNumberChar c = false := by
  simp only [isBlank, Bool.or_eq_true, beq_iff_eq] at blank
  rcases blank with ((rfl | rfl) | rfl) | rfl <;> decide

theorem Blank.stops {text rest : List Char} (blank : Blank text rest) (stops : Stops rest) :
    Stops text := by
  obtain ⟨blanks, rfl, all⟩ := blank
  cases blanks with
  | nil => exact stops
  | cons c blanks => exact free_cons (not_isNumberChar_of_isBlank (all c (List.mem_cons_self ..)))

theorem Blank.stops_token {text rest : List Char} {c : Char} (blank : Blank text (c :: rest))
    (other : isNumberChar c = false) : Stops text := by
  apply blank.stops
  exact free_cons other

/-! ## Numbers -/

theorem Fraction.free {text : List Char} {q : Rat} (fraction : Fraction text q)
    {rest : List Char} (free : Free Char.isDigit rest) : Free Char.isDigit (text ++ rest) := by
  cases fraction with
  | absent => exact free
  | point => exact free_cons rfl

theorem Exponent.free {text : List Char} {e : Int} (exponent : Exponent text e) :
    Free Char.isDigit text := by
  cases exponent with
  | absent => exact free_nil _
  | unsigned letter | plus letter | minus letter =>
    rcases letter with rfl | rfl <;> exact free_cons rfl

theorem Digits.isNumberChar {text : List Char} (digits : Digits text) :
    ∀ c ∈ text, Json.isNumberChar c = true := by
  intro c member
  simp [Json.isNumberChar, digits.2 c member]

theorem Fraction.isNumberChar {text : List Char} {q : Rat} (fraction : Fraction text q) :
    ∀ c ∈ text, Json.isNumberChar c = true := by
  cases fraction with
  | absent => simp
  | point written => exact List.forall_mem_cons.mpr ⟨rfl, written.isNumberChar⟩

theorem Exponent.isNumberChar {text : List Char} {e : Int} (exponent : Exponent text e) :
    ∀ c ∈ text, Json.isNumberChar c = true := by
  have isLetter {l : Char} (letter : l = 'e' ∨ l = 'E') : Json.isNumberChar l = true := by
    rcases letter with rfl | rfl <;> rfl
  cases exponent with
  | absent => simp
  | unsigned letter written =>
    exact List.forall_mem_cons.mpr ⟨isLetter letter, written.isNumberChar⟩
  | plus letter written | minus letter written =>
    exact List.forall_mem_cons.mpr
      ⟨isLetter letter, List.forall_mem_cons.mpr ⟨rfl, written.isNumberChar⟩⟩

theorem Magnitude.isNumberChar {text : List Char} {q : Rat} (magnitude : Magnitude text q) :
    ∀ c ∈ text, Json.isNumberChar c = true := by
  obtain ⟨whole, fraction, exponent⟩ := magnitude
  intro c member
  rcases List.mem_append.mp member with inWhole | behind
  · exact whole.1.isNumberChar c inWhole
  · rcases List.mem_append.mp behind with inFraction | inExponent
    · exact fraction.isNumberChar c inFraction
    · exact exponent.isNumberChar c inExponent

theorem Number.isNumberChar {text : List Char} {q : Rat} (number : Number text q) :
    ∀ c ∈ text, Json.isNumberChar c = true := by
  cases number with
  | unsigned magnitude => exact magnitude.isNumberChar
  | minus magnitude => exact List.forall_mem_cons.mpr ⟨rfl, magnitude.isNumberChar⟩

theorem Magnitude.exists_cons {text : List Char} {q : Rat} (magnitude : Magnitude text q) :
    ∃ c rest, text = c :: rest ∧ c.isDigit = true := by
  obtain ⟨whole, -, -⟩ := magnitude
  obtain ⟨c, rest, rfl⟩ := List.exists_cons_of_ne_nil whole.1.1
  exact ⟨c, _, rfl, whole.1.2 c (List.mem_cons_self ..)⟩

/-- The first character tells a number from every other value. -/
theorem Number.first {c : Char} {text token rest : List Char} {q : Rat}
    (number : Number token q) (split : c :: text = token ++ rest) :
    c = '-' ∨ c.isDigit = true := by
  cases number with
  | unsigned magnitude =>
    obtain ⟨d, digits, rfl, digit⟩ := magnitude.exists_cons
    cases split
    exact .inr digit
  | minus magnitude =>
    cases split
    exact .inl rfl

theorem Exponent.unique {text : List Char} {e e' : Int} (first : Exponent text e)
    (second : Exponent text e') : e = e' := by
  -- Neither sign is a digit, so the three forms exclude each other.
  cases first with
  | absent =>
    cases second
    rfl
  | unsigned letter written =>
    cases second with
    | unsigned => rfl
    | plus | minus => cases written.2 _ (List.mem_cons_self ..)
  | plus letter written =>
    cases second with
    | unsigned letter' written' => cases written'.2 _ (List.mem_cons_self ..)
    | plus => rfl
  | minus letter written =>
    cases second with
    | unsigned letter' written' => cases written'.2 _ (List.mem_cons_self ..)
    | minus => rfl

theorem Exponent.ne_point {text rest : List Char} {e : Int} (exponent : Exponent text e) :
    text ≠ '.' :: rest := by
  cases exponent with
  | absent => simp
  | unsigned letter | plus letter | minus letter => rcases letter with rfl | rfl <;> simp

theorem Fraction.unique {text other exponent exponent' : List Char} {q q' : Rat} {e e' : Int}
    (first : Fraction text q) (second : Fraction other q') (behind : Exponent exponent e)
    (behind' : Exponent exponent' e') (same : text ++ exponent = other ++ exponent') :
    q = q' ∧ exponent = exponent' := by
  cases first with
  | absent =>
    cases second with
    | absent => exact ⟨rfl, same⟩
    | point => exact absurd same behind.ne_point
  | point written =>
    cases second with
    | absent => exact absurd same.symm behind'.ne_point
    | point written' =>
      rw [List.cons_append, List.cons_append, List.cons.injEq] at same
      obtain ⟨rfl, rfl⟩ := run_unique written.2 written'.2 behind.free behind'.free same.2
      exact ⟨rfl, rfl⟩

theorem Magnitude.unique {text : List Char} {q q' : Rat} (first : Magnitude text q)
    (second : Magnitude text q') : q = q' := by
  generalize same : text = other at second
  obtain ⟨whole, fraction, exponent⟩ := first
  obtain ⟨whole', fraction', exponent'⟩ := second
  obtain ⟨rfl, behind⟩ := run_unique whole.1.2 whole'.1.2 (fraction.free exponent.free)
    (fraction'.free exponent'.free) same
  obtain ⟨rfl, rfl⟩ := fraction.unique fraction' exponent exponent' behind
  rw [exponent.unique exponent']

theorem Number.unique {text : List Char} {q q' : Rat} (first : Number text q)
    (second : Number text q') : q = q' := by
  -- A magnitude begins with a digit, so the sign is either there or not.
  have unsigned {text : List Char} {q : Rat} : ¬ Magnitude ('-' :: text) q := by
    intro magnitude
    obtain ⟨c, rest, same, digit⟩ := magnitude.exists_cons
    cases same
    cases digit
  cases first with
  | unsigned magnitude =>
    cases second with
    | unsigned magnitude' => exact magnitude.unique magnitude'
    | minus => exact absurd magnitude unsigned
  | minus magnitude =>
    cases second with
    | unsigned magnitude' => exact absurd magnitude' unsigned
    | minus magnitude' => rw [magnitude.unique magnitude']

/-! ## Strings -/

theorem letterEscape?_u : letterEscape? 'u' = none := rfl

theorem not_isValidChar_of_surrogate {n : Nat} (high : 0xD800 ≤ n ∧ n < 0xDC00) :
    ¬ n.isValidChar := by
  simp only [Nat.isValidChar]
  omega

theorem Chars.unique {text chars chars' rest rest' : List Char} (first : Chars text chars rest)
    (second : Chars text chars' rest') : chars = chars' ∧ rest = rest' := by
  induction first generalizing chars' rest' with
  | close rest =>
    cases second with
    | close => exact ⟨rfl, rfl⟩
    | unescaped _ notQuote => exact absurd rfl notQuote
  | unescaped _ notQuote notBackslash _ ih =>
    cases second with
    | close => exact absurd rfl notQuote
    | unescaped _ _ _ more =>
      obtain ⟨rfl, rfl⟩ := ih more
      exact ⟨rfl, rfl⟩
    | letter | code | pair => exact absurd rfl notBackslash
  | letter escape _ ih =>
    cases second with
    | unescaped _ _ notBackslash => exact absurd rfl notBackslash
    | letter escape' more =>
      obtain ⟨rfl, rfl⟩ := ih more
      rw [escape, Option.some.injEq] at escape'
      exact ⟨by rw [escape'], rfl⟩
    | code | pair => cases letterEscape?_u ▸ escape
  | code escape valid _ ih =>
    cases second with
    | unescaped _ _ notBackslash => exact absurd rfl notBackslash
    | letter escape' => cases letterEscape?_u ▸ escape'
    | code escape' _ more =>
      obtain ⟨rfl, rfl⟩ := ih more
      rw [escape, Option.some.injEq] at escape'
      exact ⟨by rw [escape'], rfl⟩
    | pair escape' _ isHigh =>
      rw [escape, Option.some.injEq] at escape'
      exact absurd (escape' ▸ valid) (not_isValidChar_of_surrogate isHigh)
  | pair escape low isHigh _ _ ih =>
    cases second with
    | unescaped _ _ notBackslash => exact absurd rfl notBackslash
    | letter escape' => cases letterEscape?_u ▸ escape'
    | code escape' valid =>
      rw [escape, Option.some.injEq] at escape'
      exact absurd (escape' ▸ valid) (not_isValidChar_of_surrogate isHigh)
    | pair escape' low' _ _ more =>
      obtain ⟨rfl, rfl⟩ := ih more
      rw [escape, Option.some.injEq] at escape'
      rw [low, Option.some.injEq] at low'
      exact ⟨by rw [escape', low'], rfl⟩

/-! ## Values -/

theorem Number.free {token : List Char} {q : Rat} (number : Number token q) (rest : List Char) :
    Free isBlank (token ++ rest) := by
  intro c first
  obtain ⟨text, split⟩ := List.head?_eq_some_iff.mp first
  by_contra blank
  rw [Bool.not_eq_false, isBlank] at blank
  rcases number.first split.symm with rfl | digit
  · cases blank
  · simp only [Bool.or_eq_true, beq_iff_eq] at blank
    rcases blank with ((rfl | rfl) | rfl) | rfl <;> cases digit

theorem Reads.free {text rest : List Char} {value : Value} (reads : Reads text value rest) :
    Free isBlank text := by
  cases reads with
  | number split written => exact split ▸ written.free rest
  | _ => exact free_cons rfl

theorem Reads.not_close {text rest : List Char} {value : Value} :
    ¬ Reads (']' :: text) value rest := by
  intro reads
  cases reads with
  | number split written => simpa using written.first split

theorem Reads.number_inv {text token rest other : List Char} {value : Value} {q : Rat}
    (reads : Reads text value other) (split : text = token ++ rest) (written : Number token q) :
    ∃ token' q', text = token' ++ other ∧ Number token' q' ∧ value = .number q' := by
  cases reads with
  | number split' written' => exact ⟨_, _, split', written', rfl⟩
  | _ => simpa using written.first split

theorem Reads.string_inv {text rest : List Char} {value : Value}
    (reads : Reads ('"' :: text) value rest) :
    ∃ chars, Chars text chars rest ∧ value = .text (String.ofList chars) := by
  cases reads with
  | text written => exact ⟨_, written, rfl⟩
  | number split written => simpa using written.first split

theorem Reads.bracket_inv {text rest : List Char} {value : Value}
    (reads : Reads ('[' :: text) value rest) :
    Blank text (']' :: rest) ∧ value = .array [] ∨
      ∃ items, Items text items rest ∧ value = .array items := by
  cases reads with
  | emptyArray closes => exact .inl ⟨closes, rfl⟩
  | array written => exact .inr ⟨_, written, rfl⟩
  | number split written => simpa using written.first split

theorem Reads.brace_inv {text rest : List Char} {value : Value}
    (reads : Reads ('\x7b' :: text) value rest) :
    Blank text ('\x7d' :: rest) ∧ value = .object [] ∨
      ∃ members, Members text members rest ∧ value = .object members := by
  cases reads with
  | emptyObject closes => exact .inl ⟨closes, rfl⟩
  | object written => exact .inr ⟨_, written, rfl⟩
  | number split written => simpa using written.first split

/-- Behind blanks there is one place where a value can begin. -/
theorem Blank.first_unique {text first second rest other : List Char} {value value' : Value}
    (before : Blank text first) (before' : Blank text second) (reads : Reads first value rest)
    (reads' : Reads second value' other) : first = second :=
  before.unique before' reads.free reads'.free

theorem Blank.token_unique {text rest other : List Char} {c d : Char}
    (first : Blank text (c :: rest)) (second : Blank text (d :: other))
    (free : isBlank c = false) (otherFree : isBlank d = false) : c = d ∧ rest = other := by
  have same := first.unique second (free_cons free) (free_cons otherFree)
  simpa using same

theorem Blank.not_items {text rest other : List Char} {items : List Value}
    (closes : Blank text (']' :: rest)) : ¬ Items text items other := by
  intro items
  cases items with
  | last before reads _ | more before reads _ _ =>
    -- What stands behind the blanks would have to begin a value and to close the array.
    have same := closes.unique before (free_cons rfl) reads.free
    subst same
    exact Reads.not_close reads

theorem Blank.not_members {text rest other : List Char} {members : List (String × Value)}
    (closes : Blank text ('\x7d' :: rest)) : ¬ Members text members other := by
  intro members
  cases members with
  | last member _ | more member _ _ =>
    obtain ⟨before, -, -, -, -⟩ := member
    simpa using (closes.token_unique before rfl rfl).1

-- By induction on the first derivation; the second is inverted against the shape that the first
-- gives the text.  What follows a value inside an array or an object cannot be part of a number,
-- so `Stops` has to be assumed only of what follows the whole.
mutual

theorem Reads.unique :
    ∀ {text rest other : List Char} {value value' : Value}, Reads text value rest →
      Reads text value' other → Stops rest → Stops other → value = value' ∧ rest = other
  | _, _, _, _, _, .null rest, second, _, _ => by
    cases second with
    | null => exact ⟨rfl, rfl⟩
    | number split written => simpa using written.first split
  | _, _, _, _, _, .yes rest, second, _, _ => by
    cases second with
    | yes => exact ⟨rfl, rfl⟩
    | number split written => simpa using written.first split
  | _, _, _, _, _, .no rest, second, _, _ => by
    cases second with
    | no => exact ⟨rfl, rfl⟩
    | number split written => simpa using written.first split
  | _, _, _, _, _, .number split written, second, stops, stops' => by
    -- Both tokens are the longest run of characters that occur in numbers.
    obtain ⟨token', q', split', written', rfl⟩ := second.number_inv split written
    subst split
    obtain ⟨rfl, rfl⟩ :=
      run_unique written.isNumberChar written'.isNumberChar stops stops' split'
    exact ⟨by rw [written.unique written'], rfl⟩
  | _, _, _, _, _, .text written, second, _, _ => by
    obtain ⟨chars, written', rfl⟩ := second.string_inv
    obtain ⟨rfl, rfl⟩ := written.unique written'
    exact ⟨rfl, rfl⟩
  | _, _, _, _, _, .emptyArray closes, second, _, _ => by
    rcases second.bracket_inv with ⟨closes', rfl⟩ | ⟨items, written, -⟩
    · exact ⟨rfl, (closes.token_unique closes' rfl rfl).2⟩
    · exact absurd written closes.not_items
  | _, _, _, _, _, .array written, second, _, _ => by
    rcases second.bracket_inv with ⟨closes, -⟩ | ⟨items, written', rfl⟩
    · exact absurd written closes.not_items
    · obtain ⟨rfl, rfl⟩ := Items.unique written written'
      exact ⟨rfl, rfl⟩
  | _, _, _, _, _, .emptyObject closes, second, _, _ => by
    rcases second.brace_inv with ⟨closes', rfl⟩ | ⟨members, written, -⟩
    · exact ⟨rfl, (closes.token_unique closes' rfl rfl).2⟩
    · exact absurd written closes.not_members
  | _, _, _, _, _, .object written, second, _, _ => by
    rcases second.brace_inv with ⟨closes, -⟩ | ⟨members, written', rfl⟩
    · exact absurd written closes.not_members
    · obtain ⟨rfl, rfl⟩ := Members.unique written written'
      exact ⟨rfl, rfl⟩

theorem Items.unique :
    ∀ {text rest other : List Char} {items items' : List Value}, Items text items rest →
      Items text items' other → items = items' ∧ rest = other
  | _, _, _, _, _, .last before reads closes, second => by
    cases second with
    | last before' reads' closes' =>
      obtain rfl := before.first_unique before' reads reads'
      obtain ⟨rfl, rfl⟩ := Reads.unique reads reads' (closes.stops_token rfl)
        (closes'.stops_token rfl)
      exact ⟨rfl, (closes.token_unique closes' rfl rfl).2⟩
    | more before' reads' comma _ =>
      obtain rfl := before.first_unique before' reads reads'
      obtain ⟨rfl, rfl⟩ := Reads.unique reads reads' (closes.stops_token rfl)
        (comma.stops_token rfl)
      simpa using (closes.token_unique comma rfl rfl).1
  | _, _, _, _, _, .more before reads comma others, second => by
    cases second with
    | last before' reads' closes =>
      obtain rfl := before.first_unique before' reads reads'
      obtain ⟨rfl, rfl⟩ := Reads.unique reads reads' (comma.stops_token rfl)
        (closes.stops_token rfl)
      simpa using (closes.token_unique comma rfl rfl).1
    | more before' reads' comma' others' =>
      obtain rfl := before.first_unique before' reads reads'
      obtain ⟨rfl, rfl⟩ := Reads.unique reads reads' (comma.stops_token rfl)
        (comma'.stops_token rfl)
      obtain rfl := (comma.token_unique comma' rfl rfl).2
      obtain ⟨rfl, rfl⟩ := Items.unique others others'
      exact ⟨rfl, rfl⟩

theorem Members.unique :
    ∀ {text rest other : List Char} {members members' : List (String × Value)},
      Members text members rest → Members text members' other → members = members' ∧ rest = other
  | _, _, _, _, _, .last member closes, second => by
    cases second with
    | last member' closes' =>
      obtain ⟨rfl, rfl⟩ := Member.unique member member' (closes.stops_token rfl)
        (closes'.stops_token rfl)
      exact ⟨rfl, (closes.token_unique closes' rfl rfl).2⟩
    | more member' comma _ =>
      obtain ⟨rfl, rfl⟩ := Member.unique member member' (closes.stops_token rfl)
        (comma.stops_token rfl)
      simpa using (closes.token_unique comma rfl rfl).1
  | _, _, _, _, _, .more member comma others, second => by
    cases second with
    | last member' closes =>
      obtain ⟨rfl, rfl⟩ := Member.unique member member' (comma.stops_token rfl)
        (closes.stops_token rfl)
      simpa using (closes.token_unique comma rfl rfl).1
    | more member' comma' others' =>
      obtain ⟨rfl, rfl⟩ := Member.unique member member' (comma.stops_token rfl)
        (comma'.stops_token rfl)
      obtain rfl := (comma.token_unique comma' rfl rfl).2
      obtain ⟨rfl, rfl⟩ := Members.unique others others'
      exact ⟨rfl, rfl⟩

theorem Member.unique :
    ∀ {text rest other : List Char} {member member' : String × Value},
      Member text member rest → Member text member' other → Stops rest → Stops other →
        member = member' ∧ rest = other
  | _, _, _, _, _, .pair before name colon gap reads, second, stops, stops' => by
    -- Each part ends where the next one begins, from left to right.
    obtain ⟨before', name', colon', gap', reads'⟩ := second
    obtain rfl := (before.token_unique before' rfl rfl).2
    obtain ⟨rfl, rfl⟩ := name.unique name'
    obtain rfl := (colon.token_unique colon' rfl rfl).2
    obtain rfl := gap.first_unique gap' reads reads'
    obtain ⟨rfl, rfl⟩ := Reads.unique reads reads' stops stops'
    exact ⟨rfl, rfl⟩

end

/-- No text denotes two values. -/
theorem IsText.unique {text : List Char} {value value' : Value} (first : IsText text value)
    (second : IsText text value') : value = value' := by
  obtain ⟨start, after, before, reads, ends⟩ := first
  obtain ⟨start', after', before', reads', ends'⟩ := second
  obtain rfl := before.first_unique before' reads reads'
  exact (Reads.unique reads reads' (ends.stops (free_nil _)) (ends'.stops (free_nil _))).1

/-! ## What the reader accepts -/

/-- What a scalar is as a value. -/
def Scalar.value : Scalar → Value
  | .null => .null
  | .bool value => .bool value
  | .number n => .number n
  | .text value => .text value

@[simp] theorem Scalar.value_bool (value : Bool) : (bool value).value = .bool value := rfl

@[simp] theorem Scalar.value_number (n : Int) : (number n).value = .number n := rfl

@[simp] theorem Scalar.value_text (value : String) : (text value).value = .text value := rfl

/-- What the members of a record are as members of an object. -/
def members (record : Record) : List (String × Value) :=
  record.map fun entry => (entry.1, entry.2.value)

@[simp] theorem members_nil : members [] = [] := rfl

@[simp] theorem members_cons (entry : String × Scalar) (record : Record) :
    members (entry :: record) = (entry.1, entry.2.value) :: members record := rfl

theorem unicodeEscape?_eq_some {a b c d char : Char} (escape : unicodeEscape? a b c d = some char) :
    ∃ n, hexCode? a b c d = some n ∧ n.isValidChar ∧ char = Char.ofNat n := by
  unfold unicodeEscape? at escape
  split at escape
  next a' b' c' d' ha hb hc hd =>
    obtain ⟨valid, same⟩ := Option.ite_none_right_eq_some.mp escape
    refine ⟨((a' * 16 + b') * 16 + c') * 16 + d', ?_, valid, (Option.some.inj same).symm⟩
    rw [hexCode?, ha, hb, hc, hd]
  next => cases escape

theorem chars_of_readChars {text chars rest : List Char}
    (reads : readChars text = some (chars, rest)) : Chars text chars rest := by
  fun_induction readChars text generalizing chars with
  | case1 => cases reads
  | case2 rest' =>
    cases reads
    exact .close _
  | case3 a b c d text char escape ih =>
    obtain ⟨⟨tail, rest'⟩, more, same⟩ := Option.map_eq_some_iff.mp reads
    cases same
    obtain ⟨n, code, valid, rfl⟩ := unicodeEscape?_eq_some escape
    exact .code code valid (ih more)
  | case4 => cases reads
  | case5 letter text _ char escape ih =>
    obtain ⟨⟨tail, rest'⟩, more, same⟩ := Option.map_eq_some_iff.mp reads
    cases same
    exact .letter escape (ih more)
  | case6 => cases reads
  | case7 => cases reads
  | case8 c text notQuote _ _ plain ih =>
    obtain ⟨⟨tail, rest'⟩, more, same⟩ := Option.map_eq_some_iff.mp reads
    cases same
    rw [not_or, Nat.not_lt] at plain
    exact .unescaped plain.1 notQuote plain.2 (ih more)

theorem whole_of_readDigits {text rest : List Char} {n : Nat}
    (reads : readDigits text = some (n, rest)) :
    ∃ digits, text = digits ++ rest ∧ Whole digits ∧ n = digitsValue digits := by
  obtain ⟨wellFormed, same⟩ := Option.ite_none_left_eq_some.mp reads
  cases same
  rw [not_or, not_and, not_not] at wellFormed
  refine ⟨_, List.takeWhile_append_dropWhile.symm, ⟨⟨wellFormed.1, ?_⟩, wellFormed.2⟩, rfl⟩
  intro c member
  exact List.all_eq_true.mp List.all_takeWhile c member

theorem Whole.magnitude {digits : List Char} (whole : Whole digits) :
    Magnitude digits (digitsValue digits : Int) := by
  have parts := Magnitude.parts whole .absent .absent
  rwa [List.append_nil, List.append_nil, Rat.add_zero, Rat.zpow_zero, Rat.mul_one,
    ← Rat.intCast_natCast] at parts

theorem number_of_readNumber {text rest : List Char} {n : Int}
    (reads : readNumber text = some (n, rest)) :
    ∃ token, text = token ++ rest ∧ Number token n := by
  unfold readNumber at reads
  split at reads
  next text =>
    obtain ⟨⟨m, rest'⟩, reads, same⟩ := Option.map_eq_some_iff.mp reads
    cases same
    obtain ⟨digits, rfl, whole, rfl⟩ := whole_of_readDigits reads
    refine ⟨'-' :: digits, rfl, ?_⟩
    rw [Rat.intCast_neg]
    exact .minus whole.magnitude
  next text _ =>
    obtain ⟨⟨m, rest'⟩, reads, same⟩ := Option.map_eq_some_iff.mp reads
    cases same
    obtain ⟨digits, rfl, whole, rfl⟩ := whole_of_readDigits reads
    exact ⟨digits, rfl, .unsigned whole.magnitude⟩

theorem reads_of_readScalar {text rest : List Char} {value : Scalar}
    (reads : readScalar text = some (value, rest)) : Reads text value.value rest := by
  unfold readScalar at reads
  split at reads
  next =>
    cases reads
    exact .null _
  next =>
    cases reads
    exact .yes _
  next =>
    cases reads
    exact .no _
  next =>
    obtain ⟨⟨chars, rest'⟩, reads, same⟩ := Option.map_eq_some_iff.mp reads
    cases same
    exact .text (chars_of_readChars reads)
  next =>
    obtain ⟨⟨n, rest'⟩, reads, same⟩ := Option.map_eq_some_iff.mp reads
    cases same
    obtain ⟨token, split, number⟩ := number_of_readNumber reads
    exact .number split number

theorem Blank.refl (text : List Char) : Blank text text := ⟨[], rfl, by simp⟩

theorem member_of_readMember {text rest : List Char} {entry : String × Scalar}
    (reads : readMember text = some (entry, rest)) :
    Member text (entry.1, entry.2.value) rest := by
  unfold readMember at reads
  split at reads
  next text =>
    split at reads
    next key behind readsKey =>
      obtain ⟨⟨value, rest'⟩, reads, same⟩ := Option.map_eq_some_iff.mp reads
      cases same
      exact .pair (.refl _) (chars_of_readChars readsKey) (.refl _) (.refl _)
        (reads_of_readScalar reads)
    next => cases reads
  next => cases reads

theorem members_of_readMembers {text rest : List Char} {record : Record}
    (reads : readMembers text = some (record, rest)) : Members text (members record) rest := by
  fun_induction readMembers text generalizing record with
  | case1 text entry behind readsEntry =>
    cases reads
    exact .last (member_of_readMember readsEntry) (.refl _)
  | case2 text entry behind readsEntry _ ih =>
    obtain ⟨⟨others, rest'⟩, reads, same⟩ := Option.map_eq_some_iff.mp reads
    cases same
    exact .more (member_of_readMember readsEntry) (.refl _) (ih reads)
  | case3 => cases reads
  | case4 => cases reads

/-- The reader of records accepts texts only, and gives what they denote. -/
theorem isText_of_read? {text : List Char} {record : Record} (reads : read? text = some record) :
    IsText text (.object (members record)) := by
  refine ⟨text, [], .refl _, ?_, .refl _⟩
  unfold read? at reads
  split at reads
  next =>
    cases reads
    exact .emptyObject (.refl _)
  next text _ =>
    split at reads
    next record' readsAll =>
      cases reads
      exact .object (members_of_readMembers readsAll)
    next => cases reads
  next => cases reads

/-- A record is written as a text that denotes it, and nothing else. -/
theorem isText_write (record : Record) (value : Value) :
    IsText (write record) value ↔ value = .object (members record) := by
  have denotes := isText_of_read? (read?_write record)
  constructor
  · intro other
    exact other.unique denotes
  · rintro rfl
    exact denotes

end Conformance.Json
