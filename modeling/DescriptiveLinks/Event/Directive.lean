import DescriptiveLinks.Event.Verbosity
import DescriptiveLinks.Text.Decimal
import DescriptiveLinks.Text.Pattern
import DescriptiveLinks.Text.Span

/-! # Directives of a log filter

A directive is a verbosity, which holds for every event, or a name with a verbosity after an equals
sign, which holds for events whose origin starts with that name. A name alone, or with nothing after
the equals sign, shows all of them.

After the name, or in its place, brackets may stand. Braces inside them name a field, and restrict
the directive to events with that field. Anything else in the brackets is about the operations that
events happen in, and so is a value that the field is to have, which is a number or a pattern. The
operations have no names and no fields here, so that such a directive shows nothing.

* `Places.ofText?` finds the parts of a directive.
* `Directive.ofText?` reads a directive. -/

namespace DescriptiveLinks

open Unicode

/-! ## Values of fields -/

/-- Whether a text is a number without a sign: a decimal one, or one that has a name. -/
def isNumber (s : List Char) : Bool :=
  Text.isDecimal s || String.ofList (s.map Char.toLower) ∈ ["inf", "infinity", "nan"]

/-- Whether a text is the value of a field. A number is a pattern unless a plus sign stands before
it. -/
def IsFieldValue (s : List Char) : Prop :=
  s.head? = some '+' ∧ isNumber s.tail ∨ Text.IsPattern s

instance (s : List Char) : Decidable (IsFieldValue s) :=
  inferInstanceAs (Decidable (_ ∨ _))

/-! ## Places -/

/-- The places of what stands in the brackets of a directive. -/
structure BracketPlaces where
  /-- What is about operations. -/
  operation : Span
  /-- The field, if there are braces. -/
  field : Option Span
deriving DecidableEq, Repr

/-- The places of the parts of a directive, as offsets in bytes. -/
structure Places where
  /-- The name. -/
  name : Span
  /-- What stands in the brackets, if there are any. -/
  brackets : Option BracketPlaces
  /-- Where the verbosity starts, if there is an equals sign. -/
  verbosity : Option Nat
deriving DecidableEq, Repr

namespace Places

/-- Whether a name may start with a character. -/
def startsName (c : Char) : Bool :=
  c = '-' || c = ':' || c = '_' || isAlphanumeric c

/-- Where the verbosity starts in what stands behind the brackets from an offset on. -/
def verbosity? (start : Nat) : List Char → Option (Option Nat)
  | [] => some none
  | '=' :: _ => some (some (start + 1))
  | _ => none

/-- Finds the parts from the opening bracket on, which stands behind a name. -/
def afterName? (name : Span) (text : List Char) : Option Places :=
  let within := text.takeWhile fun c => c ≠ ']' && c ≠ '\x7b'
  let operation := Span.ofText (name.stop + 1) within
  match text.dropWhile fun c => c ≠ ']' && c ≠ '\x7b' with
  | ']' :: rest =>
    (verbosity? (operation.stop + 1) rest).map fun v => ⟨name, some ⟨operation, none⟩, v⟩
  | '\x7b' :: rest =>
    let within := rest.takeWhile (· ≠ '\x7d')
    let field := Span.ofText (operation.stop + 1) within
    match rest.dropWhile (· ≠ '\x7d') with
    | '\x7d' :: ']' :: rest =>
      if within.isEmpty then none
      else
        (verbosity? (field.stop + 2) rest).map fun v => ⟨name, some ⟨operation, some field⟩, v⟩
    | _ => none
  | _ => none

/-- Finds the parts of a directive. -/
def ofText? (text : List Char) : Option Places :=
  let within := text.takeWhile fun c => c ≠ '=' && c ≠ '['
  let name := Span.ofText 0 within
  match within, text.drop within.length with
  | [], '[' :: rest => afterName? name rest
  | [], _ => none
  | c :: _, rest =>
    if startsName c then
      match rest with
      | '=' :: _ => some ⟨name, none, some (name.stop + 1)⟩
      | '[' :: rest => afterName? name rest
      | _ => some ⟨name, none, none⟩
    else none

end Places

/-! ## Directives -/

/-- A directive of a log filter. -/
structure Directive where
  /-- What the origin of an event has to start with, if anything. -/
  origin : List Char := []
  /-- The field that an event has to have, if any. -/
  field : Option String := none
  /-- How much is shown of the events that the directive is about. -/
  verbosity : Verbosity := .trace
deriving DecidableEq, Repr

namespace Directive

/-- Whether the directive is about an event. What an event says counts as one of its fields. -/
def IsAbout (d : Directive) (e : Event) : Prop :=
  d.origin <+: e.origin.toList ∧ ∀ name ∈ d.field, name ∈ "message" :: e.fields.map (·.1)

instance (d : Directive) (e : Event) : Decidable (d.IsAbout e) :=
  inferInstanceAs (Decidable (_ ∧ _))

/-- Whether a directive says at least as much about events as another one: it has a longer name,
or it names a field, or the field that comes later. -/
def IsAtLeast (d e : Directive) : Prop :=
  e.origin.length < d.origin.length ∨
    e.origin.length = d.origin.length ∧ e.field.getD "" ≤ d.field.getD ""

instance (d e : Directive) : Decidable (d.IsAtLeast e) :=
  inferInstanceAs (Decidable (_ ∨ _))

/-- The directive that is a word: a verbosity, or else a name. -/
def ofWord (word : List Char) : Directive :=
  match Verbosity.ofText? word with
  | some v => { verbosity := v }
  | none => { origin := word }

/-- The verbosity that a text gives, where an empty one shows everything. -/
def verbosityOf? (text : List Char) : Option Verbosity :=
  if text.isEmpty then some .trace else Verbosity.ofText? text

/-- The name of the field in a text between braces; `some none` if there is a value too. -/
def fieldName? (text : List Char) : Option (Option String) :=
  match text.dropWhile (· ≠ '=') with
  | [] => some (some (String.ofList text))
  | _ :: value => if IsFieldValue (value.takeWhile (· ≠ '=')) then some none else none

/-- Adds what stands in the brackets; `some none` if that is not about events at all. -/
def withBrackets? (d : Directive) (text : List Char) (b : BracketPlaces) :
    Option (Option Directive) := do
  let operation ← (b.operation.slice text).toOption
  match b.field with
  | none => return none
  | some field =>
    let name ← fieldName? (← (field.slice text).toOption)
    return if operation.isEmpty then name.map fun n => { d with field := some n } else none

/-- Reads a directive. One that is not about events at all is `some none`, and `none` is a text that
is no directive. The places are those in the text without the white space around it, but the parts
are what stands there in the text with it. -/
def ofText? (text : List Char) : Option (Option Directive) := do
  let places ← Places.ofText? (trim text)
  let origin ← (places.name.slice text).toOption
  let verbosity ← match places.verbosity with
    | none => some .trace
    | some start => (Text.splitAt? start text).bind fun (_, v) => verbosityOf? v
  match places.brackets with
  | some brackets => withBrackets? { origin, verbosity } text brackets
  | none =>
    return some (if places.verbosity.isSome then { origin, verbosity } else ofWord text)

end Directive

end DescriptiveLinks
