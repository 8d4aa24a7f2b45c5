import DescriptiveLinks.Text.Quoted

/-! # Log events

Operations say what they did by *events*, which are values: a result that comes with events is
`Logged`, and whoever runs the operation decides which of them to show. -/

namespace DescriptiveLinks

/-- How much attention an event asks for. -/
inductive Level where
  /-- Something that the user should mend. -/
  | warn
  /-- Progress, of interest to developers. -/
  | debug
deriving DecidableEq, Repr

/-- The name of a level on a log line. -/
def Level.name : Level → String
  | warn => "WARN"
  | debug => "DEBUG"

/-- What happened during an operation. -/
inductive Event where
  /-- The options of a rule, found under the key `rule`, ban a phrase that no key can equal. -/
  | phraseNotNormalized (rule phrase : String)
  /-- A document was not checked because the rule is disabled. -/
  | checkDisabled
  /-- A document was checked. -/
  | linkTextChecked (nodes phrases findings : Nat)
  /-- The document of an input was dealt with. -/
  | documentChecked (path : String) (findings : Nat)
deriving DecidableEq, Repr

/-- The value of a field of an event. -/
inductive Field where
  /-- A text. -/
  | text (s : String)
  /-- A number. -/
  | number (n : Nat)
deriving DecidableEq, Repr

/-- A field value on a log line. -/
def Field.render : Field → String
  | text s => Text.quoted s
  | number n => toString n

namespace Event

/-- The level of an event. -/
def level : Event → Level
  | phraseNotNormalized .. => .warn
  | checkDisabled | linkTextChecked .. | documentChecked .. => .debug

/-- The part of the program that an event comes from, by its name in a log filter. -/
def origin : Event → String
  | phraseNotNormalized .. => "linktext_core::config"
  | checkDisabled | linkTextChecked .. => "linktext_core::rule"
  | documentChecked .. => "linktext"

/-- What an event says. -/
def message : Event → String
  | phraseNotNormalized .. => "configured link text is not normalized and will never match"
  | checkDisabled => "descriptive link text check disabled"
  | linkTextChecked .. => "checked link text"
  | documentChecked .. => "checked document"

/-- The fields of an event. -/
def fields : Event → List (String × Field)
  | phraseNotNormalized rule phrase => [("rule", .text rule), ("phrase", .text phrase)]
  | checkDisabled => []
  | linkTextChecked nodes phrases findings =>
    [("nodes", .number nodes), ("phrases", .number phrases), ("findings", .number findings)]
  | documentChecked path findings => [("path", .text path), ("findings", .number findings)]

/-- The log line of an event. -/
def line (e : Event) : String :=
  " ".intercalate
    (e.level.name :: e.message :: e.fields.map fun (name, value) => s!"{name}={value.render}")

end Event

/-- A result together with the events that led to it, the first one first. -/
structure Logged (α : Type) where
  /-- The events. -/
  events : List Event
  /-- The result. -/
  value : α

end DescriptiveLinks
