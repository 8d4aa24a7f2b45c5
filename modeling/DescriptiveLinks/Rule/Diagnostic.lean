import DescriptiveLinks.Json.Value
import DescriptiveLinks.Rule.Finding

/-! # Diagnostics

A finding as it is shown to users: with the rule that it breaks, and with as much of the text as
fits a line. -/

namespace DescriptiveLinks

/-- The greatest number of characters of a text that are shown. -/
def excerptLength : Nat := 30

/-- A text cut to `excerptLength` characters, with dots in place of what is left out. -/
def excerpt (text : String) : String :=
  if text.length ≤ excerptLength then text
  else String.ofList (text.toList.take excerptLength) ++ "..."

/-- How serious a diagnostic is. -/
inductive Severity where
  /-- It should be mended but breaks nothing. -/
  | warning
deriving DecidableEq, Repr

/-- The name of a severity. -/
def Severity.name : Severity → String
  | warning => "warning"

/-- A finding as it is shown to users. -/
structure Diagnostic where
  /-- The rule. -/
  rule : Rule
  /-- The line. -/
  line : Nat
  /-- The column. -/
  column : Nat
  /-- The length of the text in characters. -/
  length : Nat
  /-- The text as far as it is shown. -/
  context : String
  /-- How serious it is. -/
  severity : Severity
deriving DecidableEq, Repr

namespace Diagnostic

/-- The diagnostic of a finding. -/
def ofFinding (rule : Rule) (f : Finding) : Diagnostic where
  rule := rule
  line := f.start.line
  column := f.start.column
  length := f.length
  context := excerpt f.text
  severity := .warning

/-- The diagnostic on one line, for the document with the given path. -/
def pretty (d : Diagnostic) (path : String) : String :=
  let place := s!"{path}:{d.line}:{d.column}"
  s!"{place} {d.rule.title} {d.rule.description} [Context: \"{d.context}\"]"

/-- A natural number in JSON. -/
def jsonNat (n : Nat) : Json.Value :=
  .number (.integer n)

/-- The fields of a diagnostic in JSON, in the order in which they are serialized. -/
def fields (d : Diagnostic) : List (String × Json.Value) :=
  [("lineNumber", jsonNat d.line),
    ("ruleNames", .array (d.rule.names.map .string)),
    ("ruleDescription", .string d.rule.description),
    ("errorContext", .string d.context),
    ("errorRange", .array [jsonNat d.column, jsonNat d.length]),
    ("severity", .string d.severity.name)]

/-- The diagnostic in JSON. -/
def toJson (d : Diagnostic) : Json.Value :=
  .ofEntries (Json.entries d.fields)

end Diagnostic

end DescriptiveLinks
