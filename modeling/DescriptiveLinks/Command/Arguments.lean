/-! # Command-line arguments

Arguments are read from left to right, and the first one that decides the outcome wins: a request
for help, or a misuse. An option takes the argument after it as its value, whatever that looks like;
of an option given several times the last value counts. -/

namespace DescriptiveLinks.Command

/-- How diagnostics are written. -/
inductive Format where
  /-- One line for each. -/
  | pretty
  /-- A JSON array. -/
  | json
deriving DecidableEq, Repr

/-- What the arguments of a run ask for. -/
structure Arguments where
  /-- The paths of the documents; without any, the standard input is the document. -/
  inputs : List String := []
  /-- The path of the configuration. -/
  config : Option String := none
  /-- How diagnostics are written. -/
  format : Format := .pretty
deriving DecidableEq, Repr

/-- How arguments are misused. -/
inductive UsageError where
  /-- The path of the configuration is missing. -/
  | missingConfig
  /-- The format is missing, or there is none of that name. -/
  | unknownFormat
  /-- There is no such option. -/
  | unexpected (argument : String)
deriving DecidableEq, Repr

/-- The text of the error. -/
def UsageError.message : UsageError → String
  | missingConfig => "--config expects a file path"
  | unknownFormat => "--format expects: json | pretty"
  | unexpected argument => s!"unexpected argument: {argument}"

/-- The line that tells how the command is used. -/
def usage : String :=
  "Usage: linktext [--config FILE] [--format pretty|json] [TREE.json ...]"

/-- What a list of arguments comes to. -/
inductive Request where
  /-- Help is asked for. -/
  | help
  /-- The arguments are misused. -/
  | misuse (e : UsageError)
  /-- Documents are to be checked. -/
  | check (a : Arguments)
deriving DecidableEq, Repr

/-- The format with a given name. -/
def Format.ofName? (name : String) : Option Format :=
  if name = "pretty" then some pretty else if name = "json" then some json else none

/-- Reads arguments after those that `a` is made of. -/
def Arguments.scan (a : Arguments) : List String → Request
  | [] => .check a
  | argument :: rest =>
    if argument = "-h" ∨ argument = "--help" then .help
    else if argument = "--config" then
      match rest with
      | [] => .misuse .missingConfig
      | path :: rest => scan { a with config := some path } rest
    else if argument = "--format" then
      match rest with
      | [] => .misuse .unknownFormat
      | name :: rest =>
        match Format.ofName? name with
        | none => .misuse .unknownFormat
        | some format => scan { a with format } rest
    else if ['-', '-'] <+: argument.toList then .misuse (.unexpected argument)
    else scan { a with inputs := a.inputs ++ [argument] } rest

/-- What the arguments of the command come to. -/
def Request.ofArguments (arguments : List String) : Request :=
  Arguments.scan {} arguments

end DescriptiveLinks.Command
