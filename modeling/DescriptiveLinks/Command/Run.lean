import DescriptiveLinks.Command.Arguments
import DescriptiveLinks.Command.Files
import DescriptiveLinks.Event.Filter
import DescriptiveLinks.Json.Printer
import DescriptiveLinks.Rule.Configuration
import DescriptiveLinks.Rule.Diagnostic
import DescriptiveLinks.Tree.Loader

/-! # Runs of the command

A run is a function of the arguments, the files and the standard input. It goes through stages, each
of which may stop it: the arguments, the configuration, reading all documents, and then loading and
checking one after the other. Nothing is written to the standard output before all documents have
been checked.

* `reports` is what a run has to say, or why it stops.
* `run` is its outcome: exit code, standard output, and what goes to standard error. -/

namespace DescriptiveLinks.Command

/-- Why a run stops before it reports anything. -/
inductive Stop where
  /-- Help was asked for. -/
  | help
  /-- The arguments are misused. -/
  | misuse (e : UsageError)
  /-- The configuration cannot be read. -/
  | configUnreadable (path : String) (e : ReadError)
  /-- The configuration is refused. -/
  | configRefused (e : ConfigError)
  /-- The standard input cannot be read. -/
  | inputUnreadable (e : ReadError)
  /-- A document cannot be read. -/
  | documentUnreadable (path : String) (e : ReadError)
  /-- A document is no syntax tree. -/
  | documentRefused (path : String) (e : LoadError)
deriving DecidableEq, Repr

namespace Stop

/-- The exit code: that of a misuse is two, and so is that of a bad configuration. -/
def exitCode : Stop → Nat
  | help => 0
  | misuse _ | configUnreadable .. | configRefused _ => 2
  | inputUnreadable _ | documentUnreadable .. | documentRefused .. => 1

/-- The lines that tell why the run stops, without the place of an error in a JSON text. -/
def lines : Stop → List String
  | help => [usage]
  | misuse e => [e.message, usage]
  | configUnreadable path e => [s!"invalid configuration: {path}: {e.message}"]
  | configRefused e => [s!"invalid configuration: {e.message}"]
  | inputUnreadable e => [s!"failed to read stdin: {e.message}"]
  | documentUnreadable path e => [s!"failed to read {path}: {e.message}"]
  | documentRefused path e => [s!"failed to load syntax tree {path}: {e.message}"]

end Stop

/-- A document before it is loaded. -/
structure Document where
  /-- The path that reports give for it. -/
  path : String
  /-- The text. -/
  text : String
deriving DecidableEq, Repr

/-- A diagnostic of a document. -/
structure Report where
  /-- The path of the document. -/
  path : String
  /-- The diagnostic. -/
  diagnostic : Diagnostic
deriving DecidableEq, Repr

namespace Report

/-- A report on one line. -/
def pretty (r : Report) : String :=
  r.diagnostic.pretty r.path

/-- A report in JSON: the object of the diagnostic with the path as a further member. -/
def toJson (r : Report) : Json.Value :=
  r.diagnostic.toJson.insert "fileName" (.string r.path)

end Report

/-- Reports as they are written to the standard output. -/
def Format.render : Format → List Report → String
  | pretty, reports => String.join (reports.map fun r => r.pretty ++ "\n")
  | json, reports => (Json.Value.array (reports.map Report.toJson)).render ++ "\n"

/-! ## Stages -/

/-- The options of the rule. -/
def loadOptions (files : Files) : Option String → Logged (Except Stop RuleOptions)
  | none => ⟨[], .ok {}⟩
  | some path =>
    match files.readText path with
    | .error e => ⟨[], .error (.configUnreadable path e)⟩
    | .ok text =>
      let read := Configuration.optionsOfJson text
      ⟨read.events, read.value.mapError .configRefused⟩

/-- The documents under the paths of inputs. -/
def readPaths (files : Files) : List String → Except Stop (List Document)
  | [] => .ok []
  | path :: paths =>
    match files.readText path with
    | .error e => .error (.documentUnreadable path e)
    | .ok text => (readPaths files paths).map (⟨path, text⟩ :: ·)

/-- The documents of a run: those under the paths, or the standard input if there is no path. -/
def readDocuments (files : Files) (input : Contents) (paths : List String) :
    Except Stop (List Document) :=
  if paths.isEmpty then
    match input.text with
    | .error e => .error (.inputUnreadable e)
    | .ok text => .ok [⟨"stdin", text⟩]
  else readPaths files paths

/-- The reports on documents that are loaded and checked one after the other. -/
def checkDocuments (options : RuleOptions) : List Document → Logged (Except Stop (List Report))
  | [] => ⟨[], .ok []⟩
  | d :: ds =>
    match SyntaxTree.ofJson d.text with
    | .error e => ⟨[], .error (.documentRefused d.path e)⟩
    | .ok tree =>
      let checked := lint tree options
      let reports := checked.value.map fun f => ⟨d.path, .ofFinding descriptiveLinkText f⟩
      let others := checkDocuments options ds
      ⟨checked.events ++ .documentChecked d.path checked.value.length :: others.events,
        others.value.map (reports ++ ·)⟩

/-- What a run with given arguments has to say, or why it stops. -/
def reports (a : Arguments) (files : Files) (input : Contents) :
    Logged (Except Stop (List Report)) :=
  let options := loadOptions files a.config
  match options.value with
  | .error e => ⟨options.events, .error e⟩
  | .ok o =>
    match readDocuments files input a.inputs with
    | .error e => ⟨options.events, .error e⟩
    | .ok documents =>
      let checked := checkDocuments o documents
      ⟨options.events ++ checked.events, checked.value⟩

/-! ## Outcomes -/

/-- The outcome of a run. -/
structure Outcome where
  /-- The exit code. -/
  exitCode : Nat
  /-- What is written to the standard output. -/
  stdout : String := ""
  /-- The events, which are logged to standard error. -/
  events : List Event := []
  /-- The lines that are written to standard error after them. -/
  notices : List String := []
deriving DecidableEq, Repr

/-- The outcome of a run that stops. -/
def Outcome.ofStop (events : List Event) (s : Stop) : Outcome where
  exitCode := s.exitCode
  events := events
  notices := s.lines

/-- The outcome of a run that reports; it fails if there is anything to report. -/
def Outcome.ofReports (format : Format) (events : List Event) (reports : List Report) :
    Outcome where
  exitCode := if reports.isEmpty then 0 else 1
  stdout := format.render reports
  events := events

/-- The log lines of a run that a filter shows. -/
def Outcome.log (o : Outcome) (f : LogFilter) : List String :=
  (o.events.filter f.shows).map Event.line

/-- **Runs the command**. -/
def run (arguments : List String) (files : Files) (input : Contents) : Outcome :=
  match Request.ofArguments arguments with
  | .help => .ofStop [] .help
  | .misuse e => .ofStop [] (.misuse e)
  | .check a =>
    let reported := reports a files input
    match reported.value with
    | .error s => .ofStop reported.events s
    | .ok rs => .ofReports a.format reported.events rs

end DescriptiveLinks.Command
