import DescriptiveLinks.Proofs.Command.Endings
import DescriptiveLinks.Proofs.Json.Printing
import DescriptiveLinks.Proofs.Tree.LoadedSizes

/-! # JSON output

A run in the JSON format writes one array, with an object for each diagnostic. Its members say all
that the pretty format says, so the lines of that format can be made from them.

* `Command.Entry` is what such an object says, `Command.Entry.ofJson?` reads it, and
  `Command.Entry.pretty` is its line in the pretty format.
* `Command.Shows` relates an object to the report that it shows.
* `Command.exists_items_of_loads` says that both formats carry the same reports. -/

namespace DescriptiveLinks.Command

open Json (Value)

/-! ## Objects of reports -/

/-- The members of the object of a report, in the order of their keys. -/
def Report.members (r : Report) : List (String × Value) :=
  [("errorContext", .string r.diagnostic.context),
    ("errorRange",
      .array [Diagnostic.jsonNat r.diagnostic.column, Diagnostic.jsonNat r.diagnostic.length]),
    ("fileName", .string r.path),
    ("lineNumber", Diagnostic.jsonNat r.diagnostic.line),
    ("ruleDescription", .string r.diagnostic.rule.description),
    ("ruleNames", .array (r.diagnostic.rule.names.map .string)),
    ("severity", .string r.diagnostic.severity.name)]

/-- The fields of a diagnostic and the path come in this order out of the map into which they are
put one after the other. -/
theorem Report.toJson_eq (r : Report) : r.toJson = .object r.members :=
  rfl

/-! ## Values that show a report -/

/-- What one object of the output says. -/
structure Entry where
  /-- The text as far as it is shown. -/
  context : String
  /-- The column. -/
  column : Nat
  /-- The length of the text in characters. -/
  length : Nat
  /-- The path of the document. -/
  path : String
  /-- The line. -/
  line : Nat
  /-- What the rule asks for. -/
  description : String
  /-- The names of the rule. -/
  names : List String
  /-- How serious it is. -/
  severity : String
deriving DecidableEq, Repr

namespace Entry

/-- The keys of the members, in their order. -/
def keys : List String :=
  ["errorContext", "errorRange", "fileName", "lineNumber", "ruleDescription", "ruleNames",
    "severity"]

/-- The two natural numbers of a range. -/
def range? : Value → Option (Nat × Nat)
  | .array [v, w] => do return (← v.nat?, ← w.nat?)
  | _ => none

/-- The strings of an array. -/
def strings? : Value → Option (List String)
  | .array items => items.mapM Value.string?
  | _ => none

/-- What a value says by its members, if it is an object that has all of them. -/
def ofJson? : Value → Option Entry
  | .object members => do
    let (column, length) ← (members.lookup "errorRange").bind range?
    return {
      context := ← (members.lookup "errorContext").bind Value.string?
      column := column
      length := length
      path := ← (members.lookup "fileName").bind Value.string?
      line := ← (members.lookup "lineNumber").bind Value.nat?
      description := ← (members.lookup "ruleDescription").bind Value.string?
      names := ← (members.lookup "ruleNames").bind strings?
      severity := ← (members.lookup "severity").bind Value.string? }
  | _ => none

/-- What there is to say of a report. -/
def ofReport (r : Report) : Entry where
  context := r.diagnostic.context
  column := r.diagnostic.column
  length := r.diagnostic.length
  path := r.path
  line := r.diagnostic.line
  description := r.diagnostic.rule.description
  names := r.diagnostic.rule.names
  severity := r.diagnostic.severity.name

/-- An entry on one line, laid out like a diagnostic. -/
def pretty (e : Entry) : String :=
  let place := s!"{e.path}:{e.line}:{e.column}"
  let title := "/".intercalate e.names
  s!"{place} {title} {e.description} [Context: \"{e.context}\"]"

/-- The line of an entry is that of the report. -/
theorem pretty_ofReport (r : Report) : (ofReport r).pretty = r.pretty :=
  rfl

theorem mapM_string? (names : List String) :
    (names.map Value.string).mapM Value.string? = some names := by
  induction names with
  | nil => rfl
  | cons name names ih => simp [ih, Value.string?]

/-- **A report is read back** from its object. -/
theorem ofJson?_toJson (r : Report) : ofJson? r.toJson = some (ofReport r) := by
  let names := r.diagnostic.rule.names
  have hnames : strings? (.array (names.map .string)) = some names := by
    rw [strings?, mapM_string?]
  -- All members are found by evaluation; only the names are a list of unknown length.
  have hread : ofJson? (.object r.members) =
      (strings? (.array (names.map .string))).bind fun names =>
        some { ofReport r with names := names } :=
    rfl
  rw [r.toJson_eq, hread, hnames]
  rfl

end Entry

/-- Whether a value **shows** a report: it is an object with exactly the members of an entry, and
they say what there is to say of the report. -/
def Shows (v : Value) (r : Report) : Prop :=
  ∃ members, v = .object members ∧ members.map Prod.fst = Entry.keys ∧
    Entry.ofJson? v = some (.ofReport r)

theorem shows_toJson (r : Report) : Shows r.toJson r :=
  ⟨r.members, r.toJson_eq, rfl, Entry.ofJson?_toJson r⟩

/-- An array of values that show reports is read entry by entry. -/
theorem mapM_ofJson?_of_shows {items : List Value} {rs : List Report}
    (h : List.Forall₂ Shows items rs) : items.mapM Entry.ofJson? = some (rs.map Entry.ofReport) := by
  induction h with
  | nil => rfl
  | cons hv _ ih =>
    obtain ⟨_, -, -, hentry⟩ := hv
    simp [hentry, ih]

/-! ## Reading the output -/

/-- The report on a finding is written exactly if its numbers are of 64 bits. -/
theorem exact_toJson {p : String × Finding} (h : p.2.IsSmall) (depth : Nat) :
    Json.Exact (depth + 2) (toReport p).toJson := by
  have hnat {depth n : Nat} (h : n < Json.wordLimit) :
      Json.Exact depth (Diagnostic.jsonNat n) :=
    .number (Json.Number.isWord_natCast h)
  -- An object with strings and numbers, and with two arrays of them one level further down.
  rw [Report.toJson_eq, Report.members]
  refine .object ?_
  simp only [List.forall_mem_cons]
  refine ⟨.string _, .array ?_, .string _, hnat h.line, .string _, .array ?_, .string _,
    List.forall_mem_nil _⟩
  · simp only [List.forall_mem_cons]
    exact ⟨hnat h.column, hnat h.length, List.forall_mem_nil _⟩
  · exact List.forall_mem_map.mpr fun name _ => .string name

/-- **The JSON output is read back.** -/
theorem parse_render_json {ps : List (String × Finding)} (h : ∀ p ∈ ps, p.2.IsSmall) :
    Json.parse (Format.json.render (ps.map toReport)) =
      .ok (.array ((ps.map toReport).map Report.toJson)) := by
  refine Json.parse_render (.array (List.forall_mem_map.mpr (List.forall_mem_map.mpr ?_)))
  exact fun p hp => exact_toJson (h p hp) _

/-! ## Runs in both formats -/

variable {arguments : List String} {a : Arguments} {files : Files} {input : Contents}
  {options : RuleOptions} {documents : List (Document × SyntaxTree)}

/-- A format at the end of arguments is the one that counts. -/
theorem ofArguments_append_format (h : Request.ofArguments arguments = .check a) (f : Format) :
    Request.ofArguments (arguments ++ ["--format", f.name]) = .check { a with format := f } := by
  -- Arguments that ask for a check are settings, and the format is one more of them.
  cases ofArguments_eq_iff_comes.mp h with
  | @check settings hplain =>
    have hformat : ∀ s ∈ [Setting.format f], s.IsPlain :=
      List.forall_mem_singleton.mpr trivial
    have hcomes := Comes.check (List.forall_mem_append.mpr ⟨hplain, hformat⟩)
    rw [Arguments.ofSettings_append_singleton, List.flatMap_append] at hcomes
    exact hcomes.ofArguments_eq
  | decided _ hrest => cases hrest

/-- The format makes no difference to what is loaded. -/
theorem Loads.withFormat (h : Loads a files input options documents) (f : Format) :
    Loads { a with format := f } files input options documents :=
  ⟨h.config, h.read, h.tree⟩

/-- With the same text under every path, that is the text of all documents. -/
theorem Loads.text_eq {text : String}
    (h : Loads a (fun _ => .ok text.toUTF8) input options documents) (hinputs : a.inputs ≠ [])
    {d : Document × SyntaxTree} (hd : d ∈ documents) : d.1.text = text := by
  have hread := h.read
  rw [readDocuments, if_neg (by simpa using hinputs), readPaths_toUTF8] at hread
  have hmem : d.1 ∈ documents.map Prod.fst := List.mem_map_of_mem hd
  rw [← Except.ok.inj hread] at hmem
  obtain ⟨path, -, hpath⟩ := List.mem_map.mp hmem
  rw [← hpath]

/-- A run that loads all its documents reports what is found in them. -/
theorem run_of_loads (hrequest : Request.ofArguments arguments = .check a)
    (hload : Loads a files input options documents) :
    run arguments files input = .ofReports a.format (reports a files input).events
      ((found options documents).map toReport) :=
  run_of_trees (ofArguments_eq_iff_comes.mp hrequest) (configured_iff.mpr hload.config)
    (given_iff.mpr hload.read) hload.tree

theorem exitCode_run_of_loads (hrequest : Request.ofArguments arguments = .check a)
    (hload : Loads a files input options documents) :
    (run arguments files input).exitCode = if found options documents = [] then 0 else 1 := by
  rw [run_of_loads hrequest hload, exitCode_ofReports]

/-- The findings in documents that fit 64 bits have numbers of 64 bits. -/
theorem Loads.isSmall (hload : Loads a files input options documents)
    (hsize : ∀ d ∈ documents, d.1.text.length < Json.wordLimit) :
    ∀ p ∈ found options documents, p.2.IsSmall := by
  intro p hp
  obtain ⟨d, hd, hp⟩ := List.mem_flatMap.mp hp
  obtain ⟨f, hf, rfl⟩ := List.mem_map.mp hp
  exact isSmall_of_mem_lint (hload.tree d hd) (hsize d hd) hf

/-- **The JSON output of a run** is the text of an array with the objects of its reports. -/
theorem parse_stdout_run (hrequest : Request.ofArguments arguments = .check a)
    (hjson : a.format = .json) (hload : Loads a files input options documents)
    (hsize : ∀ d ∈ documents, d.1.text.length < Json.wordLimit) :
    Json.parse (run arguments files input).stdout =
      .ok (.array (((found options documents).map toReport).map Report.toJson)) := by
  rw [run_of_loads hrequest hload, hjson]
  exact parse_render_json (hload.isSmall hsize)

/-- **Both formats carry the same reports.** Whatever documents a run loads, it ends with the same
exit code in both formats. The JSON output is the text of an array with one object for each report,
in order, which shows it with its path; and the pretty output is made of the lines of the entries
that are read from these objects. Lines and columns are of 64 bits since they were read so; for the
lengths of labels to be, 64 bits have to count the characters of a document. -/
theorem exists_items_of_loads (hrequest : Request.ofArguments arguments = .check a)
    (hload : Loads a files input options documents)
    (hsize : ∀ d ∈ documents, d.1.text.length < Json.wordLimit) :
    let json := run (arguments ++ ["--format", "json"]) files input
    let pretty := run (arguments ++ ["--format", "pretty"]) files input
    json.exitCode = pretty.exitCode ∧
      ∃ items entries, Json.parse json.stdout = .ok (.array items) ∧
        List.Forall₂ Shows items ((found options documents).map toReport) ∧
        items.mapM Entry.ofJson? = some entries ∧
        pretty.stdout = String.join (entries.map fun e => e.pretty ++ "\n") := by
  intro json pretty
  have hjson := ofArguments_append_format hrequest .json
  have hpretty := ofArguments_append_format hrequest .pretty
  have hcode : json.exitCode = pretty.exitCode :=
    (exitCode_run_of_loads hjson (hload.withFormat .json)).trans
      (exitCode_run_of_loads hpretty (hload.withFormat .pretty)).symm
  have hshows : List.Forall₂ Shows (((found options documents).map toReport).map Report.toJson)
      ((found options documents).map toReport) := by
    rw [List.forall₂_map_left_iff, List.forall₂_same]
    exact fun r _ => shows_toJson r
  have hparse := parse_stdout_run hjson rfl (hload.withFormat .json) hsize
  -- The entries are those of the reports, and their lines are those of the reports as well.
  refine ⟨hcode, _, _, hparse, hshows, mapM_ofJson?_of_shows hshows, ?_⟩
  rw [show pretty = _ from run_of_loads hpretty (hload.withFormat .pretty), List.map_map]
  simp only [Function.comp_def, Entry.pretty_ofReport]
  rfl

/-- Quotes, backslashes and control characters of a label and of a path are read back. -/
theorem exists_items_of_escapes :
    let path := "a\"\\\n.json"
    let files : Files := fun _ => .ok (linkJson "[\\u0001\\\\ \\\"here\\\"]").toUTF8
    ∃ items,
      Json.parse (run [path, "--format", "json"] files (.ok .empty)).stdout = .ok (.array items) ∧
      items.mapM Entry.ofJson? = some [{
        context := "[\x01\\ \"here\"]"
        column := 2
        length := 11
        path := path
        line := 1
        description := "Link text should be descriptive"
        names := ["MD059", "descriptive-link-text"]
        severity := "warning" }] := by
  intro path files
  have hrequest : Request.ofArguments [path] = .check { inputs := [path] } := by
    decide
  have hfindings : (SyntaxTree.ofJson (linkJson "[\\u0001\\\\ \\\"here\\\"]")).map
      (fun tree => (lint tree {}).value) = .ok [⟨⟨1, 2⟩, "[\x01\\ \"here\"]"⟩] := by
    decide +kernel
  have hlength : (linkJson "[\\u0001\\\\ \\\"here\\\"]").length < Json.wordLimit := by
    decide +kernel
  obtain ⟨documents, hload, hfound⟩ :=
    @exists_loads_of_findings (.ok .empty) _ _ [path] (List.cons_ne_nil _ _) hfindings
  have hsize : ∀ d ∈ documents, d.1.text.length < Json.wordLimit := by
    intro d hd
    rw [hload.text_eq (List.cons_ne_nil _ _) hd]
    exact hlength
  obtain ⟨-, items, entries, hparse, hshows, -⟩ := exists_items_of_loads hrequest hload hsize
  refine ⟨items, hparse, ?_⟩
  rw [mapM_ofJson?_of_shows hshows, hfound]
  decide

end DescriptiveLinks.Command
