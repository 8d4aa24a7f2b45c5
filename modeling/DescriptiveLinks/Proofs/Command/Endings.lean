import Mathlib.Data.List.Forall2
import DescriptiveLinks.Proofs.Command.PrettyOutput
import DescriptiveLinks.Proofs.Command.Scanning

/-! # How runs end

A run goes through stages, and the first that fails ends it, before anything of a later stage is
looked at: the arguments, the configuration, reading all documents, and loading one after the other.
Only a run that loads all its documents writes to the standard output.

* `Command.Ends` is the law: exit code, standard output and the lines that tell why a run stops.
* `Command.Alike` says which files a run cannot tell apart, because it stops before it comes to what
  is different in them.
* `Command.ends_iff_and_eq_of_alike` says that runs follow the law and depend on nothing else. -/

namespace DescriptiveLinks.Command

/-! ## The law -/

/-- The **options of a run**: those of the rule by themselves, or those that a file gives. -/
inductive Configured (files : Files) : Option String → RuleOptions → Prop
  /-- No configuration is named. -/
  | unset : Configured files none {}
  /-- The configuration is read, and it is one. -/
  | file {path text : String} {options : RuleOptions} (htext : files.readText path = .ok text)
    (h : (Configuration.optionsOfJson text).value = .ok options) :
    Configured files (some path) options

/-- Whether a document is what stands under a path. -/
def IsUnder (files : Files) (path : String) (d : Document) : Prop :=
  d.path = path ∧ files.readText path = .ok d.text

/-- The **documents of a run**: the standard input if there are no paths, and otherwise the texts
under the paths. -/
inductive Given (files : Files) (input : Contents) : List String → List Document → Prop
  /-- The standard input is the document. -/
  | input {text : String} (h : input.text = .ok text) :
    Given files input [] [⟨"stdin", text⟩]
  /-- The documents are under paths. -/
  | paths {paths : List String} {ds : List Document} (hne : paths ≠ [])
    (h : List.Forall₂ (IsUnder files) paths ds) : Given files input paths ds

/-- **How a run ends**: its exit code, what it writes to the standard output, and the lines that
tell why it stops. -/
inductive Ends (arguments : List String) (files : Files) (input : Contents) :
    Nat → String → List String → Prop
  /-- Help is asked for. -/
  | help (h : Comes arguments .help) : Ends arguments files input 0 "" [usage]
  /-- The arguments are misused. -/
  | misuse {e : UsageError} (h : Comes arguments (.misuse e)) :
    Ends arguments files input 2 "" [e.message, usage]
  /-- The configuration cannot be read. -/
  | configUnreadable {a : Arguments} {path : String} {e : ReadError}
    (h : Comes arguments (.check a)) (hpath : a.config = some path)
    (he : files.readText path = .error e) :
    Ends arguments files input 2 "" [s!"invalid configuration: {path}: {e.message}"]
  /-- The configuration is read, but it is none, or its options are refused. -/
  | configRefused {a : Arguments} {path text : String} {e : ConfigError}
    (h : Comes arguments (.check a)) (hpath : a.config = some path)
    (htext : files.readText path = .ok text)
    (he : (Configuration.optionsOfJson text).value = .error e) :
    Ends arguments files input 2 "" [s!"invalid configuration: {e.message}"]
  /-- There are no paths, and the standard input cannot be read. -/
  | inputUnreadable {a : Arguments} {options : RuleOptions} {e : ReadError}
    (h : Comes arguments (.check a)) (hconfig : Configured files a.config options)
    (hinputs : a.inputs = []) (he : input.text = .error e) :
    Ends arguments files input 1 "" [s!"failed to read stdin: {e.message}"]
  /-- A document cannot be read, and it is the first. -/
  | documentUnreadable {a : Arguments} {options : RuleOptions} {before after : List String}
    {path : String} {e : ReadError} (h : Comes arguments (.check a))
    (hconfig : Configured files a.config options) (hinputs : a.inputs = before ++ path :: after)
    (hbefore : ∀ p ∈ before, ∃ text, files.readText p = .ok text)
    (he : files.readText path = .error e) :
    Ends arguments files input 1 "" [s!"failed to read {path}: {e.message}"]
  /-- All documents are read, but one of them is no syntax tree, and it is the first. -/
  | documentRefused {a : Arguments} {options : RuleOptions} {before after : List Document}
    {d : Document} {e : LoadError} (h : Comes arguments (.check a))
    (hconfig : Configured files a.config options)
    (hgiven : Given files input a.inputs (before ++ d :: after))
    (hbefore : ∀ c ∈ before, ∃ tree, SyntaxTree.ofJson c.text = .ok tree)
    (he : SyntaxTree.ofJson d.text = .error e) :
    Ends arguments files input 1 "" [s!"failed to load syntax tree {d.path}: {e.message}"]
  /-- All documents are syntax trees, and what is found in them is written line by line. -/
  | pretty {a : Arguments} {options : RuleOptions} {documents : List (Document × SyntaxTree)}
    (h : Comes arguments (.check a)) (hconfig : Configured files a.config options)
    (hgiven : Given files input a.inputs (documents.map Prod.fst))
    (htrees : ∀ d ∈ documents, SyntaxTree.ofJson d.1.text = .ok d.2)
    (hformat : a.format = .pretty) :
    Ends arguments files input (if found options documents = [] then 0 else 1)
      (String.join ((found options documents).map fun p => (toReport p).pretty ++ "\n")) []
  /-- All documents are syntax trees, and what is found in them is written as one array. -/
  | json {a : Arguments} {options : RuleOptions} {documents : List (Document × SyntaxTree)}
    (h : Comes arguments (.check a)) (hconfig : Configured files a.config options)
    (hgiven : Given files input a.inputs (documents.map Prod.fst))
    (htrees : ∀ d ∈ documents, SyntaxTree.ofJson d.1.text = .ok d.2) (hformat : a.format = .json) :
    Ends arguments files input (if found options documents = [] then 0 else 1)
      ((Json.Value.array ((found options documents).map fun p => (toReport p).toJson)).render ++
        "\n") []

/-- Files and a standard input that a run with given arguments **cannot tell apart** from others: it
stops before it comes to what is different in them, or never looks at it. -/
inductive Alike (arguments : List String) (files files' : Files) (input input' : Contents) : Prop
  /-- Nothing is read if the arguments do not ask for a check. -/
  | decided {r : Request} (h : Comes arguments r) (hr : ∀ a, r ≠ .check a)
  /-- No document is read if the configuration cannot be read or is refused. -/
  | misconfigured {a : Arguments} {path : String} (h : Comes arguments (.check a))
    (hpath : a.config = some path) (hnone : ∀ options, ¬ Configured files a.config options)
    (hsame : files'.readText path = files.readText path)
  /-- No document is loaded if one cannot be read, and the documents after it are not read. -/
  | unreadable {a : Arguments} {before after : List String} {path : String} {e : ReadError}
    (h : Comes arguments (.check a)) (hinputs : a.inputs = before ++ path :: after)
    (hconfig : ∀ p ∈ a.config, files'.readText p = files.readText p)
    (hbefore : ∀ p ∈ before, ∃ text, files.readText p = .ok text)
    (hbefore' : ∀ p ∈ before, ∃ text, files'.readText p = .ok text)
    (he : files.readText path = .error e) (he' : files'.readText path = .error e)
  /-- No document after one that is refused is loaded. -/
  | refused {a : Arguments} {before after : List String} {path text : String} {e : LoadError}
    (h : Comes arguments (.check a)) (hinputs : a.inputs = before ++ path :: after)
    (hconfig : ∀ p ∈ a.config, files'.readText p = files.readText p)
    (hbefore : ∀ p ∈ before, ∃ text, files.readText p = .ok text)
    (hsame : ∀ p ∈ before, files'.readText p = files.readText p)
    (htext : files.readText path = .ok text) (htext' : files'.readText path = .ok text)
    (he : SyntaxTree.ofJson text = .error e)
    (hafter : ∀ p ∈ after, ∃ text, files.readText p = .ok text)
    (hafter' : ∀ p ∈ after, ∃ text, files'.readText p = .ok text)
  /-- No other file is read than those that the arguments name, and no standard input if they name
  a document. -/
  | unnamed {a : Arguments} (h : Comes arguments (.check a))
    (hconfig : ∀ p ∈ a.config, files'.readText p = files.readText p)
    (hsame : ∀ p ∈ a.inputs, files'.readText p = files.readText p)
    (hinput : a.inputs = [] → input' = input)

/-! ## Stages -/

/-- Among things that may fail, none fails or one is the first to do so. -/
theorem exists_first_error {ε α β : Type} (f : α → Except ε β) (xs : List α) :
    (∀ x ∈ xs, ∃ b, f x = .ok b) ∨
      ∃ before x after e, xs = before ++ x :: after ∧ (∀ y ∈ before, ∃ b, f y = .ok b) ∧
        f x = .error e := by
  induction xs with
  | nil => exact .inl (List.forall_mem_nil _)
  | cons x xs ih =>
    cases hx : f x with
    | error e => exact .inr ⟨[], x, xs, e, rfl, List.forall_mem_nil _, hx⟩
    | ok b =>
      rcases ih with hall | ⟨before, y, after, e, rfl, hbefore, he⟩
      · exact .inl (List.forall_mem_cons.mpr ⟨⟨b, hx⟩, hall⟩)
      · exact .inr ⟨x :: before, y, after, e, rfl, List.forall_mem_cons.mpr ⟨⟨b, hx⟩, hbefore⟩, he⟩

variable {files files' : Files} {input input' : Contents} {options : RuleOptions}

theorem configured_iff {config : Option String} :
    Configured files config options ↔ (loadOptions files config).value = .ok options := by
  constructor
  · intro h
    cases h with
    | unset => rfl
    | file htext h => simp [loadOptions, htext, h, Except.mapError]
  · intro h
    cases config with
    | none =>
      obtain rfl : {} = options := Except.ok.inj h
      exact .unset
    | some path =>
      cases htext : files.readText path with
      | error e =>
        rw [loadOptions, htext] at h
        cases h
      | ok text =>
        cases hread : (Configuration.optionsOfJson text).value with
        | error e => simp [loadOptions, htext, hread, Except.mapError] at h
        | ok o =>
          obtain rfl : o = options := by simpa [loadOptions, htext, hread, Except.mapError] using h
          exact .file htext hread

/-- Paths are read one after the other, and all of them have to be readable. -/
theorem readPaths_eq_ok_iff {paths : List String} {ds : List Document} :
    readPaths files paths = .ok ds ↔ List.Forall₂ (IsUnder files) paths ds := by
  induction paths generalizing ds with
  | nil =>
    rw [readPaths, List.forall₂_nil_left_iff, Except.ok.injEq, eq_comm]
  | cons path paths ih =>
    rw [readPaths, List.forall₂_cons_left_iff]
    cases htext : files.readText path with
    | error e =>
      constructor
      · intro h
        cases h
      · rintro ⟨d, _, ⟨-, hd⟩, -⟩
        cases htext.symm.trans hd
    | ok text =>
      simp only [map_eq_ok_iff, ih]
      constructor
      · rintro ⟨rest, hrest, rfl⟩
        exact ⟨_, rest, ⟨rfl, htext⟩, hrest, rfl⟩
      · rintro ⟨⟨_, _⟩, rest, ⟨rfl, hd⟩, hrest, rfl⟩
        obtain rfl := Except.ok.inj (htext.symm.trans hd)
        exact ⟨rest, hrest, rfl⟩

/-- Reading stops at the first path that cannot be read. -/
theorem readPaths_eq_error {before after : List String} {path : String} {e : ReadError}
    (hbefore : ∀ p ∈ before, ∃ text, files.readText p = .ok text)
    (he : files.readText path = .error e) :
    readPaths files (before ++ path :: after) = .error (.documentUnreadable path e) := by
  induction before with
  | nil => rw [List.nil_append, readPaths, he]
  | cons p before ih =>
    obtain ⟨⟨text, htext⟩, hbefore⟩ := List.forall_mem_cons.mp hbefore
    rw [List.cons_append, readPaths, htext, ih hbefore]
    rfl

/-- Paths that can be read lead to documents. -/
theorem exists_forall₂_isUnder {paths : List String}
    (h : ∀ p ∈ paths, ∃ text, files.readText p = .ok text) :
    ∃ ds, List.Forall₂ (IsUnder files) paths ds := by
  choose! text htext using h
  refine ⟨paths.map fun path => ⟨path, text path⟩, ?_⟩
  rw [List.forall₂_map_right_iff, List.forall₂_same]
  exact fun path hpath => ⟨rfl, htext path hpath⟩

theorem readDocuments_of_unreadable (input : Contents) {paths before after : List String}
    {path : String} {e : ReadError} (hpaths : paths = before ++ path :: after)
    (hbefore : ∀ p ∈ before, ∃ text, files.readText p = .ok text)
    (he : files.readText path = .error e) :
    readDocuments files input paths = .error (.documentUnreadable path e) := by
  rw [hpaths, readDocuments, if_neg (by simp), readPaths_eq_error hbefore he]

theorem given_iff {paths : List String} {ds : List Document} :
    Given files input paths ds ↔ readDocuments files input paths = .ok ds := by
  constructor
  · intro h
    cases h with
    | input h => simp [readDocuments, h]
    | paths hne h =>
      rw [readDocuments, if_neg (by simpa using hne)]
      exact readPaths_eq_ok_iff.mpr h
  · intro h
    rw [readDocuments] at h
    split at h
    · next hnil =>
      rw [List.isEmpty_iff.mp hnil]
      cases htext : input.text with
      | error e =>
        rw [htext] at h
        cases h
      | ok text =>
        rw [htext] at h
        rw [← Except.ok.inj h]
        exact .input htext
    · next hne => exact .paths (by simpa using hne) (readPaths_eq_ok_iff.mp h)

/-- A check stops at the first document that is no syntax tree, and what comes after it makes no
difference. -/
theorem checkDocuments_of_refused {before after : List Document} {d : Document} {e : LoadError}
    (he : SyntaxTree.ofJson d.text = .error e) :
    checkDocuments options (before ++ d :: after) = checkDocuments options (before ++ [d]) := by
  induction before with
  | nil => rw [List.nil_append, List.nil_append, checkDocuments, checkDocuments, he]
  | cons c before ih =>
    rw [List.cons_append, List.cons_append, checkDocuments, checkDocuments, ih]

theorem value_checkDocuments_of_refused {before after : List Document} {d : Document}
    {e : LoadError} (hbefore : ∀ c ∈ before, ∃ tree, SyntaxTree.ofJson c.text = .ok tree)
    (he : SyntaxTree.ofJson d.text = .error e) :
    (checkDocuments options (before ++ d :: after)).value = .error (.documentRefused d.path e) := by
  induction before with
  | nil => rw [List.nil_append, checkDocuments, he]
  | cons c before ih =>
    obtain ⟨⟨tree, htree⟩, hbefore⟩ := List.forall_mem_cons.mp hbefore
    rw [List.cons_append, value_checkDocuments_cons options htree, ih hbefore]
    rfl

/-- A check of syntax trees finds what there is to be found in them. -/
theorem value_checkDocuments {documents : List (Document × SyntaxTree)}
    (htrees : ∀ d ∈ documents, SyntaxTree.ofJson d.1.text = .ok d.2) :
    (checkDocuments options (documents.map Prod.fst)).value =
      .ok ((found options documents).map toReport) :=
  value_checkDocuments_eq_ok_iff.mpr ⟨documents, rfl, htrees, rfl⟩

/-! ## Runs follow the law -/

variable {arguments : List String} {a : Arguments}

theorem value_reports_of_config {s : Stop} (h : (loadOptions files a.config).value = .error s) :
    (reports a files input).value = .error s := by
  rw [reports, h]

theorem value_reports_of_inputs {s : Stop} (hconfig : Configured files a.config options)
    (h : readDocuments files input a.inputs = .error s) :
    (reports a files input).value = .error s := by
  rw [reports, configured_iff.mp hconfig, h]

theorem value_reports {ds : List Document} (hconfig : Configured files a.config options)
    (hgiven : Given files input a.inputs ds) :
    (reports a files input).value = (checkDocuments options ds).value := by
  rw [reports, configured_iff.mp hconfig, given_iff.mp hgiven]

theorem run_of_error {s : Stop} (h : Comes arguments (.check a))
    (hs : (reports a files input).value = .error s) :
    run arguments files input = .ofStop (reports a files input).events s := by
  rw [run, h.ofArguments_eq]
  simp only [hs]

/-- A run whose documents are all syntax trees reports what is found in them. -/
theorem run_of_trees {documents : List (Document × SyntaxTree)} (h : Comes arguments (.check a))
    (hconfig : Configured files a.config options)
    (hgiven : Given files input a.inputs (documents.map Prod.fst))
    (htrees : ∀ d ∈ documents, SyntaxTree.ofJson d.1.text = .ok d.2) :
    run arguments files input = .ofReports a.format (reports a files input).events
      ((found options documents).map toReport) := by
  have hvalue := (value_reports hconfig hgiven).trans (value_checkDocuments htrees)
  rw [run, h.ofArguments_eq]
  simp only [hvalue]

theorem exitCode_ofReports (format : Format) (events : List Event) (fs : List (String × Finding)) :
    (Outcome.ofReports format events (fs.map toReport)).exitCode = if fs = [] then 0 else 1 := by
  simp [Outcome.ofReports]

/-- **A run ends as the law says.** -/
theorem Ends.run_eq {code : Nat} {stdout : String} {notices : List String}
    (h : Ends arguments files input code stdout notices) :
    (run arguments files input).exitCode = code ∧ (run arguments files input).stdout = stdout ∧
      (run arguments files input).notices = notices := by
  cases h with
  | help h =>
    rw [run, h.ofArguments_eq]
    exact ⟨rfl, rfl, rfl⟩
  | misuse h =>
    rw [run, h.ofArguments_eq]
    exact ⟨rfl, rfl, rfl⟩
  | @configUnreadable a path e h hpath he =>
    have hload : (loadOptions files a.config).value = .error (.configUnreadable path e) := by
      rw [hpath, loadOptions, he]
    rw [run_of_error h (value_reports_of_config hload)]
    exact ⟨rfl, rfl, rfl⟩
  | @configRefused a path text e h hpath htext he =>
    have hload : (loadOptions files a.config).value = .error (.configRefused e) := by
      simp [hpath, loadOptions, htext, he, Except.mapError]
    rw [run_of_error h (value_reports_of_config hload)]
    exact ⟨rfl, rfl, rfl⟩
  | @inputUnreadable a options e h hconfig hinputs he =>
    have hread : readDocuments files input a.inputs = .error (.inputUnreadable e) := by
      simp [hinputs, readDocuments, he]
    rw [run_of_error h (value_reports_of_inputs hconfig hread)]
    exact ⟨rfl, rfl, rfl⟩
  | @documentUnreadable a options before after path e h hconfig hinputs hbefore he =>
    have hread := readDocuments_of_unreadable input hinputs hbefore he
    rw [run_of_error h (value_reports_of_inputs hconfig hread)]
    exact ⟨rfl, rfl, rfl⟩
  | documentRefused h hconfig hgiven hbefore he =>
    rw [run_of_error h ((value_reports hconfig hgiven).trans
      (value_checkDocuments_of_refused hbefore he))]
    exact ⟨rfl, rfl, rfl⟩
  | pretty h hconfig hgiven htrees hformat =>
    rw [run_of_trees h hconfig hgiven htrees, hformat]
    refine ⟨exitCode_ofReports _ _ _, ?_, rfl⟩
    simp [Outcome.ofReports, Format.render, Function.comp_def]
  | json h hconfig hgiven htrees hformat =>
    rw [run_of_trees h hconfig hgiven htrees, hformat]
    refine ⟨exitCode_ofReports _ _ _, ?_, rfl⟩
    simp [Outcome.ofReports, Format.render, Function.comp_def]

/-! ## The law is total -/

/-- A run of given arguments ends, or its options are loaded. -/
theorem exists_configured_or_ends (input : Contents) (h : Comes arguments (.check a)) :
    (∃ options, Configured files a.config options) ∨
      ∃ code stdout notices, Ends arguments files input code stdout notices := by
  cases hpath : a.config with
  | none => exact .inl ⟨_, .unset⟩
  | some path =>
    cases htext : files.readText path with
    | error e => exact .inr ⟨_, _, _, .configUnreadable h hpath htext⟩
    | ok text =>
      cases hread : (Configuration.optionsOfJson text).value with
      | error e => exact .inr ⟨_, _, _, .configRefused h hpath htext hread⟩
      | ok options => exact .inl ⟨options, .file htext hread⟩

/-- A run whose options are loaded ends, or its documents are read. -/
theorem Configured.exists_given_or_ends (hconfig : Configured files a.config options)
    (input : Contents) (h : Comes arguments (.check a)) :
    (∃ ds, Given files input a.inputs ds) ∨
      ∃ code stdout notices, Ends arguments files input code stdout notices := by
  by_cases hinputs : a.inputs = []
  · cases htext : input.text with
    | error e => exact .inr ⟨_, _, _, .inputUnreadable h hconfig hinputs htext⟩
    | ok text =>
      rw [hinputs]
      exact .inl ⟨_, .input htext⟩
  · rcases exists_first_error files.readText a.inputs with
      hall | ⟨before, path, after, e, hsplit, hbefore, he⟩
    · obtain ⟨ds, hds⟩ := exists_forall₂_isUnder hall
      exact .inl ⟨ds, .paths hinputs hds⟩
    · exact .inr ⟨_, _, _, .documentUnreadable h hconfig hsplit hbefore he⟩

/-- A run whose options are loaded and whose documents are read ends. -/
theorem Given.exists_ends {ds : List Document} (hgiven : Given files input a.inputs ds)
    (hconfig : Configured files a.config options) (h : Comes arguments (.check a)) :
    ∃ code stdout notices, Ends arguments files input code stdout notices := by
  rcases exists_first_error (fun d : Document => SyntaxTree.ofJson d.text) ds with
    hall | ⟨before, d, after, e, rfl, hbefore, he⟩
  · have : Nonempty SyntaxTree := ⟨.ofNodes #[]⟩
    choose! tree htree using hall
    have hds : (ds.map fun d => (d, tree d)).map Prod.fst = ds := by
      simp [Function.comp_def]
    have htrees : ∀ d ∈ ds.map fun d => (d, tree d), SyntaxTree.ofJson d.1.text = .ok d.2 :=
      List.forall_mem_map.mpr htree
    rw [← hds] at hgiven
    cases hformat : a.format with
    | pretty => exact ⟨_, _, _, .pretty h hconfig hgiven htrees hformat⟩
    | json => exact ⟨_, _, _, .json h hconfig hgiven htrees hformat⟩
  · exact ⟨_, _, _, .documentRefused h hconfig hgiven hbefore he⟩

/-- **Every run ends in one of the ways of the law.** -/
theorem exists_ends (arguments : List String) (files : Files) (input : Contents) :
    ∃ code stdout notices, Ends arguments files input code stdout notices := by
  obtain ⟨r, h⟩ := exists_comes arguments
  cases r with
  | help => exact ⟨_, _, _, .help h⟩
  | misuse e => exact ⟨_, _, _, .misuse h⟩
  | check a =>
    rcases exists_configured_or_ends input h with ⟨options, hconfig⟩ | hends
    · rcases hconfig.exists_given_or_ends input h with ⟨ds, hgiven⟩ | hends
      · exact hgiven.exists_ends hconfig h
      · exact hends
    · exact hends

/-! ## What runs depend on -/

theorem loadOptions_congr {config : Option String}
    (h : ∀ p ∈ config, files'.readText p = files.readText p) :
    loadOptions files' config = loadOptions files config := by
  cases config with
  | none => rfl
  | some path => rw [loadOptions, loadOptions, h path rfl]

theorem readPaths_congr {paths : List String}
    (h : ∀ p ∈ paths, files'.readText p = files.readText p) :
    readPaths files' paths = readPaths files paths := by
  induction paths with
  | nil => rfl
  | cons path paths ih =>
    obtain ⟨hpath, hpaths⟩ := List.forall_mem_cons.mp h
    rw [readPaths, readPaths, hpath, ih hpaths]

/-- A run reads the files that its arguments name, and the standard input if they name none. -/
theorem reports_congr (hconfig : ∀ p ∈ a.config, files'.readText p = files.readText p)
    (hread : readDocuments files' input' a.inputs = readDocuments files input a.inputs) :
    reports a files' input' = reports a files input := by
  rw [reports, reports, loadOptions_congr hconfig, hread]

theorem run_congr (h : Comes arguments (.check a))
    (hreports : reports a files' input' = reports a files input) :
    run arguments files' input' = run arguments files input := by
  rw [run, run, h.ofArguments_eq]
  simp only [hreports]

/-- A configuration that is no good is the last thing that is looked at. -/
theorem reports_congr_of_not_configured {path : String} (hpath : a.config = some path)
    (hnone : ∀ options, ¬ Configured files a.config options)
    (hsame : files'.readText path = files.readText path) :
    reports a files' input' = reports a files input := by
  have hload : loadOptions files' a.config = loadOptions files a.config := by
    refine loadOptions_congr fun p hp => ?_
    obtain rfl : path = p := Option.some.inj (hpath.symm.trans hp)
    exact hsame
  rw [reports, reports, hload]
  cases hvalue : (loadOptions files a.config).value with
  | error s => rfl
  | ok options => exact absurd (configured_iff.mpr hvalue) (hnone options)

/-- A document that is refused is the last that is loaded, after all of them were read. -/
theorem reports_congr_of_refused {before after : List String} {path text : String} {e : LoadError}
    (hinputs : a.inputs = before ++ path :: after)
    (hconfig : ∀ p ∈ a.config, files'.readText p = files.readText p)
    (hbefore : ∀ p ∈ before, ∃ text, files.readText p = .ok text)
    (hsame : ∀ p ∈ before, files'.readText p = files.readText p)
    (htext : files.readText path = .ok text) (htext' : files'.readText path = .ok text)
    (he : SyntaxTree.ofJson text = .error e)
    (hafter : ∀ p ∈ after, ∃ text, files.readText p = .ok text)
    (hafter' : ∀ p ∈ after, ∃ text, files'.readText p = .ok text) :
    reports a files' input' = reports a files input := by
  obtain ⟨cs, hcs⟩ := exists_forall₂_isUnder hbefore
  obtain ⟨ds, hds⟩ := exists_forall₂_isUnder hafter
  obtain ⟨ds', hds'⟩ := exists_forall₂_isUnder hafter'
  have hcs' : List.Forall₂ (IsUnder files') before cs := by
    rw [← readPaths_eq_ok_iff, readPaths_congr hsame, readPaths_eq_ok_iff]
    exact hcs
  have hne : a.inputs ≠ [] := by
    rw [hinputs]
    exact List.append_ne_nil_of_right_ne_nil _ (List.cons_ne_nil _ _)
  have hgiven : Given files input a.inputs (cs ++ ⟨path, text⟩ :: ds) := by
    refine .paths hne ?_
    rw [hinputs]
    exact List.rel_append hcs (.cons ⟨rfl, htext⟩ hds)
  have hgiven' : Given files' input' a.inputs (cs ++ ⟨path, text⟩ :: ds') := by
    refine .paths hne ?_
    rw [hinputs]
    exact List.rel_append hcs' (.cons ⟨rfl, htext'⟩ hds')
  rw [reports, reports, loadOptions_congr hconfig, given_iff.mp hgiven, given_iff.mp hgiven']
  simp only [checkDocuments_of_refused (d := ⟨path, text⟩) he]

/-- **What is not looked at makes no difference.** -/
theorem Alike.run_eq (h : Alike arguments files files' input input') :
    run arguments files' input' = run arguments files input := by
  cases h with
  | @decided r h hr =>
    rw [run, run, h.ofArguments_eq]
    cases r with
    | help => rfl
    | misuse e => rfl
    | check a => exact absurd rfl (hr a)
  | misconfigured h hpath hnone hsame =>
    exact run_congr h (reports_congr_of_not_configured hpath hnone hsame)
  | unreadable h hinputs hconfig hbefore hbefore' he he' =>
    refine run_congr h (reports_congr hconfig ?_)
    rw [readDocuments_of_unreadable input hinputs hbefore he,
      readDocuments_of_unreadable input' hinputs hbefore' he']
  | refused h hinputs hconfig hbefore hsame htext htext' he hafter hafter' =>
    exact run_congr h
      (reports_congr_of_refused hinputs hconfig hbefore hsame htext htext' he hafter hafter')
  | @unnamed a h hconfig hsame hinput =>
    refine run_congr h (reports_congr hconfig ?_)
    by_cases hinputs : a.inputs = []
    · rw [hinput hinputs, hinputs]
      rfl
    · have hne : ¬ a.inputs.isEmpty := by simpa using hinputs
      rw [readDocuments, readDocuments, if_neg hne, if_neg hne, readPaths_congr hsame]

/-! ## Three files -/

/-- Three files: a document with a finding, one that is no syntax tree, and one with a given text. -/
def threeFiles (third : String) : Files := fun path =>
  if path = "a.json" then .ok (linkJson "[here]").toUTF8
  else if path = "b.json" then .ok "[0]".toUTF8
  else .ok third.toUTF8

theorem readText_threeFiles (third : String) :
    (threeFiles third).readText "a.json" = .ok (linkJson "[here]") ∧
      (threeFiles third).readText "b.json" = .ok "[0]" ∧
      (threeFiles third).readText "c.json" = .ok third :=
  ⟨readText_of_eq_toUTF8 (if_pos rfl),
    readText_of_eq_toUTF8 ((if_neg (by decide)).trans (if_pos rfl)),
    readText_of_eq_toUTF8 ((if_neg (by decide)).trans (if_neg (by decide)))⟩

theorem ofJson_second : SyntaxTree.ofJson "[0]" = .error (.json (.rejected ())) := by
  decide +kernel

theorem comes_three : Comes ["a.json", "b.json", "c.json"]
    (.check { inputs := ["a.json", "b.json", "c.json"] }) :=
  @Comes.check [.input "a.json", .input "b.json", .input "c.json"]
    (by simp [Setting.IsPlain, List.IsPrefix])

/-- All three as documents: the second is refused. -/
theorem ends_of_three (third : String) :
    Ends ["a.json", "b.json", "c.json"] (threeFiles third) (.ok .empty) 1 ""
      ["failed to load syntax tree b.json: invalid syntax tree json: " ++
        "data did not match any variant of untagged enum TokenTree"] := by
  obtain ⟨ha, hb, hc⟩ := readText_threeFiles third
  obtain ⟨tree, htree, -⟩ := map_eq_ok_iff.mp findings_linkJson
  have hgiven : Given (threeFiles third) (.ok .empty) ["a.json", "b.json", "c.json"]
      ([⟨"a.json", linkJson "[here]"⟩] ++ ⟨"b.json", "[0]"⟩ :: [⟨"c.json", third⟩]) :=
    .paths (List.cons_ne_nil _ _) (.cons ⟨rfl, ha⟩ (.cons ⟨rfl, hb⟩ (.cons ⟨rfl, hc⟩ .nil)))
  exact .documentRefused comes_three .unset hgiven (by simpa using ⟨tree, htree⟩) ofJson_second

/-- The third as the configuration: it is refused if it holds an array. -/
theorem ends_of_configuration :
    Ends ["--config", "c.json", "a.json"] (threeFiles "[]") (.ok .empty) 2 ""
      ["invalid configuration: configuration must be an object, found an array"] := by
  have hcomes : Comes ["--config", "c.json", "a.json"]
      (.check { inputs := ["a.json"], config := some "c.json" }) :=
    @Comes.check [.config "c.json", .input "a.json"] (by simp [Setting.IsPlain, List.IsPrefix])
  have hrefused : (Configuration.optionsOfJson "[]").value = .error (.notObject .array) := by
    decide +kernel
  exact .configRefused hcomes rfl (readText_threeFiles "[]").2.2 hrefused

/-- The first as the only document: its finding is printed. -/
theorem ends_of_first (third : String) :
    Ends ["a.json"] (threeFiles third) (.ok .empty) 1
      ("a.json:1:2 MD059/descriptive-link-text Link text should be descriptive " ++
        "[Context: \"[here]\"]\n") [] := by
  have hcomes : Comes ["a.json"] (.check { inputs := ["a.json"] }) :=
    @Comes.check [.input "a.json"] (by simp [Setting.IsPlain, List.IsPrefix])
  obtain ⟨tree, htree, hlint⟩ := map_eq_ok_iff.mp findings_linkJson
  have hgiven : Given (threeFiles third) (.ok .empty) ["a.json"]
      ([(⟨"a.json", linkJson "[here]"⟩, tree)].map Prod.fst) :=
    .paths (List.cons_ne_nil _ _) (.cons ⟨rfl, (readText_threeFiles third).1⟩ .nil)
  have hfound : found {} [(⟨"a.json", linkJson "[here]"⟩, tree)]
      = [("a.json", ⟨⟨1, 2⟩, "[here]"⟩)] := by
    simp [found, hlint]
  have hends := Ends.pretty hcomes .unset hgiven (by simpa using htree) rfl
  rw [hfound] at hends
  exact hends

/-! ## All runs -/

/-- **Runs end as the law says, and depend on nothing else**: exactly one ending of the law is that
of a run, and nothing that comes after what ends it makes a difference to its outcome. -/
theorem ends_iff_and_eq_of_alike (arguments : List String) (files : Files) (input : Contents) :
    (∀ code stdout notices, Ends arguments files input code stdout notices ↔
      (run arguments files input).exitCode = code ∧ (run arguments files input).stdout = stdout ∧
        (run arguments files input).notices = notices) ∧
    ∀ files' input', Alike arguments files files' input input' →
      run arguments files' input' = run arguments files input := by
  refine ⟨fun code stdout notices => ⟨Ends.run_eq, ?_⟩, fun files' input' => Alike.run_eq⟩
  rintro ⟨rfl, rfl, rfl⟩
  obtain ⟨code, stdout, notices, h⟩ := exists_ends arguments files input
  obtain ⟨hcode, hstdout, hnotices⟩ := h.run_eq
  rw [hcode, hstdout, hnotices]
  exact h

/-- Three runs on the same files: one that stops at its second document, without printing what it has
found in the first one, and whatever the third one is; one that stops at its configuration; and one
that prints. -/
theorem outcomes_of_three_runs :
    let outcome (arguments : List String) (third : String) :=
      run arguments (threeFiles third) (.ok .empty)
    let three := outcome ["a.json", "b.json", "c.json"]
    ((three "[]").exitCode = 1 ∧ (three "[]").stdout = "" ∧ three "" = three "[]") ∧
      ((outcome ["--config", "c.json", "a.json"] "[]").exitCode = 2 ∧
        (outcome ["--config", "c.json", "a.json"] "[]").stdout = "" ∧
        (outcome ["--config", "c.json", "a.json"] "[]").notices
          = ["invalid configuration: configuration must be an object, found an array"]) ∧
      (outcome ["a.json"] "[]").exitCode = 1 ∧
        (outcome ["a.json"] "[]").stdout
          = "a.json:1:2 MD059/descriptive-link-text Link text should be descriptive " ++
            "[Context: \"[here]\"]\n" ∧
        (outcome ["a.json"] "[]").notices = [] := by
  intro outcome three
  obtain ⟨hthree, halike⟩ :=
    ends_iff_and_eq_of_alike ["a.json", "b.json", "c.json"] (threeFiles "[]") (.ok .empty)
  obtain ⟨hcode, hstdout, -⟩ := (hthree _ _ _).mp (ends_of_three "[]")
  obtain ⟨ha, hb, hc⟩ := readText_threeFiles "[]"
  obtain ⟨ha', hb', hc'⟩ := readText_threeFiles ""
  refine ⟨⟨hcode, hstdout, halike (threeFiles "") (.ok .empty) ?_⟩, ?_, ?_⟩
  · exact @Alike.refused _ _ _ _ _ _ ["a.json"] ["c.json"] "b.json" "[0]" _ comes_three rfl nofun
      (by simp [ha]) (by simp [ha, ha']) hb hb' ofJson_second (by simp [hc]) (by simp [hc'])
  · exact ((ends_iff_and_eq_of_alike _ _ _).1 _ _ _).mp ends_of_configuration
  · exact ((ends_iff_and_eq_of_alike _ _ _).1 _ _ _).mp (ends_of_first "[]")

end DescriptiveLinks.Command
