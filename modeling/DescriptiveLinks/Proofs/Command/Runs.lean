import DescriptiveLinks.Command.Run

/-! # Runs that load their documents

A run reports if no stage stops it: the configuration is read, all documents are read, and each of
them is a syntax tree. What it reports is then a function of the options and the trees.

* `Command.Loads` says of a run that it loads all its documents, and `Command.found` lists what it
  finds.
* `Command.reports_eq_ok_iff` says that such runs are those that report.
* `Command.Loads.path_eq_or_mem` says which paths the documents have. -/

namespace DescriptiveLinks.Command

/-! ## Loading -/

/-- A run with arguments `a` **loads all its documents**: the configuration gives `options`, the
documents can be read, and each of them is a syntax tree. -/
structure Loads (a : Arguments) (files : Files) (input : Contents) (options : RuleOptions)
    (documents : List (Document × SyntaxTree)) : Prop where
  /-- The configuration gives the options. -/
  config : (loadOptions files a.config).value = .ok options
  /-- The documents can be read. -/
  read : readDocuments files input a.inputs = .ok (documents.map Prod.fst)
  /-- Each of them is a syntax tree. -/
  tree : ∀ d ∈ documents, SyntaxTree.ofJson d.1.text = .ok d.2

/-- The **findings** on documents, one document after the other, each with the path of its
document. -/
def found (options : RuleOptions) (documents : List (Document × SyntaxTree)) :
    List (String × Finding) :=
  documents.flatMap fun (d, tree) => (lint tree options).value.map (d.path, ·)

/-- The report on a finding in the document with a given path. -/
def toReport (p : String × Finding) : Report :=
  ⟨p.1, .ofFinding descriptiveLinkText p.2⟩

theorem found_cons (options : RuleOptions) (d : Document × SyntaxTree)
    (documents : List (Document × SyntaxTree)) :
    found options (d :: documents) =
      (lint d.2 options).value.map (d.1.path, ·) ++ found options documents :=
  List.flatMap_cons

theorem map_eq_ok_iff {ε α β : Type} {f : α → β} {x : Except ε α} {b : β} :
    x.map f = .ok b ↔ ∃ a, x = .ok a ∧ f a = b := by
  cases x <;> simp [Except.map]

theorem value_checkDocuments_cons {d : Document} {tree : SyntaxTree} (options : RuleOptions)
    (htree : SyntaxTree.ofJson d.text = .ok tree) (ds : List Document) :
    (checkDocuments options (d :: ds)).value =
      (checkDocuments options ds).value.map
        (((lint tree options).value.map (d.path, ·)).map toReport ++ ·) := by
  rw [checkDocuments, htree, List.map_map]
  rfl

/-- Documents are checked one after the other, and all of them have to be syntax trees. -/
theorem value_checkDocuments_eq_ok_iff {options : RuleOptions} {ds : List Document}
    {rs : List Report} :
    (checkDocuments options ds).value = .ok rs ↔
      ∃ documents : List (Document × SyntaxTree), documents.map Prod.fst = ds ∧
        (∀ d ∈ documents, SyntaxTree.ofJson d.1.text = .ok d.2) ∧
        rs = (found options documents).map toReport := by
  induction ds generalizing rs with
  | nil =>
    constructor
    · intro h
      cases h
      exact ⟨[], rfl, List.forall_mem_nil _, rfl⟩
    · rintro ⟨documents, hds, -, rfl⟩
      rw [List.map_eq_nil_iff.mp hds]
      rfl
  | cons d ds ih =>
    constructor
    · intro h
      cases htree : SyntaxTree.ofJson d.text with
      | error e =>
        rw [checkDocuments, htree] at h
        exact nomatch h
      | ok tree =>
        rw [value_checkDocuments_cons options htree, map_eq_ok_iff] at h
        obtain ⟨others, hothers, rfl⟩ := h
        obtain ⟨documents, rfl, htrees, rfl⟩ := ih.mp hothers
        refine ⟨(d, tree) :: documents, List.map_cons, List.forall_mem_cons.mpr ⟨htree, htrees⟩, ?_⟩
        rw [found_cons, List.map_append]
    · rintro ⟨documents, hds, htrees, rfl⟩
      obtain ⟨⟨d', tree⟩, documents, rfl, rfl, rfl⟩ := List.map_eq_cons_iff.mp hds
      have htree : SyntaxTree.ofJson d'.text = .ok tree := htrees (d', tree) List.mem_cons_self
      have hothers := ih.mpr
        ⟨documents, rfl, fun d hd => htrees d (List.mem_cons_of_mem _ hd), rfl⟩
      rw [value_checkDocuments_cons options htree, hothers, found_cons, List.map_append]
      rfl

/-- **The runs that report** are those that load all their documents, and they report what they
find. -/
theorem reports_eq_ok_iff {a : Arguments} {files : Files} {input : Contents} {rs : List Report} :
    (reports a files input).value = .ok rs ↔
      ∃ options documents, Loads a files input options documents ∧
        rs = (found options documents).map toReport := by
  constructor
  · intro h
    rw [reports] at h
    cases hconfig : (loadOptions files a.config).value with
    | error e =>
      rw [hconfig] at h
      exact nomatch h
    | ok options =>
      cases hread : readDocuments files input a.inputs with
      | error e =>
        rw [hconfig, hread] at h
        exact nomatch h
      | ok ds =>
        rw [hconfig, hread] at h
        obtain ⟨documents, rfl, htrees, hrs⟩ := value_checkDocuments_eq_ok_iff.mp h
        exact ⟨options, documents, ⟨hconfig, hread, htrees⟩, hrs⟩
  · rintro ⟨options, documents, hload, hrs⟩
    rw [reports, hload.config, hload.read]
    exact value_checkDocuments_eq_ok_iff.mpr ⟨documents, rfl, hload.tree, hrs⟩

/-! ## Reading -/

variable {a : Arguments} {files : Files} {input : Contents} {options : RuleOptions}
  {documents : List (Document × SyntaxTree)}

theorem map_path_readPaths {paths : List String} {ds : List Document}
    (h : readPaths files paths = .ok ds) : ds.map Document.path = paths := by
  induction paths generalizing ds with
  | nil =>
    cases h
    rfl
  | cons path paths ih =>
    rw [readPaths] at h
    cases htext : files.readText path with
    | error e =>
      rw [htext] at h
      exact nomatch h
    | ok text =>
      rw [htext] at h
      obtain ⟨rest, hrest, rfl⟩ := map_eq_ok_iff.mp h
      rw [List.map_cons, ih hrest]

/-- A document has the path of an input, or it is the standard input. -/
theorem Loads.path_eq_or_mem (h : Loads a files input options documents) {d : Document × SyntaxTree}
    (hd : d ∈ documents) : d.1.path = "stdin" ∨ d.1.path ∈ a.inputs := by
  have hread := h.read
  have hmem : d.1 ∈ documents.map Prod.fst := List.mem_map_of_mem hd
  rw [readDocuments] at hread
  split at hread
  · cases htext : input.text with
    | error e =>
      rw [htext] at hread
      exact nomatch hread
    | ok text =>
      rw [htext] at hread
      rw [← Except.ok.inj hread, List.mem_singleton] at hmem
      exact .inl (congrArg Document.path hmem)
  · right
    rw [← map_path_readPaths hread]
    exact List.mem_map_of_mem hmem

/-! ## The same text under every path -/

theorem Contents.text_toUTF8 (text : String) : Contents.text (.ok text.toUTF8) = .ok text := by
  have hvalid : text.toByteArray.IsValidUTF8 := text.isValidUTF8
  show decodeText text.toUTF8 = _
  simp only [decodeText, String.fromUTF8?, String.toUTF8_eq_toByteArray, hvalid, dif_pos]
  rfl

theorem readText_of_eq_toUTF8 {path text : String} (h : files path = .ok text.toUTF8) :
    files.readText path = .ok text := by
  rw [Files.readText, h, Contents.text_toUTF8]

theorem readPaths_toUTF8 (text : String) (paths : List String) :
    readPaths (fun _ => .ok text.toUTF8) paths = .ok (paths.map fun path => ⟨path, text⟩) := by
  induction paths with
  | nil => rfl
  | cons path paths ih =>
    rw [readPaths, Files.readText, Contents.text_toUTF8, ih]
    rfl

/-- If the text is a syntax tree with findings `fs`, then a run on any paths loads it under each of
them and finds `fs` there. -/
theorem exists_loads_of_findings {text : String} {fs : List Finding} {paths : List String}
    (hpaths : paths ≠ [])
    (hfindings : (SyntaxTree.ofJson text).map (fun tree => (lint tree {}).value) = .ok fs) :
    ∃ documents, Loads { inputs := paths } (fun _ => .ok text.toUTF8) input {} documents ∧
      found {} documents = paths.flatMap fun path => fs.map (path, ·) := by
  cases htree : SyntaxTree.ofJson text with
  | error e =>
    rw [htree] at hfindings
    exact nomatch hfindings
  | ok tree =>
    rw [htree] at hfindings
    refine ⟨paths.map fun path => (⟨path, text⟩, tree), ⟨rfl, ?_, by simp [htree]⟩, ?_⟩
    · rw [readDocuments, if_neg (by simpa using hpaths), readPaths_toUTF8, List.map_map]
      rfl
    · rw [found, List.flatMap_map, ← Except.ok.inj hfindings]

end DescriptiveLinks.Command
