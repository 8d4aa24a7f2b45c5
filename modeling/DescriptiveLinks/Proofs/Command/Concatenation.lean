import DescriptiveLinks.Proofs.Command.JsonOutput

/-! # Runs on several lists of paths

Documents do not influence each other: a run on paths and then further paths says what a run on the
former says and then what a run on the latter says. Only what stops a run is felt everywhere, since
nothing is written before all documents have been loaded.

* `Command.loads_append_iff` says what a run on two lists of paths loads.
* `Command.Stop.AtDocument` says of a run that stops that a document is the cause.
* `Command.run_inputs_append` compares the three runs. -/

namespace DescriptiveLinks.Command

variable {a : Arguments} {files : Files} {input : Contents} {options : RuleOptions}
  {documents : List (Document × SyntaxTree)} {X Y : List String} {config : Option String}
  {format : Format} {s : Stop}

/-! ## Loading -/

/-- Things that are related to two lists in a row are related to each of them. -/
theorem forall₂_append_left_iff {α β : Type} {R : α → β → Prop} {xs ys : List α} {zs : List β} :
    List.Forall₂ R (xs ++ ys) zs ↔
      ∃ us vs, zs = us ++ vs ∧ List.Forall₂ R xs us ∧ List.Forall₂ R ys vs := by
  constructor
  · intro h
    refine ⟨zs.take xs.length, zs.drop xs.length, (List.take_append_drop _ _).symm, ?_, ?_⟩
    · simpa using List.forall₂_take xs.length h
    · simpa using List.forall₂_drop xs.length h
  · rintro ⟨us, vs, rfl, hxs, hys⟩
    exact List.rel_append hxs hys

/-- A run on paths loads what stands under each of them. -/
theorem loads_iff_forall₂ (hinputs : a.inputs ≠ []) :
    Loads a files input options documents ↔ Configured files a.config options ∧
      List.Forall₂ (fun path d => IsUnder files path d.1) a.inputs documents ∧
      ∀ d ∈ documents, SyntaxTree.ofJson d.1.text = .ok d.2 := by
  have hread : readDocuments files input a.inputs = .ok (documents.map Prod.fst) ↔
      List.Forall₂ (fun path d => IsUnder files path d.1) a.inputs documents := by
    rw [readDocuments, if_neg (by simpa using hinputs), readPaths_eq_ok_iff,
      List.forall₂_map_right_iff]
  rw [configured_iff, ← hread]
  constructor
  · intro h
    exact ⟨h.config, h.read, h.tree⟩
  · rintro ⟨hconfig, hread, htree⟩
    exact ⟨hconfig, hread, htree⟩

/-- **A run on two lists of paths** loads what the runs on each of them load. -/
theorem loads_append_iff (hX : X ≠ []) (hY : Y ≠ []) :
    Loads ⟨X ++ Y, config, format⟩ files input options documents ↔
      ∃ cs es, documents = cs ++ es ∧ Loads ⟨X, config, format⟩ files input options cs ∧
        Loads ⟨Y, config, format⟩ files input options es := by
  rw [loads_iff_forall₂ (List.append_ne_nil_of_left_ne_nil hX Y), forall₂_append_left_iff]
  constructor
  · rintro ⟨hconfig, ⟨cs, es, rfl, hcs, hes⟩, htrees⟩
    obtain ⟨hcs', hes'⟩ := List.forall_mem_append.mp htrees
    exact ⟨cs, es, rfl, (loads_iff_forall₂ hX).mpr ⟨hconfig, hcs, hcs'⟩,
      (loads_iff_forall₂ hY).mpr ⟨hconfig, hes, hes'⟩⟩
  · rintro ⟨cs, es, rfl, hcs, hes⟩
    obtain ⟨hconfig, hcs, hcs'⟩ := (loads_iff_forall₂ hX).mp hcs
    obtain ⟨-, hes, hes'⟩ := (loads_iff_forall₂ hY).mp hes
    exact ⟨hconfig, ⟨cs, es, rfl, hcs, hes⟩, List.forall_mem_append.mpr ⟨hcs', hes'⟩⟩

/-! ## Stopping at a document -/

/-- Whether a run stops **at a document**: what is under a path cannot be read, or it is no syntax
tree. -/
inductive Stop.AtDocument : Stop → Prop
  /-- It cannot be read. -/
  | unreadable (path : String) (e : ReadError) : AtDocument (.documentUnreadable path e)
  /-- It is no syntax tree. -/
  | refused (path : String) (e : LoadError) : AtDocument (.documentRefused path e)

theorem Stop.AtDocument.exitCode_eq (h : s.AtDocument) : s.exitCode = 1 := by
  cases h <;> rfl

theorem atDocument_of_readPaths {paths : List String} (h : readPaths files paths = .error s) :
    s.AtDocument := by
  rcases exists_first_error files.readText paths with
    hall | ⟨before, path, after, e, rfl, hbefore, he⟩
  · obtain ⟨ds, hds⟩ := exists_forall₂_isUnder hall
    rw [readPaths_eq_ok_iff.mpr hds] at h
    cases h
  · rw [readPaths_eq_error hbefore he] at h
    cases h
    exact .unreadable path e

theorem atDocument_of_checkDocuments {ds : List Document}
    (h : (checkDocuments options ds).value = .error s) : s.AtDocument := by
  induction ds with
  | nil => cases h
  | cons d ds ih =>
    cases htree : SyntaxTree.ofJson d.text with
    | error e =>
      rw [checkDocuments, htree] at h
      cases h
      exact .refused d.path e
    | ok tree =>
      rw [value_checkDocuments_cons options htree] at h
      cases hothers : (checkDocuments options ds).value with
      | error s' =>
        rw [hothers] at h
        cases h
        exact ih hothers
      | ok rs =>
        rw [hothers] at h
        cases h

theorem not_atDocument_of_loadOptions (h : (loadOptions files config).value = .error s) :
    ¬ s.AtDocument := by
  cases config with
  | none => cases h
  | some path =>
    rw [loadOptions] at h
    cases htext : files.readText path with
    | error e =>
      rw [htext] at h
      cases h
      intro hs
      cases hs
    | ok text =>
      simp only [htext] at h
      cases hread : (Configuration.optionsOfJson text).value with
      | error e =>
        rw [hread] at h
        cases h
        intro hs
        cases hs
      | ok options =>
        rw [hread] at h
        cases h

/-- **What stops a run on paths** is a document, unless it is the configuration. -/
theorem atDocument_iff_exists_configured (hinputs : a.inputs ≠ [])
    (h : (reports a files input).value = .error s) :
    s.AtDocument ↔ ∃ options, Configured files a.config options := by
  cases hconfig : (loadOptions files a.config).value with
  | error s' =>
    rw [value_reports_of_config hconfig] at h
    cases h
    refine iff_of_false (not_atDocument_of_loadOptions hconfig) ?_
    rintro ⟨options, hoptions⟩
    cases hconfig.symm.trans (configured_iff.mp hoptions)
  | ok options =>
    have hoptions : Configured files a.config options := configured_iff.mpr hconfig
    refine iff_of_true ?_ ⟨options, hoptions⟩
    -- With options, what is left to fail is reading all documents, and then loading each of them.
    cases hread : readDocuments files input a.inputs with
    | error s' =>
      rw [value_reports_of_inputs hoptions hread] at h
      cases h
      rw [readDocuments, if_neg (by simpa using hinputs)] at hread
      exact atDocument_of_readPaths hread
    | ok ds =>
      rw [value_reports hoptions (given_iff.mpr hread)] at h
      exact atDocument_of_checkDocuments h

/-- If one of the two runs stops at a document, then so does the run on both lists. -/
theorem exists_atDocument_append (hX : X ≠ []) (hY : Y ≠ []) (hs : s.AtDocument)
    (h : (reports ⟨X, config, format⟩ files input).value = .error s ∨
      (reports ⟨Y, config, format⟩ files input).value = .error s) :
    ∃ s' : Stop, s'.AtDocument ∧
      (reports ⟨X ++ Y, config, format⟩ files input).value = .error s' := by
  have hconfig : ∃ options, Configured files config options := by
    rcases h with h | h
    · exact (atDocument_iff_exists_configured hX h).mp hs
    · exact (atDocument_iff_exists_configured hY h).mp hs
  cases hvalue : (reports ⟨X ++ Y, config, format⟩ files input).value with
  | error s' =>
    have hXY : X ++ Y ≠ [] := List.append_ne_nil_of_left_ne_nil hX Y
    exact ⟨s', (atDocument_iff_exists_configured hXY hvalue).mpr hconfig, rfl⟩
  | ok rs =>
    -- If the run reported, then both of the others would have loaded their documents.
    obtain ⟨options, documents, hload, -⟩ := reports_eq_ok_iff.mp hvalue
    obtain ⟨cs, es, -, hcs, hes⟩ := (loads_append_iff hX hY).mp hload
    rcases h with h | h
    · cases h.symm.trans (reports_eq_ok_iff.mpr ⟨options, cs, hcs, rfl⟩)
    · cases h.symm.trans (reports_eq_ok_iff.mpr ⟨options, es, hes, rfl⟩)

/-! ## Output -/

theorem found_append (options : RuleOptions) (cs es : List (Document × SyntaxTree)) :
    found options (cs ++ es) = found options cs ++ found options es :=
  List.flatMap_append

/-- In the pretty format reports are written one after the other. -/
theorem render_pretty_append (rs rs' : List Report) :
    Format.pretty.render (rs ++ rs') = Format.pretty.render rs ++ Format.pretty.render rs' := by
  rw [← String.toList_inj]
  simp [Format.render, String.toList_join]

/-! ## Runs -/

/-- **A run on two lists of paths** is the run on the former and then the run on the latter. If both
load all their documents, then so does it; its exit code is the larger of the two, its pretty output
is the one output and then the other, and so is the array that its JSON output is the text of. If
one of the two stops at a document, then nothing is written at all. -/
theorem run_inputs_append {x y xy : List String} (hX : X ≠ []) (hY : Y ≠ [])
    (hx : Request.ofArguments x = .check ⟨X, config, format⟩)
    (hy : Request.ofArguments y = .check ⟨Y, config, format⟩)
    (hxy : Request.ofArguments xy = .check ⟨X ++ Y, config, format⟩) (files : Files)
    (input : Contents) :
    (∀ options options' cs es, Loads ⟨X, config, format⟩ files input options cs →
      Loads ⟨Y, config, format⟩ files input options' es →
        Loads ⟨X ++ Y, config, format⟩ files input options (cs ++ es) ∧
        (run xy files input).exitCode =
          max (run x files input).exitCode (run y files input).exitCode ∧
        (format = .pretty →
          (run xy files input).stdout = (run x files input).stdout ++ (run y files input).stdout) ∧
        (format = .json → (∀ d ∈ cs ++ es, d.1.text.length < Json.wordLimit) →
          ∃ vs ws, Json.parse (run x files input).stdout = .ok (.array vs) ∧
            Json.parse (run y files input).stdout = .ok (.array ws) ∧
            Json.parse (run xy files input).stdout = .ok (.array (vs ++ ws)))) ∧
    ∀ s : Stop, s.AtDocument →
      (reports ⟨X, config, format⟩ files input).value = .error s ∨
        (reports ⟨Y, config, format⟩ files input).value = .error s →
      (run xy files input).exitCode = 1 ∧ (run xy files input).stdout = "" := by
  constructor
  · intro options options' cs es hcs hes
    -- The configuration is the same, so the options are.
    obtain rfl : options = options' := Except.ok.inj (hcs.config.symm.trans hes.config)
    have hload : Loads ⟨X ++ Y, config, format⟩ files input options (cs ++ es) :=
      (loads_append_iff hX hY).mpr ⟨cs, es, rfl, hcs, hes⟩
    refine ⟨hload, ?_, ?_, ?_⟩
    · rw [exitCode_run_of_loads hx hcs, exitCode_run_of_loads hy hes,
        exitCode_run_of_loads hxy hload, found_append]
      -- There is something to report if there is on one side or on the other.
      cases found options cs <;> cases found options es <;> simp
    · rintro rfl
      rw [run_of_loads hx hcs, run_of_loads hy hes, run_of_loads hxy hload, found_append,
        List.map_append]
      exact render_pretty_append _ _
    · rintro rfl hsize
      have hparse := parse_stdout_run hxy rfl hload hsize
      rw [found_append, List.map_append, List.map_append] at hparse
      obtain ⟨hcs', hes'⟩ := List.forall_mem_append.mp hsize
      exact ⟨_, _, parse_stdout_run hx rfl hcs hcs', parse_stdout_run hy rfl hes hes', hparse⟩
  · intro s hs h
    obtain ⟨s', hs', hvalue⟩ := exists_atDocument_append hX hY hs h
    rw [run_of_error (ofArguments_eq_iff_comes.mp hxy) hvalue]
    exact ⟨hs'.exitCode_eq, rfl⟩

/-- One document twice and another one between them: all findings are written. If the other one is
missing, then nothing is. -/
theorem run_inputs_append_of_repeated :
    let files : Files := fun _ => .ok (linkJson "[here]").toUTF8
    let broken : Files := fun path => if path = "b.json" then .error .notFound else files path
    let stdout (arguments : List String) : String := (run arguments files (.ok .empty)).stdout
    stdout ["a.json", "b.json", "a.json"] = stdout ["a.json"] ++ stdout ["b.json", "a.json"] ∧
    (∃ vs ws, Json.parse (stdout ["--format", "json", "a.json"]) = .ok (.array vs) ∧
      Json.parse (stdout ["--format", "json", "b.json", "a.json"]) = .ok (.array ws) ∧
      Json.parse (stdout ["--format", "json", "a.json", "b.json", "a.json"]) =
        .ok (.array (vs ++ ws))) ∧
    (run ["a.json", "b.json", "a.json"] broken (.ok .empty)).exitCode = 1 ∧
      (run ["a.json", "b.json", "a.json"] broken (.ok .empty)).stdout = "" := by
  intro files broken stdout
  have hX : ["a.json"] ≠ [] := List.cons_ne_nil _ _
  have hY : ["b.json", "a.json"] ≠ [] := List.cons_ne_nil _ _
  have hlength : (linkJson "[here]").length < Json.wordLimit := by
    decide +kernel
  obtain ⟨cs, hcs, -⟩ := @exists_loads_of_findings (.ok .empty) _ _ _ hX findings_linkJson
  obtain ⟨es, hes, -⟩ := @exists_loads_of_findings (.ok .empty) _ _ _ hY findings_linkJson
  have hsize : ∀ d ∈ cs ++ es, d.1.text.length < Json.wordLimit := by
    intro d hd
    obtain hd | hd := List.mem_append.mp hd
    · rw [hcs.text_eq hX hd]
      exact hlength
    · rw [hes.text_eq hY hd]
      exact hlength
  have hpretty (files : Files) := @run_inputs_append _ _ none .pretty ["a.json"] ["b.json", "a.json"]
    ["a.json", "b.json", "a.json"] hX hY (by decide) (by decide) (by decide) files (.ok .empty)
  have hjson := @run_inputs_append _ _ none .json ["--format", "json", "a.json"]
    ["--format", "json", "b.json", "a.json"] ["--format", "json", "a.json", "b.json", "a.json"]
    hX hY (by decide) (by decide) (by decide) files (.ok .empty)
  obtain ⟨-, -, hstdout, -⟩ := (hpretty files).1 _ _ _ _ hcs hes
  obtain ⟨-, -, -, hparse⟩ := hjson.1 _ _ _ _ (hcs.withFormat .json) (hes.withFormat .json)
  have hbroken : (reports ⟨["b.json", "a.json"], none, .pretty⟩ broken (.ok .empty)).value =
      .error (.documentUnreadable "b.json" .notFound) := rfl
  exact ⟨hstdout rfl, hparse rfl hsize, (hpretty broken).2 _ (.unreadable _ _) (.inr hbroken)⟩

end DescriptiveLinks.Command
