import DescriptiveLinks.Command.Arguments

/-! # What arguments come to

A list of arguments begins with *settings*: inputs, and options with their values. They may be all
of it, and then documents are checked. Otherwise the first argument after them decides, and what
stands behind it does not matter.

* `Command.Comes` says what a list of arguments comes to.
* `Command.ofArguments_eq_iff_comes` says that reading them from left to right finds it. -/

namespace DescriptiveLinks.Command

/-- The name of a format. -/
def Format.name : Format → String
  | pretty => "pretty"
  | json => "json"

/-- A format is found by its name and by no other. -/
theorem Format.ofName?_eq_some_iff {name : String} {format : Format} :
    Format.ofName? name = some format ↔ name = format.name := by
  rw [Format.ofName?]
  by_cases hpretty : name = "pretty"
  · rw [if_pos hpretty, hpretty]
    cases format <;> simp [Format.name]
  · rw [if_neg hpretty]
    by_cases hjson : name = "json"
    · rw [if_pos hjson, hjson]
      cases format <;> simp [Format.name]
    · rw [if_neg hjson]
      cases format <;> simp [Format.name, hpretty, hjson]

/-! ## Settings -/

/-- An argument that decides nothing yet, with the value that it takes. -/
inductive Setting where
  /-- The path of a configuration. -/
  | config (path : String)
  /-- A format. -/
  | format (f : Format)
  /-- The path of a document. -/
  | input (path : String)

namespace Setting

/-- A setting as it is given. -/
def words : Setting → List String
  | config path => ["--config", path]
  | format f => ["--format", f.name]
  | input path => [path]

/-- Whether a setting is taken for what it is: an input must not look like an option, while the
value of an option may. -/
def IsPlain : Setting → Prop
  | input path => path ≠ "-h" ∧ ¬ ['-', '-'] <+: path.toList
  | _ => True

/-- The path of the configuration, if the setting is one. -/
def config? : Setting → Option String
  | config path => some path
  | _ => none

/-- The format, if the setting is one. -/
def format? : Setting → Option Format
  | format f => some f
  | _ => none

/-- The path of the document, if the setting is one. -/
def input? : Setting → Option String
  | input path => some path
  | _ => none

end Setting

namespace Arguments

/-- What settings ask for: all the inputs, and the last value of each option. -/
def ofSettings (settings : List Setting) : Arguments where
  inputs := settings.filterMap Setting.input?
  config := (settings.filterMap Setting.config?).getLast?
  format := (settings.filterMap Setting.format?).getLast?.getD .pretty

/-- The arguments with one more setting. -/
def add (a : Arguments) : Setting → Arguments
  | .config path => { a with config := some path }
  | .format f => { a with format := f }
  | .input path => { a with inputs := a.inputs ++ [path] }

theorem ofSettings_append_singleton (settings : List Setting) (s : Setting) :
    ofSettings (settings ++ [s]) = (ofSettings settings).add s := by
  cases s <;>
    simp [ofSettings, add, Setting.input?, Setting.config?, Setting.format?]

end Arguments

/-! ## The law -/

/-- What an argument **decides**, whatever comes behind it. -/
inductive Decides : List String → Request → Prop
  /-- Help is asked for. -/
  | help {word : String} {rest : List String} (h : word = "-h" ∨ word = "--help") :
    Decides (word :: rest) .help
  /-- The path of the configuration is missing. -/
  | missingConfig : Decides ["--config"] (.misuse .missingConfig)
  /-- The format is missing. -/
  | missingFormat : Decides ["--format"] (.misuse .unknownFormat)
  /-- There is no format of that name. -/
  | unknownFormat {name : String} {rest : List String} (h : name ≠ "pretty" ∧ name ≠ "json") :
    Decides ("--format" :: name :: rest) (.misuse .unknownFormat)
  /-- There is no such option. -/
  | unexpected {word : String} {rest : List String} (hdashes : ['-', '-'] <+: word.toList)
    (h : word ≠ "--help" ∧ word ≠ "--config" ∧ word ≠ "--format") :
    Decides (word :: rest) (.misuse (.unexpected word))

/-- **What a list of arguments comes to.** -/
inductive Comes : List String → Request → Prop
  /-- All of it is settings. -/
  | check {settings : List Setting} (hplain : ∀ s ∈ settings, s.IsPlain) :
    Comes (settings.flatMap Setting.words) (.check (.ofSettings settings))
  /-- The first argument after some settings decides. -/
  | decided {settings : List Setting} {rest : List String} {r : Request}
    (hplain : ∀ s ∈ settings, s.IsPlain) (hrest : Decides rest r) :
    Comes (settings.flatMap Setting.words ++ rest) r

/-! ## The law is total -/

/-- Arguments begin with a setting, unless there is none or the first one decides. -/
theorem exists_decides_or_words {arguments : List String} (hne : arguments ≠ []) :
    (∃ r, Decides arguments r) ∨
      ∃ (s : Setting) (rest : List String), s.IsPlain ∧ arguments = s.words ++ rest := by
  obtain ⟨word, rest, rfl⟩ := List.exists_cons_of_ne_nil hne
  by_cases hhelp : word = "-h" ∨ word = "--help"
  · exact .inl ⟨_, .help hhelp⟩
  by_cases hconfig : word = "--config"
  · subst hconfig
    cases rest with
    | nil => exact .inl ⟨_, .missingConfig⟩
    | cons path rest => exact .inr ⟨.config path, rest, trivial, rfl⟩
  by_cases hformat : word = "--format"
  · subst hformat
    cases rest with
    | nil => exact .inl ⟨_, .missingFormat⟩
    | cons name rest =>
      by_cases hpretty : name = "pretty"
      · exact .inr ⟨.format .pretty, rest, trivial, by rw [hpretty]; rfl⟩
      by_cases hjson : name = "json"
      · exact .inr ⟨.format .json, rest, trivial, by rw [hjson]; rfl⟩
      · exact .inl ⟨_, .unknownFormat ⟨hpretty, hjson⟩⟩
  obtain ⟨hshort, hlong⟩ := not_or.mp hhelp
  by_cases hdashes : ['-', '-'] <+: word.toList
  · exact .inl ⟨_, .unexpected hdashes ⟨hlong, hconfig, hformat⟩⟩
  · exact .inr ⟨.input word, rest, ⟨hshort, hdashes⟩, rfl⟩

/-- A setting in front leaves it to the rest to decide. -/
theorem Comes.exists_cons {s : Setting} {rest : List String} {r : Request} (hs : s.IsPlain)
    (h : Comes rest r) : ∃ r', Comes (s.words ++ rest) r' := by
  cases h with
  | @check settings hplain =>
    refine ⟨.check (.ofSettings (s :: settings)), ?_⟩
    rw [← List.flatMap_cons (f := Setting.words)]
    exact .check (List.forall_mem_cons.mpr ⟨hs, hplain⟩)
  | @decided settings rest r hplain hrest =>
    refine ⟨r, ?_⟩
    rw [← List.append_assoc, ← List.flatMap_cons (f := Setting.words)]
    exact .decided (List.forall_mem_cons.mpr ⟨hs, hplain⟩) hrest

/-- Every list of arguments comes to something. -/
theorem exists_comes (arguments : List String) : ∃ r, Comes arguments r := by
  induction hlength : arguments.length using Nat.strongRecOn generalizing arguments with
  | ind n ih =>
    subst hlength
    by_cases hne : arguments = []
    · subst hne
      exact ⟨_, @Comes.check [] (List.forall_mem_nil _)⟩
    rcases exists_decides_or_words hne with ⟨r, h⟩ | ⟨s, rest, hs, rfl⟩
    · exact ⟨r, @Comes.decided [] arguments r (List.forall_mem_nil _) h⟩
    · -- A setting takes at least one argument, so the rest is shorter.
      have hlt : rest.length < (s.words ++ rest).length := by
        cases s <;> simp only [Setting.words, List.length_append, List.length_cons] <;> omega
      obtain ⟨r, h⟩ := ih _ hlt rest rfl
      exact h.exists_cons hs

/-! ## Reading from left to right -/

namespace Arguments

variable {a : Arguments}

/-- An argument that does not look like an option is an input. -/
theorem scan_input {path : String} (rest : List String) (hhelp : path ≠ "-h")
    (hdashes : ¬ ['-', '-'] <+: path.toList) :
    a.scan (path :: rest) = (a.add (.input path)).scan rest := by
  have hne (word : String) (hword : ['-', '-'] <+: word.toList) : path ≠ word := by
    rintro rfl
    exact hdashes hword
  have hlong : path ≠ "--help" := hne _ (by decide)
  have hconfig : path ≠ "--config" := hne _ (by decide)
  have hformat : path ≠ "--format" := hne _ (by decide)
  rw [scan.eq_def]
  simp [hhelp, hlong, hconfig, hformat, hdashes, add]

/-- **A setting is read**, and reading goes on behind it. -/
theorem scan_words {s : Setting} (hs : s.IsPlain) (rest : List String) :
    a.scan (s.words ++ rest) = (a.add s).scan rest := by
  cases s with
  | config path =>
    rw [scan.eq_def]
    simp [Setting.words, add]
  | format f =>
    have hname : Format.ofName? f.name = some f := Format.ofName?_eq_some_iff.mpr rfl
    rw [scan.eq_def]
    simp [Setting.words, hname, add]
  | input path => exact scan_input rest hs.1 hs.2

/-- Settings are read one after the other. -/
theorem scan_flatMap_words (done : List Setting) {settings : List Setting}
    (hplain : ∀ s ∈ settings, s.IsPlain) (rest : List String) :
    (ofSettings done).scan (settings.flatMap Setting.words ++ rest) =
      (ofSettings (done ++ settings)).scan rest := by
  induction settings generalizing done with
  | nil => rw [List.flatMap_nil, List.nil_append, List.append_nil]
  | cons s settings ih =>
    obtain ⟨hs, hplain⟩ := List.forall_mem_cons.mp hplain
    rw [List.flatMap_cons, List.append_assoc, scan_words hs, ← ofSettings_append_singleton,
      ih (done ++ [s]) hplain, List.append_assoc]
    rfl

/-- An argument that decides is the last that is read. -/
theorem scan_of_decides {rest : List String} {r : Request} (h : Decides rest r) :
    a.scan rest = r := by
  cases h with
  | help h =>
    rw [scan.eq_def]
    exact if_pos h
  | missingConfig => simp [scan]
  | missingFormat => simp [scan]
  | @unknownFormat name rest h =>
    have hname : Format.ofName? name = none := by
      rw [Format.ofName?, if_neg h.1, if_neg h.2]
    rw [scan.eq_def]
    simp [hname]
  | @unexpected word rest hdashes h =>
    have hhelp : word ≠ "-h" := by
      rintro rfl
      exact absurd hdashes (by decide)
    rw [scan.eq_def]
    simp [hhelp, h, hdashes]

end Arguments

/-- What the law asks for is read. -/
theorem Comes.ofArguments_eq {arguments : List String} {r : Request} (h : Comes arguments r) :
    Request.ofArguments arguments = r := by
  cases h with
  | @check settings hplain =>
    have hscan := Arguments.scan_flatMap_words [] hplain []
    rw [List.append_nil] at hscan
    exact hscan
  | @decided settings rest r hplain hrest =>
    have hscan := Arguments.scan_flatMap_words [] hplain rest
    exact hscan.trans (Arguments.scan_of_decides hrest)

/-- **Arguments are read from left to right**, and the first one that decides wins. -/
theorem ofArguments_eq_iff_comes {arguments : List String} {r : Request} :
    Request.ofArguments arguments = r ↔ Comes arguments r := by
  refine ⟨fun h => ?_, Comes.ofArguments_eq⟩
  obtain ⟨r', h'⟩ := exists_comes arguments
  rw [← h, h'.ofArguments_eq]
  exact h'

end DescriptiveLinks.Command
