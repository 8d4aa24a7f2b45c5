import DescriptiveLinks.Proofs.Command.PrettyOutput
import DescriptiveLinks.Proofs.Rule.AcceptedOptions

/-! # What a run warns of

A run reads the options of the rule once, before any document, and that is when it warns of phrases
which are not normalized. Checking a document leaves no warning, however often it is done.

* `Command.warningsIn_checkDocuments` says that documents give no warnings.
* `Command.ofValue_reads_and_warned_once` puts the law of options and the warnings of runs
  together. -/

namespace DescriptiveLinks

namespace Event

theorem warningsIn_append (ds es : List Event) :
    warningsIn (ds ++ es) = warningsIn ds ++ warningsIn es :=
  List.filter_append ds es

theorem warningsIn_cons_of_debug {e : Event} (he : e.level = .debug) (es : List Event) :
    warningsIn (e :: es) = warningsIn es :=
  List.filter_cons_of_neg (by simp [he])

end Event

open Event

/-- A check of a document says what it did, and warns of nothing. -/
theorem warningsIn_lint (tree : SyntaxTree) (options : RuleOptions) :
    warningsIn (lint tree options).events = [] := by
  rw [lint]
  split <;> rfl

namespace Command

open RuleOptions

variable {arguments : List String} {a : Arguments} {files : Files} {input : Contents}

/-! ## Stages -/

/-- **Checking documents gives no warnings**, be it that all of them are syntax trees or that one is
not. -/
theorem warningsIn_checkDocuments (options : RuleOptions) (ds : List Document) :
    warningsIn (checkDocuments options ds).events = [] := by
  induction ds with
  | nil => rfl
  | cons d ds ih =>
    rw [checkDocuments]
    cases SyntaxTree.ofJson d.text with
    | error e => rfl
    | ok tree =>
      show warningsIn ((lint tree options).events ++
        .documentChecked d.path _ :: (checkDocuments options ds).events) = []
      rw [warningsIn_append, warningsIn_lint, warningsIn_cons_of_debug rfl, ih, List.nil_append]

/-- The options of a run come with their warnings, wherever they are from. -/
theorem warned_loadOptions (files : Files) (config : Option String) :
    Warned (loadOptions files config) := by
  cases config with
  | none => exact warned_of_linkTexts_eq_none rfl
  | some path =>
    rw [loadOptions]
    cases files.readText path with
    | error e => exact .refused _
    | ok text => exact (warned_optionsOfJson text).mapError _

/-- The warnings of a run are those that come with its options, even if it stops at a document. -/
theorem warningsIn_reports (a : Arguments) (files : Files) (input : Contents) :
    warningsIn (reports a files input).events = (loadOptions files a.config).events := by
  have hoptions := (warned_loadOptions files a.config).warningsIn_events
  rw [reports]
  cases (loadOptions files a.config).value with
  | error e => exact hoptions
  | ok options =>
    cases readDocuments files input a.inputs with
    | error e => exact hoptions
    | ok ds =>
      show warningsIn (_ ++ (checkDocuments options ds).events) = _
      rw [warningsIn_append, hoptions, warningsIn_checkDocuments, List.append_nil]

theorem events_run (h : Request.ofArguments arguments = .check a) :
    (run arguments files input).events = (reports a files input).events := by
  rw [run, h]
  dsimp only
  cases (reports a files input).value with
  | error s => rfl
  | ok rs => rfl

/-! ## Runs -/

/-- **Options are accepted by their law, and warned of once.** Options that are read on their own are
accepted or refused as the law says, with its warnings. A check of a document gives no warning, so
that those of a run are the ones that come with its options, whichever documents it checks and
wherever it stops. -/
theorem ofValue_reads_and_warned_once :
    (∀ v r, ofValue v = r ↔ Reads descriptiveLinkText.name v r) ∧
    (∀ tree options, warningsIn (lint tree options).events = []) ∧
    ∀ arguments a files input, Request.ofArguments arguments = .check a →
      Warned (loadOptions files a.config) ∧
        warningsIn (run arguments files input).events = (loadOptions files a.config).events := by
  refine ⟨fun v r => ofNamedValue_eq_iff_reads, warningsIn_lint, ?_⟩
  intro arguments a files input h
  refine ⟨warned_loadOptions files a.config, ?_⟩
  rw [events_run h, warningsIn_reports]

/-- A phrase that is configured twice is warned of twice, not four times for two documents. In front
of something that is no phrase it is not warned of. -/
theorem warned_once_of_two_documents :
    let config := "\x7b\"md059\":\x7b\"link_texts\":[\"Here\",\"here\",\"Here\"]\x7d\x7d"
    let files : Files := fun path =>
      if path = "c.json" then .ok config.toUTF8 else .ok (linkJson "[here]").toUTF8
    warningsIn (run ["a.json", "--config", "c.json", "b.json"] files (.ok .empty)).events =
        [.phraseNotNormalized "md059" "Here", .phraseNotNormalized "md059" "Here"] ∧
      ofValue (.object [("link_texts", .array [.string "Here", .null, .bool true])]) =
        ⟨[], .error (.notPhrase 1 .null)⟩ := by
  intro config files
  obtain ⟨hlaw, -, hrun⟩ := ofValue_reads_and_warned_once
  have htext : files.readText "c.json" = .ok config := readText_of_eq_toUTF8 (if_pos rfl)
  have hevents : (Configuration.optionsOfJson config).events =
      [.phraseNotNormalized "md059" "Here", .phraseNotNormalized "md059" "Here"] := by
    decide +kernel
  constructor
  · obtain ⟨-, hwarnings⟩ := hrun ["a.json", "--config", "c.json", "b.json"]
      { inputs := ["a.json", "b.json"], config := some "c.json" } files (.ok .empty) (by decide)
    rw [hwarnings, loadOptions, htext]
    exact hevents
  · exact (hlaw _ _).mpr (.refused (.notPhrase ["Here"] [.bool true] nofun))

end Command

end DescriptiveLinks
