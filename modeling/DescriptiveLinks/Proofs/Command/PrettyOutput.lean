import DescriptiveLinks.Proofs.Command.Runs
import DescriptiveLinks.Proofs.Text.Lines

/-! # Pretty output

A run in the pretty format writes the diagnostics of its findings one after the other, each with a
line feed after it. A diagnostic shows the beginning of a label as it is written, and a label may
stand on several lines of its document: such a diagnostic takes several lines as well.

* `Command.count_lineFeed_pretty` counts the line feeds of one diagnostic.
* `Command.diagnostics` are those of all findings of a run.
* `Command.lines_stdout_eq_iff` says when the lines of the output are the diagnostics. -/

namespace DescriptiveLinks

/-! ## Line feeds of a diagnostic -/

/-- The characters of the label that a diagnostic shows. -/
def Finding.shown (f : Finding) : List Char :=
  f.text.toList.take excerptLength

/-- Leaving out the end of a text adds no line feed. -/
theorem count_lineFeed_excerpt (text : String) :
    (excerpt text).toList.count '\n' = (text.toList.take excerptLength).count '\n' := by
  rw [excerpt]
  split
  · next h =>
    rw [List.take_of_length_le]
    rwa [String.length_toList]
  · rw [String.toList_append, String.toList_ofList, List.count_append]
    rfl

/-- A number is written without line feeds. -/
theorem count_lineFeed_toDigits (n : Nat) : (Nat.toDigits 10 n).count '\n' = 0 := by
  refine List.count_eq_zero.mpr fun h => ?_
  have hdigit := Nat.isDigit_of_mem_toDigits (by decide) (by decide) h
  exact absurd hdigit (by decide)

namespace Diagnostic

variable (d : Diagnostic) (path : String)

theorem toList_pretty :
    (d.pretty path).toList =
      path.toList ++ ':' :: Nat.toDigits 10 d.line ++ ':' :: Nat.toDigits 10 d.column ++
        ' ' :: d.rule.title.toList ++ ' ' :: d.rule.description.toList ++
        " [Context: \"".toList ++ d.context.toList ++ "\"]".toList := by
  simp [pretty, toString]

/-- The line feeds of a diagnostic are those of the path, of what is said of the rule, and of the
text that is shown. -/
theorem count_lineFeed_pretty :
    (d.pretty path).toList.count '\n' =
      path.toList.count '\n' + d.rule.title.toList.count '\n' +
        d.rule.description.toList.count '\n' + d.context.toList.count '\n' := by
  rw [toList_pretty]
  simp [count_lineFeed_toDigits, Nat.add_assoc]

end Diagnostic

namespace Command

variable {a : Arguments} {files : Files} {input : Contents} {options : RuleOptions}
  {documents : List (Document × SyntaxTree)}

theorem count_lineFeed_pretty (p : String × Finding) :
    (toReport p).pretty.toList.count '\n' = p.1.toList.count '\n' + p.2.shown.count '\n' := by
  have htitle : descriptiveLinkText.title.toList.count '\n' = 0 := by decide
  have hdescription : descriptiveLinkText.description.toList.count '\n' = 0 := by decide
  have hrule : (toReport p).diagnostic.rule = descriptiveLinkText := rfl
  have hcount := (toReport p).diagnostic.count_lineFeed_pretty p.1
  rw [hrule, htitle, hdescription] at hcount
  rw [Finding.shown, ← count_lineFeed_excerpt]
  exact hcount

/-- If no path of an input has a line feed, then the line feeds of a diagnostic are those of the
text that it shows. -/
theorem Loads.count_lineFeed_pretty (h : Loads a files input options documents)
    (hpaths : ∀ path ∈ a.inputs, '\n' ∉ path.toList) {p : String × Finding}
    (hp : p ∈ found options documents) :
    (toReport p).pretty.toList.count '\n' = p.2.shown.count '\n' := by
  obtain ⟨d, hd, hp⟩ := List.mem_flatMap.mp hp
  obtain ⟨f, -, rfl⟩ := List.mem_map.mp hp
  have hpath : '\n' ∉ d.1.path.toList := by
    obtain heq | hmem := h.path_eq_or_mem hd
    · rw [heq]
      decide
    · exact hpaths _ hmem
  rw [Command.count_lineFeed_pretty, List.count_eq_zero.mpr hpath, Nat.zero_add]

/-! ## The output -/

/-- The **diagnostics** of the findings in the pretty format. -/
def diagnostics (options : RuleOptions) (documents : List (Document × SyntaxTree)) :
    List (List Char) :=
  (found options documents).map fun (path, f) =>
    ((Diagnostic.ofFinding descriptiveLinkText f).pretty path).toList

variable {arguments : List String}

theorem stdout_run (hrequest : Request.ofArguments arguments = .check a)
    (hpretty : a.format = .pretty) (hload : Loads a files input options documents) :
    (run arguments files input).stdout.toList =
      (diagnostics options documents).flatMap (· ++ ['\n']) := by
  have hreports : (reports a files input).value = .ok ((found options documents).map toReport) :=
    reports_eq_ok_iff.mpr ⟨options, documents, hload, rfl⟩
  rw [run, hrequest]
  simp only [hreports, Outcome.ofReports, hpretty, Format.render, String.toList_join,
    diagnostics, List.flatMap_map]
  simp [toReport, Report.pretty]

/-- There is a line for each finding, and one more for each line feed that is shown. -/
theorem length_lines_stdout (hrequest : Request.ofArguments arguments = .check a)
    (hpretty : a.format = .pretty) (hload : Loads a files input options documents)
    (hpaths : ∀ path ∈ a.inputs, '\n' ∉ path.toList) :
    (Text.lines (run arguments files input).stdout.toList).length =
      (found options documents).length +
        ((found options documents).flatMap fun p => p.2.shown).count '\n' := by
  rw [Text.length_lines, stdout_run hrequest hpretty hload, diagnostics, List.flatMap_map]
  exact Text.count_flatMap_lineFeed fun p hp => hload.count_lineFeed_pretty hpaths hp

/-- **The lines of the pretty output.** A run that loads all its documents, under paths without line
feeds, writes the diagnostics of its findings in their order. They are its lines, and there are as
many lines as findings, if and only if no diagnostic shows a line feed of its label. -/
theorem lines_stdout_eq_iff (hrequest : Request.ofArguments arguments = .check a)
    (hpretty : a.format = .pretty) (hload : Loads a files input options documents)
    (hpaths : ∀ path ∈ a.inputs, '\n' ∉ path.toList) :
    (run arguments files input).stdout.toList =
      (diagnostics options documents).flatMap (· ++ ['\n']) ∧
    (Text.lines (run arguments files input).stdout.toList).length =
      (found options documents).length +
        ((found options documents).flatMap fun p => p.2.shown).count '\n' ∧
    ((Text.lines (run arguments files input).stdout.toList).length =
        (found options documents).length ↔
      ∀ p ∈ found options documents, '\n' ∉ p.2.shown) ∧
    (Text.lines (run arguments files input).stdout.toList = diagnostics options documents ↔
      ∀ p ∈ found options documents, '\n' ∉ p.2.shown) := by
  have hstdout := stdout_run hrequest hpretty hload
  have hlength := length_lines_stdout hrequest hpretty hload hpaths
  have hshown : (Text.lines (run arguments files input).stdout.toList).length =
      (found options documents).length ↔ ∀ p ∈ found options documents, '\n' ∉ p.2.shown := by
    rw [hlength, Nat.add_eq_left, List.count_eq_zero]
    simp [List.mem_flatMap]
  refine ⟨hstdout, hlength, hshown, fun heq => hshown.mp ?_, fun h => ?_⟩
  · rw [heq, diagnostics, List.length_map]
  · -- Without line feeds inside them, the diagnostics are the lines that they were written on.
    rw [hstdout]
    refine Text.lines_flatMap (List.forall_mem_map.mpr fun p hp => ?_)
    rw [← List.count_eq_zero]
    exact (hload.count_lineFeed_pretty hpaths hp).trans (List.count_eq_zero.mpr (h p hp))

/-- A document with one link, where `label` is the text of the label in JSON. -/
def linkJson (label : String) : String :=
  "[\x7b\"type\":\"link\",\"children\":[\x7b\"type\":\"label\",\"text\":\"" ++ label ++
    "\",\"children\":[\x7b\"type\":\"labelText\",\"startLine\":1,\"startColumn\":2\x7d]\x7d]\x7d]"

theorem findings_linkJson :
    (SyntaxTree.ofJson (linkJson "[here]")).map (fun tree => (lint tree {}).value)
      = .ok [⟨⟨1, 2⟩, "[here]"⟩] := by
  decide +kernel

/-- Two documents whose labels have no line feed give two lines. -/
theorem lines_stdout_two_documents :
    Text.lines (run ["a.json", "b.json"] (fun _ => .ok (linkJson "[here]").toUTF8)
        (.ok .empty)).stdout.toList =
      ["a.json", "b.json"].map fun path =>
        (path ++ ":1:2 MD059/descriptive-link-text Link text should be descriptive " ++
          "[Context: \"[here]\"]").toList := by
  have hrequest : Request.ofArguments ["a.json", "b.json"] =
      .check { inputs := ["a.json", "b.json"] } := by
    decide
  obtain ⟨documents, hload, hfound⟩ :=
    exists_loads_of_findings (List.cons_ne_nil _ _) findings_linkJson
  have hlines := (lines_stdout_eq_iff hrequest rfl hload (by decide)).2.2.2.mpr
    (by rw [hfound]; decide)
  rw [hlines, diagnostics, hfound]
  rfl

/-- A label on two lines: the diagnostic of its only finding takes two lines as well. -/
theorem not_always_one_line :
    ¬ ∀ (arguments : List String) (files : Files) (input : Contents) (a : Arguments)
        (options : RuleOptions) (documents : List (Document × SyntaxTree)),
      Request.ofArguments arguments = .check a → a.format = .pretty →
      Loads a files input options documents → (∀ path ∈ a.inputs, '\n' ∉ path.toList) →
        (Text.lines (run arguments files input).stdout.toList).length =
          (found options documents).length ∧
        Text.lines (run arguments files input).stdout.toList = diagnostics options documents := by
  intro h
  have hrequest : Request.ofArguments ["a.json"] = .check { inputs := ["a.json"] } := by
    decide
  have hfindings : (SyntaxTree.ofJson (linkJson "[click\\nhere]")).map
      (fun tree => (lint tree {}).value) = .ok [⟨⟨1, 2⟩, "[click\nhere]"⟩] := by
    decide +kernel
  obtain ⟨documents, hload, hfound⟩ := exists_loads_of_findings (List.cons_ne_nil _ _) hfindings
  have hsame := (h _ _ (.ok .empty) _ _ _ hrequest rfl hload (by decide)).1
  rw [length_lines_stdout hrequest rfl hload (by decide), hfound] at hsame
  exact absurd hsame (by decide)

end Command

end DescriptiveLinks
