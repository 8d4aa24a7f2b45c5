import DescriptiveLinks.Proofs.Phrase.Words
import DescriptiveLinks.Proofs.Rule.Report
import DescriptiveLinks.Proofs.Tree.Layout
import DescriptiveLinks.Rule.Options

/-! # Phrases that never match

The options of the rule warn of a phrase by looking at the phrase alone. What they mean is that no
label of any document will ever come down to it, so that the phrase could be left out; and of the
other phrases each is met in some document.

* `isNormalized_iff` says which phrases are keys.
* `lint_filter_ne` leaves out a phrase that is no key.
* `labelDocument` is a document that meets one phrase only. -/

namespace DescriptiveLinks

open Text

/-- The keys are the normalized phrases. -/
theorem isNormalized_iff {phrase : String} :
    IsNormalized phrase ↔ ∃ text, normalize text = phrase := by
  constructor
  · exact fun h => ⟨phrase, h⟩
  · rintro ⟨text, rfl⟩
    rw [IsNormalized, normalize, toList_normalize, key_key, ← normalize]

/-! ## Phrases that may be left out -/

theorem BannedPhrases.ofConfigured_some {phrases : List String} (h : phrases ≠ []) :
    ofConfigured (some phrases) = ofList phrases := by
  obtain ⟨phrase, rest, rfl⟩ := List.exists_cons_of_ne_nil h
  rfl

/-- Only the keys among the banned phrases matter. -/
theorem findings_congr {tree : SyntaxTree} (index : KindIndex tree) {banned banned' : BannedPhrases}
    (h : ∀ text, normalize text ∈ banned ↔ normalize text ∈ banned') :
    findings index banned = findings index banned' := by
  rw [findings, findings]
  refine List.flatMap_congr fun label _ => ?_
  simp only [Node.findings, h]

/-- **A phrase that is no key may be left out**, unless it is the last one, since then the default
phrases would take its place. -/
theorem lint_filter_ne {phrase : String} (hphrase : ¬ IsNormalized phrase) {phrases : List String}
    (hrest : phrases.filter (· ≠ phrase) ≠ []) (tree : SyntaxTree) (enabled : Bool) :
    (lint tree ⟨enabled, some phrases⟩).value
      = (lint tree ⟨enabled, some (phrases.filter (· ≠ phrase))⟩).value := by
  -- With or without the phrase, the phrases are configured ones and not the default ones.
  have hne : phrases ≠ [] := by
    rintro rfl
    exact hrest rfl
  have hkeys (text : String) : normalize text ∈ BannedPhrases.ofList phrases ↔
      normalize text ∈ BannedPhrases.ofList (phrases.filter (· ≠ phrase)) := by
    have hkey : normalize text ≠ phrase := fun heq => hphrase (isNormalized_iff.mpr ⟨text, heq⟩)
    simp [hkey]
  rw [value_lint, value_lint, RuleOptions.bannedPhrases, RuleOptions.bannedPhrases,
    BannedPhrases.ofConfigured_some hne, BannedPhrases.ofConfigured_some hrest,
    findings_congr _ hkeys]

/-! ## A document for a phrase -/

/-- The document that consists of a link, which consists of a label with an empty run of text. -/
def labelDocument (text : String) : SyntaxTree :=
  let start := (LineIndex.ofSource text.toList).position 0
  .ofNodes #[⟨linkKind, text, start, [1]⟩, ⟨labelKind, text, start, [2]⟩,
    ⟨labelTextKind, "", start, []⟩]

/-- The pieces of the source that it consists of. -/
def labelDocumentPieces (text : String) : Forest Piece :=
  let whole : Span := ⟨0, byteLength text.toList⟩
  .cons ⟨linkKind, whole⟩
    (.cons ⟨labelKind, whole⟩ (.cons ⟨labelTextKind, ⟨0, 0⟩⟩ .nil .nil) .nil) .nil

theorem ofForest_labelDocumentPieces (text : String) :
    .ofForest (Piece.label (.ofSource text.toList)) (labelDocumentPieces text)
      = labelDocument text := by
  refine SyntaxTree.ext ?_
  simp [SyntaxTree.ofForest, labelDocument, labelDocumentPieces, Piece.label, NodeLabel.node]

theorem finish_labelDocumentPieces (text : String) :
    ((Builder.ofSource text).run (labelDocumentPieces text).calls).2.finish
      = .ok (labelDocument text) := by
  have hwhole := slice?_zero_byteLength text.toList
  have hempty := slice?_zero_zero text.toList
  have hfits : (labelDocumentPieces text).Fits text.toList 0 :=
    ⟨le_rfl, ⟨_, hwhole⟩, ⟨le_rfl, ⟨_, hwhole⟩, ⟨le_rfl, ⟨_, hempty⟩, trivial, le_rfl, trivial⟩,
      Nat.zero_le _, trivial⟩, le_rfl, trivial⟩
  have hsize : 0 + (labelDocumentPieces text).size ≤ maxNodes :=
    show 0 + 3 ≤ maxNodes by decide
  rw [← ofForest_labelDocumentPieces]
  exact ((Builder.represents_ofSource text).run_calls hfits hsize).2.finish_eq

theorem produced_labelDocument (text : String) : (labelDocument text).Produced :=
  .built (finish_labelDocumentPieces text)

/-- A run of text of the document is reported where the key of the text is banned. -/
theorem exists_isReported_labelDocument_iff {text : String} {banned : BannedPhrases} :
    (∃ t : Node (labelDocument text), t.IsReported banned) ↔ normalize text ∈ banned := by
  have hsize : (labelDocument text).nodes.size = 3 := rfl
  constructor
  · rintro ⟨t, -, -, ⟨id, hid⟩, -, hkind, -, hbanned⟩
    -- Of the three nodes only the second is a label, and its text is the whole source.
    obtain rfl | rfl | rfl : id = 0 ∨ id = 1 ∨ id = 2 := by omega
    · exact absurd (show linkKind = labelKind from hkind) (by decide)
    · exact hbanned
    · exact absurd (show labelTextKind = labelKind from hkind) (by decide)
  · intro h
    exact ⟨⟨2, by omega⟩, rfl, Nat.succ_pos _, ⟨1, by omega⟩, rfl, rfl,
      ⟨⟨0, by omega⟩, rfl, rfl⟩, h⟩

/-- **A document that meets one phrase only.** -/
theorem lint_labelDocument_ne_nil_iff {phrase : String} (hphrase : IsNormalized phrase)
    {phrases : List String} (h : phrases ≠ []) :
    (lint (labelDocument phrase) ⟨true, some phrases⟩).value ≠ [] ↔ phrase ∈ phrases := by
  rw [value_lint, if_pos rfl, findings_ne_nil_iff (produced_labelDocument phrase).isForest,
    exists_isReported_labelDocument_iff, hphrase, RuleOptions.bannedPhrases,
    BannedPhrases.ofConfigured_some h, BannedPhrases.mem_ofList]

/-! ## The warnings -/

namespace RuleOptions

variable {rule : String} {phrases : List String}

theorem mem_warnings_iff {phrase : String} :
    .phraseNotNormalized rule phrase ∈ warnings rule (some phrases) ↔
      phrase ∈ phrases ∧ ¬ IsNormalized phrase := by
  simp [warnings]

/-- Options that name phrases are those of an object, and the warnings are about these phrases. -/
theorem ofNamedValue_of_linkTexts {v : Json.Value} {options : RuleOptions}
    (hread : (ofNamedValue rule v).value = .ok options)
    (hphrases : options.linkTexts = some phrases) :
    options = ⟨true, some phrases⟩ ∧
      (ofNamedValue rule v).events = warnings rule (some phrases) := by
  cases v with
  | null | bool =>
    cases hread
    cases hphrases
  | number | string | array => cases hread
  | object members =>
    rw [ofNamedValue, ofMembers] at hread ⊢
    split at hread
    · cases hread
    · next linkTexts hlinkTexts =>
      cases hread
      obtain rfl : linkTexts = some phrases := hphrases
      exact ⟨rfl, rfl⟩

theorem stringsFrom_map_string (index : Nat) (phrases : List String) :
    stringsFrom index (phrases.map .string) = .ok phrases := by
  induction phrases generalizing index with
  | nil => rfl
  | cons phrase rest ih =>
    rw [List.map_cons, stringsFrom, ih]
    rfl

/-- Every list of phrases can be configured. -/
theorem exists_ofNamedValue (rule : String) (phrases : List String) :
    ∃ v, (ofNamedValue rule v).value = .ok ⟨true, some phrases⟩ := by
  refine ⟨.object [("link_texts", .array (phrases.map .string))], ?_⟩
  have hentry : (Json.entries [("link_texts", .array (phrases.map .string))])["link_texts"]?
      = some (.array (phrases.map .string)) := by
    simp [Json.entries]
  rw [ofNamedValue, ofMembers, hentry, Option.elim_some, phrasesOf, stringsFrom_map_string]
  rfl

end RuleOptions

/-- **The warnings name the phrases that never match**: those that are no keys. Where another phrase
is left, no document tells whether such a phrase is configured; any other phrase is met in a
document where nothing else is. -/
theorem phraseNotNormalized_iff_never_met :
    (∀ phrase, ¬ IsNormalized phrase ↔ ¬ ∃ text, normalize text = phrase) ∧
    (∀ rule phrases, ∃ v, (RuleOptions.ofNamedValue rule v).value = .ok ⟨true, some phrases⟩) ∧
    ∀ rule v options phrases, (RuleOptions.ofNamedValue rule v).value = .ok options →
      options.linkTexts = some phrases → ∀ phrase ∈ phrases,
      (.phraseNotNormalized rule phrase ∈ (RuleOptions.ofNamedValue rule v).events →
        phrases.filter (· ≠ phrase) ≠ [] → ∀ tree, (lint tree options).value
          = (lint tree { options with linkTexts := some (phrases.filter (· ≠ phrase)) }).value) ∧
      (.phraseNotNormalized rule phrase ∉ (RuleOptions.ofNamedValue rule v).events →
        ∃ tree : SyntaxTree, tree.Produced ∧
          (∀ others, phrase ∈ others → (lint tree ⟨true, some others⟩).value ≠ []) ∧
          ∀ others, others ≠ [] → phrase ∉ others →
            (lint tree ⟨true, some others⟩).value = []) := by
  refine ⟨fun phrase => not_congr isNormalized_iff, RuleOptions.exists_ofNamedValue, ?_⟩
  intro rule v options phrases hread hphrases phrase hmem
  obtain ⟨rfl, hevents⟩ := RuleOptions.ofNamedValue_of_linkTexts hread hphrases
  rw [hevents, RuleOptions.mem_warnings_iff]
  constructor
  · rintro ⟨-, hphrase⟩ hrest tree
    exact lint_filter_ne hphrase hrest tree true
  · intro hwarned
    have hphrase : IsNormalized phrase := Decidable.not_not.mp fun h => hwarned ⟨hmem, h⟩
    refine ⟨labelDocument phrase, produced_labelDocument phrase, ?_, ?_⟩
    · intro others hmem
      exact (lint_labelDocument_ne_nil_iff hphrase (List.ne_nil_of_mem hmem)).mpr hmem
    · intro others hne hnotmem
      exact Decidable.not_not.mp fun h =>
        hnotmem ((lint_labelDocument_ne_nil_iff hphrase hne).mp h)

/-- A capital makes a phrase of no use beside the same phrase without it. -/
theorem phraseNotNormalized_here :
    ∃ v, (RuleOptions.ofNamedValue "MD059" v).value = .ok ⟨true, some ["Here", "here"]⟩ ∧
      .phraseNotNormalized "MD059" "Here" ∈ (RuleOptions.ofNamedValue "MD059" v).events ∧
      ∀ tree, (lint tree ⟨true, some ["Here", "here"]⟩).value
        = (lint tree ⟨true, some ["here"]⟩).value := by
  obtain ⟨-, hconfigured, hphrases⟩ := phraseNotNormalized_iff_never_met
  obtain ⟨v, hv⟩ := hconfigured "MD059" ["Here", "here"]
  have hwarned :
      .phraseNotNormalized "MD059" "Here" ∈ (RuleOptions.ofNamedValue "MD059" v).events := by
    rw [(RuleOptions.ofNamedValue_of_linkTexts hv rfl).2]
    decide
  exact ⟨v, hv, hwarned,
    (hphrases "MD059" v _ _ hv rfl "Here" List.mem_cons_self).1 hwarned (by decide)⟩

end DescriptiveLinks
