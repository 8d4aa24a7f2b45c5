import DescriptiveLinks.Proofs.Rule.DeadPhrases
import DescriptiveLinks.Proofs.Rule.Resolution

/-! # Which options are accepted

Options of the rule are any JSON value, and only some of them can be meant. What a value comes to is
a law about the value itself: which phrases it names, or what is wrong with it, where of several
things the first counts. Warnings come only with options that are accepted.

* `RuleOptions.Gives` is the law of the value under `link_texts`, and `RuleOptions.Reads` that of the
  options.
* `RuleOptions.ofNamedValue_eq_iff_reads` says that the law holds.
* `RuleOptions.Warned` says which warnings come with options, and
  `RuleOptions.warned_optionsOfJson` that those of a configuration do. -/

namespace DescriptiveLinks

/-- The warnings among events. -/
def Event.warningsIn (events : List Event) : List Event :=
  events.filter fun e => e.level = .warn

namespace RuleOptions

/-! ## The law -/

/-- Whether a value under `link_texts` stands for the default phrases, like a missing one. -/
def MeansDefault (v : Json.Value) : Prop :=
  v = .null ∨ v = .bool false ∨ v = .string ""

/-- **What the value under `link_texts` gives**, if there is one: the phrases that it names, if it
names any, or why it is refused. -/
inductive Gives : Option Json.Value → Except OptionsError (Option (List String)) → Prop
  /-- There is no value. -/
  | missing : Gives none (.ok none)
  /-- The value stands for the default phrases. -/
  | default {v : Json.Value} (hv : MeansDefault v) : Gives (some v) (.ok none)
  /-- The value is an array of strings, and these are the phrases, in their order and as often as
  they are there. -/
  | phrases (phrases : List String) :
    Gives (some (.array (phrases.map .string))) (.ok (some phrases))
  /-- The value is an array with something else than strings in it; the error tells the first such
  item. -/
  | notPhrase (before : List String) {v : Json.Value} (after : List Json.Value)
    (hv : ∀ s, v ≠ .string s) :
    Gives (some (.array (before.map .string ++ v :: after)))
      (.error (.notPhrase before.length v.kind))
  /-- The value is neither an array nor one that stands for the default phrases. -/
  | notPhrases {v : Json.Value} (hv : ¬ MeansDefault v) (harray : ∀ items, v ≠ .array items) :
    Gives (some v) (.error (.notPhrases v.kind))

/-- **What options under the key `rule` come to**: what they say, with a warning for each phrase
that is not normalized, or why they are refused, without any warning. -/
inductive Reads (rule : String) : Json.Value → Logged (Except OptionsError RuleOptions) → Prop
  /-- The rule is enabled by `null`. -/
  | null : Reads rule .null ⟨[], .ok ⟨true, none⟩⟩
  /-- The rule is switched on or off by a truth value. -/
  | bool (enabled : Bool) : Reads rule (.bool enabled) ⟨[], .ok ⟨enabled, none⟩⟩
  /-- The rule is enabled by an object, whose last member `link_texts` may name phrases. -/
  | object {members : List (String × Json.Value)} {phrases : Option (List String)}
    (h : Gives (Json.lastOf? members "link_texts") (.ok phrases)) :
    Reads rule (.object members)
      ⟨((phrases.getD []).filter fun phrase => ¬ IsNormalized phrase).map
          (.phraseNotNormalized rule),
        .ok ⟨true, phrases⟩⟩
  /-- The member `link_texts` of an object is refused. -/
  | refused {members : List (String × Json.Value)} {e : OptionsError}
    (h : Gives (Json.lastOf? members "link_texts") (.error e)) :
    Reads rule (.object members) ⟨[], .error e⟩
  /-- Options are neither a number nor a string nor an array. -/
  | notOptions {v : Json.Value} (hv : v.kind = .number ∨ v.kind = .string ∨ v.kind = .array) :
    Reads rule v ⟨[], .error (.notOptions rule v.kind)⟩

/-! ## Phrases -/

/-- The items of an array are strings up to the end, or up to an item that is none. -/
theorem exists_map_string_or_split (items : List Json.Value) :
    (∃ phrases : List String, items = phrases.map .string) ∨
      ∃ (before : List String) (v : Json.Value) (after : List Json.Value),
        items = before.map .string ++ v :: after ∧ ∀ s, v ≠ .string s := by
  induction items with
  | nil => exact .inl ⟨[], rfl⟩
  | cons item items ih =>
    by_cases hitem : ∃ s, item = .string s
    · obtain ⟨s, rfl⟩ := hitem
      obtain ⟨phrases, rfl⟩ | ⟨before, v, after, rfl, hv⟩ := ih
      · exact .inl ⟨s :: phrases, rfl⟩
      · exact .inr ⟨s :: before, v, after, rfl, hv⟩
    · exact .inr ⟨[], item, items, rfl, not_exists.mp hitem⟩

/-- Reading strings stops at the first item that is none, and tells its index. -/
theorem stringsFrom_append_cons (index : Nat) (before : List String) {v : Json.Value}
    (after : List Json.Value) (hv : ∀ s, v ≠ .string s) :
    stringsFrom index (before.map .string ++ v :: after)
      = .error (.notPhrase (index + before.length) v.kind) := by
  induction before generalizing index with
  | nil =>
    cases v with
    | string s => exact absurd rfl (hv s)
    | null | bool | number | array | object => rfl
  | cons s before ih =>
    rw [List.map_cons, List.cons_append, stringsFrom, ih, List.length_cons, Nat.add_assoc,
      Nat.add_comm 1]
    rfl

theorem phrasesOf_of_meansDefault {v : Json.Value} (hv : MeansDefault v) :
    phrasesOf v = .ok none := by
  obtain rfl | rfl | rfl := hv <;> rfl

theorem phrasesOf_of_not_meansDefault {v : Json.Value} (hv : ¬ MeansDefault v)
    (harray : ∀ items, v ≠ .array items) : phrasesOf v = .error (.notPhrases v.kind) := by
  cases v with
  | null => exact absurd (.inl rfl) hv
  | bool b =>
    cases b with
    | false => exact absurd (.inr (.inl rfl)) hv
    | true => rfl
  | number n => rfl
  | string s =>
    have hs : s ≠ "" := fun h => hv (.inr (.inr (congrArg Json.Value.string h)))
    simp [phrasesOf, hs]
  | array items => exact absurd rfl (harray items)
  | object members => rfl

/-- **Phrases are read as the law says.** -/
theorem gives_iff {under : Option Json.Value} {r : Except OptionsError (Option (List String))} :
    Gives under r ↔ under.elim (.ok none) phrasesOf = r := by
  constructor
  · intro h
    cases h with
    | missing => rfl
    | default hv => exact phrasesOf_of_meansDefault hv
    | phrases phrases =>
      rw [Option.elim_some, phrasesOf, stringsFrom_map_string]
      rfl
    | notPhrase before after hv =>
      rw [Option.elim_some, phrasesOf, stringsFrom_append_cons 0 before after hv, Nat.zero_add]
      rfl
    | notPhrases hv harray => exact phrasesOf_of_not_meansDefault hv harray
  · rintro rfl
    cases under with
    | none => exact .missing
    | some v =>
      rw [Option.elim_some]
      by_cases hv : MeansDefault v
      · rw [phrasesOf_of_meansDefault hv]
        exact .default hv
      by_cases harray : ∃ items, v = .array items
      · obtain ⟨items, rfl⟩ := harray
        obtain ⟨phrases, rfl⟩ | ⟨before, item, after, rfl, hitem⟩ :=
          exists_map_string_or_split items
        · rw [phrasesOf, stringsFrom_map_string]
          exact .phrases phrases
        · rw [phrasesOf, stringsFrom_append_cons 0 before after hitem, Nat.zero_add]
          exact .notPhrase before after hitem
      · rw [phrasesOf_of_not_meansDefault hv (not_exists.mp harray)]
        exact .notPhrases hv (not_exists.mp harray)

/-! ## Options -/

variable {rule : String} {v : Json.Value}

/-- **Options are read as the law says.** -/
theorem ofNamedValue_eq_iff_reads {r : Logged (Except OptionsError RuleOptions)} :
    ofNamedValue rule v = r ↔ Reads rule v r := by
  constructor
  · rintro rfl
    cases v with
    | null => exact .null
    | bool enabled => exact .bool enabled
    | number n => exact .notOptions (.inl rfl)
    | string s => exact .notOptions (.inr (.inl rfl))
    | array items => exact .notOptions (.inr (.inr rfl))
    | object members =>
      rw [ofNamedValue, ofMembers, Json.getElem?_entries]
      split
      · next e he => exact .refused (gives_iff.mpr he)
      · next phrases hphrases => exact .object (gives_iff.mpr hphrases)
  · intro h
    cases h with
    | null => rfl
    | bool enabled => rfl
    | object h =>
      rw [ofNamedValue, ofMembers, Json.getElem?_entries, gives_iff.mp h]
      rfl
    | refused h => rw [ofNamedValue, ofMembers, Json.getElem?_entries, gives_iff.mp h]
    | notOptions hv =>
      cases v with
      | number n => rfl
      | string s => rfl
      | array items => rfl
      | null => simp [Json.Value.kind] at hv
      | bool b => simp [Json.Value.kind] at hv
      | object members => simp [Json.Value.kind] at hv

/-! ## Warnings -/

/-- Whether options **come with their warnings**, be they read on their own or as a part of a
configuration: one for each phrase that is not normalized, and none at all if they are refused. -/
inductive Warned {ε : Type} : Logged (Except ε RuleOptions) → Prop
  /-- The options are accepted; the warnings tell the name of the rule that they stand under. -/
  | accepted {rule : String} (hrule : descriptiveLinkText.IsNamed rule) (options : RuleOptions) :
    Warned ⟨((options.linkTexts.getD []).filter fun phrase => ¬ IsNormalized phrase).map
      (.phraseNotNormalized rule), .ok options⟩
  /-- The options are refused. -/
  | refused (e : ε) : Warned ⟨[], .error e⟩

theorem isNamed_name : descriptiveLinkText.IsNamed descriptiveLinkText.name := by
  decide

/-- Options without phrases come without warnings. -/
theorem warned_of_linkTexts_eq_none {ε : Type} {options : RuleOptions}
    (h : options.linkTexts = none) : Warned (ε := ε) ⟨[], .ok options⟩ := by
  have hwarned : Warned (ε := ε) _ := .accepted isNamed_name options
  rwa [h] at hwarned

/-- What the errors are called makes no difference. -/
theorem Warned.mapError {ε δ : Type} {r : Logged (Except ε RuleOptions)} (h : Warned r)
    (f : ε → δ) : Warned ⟨r.events, r.value.mapError f⟩ := by
  cases h with
  | accepted hrule options => exact .accepted hrule options
  | refused e => exact .refused (f e)

/-- Warnings are all that comes with options. -/
theorem Warned.warningsIn_events {ε : Type} {r : Logged (Except ε RuleOptions)} (h : Warned r) :
    Event.warningsIn r.events = r.events := by
  rw [Event.warningsIn, List.filter_eq_self]
  cases h with
  | accepted hrule options =>
    intro e he
    obtain ⟨phrase, -, rfl⟩ := List.mem_map.mp he
    rfl
  | refused e => exact nofun

theorem warned_ofNamedValue (hrule : descriptiveLinkText.IsNamed rule) (v : Json.Value) :
    Warned (ofNamedValue rule v) := by
  have hreads : Reads rule v (ofNamedValue rule v) := ofNamedValue_eq_iff_reads.mp rfl
  generalize ofNamedValue rule v = r at hreads
  cases hreads with
  | null => exact warned_of_linkTexts_eq_none rfl
  | bool enabled => exact warned_of_linkTexts_eq_none rfl
  | object h => exact .accepted hrule ⟨true, _⟩
  | refused h => exact .refused _
  | notOptions hv => exact .refused _

/-- **Options in a configuration come with their warnings.** -/
theorem warned_optionsOfJson (text : String) : Warned (Configuration.optionsOfJson text) := by
  cases hparse : Json.parse text with
  | error e =>
    rw [Configuration.optionsOfJson, Configuration.ofJson, hparse]
    exact .refused _
  | ok v =>
    cases v with
    | object members =>
      -- The law of configurations says which entry holds the options, if one does.
      have hresolves := Configuration.resolves_optionsOfJson hparse
      generalize Configuration.optionsOfJson text = r at hresolves
      cases hresolves with
      | duplicate => exact .refused _
      | own hkey => exact (warned_ofNamedValue hkey _).mapError _
      | switched => exact warned_of_linkTexts_eq_none rfl
    | null | bool | number | string | array =>
      rw [Configuration.optionsOfJson, Configuration.ofJson, hparse]
      exact .refused _

end RuleOptions

end DescriptiveLinks
