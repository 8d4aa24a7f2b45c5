import DescriptiveLinks.Event
import DescriptiveLinks.Json.Parser
import DescriptiveLinks.Phrase.Banned
import DescriptiveLinks.Rule.Basic

/-! # Options of the rule

The options of the rule are a JSON value. `null` and `true` enable the rule, `false` disables it,
and an object enables it and may name the banned phrases under the key `link_texts`, where `null`,
`false` and the empty string stand for the default phrases like a missing key.

* `RuleOptions.ofValue` reads options, and warns of each phrase that is not normalized once all of
  them have been accepted.
* `RuleOptions.ofJson` reads options from a text. -/

namespace DescriptiveLinks

/-- Why options of the rule are refused. -/
inductive OptionsError where
  /-- The options under the key `rule` are neither a truth value nor an object. -/
  | notOptions (rule : String) (found : Json.Kind)
  /-- The phrases are not an array. -/
  | notPhrases (found : Json.Kind)
  /-- One of the phrases is not a string. -/
  | notPhrase (index : Nat) (found : Json.Kind)
deriving DecidableEq, Repr

/-- The text of the error. -/
def OptionsError.message : OptionsError → String
  | notOptions rule found =>
    s!"options for `{rule}` must be a boolean or an object, found {found.phrase}"
  | notPhrases found => s!"`link_texts` must be an array of strings, found {found.phrase}"
  | notPhrase index found => s!"`link_texts[{index}]` must be a string, found {found.phrase}"

/-- The options of the rule. -/
structure RuleOptions where
  /-- Whether the rule is checked. -/
  enabled : Bool := true
  /-- The phrases to ban in place of the default ones, if any are given. -/
  linkTexts : Option (List String) := none
deriving DecidableEq, Repr

namespace RuleOptions

/-- The phrases that the options ban. -/
def bannedPhrases (o : RuleOptions) : BannedPhrases :=
  .ofConfigured o.linkTexts

/-! ## Reading -/

/-- The strings of an array whose first item has the given index. -/
def stringsFrom (index : Nat) : List Json.Value → Except OptionsError (List String)
  | [] => .ok []
  | .string s :: rest => (stringsFrom (index + 1) rest).map (s :: ·)
  | v :: _ => .error (.notPhrase index v.kind)

/-- The phrases that the value under `link_texts` gives. -/
def phrasesOf : Json.Value → Except OptionsError (Option (List String))
  | .null | .bool false | .string "" => .ok none
  | .array items => (stringsFrom 0 items).map some
  | v => .error (.notPhrases v.kind)

/-- The warnings about the phrases of options that stand under the key `rule`. -/
def warnings (rule : String) (phrases : Option (List String)) : List Event :=
  ((phrases.getD []).filter fun phrase => ¬ IsNormalized phrase).map (.phraseNotNormalized rule)

/-- The options that the members of an object give. -/
def ofMembers (rule : String) (members : List (String × Json.Value)) :
    Logged (Except OptionsError RuleOptions) :=
  match ((Json.entries members)["link_texts"]?).elim (.ok none) phrasesOf with
  | .error e => ⟨[], .error e⟩
  | .ok linkTexts => ⟨warnings rule linkTexts, .ok { linkTexts }⟩

/-- The options that a value under the key `rule` gives. -/
def ofNamedValue (rule : String) : Json.Value → Logged (Except OptionsError RuleOptions)
  | .null => ⟨[], .ok {}⟩
  | .bool enabled => ⟨[], .ok { enabled }⟩
  | .object members => ofMembers rule members
  | v => ⟨[], .error (.notOptions rule v.kind)⟩

/-- The options that a value on its own gives. -/
def ofValue (v : Json.Value) : Logged (Except OptionsError RuleOptions) :=
  ofNamedValue descriptiveLinkText.name v

/-- The options that a text gives. -/
def ofJson (text : String) : Logged (Except (Json.Failure OptionsError) RuleOptions) :=
  match Json.readFirst text with
  | .error e => ⟨[], .error (.notJson e)⟩
  | .ok (v, rest) =>
    let read := ofValue v
    ⟨read.events, do
      let options ← read.value.mapError .rejected
      (Json.checkEnd rest).mapError .notJson
      return options⟩

end RuleOptions

end DescriptiveLinks
