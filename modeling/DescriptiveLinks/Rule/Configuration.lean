import DescriptiveLinks.Rule.Options

/-! # Linter configurations

A configuration file speaks of all rules of a linter at once: `default` switches every rule, a tag
switches the rules that bear it, and a name of a rule holds the options of that rule. Only what
concerns the rule of this library is kept. Its own entry wins over tags, tags over `default`, and
among tags the one that disables.

Entries are visited in the order of their keys' code points, and of several entries with one key
only the last of the file is there. -/

namespace DescriptiveLinks

/-- Why a configuration is refused. -/
inductive ConfigError where
  /-- The text is not JSON. -/
  | notJson (e : Json.Error)
  /-- The value is not an object. -/
  | notObject (found : Json.Kind)
  /-- Two entries hold options of the rule. -/
  | duplicateRule (first second : String)
  /-- The options of the rule are refused. -/
  | options (e : OptionsError)
deriving DecidableEq, Repr

/-- The text of the error. -/
def ConfigError.message : ConfigError → String
  | notJson e => s!"invalid configuration json: {e.message}"
  | notObject found => s!"configuration must be an object, found {found.phrase}"
  | duplicateRule first second => s!"`{first}` and `{second}` both configure the same rule"
  | options e => e.message

/-- What a configuration says about the rule. -/
structure Configuration where
  /-- The switch of all rules. -/
  overall : Option Bool := none
  /-- The switches of the rule's tags taken together. -/
  tagged : Option Bool := none
  /-- The entry of the rule itself: the name that it uses, and the options. -/
  own : Option (String × Json.Value) := none

namespace Configuration

/-- Takes one entry of a configuration into account. -/
def addEntry (c : Configuration) (entry : String × Json.Value) :
    Except ConfigError Configuration :=
  let (key, v) := entry
  if key = "default" then .ok { c with overall := v.bool? }
  else if descriptiveLinkText.IsNamed key then
    match c.own with
    | some (first, _) => .error (.duplicateRule first key)
    | none => .ok { c with own := some (key, v) }
  else if descriptiveLinkText.HasTag key then
    match v.bool? with
    | some enabled => .ok { c with tagged := some (c.tagged.getD true && enabled) }
    | none => .ok c
  else .ok c

/-- The configuration that the members of an object give. -/
def ofMembers (members : List (String × Json.Value)) : Except ConfigError Configuration :=
  (Json.entries members).toList.foldlM addEntry {}

/-- The configuration that a text gives. -/
def ofJson (text : String) : Except ConfigError Configuration :=
  match Json.parse text with
  | .error e => .error (.notJson e)
  | .ok (.object members) => ofMembers members
  | .ok v => .error (.notObject v.kind)

/-- The options of the rule under a configuration. -/
def options (c : Configuration) : Logged (Except ConfigError RuleOptions) :=
  match c.own with
  | some (name, v) =>
    let read := RuleOptions.ofNamedValue name v
    ⟨read.events, read.value.mapError .options⟩
  | none => ⟨[], .ok { enabled := (c.tagged.or c.overall).getD true }⟩

/-- The options of the rule that the text of a configuration gives. -/
def optionsOfJson (text : String) : Logged (Except ConfigError RuleOptions) :=
  match ofJson text with
  | .error e => ⟨[], .error e⟩
  | .ok c => c.options

end Configuration

end DescriptiveLinks
