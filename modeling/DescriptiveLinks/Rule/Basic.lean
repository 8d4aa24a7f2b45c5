/-! # Rules

A lint rule is known by a name, by further names, and by tags that it shares with other rules. Users
write all of these in any mixture of ASCII capitals and small letters. -/

namespace DescriptiveLinks

/-- A lint rule as it is presented to users. -/
structure Rule where
  /-- The name that messages use. -/
  name : String
  /-- The other names. -/
  aliases : List String
  /-- What the rule asks for. -/
  description : String
  /-- The groups of rules that it belongs to. -/
  tags : List String
deriving DecidableEq, Repr

/-- Two words are the same up to the case of their ASCII letters. -/
def SameWord (a b : String) : Prop :=
  a.toList.map Char.toLower = b.toList.map Char.toLower

instance (a b : String) : Decidable (SameWord a b) :=
  inferInstanceAs (Decidable (_ = _))

theorem SameWord.refl (a : String) : SameWord a a := rfl

theorem SameWord.symm {a b : String} (h : SameWord a b) : SameWord b a := Eq.symm h

namespace Rule

/-- All names of the rule, the one that messages use first. -/
def names (r : Rule) : List String :=
  r.name :: r.aliases

/-- The names of the rule as messages show them together. -/
def title (r : Rule) : String :=
  "/".intercalate r.names

/-- Whether `word` is a name of the rule. -/
def IsNamed (r : Rule) (word : String) : Prop :=
  ∃ name ∈ r.names, SameWord name word

/-- Whether `word` is a tag of the rule. -/
def HasTag (r : Rule) (word : String) : Prop :=
  ∃ tag ∈ r.tags, SameWord tag word

instance (r : Rule) (word : String) : Decidable (r.IsNamed word) :=
  inferInstanceAs (Decidable (∃ name ∈ r.names, SameWord name word))

instance (r : Rule) (word : String) : Decidable (r.HasTag word) :=
  inferInstanceAs (Decidable (∃ tag ∈ r.tags, SameWord tag word))

end Rule

/-- The rule that this library checks: a link should say where it leads. -/
def descriptiveLinkText : Rule where
  name := "MD059"
  aliases := ["descriptive-link-text"]
  description := "Link text should be descriptive"
  tags := ["links", "accessibility"]

end DescriptiveLinks
