import Std.Data.TreeSet
import DescriptiveLinks.Phrase.Key

/-! # Banned phrases

The phrases that make a link text say nothing about its target. They are compared with the key of a
label, and they are used as they are given: a phrase that is not normalized is never met. -/

namespace DescriptiveLinks

/-- A set of phrases that no link text should come down to, in the order of their code points. -/
structure BannedPhrases where
  /-- The phrases. -/
  phrases : Std.TreeSet String

namespace BannedPhrases

/-- The phrases that are banned unless others are configured. -/
def defaultPhrases : List String :=
  ["click here", "here", "learn more", "link", "more", "read more"]

/-- The set of the phrases of a list. -/
def ofList (phrases : List String) : BannedPhrases :=
  ⟨Std.TreeSet.ofList phrases⟩

/-- The default set. -/
def default : BannedPhrases :=
  ofList defaultPhrases

instance : Inhabited BannedPhrases := ⟨default⟩

/-- The set to use where `configured` may name phrases: an absent list and an empty one both stand
for the default. -/
def ofConfigured (configured : Option (List String)) : BannedPhrases :=
  match configured with
  | none | some [] => default
  | some (phrase :: rest) => ofList (phrase :: rest)

instance : Membership String BannedPhrases where
  mem b phrase := phrase ∈ b.phrases

instance (phrase : String) (b : BannedPhrases) : Decidable (phrase ∈ b) :=
  inferInstanceAs (Decidable (phrase ∈ b.phrases))

/-- The number of phrases. -/
def size (b : BannedPhrases) : Nat :=
  b.phrases.size

/-- Whether there is no phrase. -/
def isEmpty (b : BannedPhrases) : Bool :=
  b.phrases.isEmpty

/-- The phrases in the order of their code points. -/
def toList (b : BannedPhrases) : List String :=
  b.phrases.toList

@[simp] theorem mem_ofList {phrase : String} {phrases : List String} :
    phrase ∈ ofList phrases ↔ phrase ∈ phrases := by
  change phrase ∈ Std.TreeSet.ofList phrases ↔ _
  simp

@[simp] theorem ofConfigured_none : ofConfigured none = default := rfl

@[simp] theorem ofConfigured_nil : ofConfigured (some []) = default := rfl

@[simp] theorem ofConfigured_cons (phrase : String) (rest : List String) :
    ofConfigured (some (phrase :: rest)) = ofList (phrase :: rest) := rfl

end BannedPhrases

end DescriptiveLinks
