import DescriptiveLinks.Unicode.CaseFold
import DescriptiveLinks.Unicode.UpperCase
import DescriptiveLinks.Unicode.WhiteSpace
import DescriptiveLinks.Unicode.WordCharacter

/-! # Comparison keys

Two link texts count as the same phrase when their *keys* are equal. The key of a text has its case
folded, every run of characters between words turned into one blank, and no blank at either end, so
`[**Click** here!]` and `click here` share the key `click here`.

Upper-casing knows letters that are newer than case folding and the class of word characters. Such
a letter is no part of a word, so that a small letter whose capital is that new, such as `ꟓ`,
separates words like the capital itself.

* `normalize` computes the key of a text.
* `IsNormalized` says of a text that it is its own key. -/

namespace DescriptiveLinks

open Unicode

/-! ## Stages -/

/-- Folds the case of a text. Upper-casing comes first because it sends the dotless `ı` to the same
letter as `i`, which folding alone keeps apart. -/
def foldCase (cs : List Char) : List Char :=
  caseFold.mapText (upperCase.mapText cs)

@[simp] theorem foldCase_nil : foldCase [] = [] := rfl

@[simp] theorem foldCase_append (cs ds : List Char) :
    foldCase (cs ++ ds) = foldCase cs ++ foldCase ds := by
  simp [foldCase]

/-- Turns every run of characters in the class `p` into a single blank. -/
def squeeze (p : Char → Bool) (cs : List Char) : List Char :=
  go false cs
where
  /-- Squeezes the rest of a text; `inRun` tells whether the character before it is in the class. -/
  go (inRun : Bool) : List Char → List Char
    | [] => []
    | c :: cs =>
      if p c then
        if inRun then go true cs else ' ' :: go true cs
      else c :: go false cs

@[simp] theorem squeeze_nil (p : Char → Bool) : squeeze p [] = [] := rfl

/-! ## Keys -/

/-- The key of a text given as its characters: fold the case, turn what separates words into blanks,
collapse white space, trim. -/
def key (cs : List Char) : List Char :=
  trim (squeeze isWhiteSpace (squeeze (fun c => !isWord c) (foldCase cs)))

/-- The **comparison key** of a text. -/
def normalize (text : String) : String :=
  String.ofList (key text.toList)

@[simp] theorem toList_normalize (text : String) : (normalize text).toList = key text.toList := by
  simp [normalize]

/-- A phrase is **normalized** when it is its own key; only such a phrase can equal a key. -/
def IsNormalized (phrase : String) : Prop :=
  normalize phrase = phrase

instance (phrase : String) : Decidable (IsNormalized phrase) :=
  inferInstanceAs (Decidable (normalize phrase = phrase))

end DescriptiveLinks
