import DescriptiveLinks.Unicode.CodeTable

/-! # Case mappings

A case mapping sends a character to one or more characters. Most letters move by a fixed distance
together with their neighbours, so that one row of its table speaks for many of them; a letter that
becomes several characters has a row of its own; a character without a row is its own image. -/

namespace DescriptiveLinks.Unicode

/-- A **run** of a case mapping: every `step`-th code point from `first` to `last`, moved as a whole
so that `first` becomes `images`. -/
structure CaseRun where
  /-- The least code point of the run. -/
  first : Nat
  /-- The greatest code point of the run. -/
  last : Nat
  /-- The distance between two neighbours: one, or two where the cases alternate. -/
  step : Nat
  /-- The images of `first`. -/
  images : List Nat
deriving DecidableEq, Repr

/-- The images of the code point `c` under the runs, which stand in increasing order; `none` if no
run moves it. -/
def CaseRun.images? : List CaseRun → Nat → Option (List Nat)
  | [], _ => none
  | r :: rs, c =>
    if c < r.first then none
    else if c ≤ r.last then
      if (c - r.first) % r.step = 0 then some (r.images.map (· + (c - r.first))) else none
    else images? rs c

/-- A **case mapping**, given by its runs. -/
abbrev CaseMapping : Type :=
  CodeTable CaseRun

namespace CaseMapping

/-- The images of a code point. -/
def images (m : CaseMapping) (c : Nat) : List Nat :=
  (CaseRun.images? (m.sectionOf c) c).getD [c]

/-- The images of a character. -/
def map (m : CaseMapping) (c : Char) : List Char :=
  (m.images c.toNat).map Char.ofNat

/-- The image of a text, character by character. -/
def mapText (m : CaseMapping) (cs : List Char) : List Char :=
  cs.flatMap m.map

@[simp] theorem mapText_nil (m : CaseMapping) : m.mapText [] = [] := rfl

@[simp] theorem mapText_cons (m : CaseMapping) (c : Char) (cs : List Char) :
    m.mapText (c :: cs) = m.map c ++ m.mapText cs := by
  simp [mapText]

@[simp] theorem mapText_append (m : CaseMapping) (cs ds : List Char) :
    m.mapText (cs ++ ds) = m.mapText cs ++ m.mapText ds := by
  simp [mapText]

end CaseMapping

end DescriptiveLinks.Unicode
