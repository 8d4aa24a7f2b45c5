/-! # Tables over code points

Properties of characters are tables with one row per range of code points, in increasing order. A
table is cut into *sections*, each with the greatest code point that it reaches, so that looking a
character up walks along the sections and then along one of them only. -/

namespace DescriptiveLinks.Unicode

/-- A table in increasing order of code points: the sections, each under the greatest code point
that it reaches. -/
abbrev CodeTable (Row : Type) : Type :=
  List (Nat × List Row)

/-- The section that would hold a row for the code point `c`. -/
def CodeTable.sectionOf {Row : Type} : CodeTable Row → Nat → List Row
  | [], _ => []
  | (last, rows) :: rest, c => if c ≤ last then rows else sectionOf rest c

/-- All rows of a table, in increasing order. -/
def CodeTable.rows {Row : Type} (t : CodeTable Row) : List Row :=
  t.flatMap (·.2)

/-- Every row of the section of a code point is a row of the table. -/
theorem CodeTable.mem_rows_of_mem_sectionOf {Row : Type} {t : CodeTable Row} {c : Nat} {r : Row}
    (h : r ∈ t.sectionOf c) : r ∈ t.rows := by
  induction t with
  | nil => simp [sectionOf] at h
  | cons s t ih =>
    obtain ⟨last, rows⟩ := s
    rw [sectionOf] at h
    simp only [CodeTable.rows, List.flatMap_cons, List.mem_append]
    split at h
    · exact .inl h
    · exact .inr (ih h)

/-! ## Ranges -/

/-- The code points from `first` to `last`, both included. -/
structure CodeRange where
  /-- The least code point. -/
  first : Nat
  /-- The greatest code point. -/
  last : Nat
deriving DecidableEq, Repr

/-- Whether one of the ranges holds the code point `c`. The ranges stand in increasing order, so
the first one that starts beyond `c` ends the search. -/
def CodeRange.cover : List CodeRange → Nat → Bool
  | [], _ => false
  | r :: rs, c => if c < r.first then false else if c ≤ r.last then true else cover rs c

@[simp] theorem CodeRange.cover_nil (c : Nat) : CodeRange.cover [] c = false := rfl

theorem CodeRange.cover_cons (r : CodeRange) (rs : List CodeRange) (c : Nat) :
    CodeRange.cover (r :: rs) c
      = if c < r.first then false else if c ≤ r.last then true else CodeRange.cover rs c := rfl

end DescriptiveLinks.Unicode
