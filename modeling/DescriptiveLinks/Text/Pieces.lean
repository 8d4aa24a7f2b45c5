/-! # Pieces of a text

Lists inside a text, such as the steps of a path, are separated by a character of their own. -/

namespace DescriptiveLinks.Text

/-- The pieces of a text between the separators `sep`; there is one more of them than of these. -/
def pieces (sep : Char) : List Char → List (List Char)
  | [] => [[]]
  | c :: cs =>
    if c = sep then [] :: pieces sep cs
    else
      match pieces sep cs with
      | [] => [[c]]
      | piece :: rest => (c :: piece) :: rest

@[simp] theorem pieces_nil (sep : Char) : pieces sep [] = [[]] := rfl

@[simp] theorem pieces_cons_self (sep : Char) (cs : List Char) :
    pieces sep (sep :: cs) = [] :: pieces sep cs := by
  simp [pieces]

theorem pieces_ne_nil (sep : Char) (cs : List Char) : pieces sep cs ≠ [] := by
  cases cs with
  | nil => simp
  | cons c cs =>
    rw [pieces]
    split
    · simp
    · split <;> simp

theorem pieces_cons_of_ne {sep c : Char} (h : c ≠ sep) {cs piece : List Char}
    {rest : List (List Char)} (hcs : pieces sep cs = piece :: rest) :
    pieces sep (c :: cs) = (c :: piece) :: rest := by
  rw [pieces, if_neg h, hcs]

/-- A separator ends the pieces before it. -/
theorem pieces_append_cons (sep : Char) (cs ds : List Char) :
    pieces sep (cs ++ sep :: ds) = pieces sep cs ++ pieces sep ds := by
  induction cs with
  | nil => simp
  | cons c cs ih =>
    by_cases h : c = sep
    · subst h
      rw [List.cons_append, pieces_cons_self, ih, pieces_cons_self, List.cons_append]
    · obtain ⟨piece, rest, hcs⟩ := List.exists_cons_of_ne_nil (pieces_ne_nil sep cs)
      rw [hcs, List.cons_append] at ih
      rw [List.cons_append, pieces_cons_of_ne h ih, pieces_cons_of_ne h hcs, List.cons_append]

/-- The first piece is what comes before the first separator. -/
theorem head?_pieces (sep : Char) (cs : List Char) :
    (pieces sep cs).head? = some (cs.takeWhile (· ≠ sep)) := by
  induction cs with
  | nil => rfl
  | cons c cs ih =>
    by_cases h : c = sep
    · subst h
      simp
    · obtain ⟨piece, rest, hcs⟩ := List.exists_cons_of_ne_nil (pieces_ne_nil sep cs)
      rw [hcs, List.head?_cons, Option.some_inj] at ih
      rw [pieces_cons_of_ne h hcs, List.head?_cons, ih, List.takeWhile_cons_of_pos (by simpa)]

/-- There is one more piece than there are separators. -/
theorem length_pieces (sep : Char) (cs : List Char) :
    (pieces sep cs).length = cs.count sep + 1 := by
  induction cs with
  | nil => rfl
  | cons c cs ih =>
    rw [pieces]
    split
    · next h => simp [h, ih]
    · next h =>
      split
      · next hnil => exact absurd hnil (pieces_ne_nil sep cs)
      · next piece rest hcons =>
        rw [hcons, List.length_cons] at ih
        simp [h, ih]

end DescriptiveLinks.Text
