/-! # Byte offsets

Places in a source text are offsets in bytes of its UTF-8 form. An offset is usable only where a
character begins or the text ends: everywhere else it is outside the text or inside a character.

* `byteLength` is the length that offsets run up to.
* `splitAt?` cuts a text at an offset, and `slice?` takes the part between two offsets. -/

namespace DescriptiveLinks.Text

/-- The number of bytes of a text in UTF-8. -/
def byteLength : List Char → Nat
  | [] => 0
  | c :: cs => c.utf8Size + byteLength cs

@[simp] theorem byteLength_nil : byteLength [] = 0 := rfl

@[simp] theorem byteLength_cons (c : Char) (cs : List Char) :
    byteLength (c :: cs) = c.utf8Size + byteLength cs := rfl

@[simp] theorem byteLength_append (cs ds : List Char) :
    byteLength (cs ++ ds) = byteLength cs + byteLength ds := by
  induction cs with
  | nil => simp
  | cons c cs ih => simp [ih, Nat.add_assoc]

/-- Cuts a text at a byte offset into what is before and what is after it; `none` if the offset is
past the end or inside a character. -/
def splitAt? : Nat → List Char → Option (List Char × List Char)
  | 0, cs => some ([], cs)
  | _ + 1, [] => none
  | n + 1, c :: cs =>
    if c.utf8Size ≤ n + 1 then
      (splitAt? (n + 1 - c.utf8Size) cs).map fun (before, after) => (c :: before, after)
    else none

@[simp] theorem splitAt?_zero (cs : List Char) : splitAt? 0 cs = some ([], cs) := by
  cases cs <;> rfl

/-- A cut at `n` succeeds exactly where the text falls into two parts of which the first has `n`
bytes, and returns them. -/
theorem splitAt?_eq_some_iff {n : Nat} {cs before after : List Char} :
    splitAt? n cs = some (before, after) ↔ cs = before ++ after ∧ byteLength before = n := by
  induction cs generalizing n before after with
  | nil => cases n <;> cases before <;> simp [splitAt?, eq_comm]
  | cons c cs ih =>
    have hc := c.utf8Size_pos
    cases n with
    | zero =>
      cases before with
      | nil => simp [splitAt?, eq_comm]
      | cons d ds => simp [splitAt?]; intro _ _; have := d.utf8Size_pos; omega
    | succ n =>
      rw [splitAt?]
      cases before with
      | nil => split <;> simp
      | cons d ds =>
        split
        · simp only [Option.map_eq_some_iff, Prod.exists, Prod.mk.injEq, List.cons.injEq, ih,
            List.cons_append, byteLength_cons]
          constructor
          · rintro ⟨a, b, ⟨rfl, h⟩, ⟨rfl, rfl⟩, rfl⟩
            exact ⟨⟨rfl, rfl⟩, by omega⟩
          · rintro ⟨⟨rfl, rfl⟩, h⟩
            exact ⟨ds, after, ⟨rfl, by omega⟩, ⟨rfl, rfl⟩, rfl⟩
        · simp only [reduceCtorEq, List.cons_append, List.cons.injEq, byteLength_cons, false_iff]
          rintro ⟨⟨rfl, -⟩, h⟩
          omega

/-- The part of a text from the offset `start` to the offset `stop`; `none` if they are out of
order or one of them is unusable. -/
def slice? (start stop : Nat) (cs : List Char) : Option (List Char) :=
  if start ≤ stop then do
    let (_, after) ← splitAt? start cs
    let (part, _) ← splitAt? (stop - start) after
    return part
  else none

end DescriptiveLinks.Text
