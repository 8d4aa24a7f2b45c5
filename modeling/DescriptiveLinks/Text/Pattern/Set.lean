import DescriptiveLinks.Text.Pattern.Escape

/-! # Sets of characters in patterns

Between square brackets stands a set of characters: characters, ranges, escapes, named sets such as
`[:alpha:]`, and further sets in brackets. A caret in front makes it the complement, and the
operators `&&`, `--` and `~~` join what stands before and after them.

* `readSet?` reads a set, and tells how deep its parts are nested. -/

namespace DescriptiveLinks.Text.Pattern

/-- The depth of parts that stand together: a part alone is not nested. -/
def joinedDepth : List Nat → Nat
  | [] => 0
  | [n] => n
  | ns => ns.foldl max 0 + 1

/-! ## Open sets -/

/-- What has been read of a set: its items since the last operator, and what stands before that. -/
structure OpenSet where
  /-- The depth of what stands before the last operator, if there is one. -/
  operand : Option Nat := none
  /-- The depths of the items. -/
  items : List Nat := []
  /-- Whether a hyphen now is an item, and a closing bracket, if there are no items. -/
  fresh : Bool := true
deriving DecidableEq, Repr

namespace OpenSet

/-- Adds an item of a depth. -/
def add (o : OpenSet) (depth : Nat) : OpenSet :=
  { o with items := depth :: o.items, fresh := false }

/-- How deep the parts are nested. -/
def depth (o : OpenSet) : Nat :=
  match o.operand with
  | none => joinedDepth o.items
  | some n => max n (joinedDepth o.items) + 1

/-- Reads on after an operator. -/
def afterOperator (o : OpenSet) : OpenSet :=
  { operand := some o.depth, items := [], fresh := false }

end OpenSet

/-! ## Items -/

/-- The names of sets of ASCII characters. -/
def setNames : List String :=
  ["alnum", "alpha", "ascii", "blank", "cntrl", "digit", "graph", "lower", "print", "punct",
    "space", "upper", "word", "xdigit"]

/-- Reads the name of a set, with the colon and the bracket behind it. -/
def afterSetName? (s : List Char) : Option (List Char) :=
  match s.dropWhile (· ≠ ':') with
  | ':' :: ']' :: rest =>
    if String.ofList (s.takeWhile (· ≠ ':')) ∈ setNames then some rest else none
  | _ => none

/-- Reads a named set, after its opening bracket, and tells whether it is a complement. -/
def namedSet? : List Char → Option (Bool × List Char)
  | ':' :: '^' :: s => (afterSetName? s).map (true, ·)
  | ':' :: s => (afterSetName? s).map (false, ·)
  | _ => none

/-- Reads the opening of a set, after its bracket: perhaps a caret. -/
def caret? (m : Mode) (s : List Char) : Option (List Char) :=
  match m.skip s with
  | '^' :: rest => if m.unicode then some rest else none
  | rest => some rest

/-- Reads a character or an escape. -/
def element? (m : Mode) (c : Char) (s : List Char) : Option (Escape × List Char) :=
  if c = '\\' then Escape.read? m s else some (.char c, s)

/-- Whether an element may be an item. In a pattern about bytes it is an ASCII character. -/
def Escape.isItem (m : Mode) : Escape → Bool
  | char c => m.unicode || c.toNat < 0x80
  | set => true
  | edge => false

/-- What stands after the hyphen of a range, if that is one: before a closing bracket or another
hyphen it is an item. -/
def afterHyphen? (m : Mode) (s : List Char) : Option (List Char) :=
  match m.skip s with
  | '-' :: t =>
    match m.skip t with
    | ']' :: _ | '-' :: _ => none
    | t => some t
  | _ => none

/-- Reads an item that is not in brackets, a range or an element, and gives the text after it. -/
def item? (m : Mode) (c : Char) (s : List Char) : Option (List Char) := do
  let (first, rest) ← element? m c s
  match afterHyphen? m rest with
  | none => if first.isItem m then return rest else none
  | some [] => none
  | some (d :: t) =>
    let (last, rest) ← element? m d t
    match first, last with
    | .char a, .char b => if a ≤ b ∧ first.isItem m ∧ last.isItem m then return rest else none
    | _, _ => none

/-! ## Sets -/

/-- The innermost set that is open, and those around it from the inside out. -/
abbrev OpenSets : Type :=
  OpenSet × List OpenSet

/-- Closes the innermost set. The outermost one leaves its depth. -/
def OpenSets.close : OpenSets → Nat ⊕ OpenSets
  | (o, []) => .inl (o.depth + 1)
  | (o, p :: ps) => .inr (p.add (o.depth + 1), ps)

/-- Reads the next part of a set, which starts with a character. -/
def OpenSets.next? (m : Mode) (sets : OpenSets) (c : Char) (s : List Char) :
    Option ((Nat ⊕ OpenSets) × List Char) :=
  let (o, outer) := sets
  if o.fresh ∧ (c = '-' ∨ c = ']' ∧ o.items = []) then
    some (.inr ({ o.add 0 with fresh := c = '-' }, outer), s)
  else if c = ']' then some (sets.close, s)
  else if c = '[' then
    match namedSet? s with
    | some (complement, rest) =>
      if complement ∧ !m.unicode then none else some (.inr (o.add 0, outer), rest)
    | none => (caret? m s).map fun rest => (.inr ({}, o :: outer), rest)
  else if c ∈ ['&', '-', '~'] ∧ s.head? = some c then some (.inr (o.afterOperator, outer), s.tail)
  else (item? m c s).map fun rest => (.inr (o.add 0, outer), rest)

/-! ## Lengths -/

theorem length_afterSetName?_le {s rest : List Char} (h : afterSetName? s = some rest) :
    rest.length ≤ s.length := by
  unfold afterSetName? at h
  split at h
  · next hs =>
    have := length_lt_of_dropWhile hs
    rw [List.length_cons] at this
    split at h
    · cases h
      omega
    · simp at h
  · simp at h

theorem length_namedSet?_le {s rest : List Char} {b : Bool} (h : namedSet? s = some (b, rest)) :
    rest.length ≤ s.length := by
  unfold namedSet? at h
  split at h
  · obtain ⟨_, hs, h⟩ := Option.map_eq_some_iff.1 h
    have := length_afterSetName?_le hs
    cases h
    simp only [List.length_cons]
    omega
  · obtain ⟨_, hs, h⟩ := Option.map_eq_some_iff.1 h
    cases h
    exact Nat.le_succ_of_le (length_afterSetName?_le hs)
  · simp at h

theorem length_caret?_le {m : Mode} {s rest : List Char} (h : caret? m s = some rest) :
    rest.length ≤ s.length := by
  unfold caret? at h
  split at h
  · next hs =>
    split at h
    · cases h
      exact Nat.le_of_lt (Mode.length_lt_of_skip hs)
    · simp at h
  · cases h
    exact m.length_skip_le s

theorem length_element?_le {m : Mode} {c : Char} {s rest : List Char} {e : Escape}
    (h : element? m c s = some (e, rest)) : rest.length ≤ s.length := by
  unfold element? at h
  split at h
  · exact Nat.le_of_lt (Escape.length_lt_of_read? h)
  · cases h
    exact Nat.le_refl _

theorem length_afterHyphen?_le {m : Mode} {s rest : List Char} (h : afterHyphen? m s = some rest) :
    rest.length ≤ s.length := by
  unfold afterHyphen? at h
  split at h
  · next t hs =>
    have := Mode.length_lt_of_skip hs
    have := m.length_skip_le t
    split at h
    · simp at h
    · simp at h
    · cases h
      omega
  · simp at h

theorem length_item?_le {m : Mode} {c : Char} {s rest : List Char} (h : item? m c s = some rest) :
    rest.length ≤ s.length := by
  obtain ⟨⟨first, t⟩, hf, h⟩ := Option.bind_eq_some_iff.1 h
  have := length_element?_le hf
  simp only at h
  split at h
  · split at h
    · cases h
      omega
    · simp at h
  · simp at h
  · next d u hd =>
    have := length_afterHyphen?_le hd
    obtain ⟨⟨last, v⟩, hl, h⟩ := Option.bind_eq_some_iff.1 h
    have := length_element?_le hl
    simp only [List.length_cons] at *
    split at h
    · split at h
      · cases h
        omega
      · simp at h
    · simp at h

theorem OpenSets.length_next?_le {m : Mode} {sets : OpenSets} {c : Char} {s rest : List Char}
    {r : Nat ⊕ OpenSets} (h : next? m sets c s = some (r, rest)) : rest.length ≤ s.length := by
  obtain ⟨o, outer⟩ := sets
  simp only [next?] at h
  split at h
  · cases h
    exact Nat.le_refl _
  split at h
  · cases h
    exact Nat.le_refl _
  split at h
  · split at h
    · next hn =>
      split at h
      · simp at h
      · cases h
        exact length_namedSet?_le hn
    · obtain ⟨t, ht, h⟩ := Option.map_eq_some_iff.1 h
      cases h
      exact length_caret?_le ht
  split at h
  · cases h
    simp
  · obtain ⟨t, ht, h⟩ := Option.map_eq_some_iff.1 h
    cases h
    exact length_item?_le ht

/-! ## Reading sets -/

/-- Reads on in open sets, up to the bracket that closes the outermost one. -/
def readSets? (m : Mode) (sets : OpenSets) (s : List Char) : Option (Nat × List Char) :=
  match _hs : m.skip s with
  | [] => none
  | c :: t =>
    match _ht : sets.next? m c t with
    | none => none
    | some (.inl depth, rest) => some (depth, rest)
    | some (.inr sets, rest) => readSets? m sets rest
termination_by s.length
decreasing_by
  have := Mode.length_lt_of_skip _hs
  have := OpenSets.length_next?_le _ht
  omega

theorem length_readSets?_lt {m : Mode} {sets : OpenSets} {s rest : List Char} {n : Nat}
    (h : readSets? m sets s = some (n, rest)) : rest.length < s.length := by
  fun_induction readSets? m sets s with
  | case1 | case2 => simp at h
  | case3 s sets c t hs depth rest ht =>
    have := Mode.length_lt_of_skip hs
    have := OpenSets.length_next?_le ht
    cases h
    omega
  | case4 s sets c t hs next rest ht ih =>
    have := Mode.length_lt_of_skip hs
    have := OpenSets.length_next?_le ht
    have := ih h
    omega

/-- Reads a set, after its opening bracket, and tells how deep its parts are nested. -/
def readSet? (m : Mode) (s : List Char) : Option (Nat × List Char) :=
  (caret? m s).bind (readSets? m ({}, []))

theorem length_readSet?_lt {m : Mode} {s rest : List Char} {n : Nat}
    (h : readSet? m s = some (n, rest)) : rest.length < s.length := by
  obtain ⟨t, ht, h⟩ := Option.bind_eq_some_iff.1 h
  have := length_caret?_le ht
  have := length_readSets?_lt h
  omega

end DescriptiveLinks.Text.Pattern
