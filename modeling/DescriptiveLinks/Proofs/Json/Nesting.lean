import DescriptiveLinks.Proofs.Json.Printing

/-! # How deep values are nested

The bound on how many arrays and objects may be open at once is a bound on values: a text of a value
is read exactly if no more of them stand inside each other in the value. It is the only thing that
keeps a text of the grammar from being read.

* `Json.Nests` bounds how many arrays and objects of a value stand inside each other.
* `Json.Writes` relates whole texts to the values that they write, without any bound.
* `Json.isText_iff_writes` says that the bound on texts is the bound on their values. -/

namespace DescriptiveLinks.Json

/-! ## Values -/

namespace Value

/-- Whether a value is neither an array nor an object. -/
def IsScalar : Value → Prop
  | array _ => False
  | object _ => False
  | _ => True

/-- The values that stand directly inside a value. -/
def inside : Value → List Value
  | array items => items
  | object members => members.map Prod.snd
  | _ => []

theorem IsScalar.inside_eq_nil {v : Value} (h : v.IsScalar) : v.inside = [] := by
  cases v with
  | array items => exact h.elim
  | object members => exact h.elim
  | _ => rfl

end Value

/-- Whether **at most `depth` arrays and objects** of a value stand inside each other. -/
def Nests : Nat → Value → Prop
  | 0, v => v.IsScalar
  | depth + 1, v => ∀ w ∈ v.inside, Nests depth w

variable {depth depth' : Nat} {v v' w : Value} {t : List Char}

theorem nests_of_isScalar (h : v.IsScalar) (depth : Nat) : Nests depth v := by
  cases depth with
  | zero => exact h
  | succ depth =>
    intro w hw
    rw [h.inside_eq_nil] at hw
    cases hw

theorem Nests.mono (h : Nests depth v) (hle : depth ≤ depth') : Nests depth' v := by
  induction depth generalizing depth' v with
  | zero => exact nests_of_isScalar h depth'
  | succ depth ih =>
    obtain ⟨depth', rfl⟩ := Nat.exists_eq_add_of_le' (Nat.lt_of_lt_of_le (Nat.succ_pos _) hle)
    intro w hw
    exact ih (h w hw) (Nat.le_of_succ_le_succ hle)

/-- An array or object takes one level for itself. -/
theorem Nests.exists_of_not_isScalar (h : Nests depth v) (hv : ¬ v.IsScalar) :
    ∃ d, depth = d + 1 ∧ ∀ w ∈ v.inside, Nests d w := by
  cases depth with
  | zero => exact absurd h hv
  | succ d => exact ⟨d, rfl, h⟩

/-- What is written exactly is nested no deeper than its levels. -/
theorem Exact.nests (h : Exact depth v) : Nests depth v := by
  induction h with
  | array _ ih => exact ih
  | object _ ih => exact List.forall_mem_map.mpr ih
  | _ =>
    apply nests_of_isScalar
    trivial

/-! ## Their texts -/

section Containers

variable {W W' : List Char → Value → Prop}

theorem ItemsText.imp {α : Type} {W W' : List Char → α → Prop} {as : List α}
    (h : ItemsText W t as) (hW : ∀ a ∈ as, ∀ u, W u a → W' u a) : ItemsText W' t as := by
  induction h with
  | last hb h hb' => exact .last hb (hW _ List.mem_cons_self _ h) hb'
  | cons hb h hb' _ ih =>
    obtain ⟨ha, has⟩ := List.forall_mem_cons.mp hW
    exact .cons hb (ha _ h) hb' (ih has)

theorem ListText.imp {α : Type} {W W' : List Char → α → Prop} {as : List α}
    (h : ListText W t as) (hW : ∀ a ∈ as, ∀ u, W u a → W' u a) : ListText W' t as := by
  cases h with
  | none hb => exact .none hb
  | items h => exact .items (h.imp hW)

theorem MemberText.imp {m : String × Value} (h : MemberText W t m)
    (hW : ∀ u, W u m.2 → W' u m.2) : MemberText W' t m := by
  cases h with
  | pair hkey hb hb' h => exact .pair hkey hb hb' (hW _ h)

/-- The text of an array or object depends on those of the values inside only. -/
theorem ContainerText.imp (h : ContainerText W t v) (hW : ∀ w ∈ v.inside, ∀ u, W u w → W' u w) :
    ContainerText W' t v := by
  cases h with
  | array h => exact .array (h.imp hW)
  | object h => exact .object (h.imp fun m hm _ hu => hu.imp (hW _ (List.mem_map_of_mem hm)))

/-- A value inside an array or object is written somewhere in its text. -/
theorem ContainerText.exists_text (h : ContainerText W t v) (hw : w ∈ v.inside) : ∃ u, W u w := by
  cases h with
  | array h =>
    obtain ⟨u, -, hu⟩ := h.exists_length_le hw
    exact ⟨u, hu⟩
  | object h =>
    obtain ⟨m, hm, rfl⟩ := List.mem_map.mp hw
    obtain ⟨u, -, hu⟩ := h.exists_length_le hm
    obtain ⟨x, -, hx⟩ := hu.exists_length_le
    exact ⟨x, hx⟩

theorem ContainerText.not_isScalar (h : ContainerText W t v) : ¬ v.IsScalar := by
  intro hv
  cases h with
  | array => exact hv
  | object => exact hv

end Containers

theorem ScalarText.isScalar (h : ScalarText t v) : v.IsScalar := by
  cases h <;> trivial

/-- **The value of a text** is nested no deeper than the text. -/
theorem ValueText.nests (h : ValueText depth t v) : Nests depth v := by
  induction depth generalizing t v with
  | zero => exact ScalarText.isScalar h
  | succ depth ih =>
    rcases h with h | h
    · exact nests_of_isScalar h.isScalar _
    · intro w hw
      obtain ⟨u, hu⟩ := h.exists_text hw
      exact ih hu

/-- A text opens no more arrays and objects at once than stand inside each other in its value. -/
theorem ValueText.of_nests (h : ValueText depth t v) (hv : Nests depth' v) :
    ValueText depth' t v := by
  -- The induction goes down the levels of the value, and the text is taken apart along with it.
  induction depth' generalizing depth t v with
  | zero =>
    cases depth with
    | zero => exact h
    | succ depth => exact h.resolve_right fun hcontainer => hcontainer.not_isScalar hv
  | succ depth' ih =>
    cases depth with
    | zero => exact .inl h
    | succ depth =>
      exact h.imp_right fun hcontainer => hcontainer.imp fun w hw u hu => ih hu (hv w hw)

/-! ## Whole texts -/

variable {text : String}

/-- Whether a text **writes** a value with white space around it, however many arrays and objects
are open at once. -/
def Writes (text : String) (v : Value) : Prop :=
  ∃ depth b t b', text.toList = b ++ (t ++ b') ∧ IsBlank b ∧ ValueText depth t v ∧ IsBlank b'

/-- A text writes one value at most, at any depth. -/
theorem Writes.unique (h : Writes text v) (h' : Writes text v') : v = v' := by
  obtain ⟨d, b, t, e, htext, hb, ht, he⟩ := h
  obtain ⟨d', b', t', e', htext', hb', ht', he'⟩ := h'
  -- A reader that may open enough brackets for both reads each of them.
  have hreads := valueReader_reads (max d d')
  have hread := hreads.complete hb (ht.of_nests (ht.nests.mono (Nat.le_max_left d d')))
    he.closes
  have hread' := hreads.complete hb' (ht'.of_nests (ht'.nests.mono (Nat.le_max_right d d')))
    he'.closes
  rw [← htext] at hread
  rw [← htext', hread] at hread'
  exact congrArg Prod.fst (Except.ok.inj hread')

/-- **The texts that are read** are those of values in which at most 127 arrays and objects stand
inside each other. -/
theorem isText_iff_writes : IsText text v ↔ Writes text v ∧ Nests maxDepth v := by
  constructor
  · rintro ⟨b, t, b', htext, hb, ht, hb'⟩
    exact ⟨⟨maxDepth, b, t, b', htext, hb, ht, hb'⟩, ht.nests⟩
  · rintro ⟨⟨depth, b, t, b', htext, hb, ht, hb'⟩, hv⟩
    exact ⟨b, t, b', htext, hb, ht.of_nests hv, hb'⟩

/-- A value that is written exactly is written in the text that is printed of it. -/
theorem Exact.writes_render (h : Exact depth v) : Writes v.render v := by
  refine ⟨depth, [], v.print 0, [], ?_, isBlank_nil, h.valueText_print 0, isBlank_nil⟩
  simp [Value.render]

end DescriptiveLinks.Json
