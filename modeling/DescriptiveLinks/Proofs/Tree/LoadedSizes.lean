import DescriptiveLinks.Proofs.Rule.Report
import DescriptiveLinks.Proofs.Tree.LoadedTexts

/-! # Sizes of what is loaded

Nothing in a document is larger than its text: no string that the text writes has more characters
than the text itself, and the integers are those of 64 bits. So the numbers of a finding fit 64 bits
as long as the text of its document does.

* `Json.Fits` bounds the strings and integers of a value, and `Json.ValueText.fits` says that the
  values of texts are so bounded.
* `SyntaxTree.fits_of_ofJson` says what follows for the nodes of a tree that is loaded.
* `Finding.IsSmall` is what follows for the findings in it. -/

namespace DescriptiveLinks

namespace Json

/-! ## Values of texts -/

variable {length : Nat} {t : List Char} {v : Value}

/-- Whether the strings of a value have at most `length` characters, and its natural numbers are of
64 bits. -/
inductive Fits (length : Nat) : Value → Prop
  /-- The value `null`. -/
  | null : Fits length .null
  /-- A truth value. -/
  | bool (b : Bool) : Fits length (.bool b)
  /-- A number. -/
  | number {n : Number} (h : ∀ m : Nat, n = .integer m → m < wordLimit) : Fits length (.number n)
  /-- A string. -/
  | string {s : String} (h : s.length ≤ length) : Fits length (.string s)
  /-- An array of such values. -/
  | array {items : List Value} (h : ∀ v ∈ items, Fits length v) : Fits length (.array items)
  /-- An object with such values. -/
  | object {members : List (String × Value)} (h : ∀ m ∈ members, Fits length m.2) :
    Fits length (.object members)

/-- No character is written without a character. -/
theorem CharText.length_pos {c : Char} (h : CharText t c) : 0 < t.length := by
  cases h <;> exact Nat.succ_pos _

theorem CharsText.length_le {cs : List Char} (h : CharsText t cs) : cs.length ≤ t.length := by
  induction h with
  | nil => exact Nat.le_refl _
  | cons h _ ih =>
    have hpos := h.length_pos
    rw [List.length_cons, List.length_append]
    omega

theorem StringText.length_le {s : String} (h : StringText t s) : s.length ≤ t.length := by
  cases h with
  | quoted h =>
    have hchars := h.length_le
    rw [String.length_toList] at hchars
    rw [List.length_cons, List.length_append]
    omega

theorem ScalarText.fits (h : ScalarText t v) (hlength : t.length ≤ length) : Fits length v := by
  cases h with
  | null => exact .null
  | true => exact .bool _
  | false => exact .bool _
  | number h =>
    refine .number ?_
    rintro m rfl
    exact (numberText_natCast_iff.mp h).2.2
  | string h => exact .string (Nat.le_trans h.length_le hlength)

/-- **The value of a text** has no strings longer than the text, and natural numbers of 64 bits. -/
theorem ValueText.fits {depth : Nat} (h : ValueText depth t v) (hlength : t.length ≤ length) :
    Fits length v := by
  -- The values inside an array or object are written in parts of its text, which are no longer.
  induction depth generalizing t v with
  | zero => exact ScalarText.fits h hlength
  | succ depth ih =>
    rcases h with h | h
    · exact h.fits hlength
    · cases h with
      | @array t items h =>
        rw [List.length_cons, List.length_append] at hlength
        refine .array fun v hv => ?_
        obtain ⟨u, hle, hu⟩ := h.exists_length_le hv
        exact ih hu (by omega)
      | @object t members h =>
        rw [List.length_cons, List.length_append] at hlength
        refine .object fun m hm => ?_
        obtain ⟨u, hle, hu⟩ := h.exists_length_le hm
        obtain ⟨w, hle', hw⟩ := hu.exists_length_le
        exact ih hw (by omega)

theorem IsText.fits {text : String} (h : IsText text v) : Fits text.length v := by
  obtain ⟨b, t, b', htext, -, h, -⟩ := h
  refine h.fits ?_
  rw [← String.length_toList, htext, List.length_append, List.length_append]
  omega

theorem Fits.of_mem_items {items : List Value} (h : Fits length (.array items)) :
    ∀ v ∈ items, Fits length v := by
  cases h with
  | array h => exact h

end Json

/-! ## Tokens -/

open Json (Fits Value wordLimit)

/-- Whether the text of a node has at most `length` characters, and its place is given by numbers of
64 bits. -/
structure NodeData.Fits (length : Nat) (n : NodeData) : Prop where
  /-- The text. -/
  text : n.text.length ≤ length
  /-- The line. -/
  line : n.start.line < wordLimit
  /-- The column. -/
  column : n.start.column < wordLimit

namespace Token

variable {length : Nat} {members : List (String × Value)} {t : Token} {items : List Value}

/-- A field holds whatever its default and the values of the members give. -/
theorem Field.of_forall {α : Type} {Holds : Value → α → Prop} {default a : α} {key : String}
    {P : α → Prop} (h : Field Holds default (valuesOf members key) a) (hdefault : P default)
    (hgiven : ∀ v a, Holds v a → Fits length v → P a)
    (hmembers : ∀ m ∈ members, Fits length m.2) : P a := by
  generalize hvalues : valuesOf members key = vs at h
  cases h with
  | missing => exact hdefault
  | @given v a h =>
    have hmem : (key, v) ∈ members :=
      mem_of_mem_valuesOf (by rw [hvalues]; exact List.mem_singleton_self v)
    exact hgiven v a h (hmembers _ hmem)

theorem HoldsNat.lt {v : Value} {n : Nat} (h : HoldsNat v n) (hfits : Fits length v) :
    n < wordLimit := by
  rw [HoldsNat] at h
  subst h
  cases hfits with
  | number h => exact h n rfl

/-- What the members of a token are bounded by, bounds its fields and the values for its
children. -/
theorem FieldsOf.fits (h : FieldsOf members t items) (hmembers : ∀ m ∈ members, Fits length m.2)
    (kind : String) (children : List Nat) :
    NodeData.Fits length ⟨kind, t.text, t.start, children⟩ ∧ ∀ v ∈ items, Fits length v := by
  refine ⟨⟨?_, ?_, ?_⟩, ?_⟩
  · refine h.text.of_forall (P := fun s => s.length ≤ length) (Nat.zero_le _) ?_ hmembers
    intro v s hv hfits
    rw [HoldsText] at hv
    subst hv
    cases hfits with
    | string h => exact h
  · exact h.line.of_forall (P := (· < wordLimit)) (by decide) (fun _ _ => HoldsNat.lt) hmembers
  · exact h.column.of_forall (P := (· < wordLimit)) (by decide) (fun _ _ => HoldsNat.lt) hmembers
  · refine h.children.of_forall (P := fun vs => ∀ v ∈ vs, Fits length v) (List.forall_mem_nil _) ?_
      hmembers
    intro v vs hv hfits
    rw [HoldsItems] at hv
    subst hv
    exact hfits.of_mem_items

theorem IsToken.exists_fieldsOf {v : Value} (h : IsToken v t) (hfits : Fits length v) :
    ∃ members items, FieldsOf members t items ∧ List.Forall₂ IsToken items t.children ∧
      ∀ m ∈ members, Fits length m.2 := by
  cases h with
  | object h hchildren =>
    cases hfits with
    | object hmembers => exact ⟨_, _, h, hchildren, hmembers⟩
  | array hlength h hchildren =>
    refine ⟨_, _, h, hchildren, fun m hm => ?_⟩
    exact hfits.of_mem_items m.2 (List.of_mem_zip hm).2

mutual

/-- **The nodes of a token** are bounded like its value. -/
theorem IsToken.fits {v : Value} (hfits : Fits length v) (id : Nat) :
    ∀ t : Token, IsToken v t → ∀ n ∈ t.nodesFrom id, n.Fits length
  | ⟨kind, text, start, children⟩, h => by
    -- The values for the children are bounded because a member holds them.
    obtain ⟨members, items, hfields, hchildren, hmembers⟩ := h.exists_fieldsOf hfits
    obtain ⟨hnode, hitems⟩ := hfields.fits hmembers (kind.getD "") (rootIds (id + 1) children)
    rw [nodesFrom]
    exact List.forall_mem_cons.mpr ⟨hnode, forall_fits hitems (id + 1) children hchildren⟩

/-- The nodes of a forest are bounded like its values. -/
theorem forall_fits {items : List Value} (hitems : ∀ v ∈ items, Fits length v) (id : Nat) :
    ∀ ts : List Token, List.Forall₂ IsToken items ts → ∀ n ∈ forestNodesFrom id ts, n.Fits length
  | [], _ => by simp
  | t :: ts, h => by
    obtain ⟨v, items, hv, hrest, rfl⟩ := List.forall₂_cons_right_iff.mp h
    obtain ⟨hfits, hitems⟩ := List.forall_mem_cons.mp hitems
    rw [forestNodesFrom_cons]
    exact List.forall_mem_append.mpr
      ⟨IsToken.fits hfits id t hv, forall_fits hitems (id + t.size) ts hrest⟩

end

theorem IsDocument.fits {v : Value} {ts : List Token} (h : IsDocument v ts)
    (hfits : Fits length v) (id : Nat) : ∀ n ∈ forestNodesFrom id ts, n.Fits length := by
  cases h with
  | tokens h => exact forall_fits hfits.of_mem_items id ts h
  | @token _ t h hne =>
    exact forall_fits (List.forall_mem_singleton.mpr hfits) id [t] (.cons h .nil)

end Token

/-! ## Trees and findings -/

/-- **The nodes of a tree that is loaded** have no texts longer than the text it is loaded from, and
places of 64 bits. -/
theorem SyntaxTree.fits_of_ofJson {text : String} {tree : SyntaxTree} (h : ofJson text = .ok tree)
    (n : Node tree) : n.data.Fits text.length := by
  obtain ⟨ts, hts, -, rfl⟩ := ofJson_eq_ok_iff.mp h
  obtain ⟨v, htext, hdocument⟩ := Token.forestOfJson_eq_ok_iff.mp hts
  refine hdocument.fits htext.fits 0 _ ?_
  have hmem : n.data ∈ (ofTokens ts).nodes := Array.getElem_mem n.id_lt
  simpa [ofTokens] using hmem

/-- Whether all the numbers of a finding are of 64 bits. -/
structure Finding.IsSmall (f : Finding) : Prop where
  /-- The line. -/
  line : f.start.line < wordLimit
  /-- The column. -/
  column : f.start.column < wordLimit
  /-- The length. -/
  length : f.length < wordLimit

/-- **The findings in a document** have numbers of 64 bits if its text has no more characters. -/
theorem isSmall_of_mem_lint {text : String} {tree : SyntaxTree}
    (h : SyntaxTree.ofJson text = .ok tree) (hsize : text.length < wordLimit)
    {options : RuleOptions} {f : Finding} (hf : f ∈ (lint tree options).value) : f.IsSmall := by
  obtain ⟨t, ⟨-, -, label, hlabel, -⟩, rfl⟩ :=
    exists_isReported_of_mem_lint (SyntaxTree.Produced.loaded h).isForest hf
  have ht := SyntaxTree.fits_of_ofJson h t
  rw [Node.finding_of_parent? hlabel]
  exact ⟨ht.line, ht.column,
    Nat.lt_of_le_of_lt (SyntaxTree.fits_of_ofJson h label).text hsize⟩

end DescriptiveLinks
