import Mathlib.Data.Set.Card
import DescriptiveLinks.Proofs.Json.Nesting
import DescriptiveLinks.Proofs.Tree.Ancestors
import DescriptiveLinks.Proofs.Tree.LoadedTexts
import DescriptiveLinks.Proofs.Tree.RoundTrip

/-! # How deep loaded trees are

A token that is a child takes two levels of its document, one for itself and one for the list of
children that it stands in. So the bound on how many arrays and objects may be open at once is a
bound on how far it is from a node to the top of its tree.

* `Node.encard_ancestors` counts the ancestors of a node by going up.
* `Token.IsDocument.two_mul_height_le` bounds the height of a forest by the levels of its document.
* `SyntaxTree.ofJson_depth` says how many ancestors the nodes of a loaded tree have at most, and
  that there is no sharper bound. -/

namespace DescriptiveLinks

/-! ## Ancestors one by one -/

namespace Node

variable {tree : SyntaxTree} {m n p : Node tree} {steps : Nat}

/-- The ancestors of a node are its parent and the ancestors of that. -/
theorem isAncestor_iff_of_parent? (hparent : n.parent? = some p) :
    m.IsAncestor n ↔ m = p ∨ m.IsAncestor p := by
  rw [IsAncestor, Relation.TransGen.tail'_iff]
  constructor
  · rintro ⟨q, hq, hn⟩
    obtain rfl := Option.some.inj (hn.symm.trans hparent)
    rcases Relation.reflTransGen_iff_eq_or_transGen.mp hq with heq | hq
    · exact .inl heq.symm
    · exact .inr hq
  · rintro (rfl | hm)
    · exact ⟨m, .refl, hparent⟩
    · exact ⟨p, hm.to_reflTransGen, hparent⟩

theorem not_isAncestor_of_parent?_eq_none (hparent : n.parent? = none) : ¬ m.IsAncestor n := by
  rw [IsAncestor, Relation.TransGen.tail'_iff]
  rintro ⟨q, -, hq⟩
  rw [hparent] at hq
  cases hq

/-- One step more than `steps` is one step from where these lead. -/
theorem climb_succ_of_climb (hclimb : n.climb steps = some m) (hparent : m.parent? = some p) :
    n.climb (steps + 1) = some p := by
  induction steps generalizing n with
  | zero =>
    obtain rfl := Option.some.inj hclimb
    rw [climb, hparent]
    rfl
  | succ steps ih =>
    obtain ⟨q, hq, hclimb⟩ := Option.bind_eq_some_iff.mp hclimb
    rw [climb, hq]
    exact ih hclimb

variable {α : Type} {view : α → NodeLabel} {F : Forest α}

/-- **A node has as many ancestors** as there are steps from it to a node without a parent. -/
theorem encard_ancestors {n root : Node (SyntaxTree.ofForest view F)}
    (hclimb : n.climb steps = some root) (hroot : root.parent? = none) :
    {m | IsAncestor m n}.encard = steps := by
  induction steps generalizing n with
  | zero =>
    obtain rfl := Option.some.inj hclimb
    have hempty : {m | IsAncestor m n} = ∅ :=
      Set.eq_empty_of_forall_notMem fun m => not_isAncestor_of_parent?_eq_none hroot
    rw [hempty, Set.encard_empty, Nat.cast_zero]
  | succ steps ih =>
    obtain ⟨p, hparent, hclimb⟩ := Option.bind_eq_some_iff.mp hclimb
    have hinsert : {m | IsAncestor m n} = insert p {m | IsAncestor m p} :=
      Set.ext fun m => isAncestor_iff_of_parent? hparent
    have hnew : p ∉ {m | IsAncestor m p} := fun h => Nat.lt_irrefl _ (isAncestor_iff.mp h).1
    rw [hinsert, Set.encard_insert_of_notMem hnew, ih hclimb, Nat.cast_succ]

end Node

/-! ## The height of a forest -/

namespace Forest

variable {α : Type}

/-- The greatest number of nodes from a topmost node down to one below it. -/
def height : Forest α → Nat
  | nil => 0
  | cons _ children rest => max (children.height + 1) rest.height

@[simp] theorem height_nil : (nil : Forest α).height = 0 := rfl

@[simp] theorem height_cons (label : α) (children rest : Forest α) :
    (cons label children rest).height = max (children.height + 1) rest.height := rfl

end Forest

namespace Node

open SyntaxTree

variable {α : Type} {view : α → NodeLabel} {F G : Forest α} {parent : Option Nat} {id : Nat}

theorem exists_entry_eq (view : α → NodeLabel) {e : Forest.Entry α} (he : e ∈ F.entries none 0) :
    ∃ n : Node (ofForest view F), n.entry = e := by
  have hentries : (ofForest view F).allNodes.map entry = F.entries none 0 := map_entry_allNodes
  rw [← hentries] at he
  obtain ⟨n, -, hn⟩ := List.mem_map.mp he
  exact ⟨n, hn⟩

/-- Going up one step more from a node that is topmost below another leads to that other. -/
theorem exists_climb_of_parent_eq {label : α} {children : Forest α} {n m : Node (ofForest view F)}
    {steps : Nat} (he : ⟨parent, id, label, children⟩ ∈ F.entries none 0)
    (hclimb : n.climb steps = some m) (hm : m.entry.parent = some id) :
    ∃ p, n.climb (steps + 1) = some p ∧ p.entry.parent = parent := by
  obtain ⟨p, hp, rfl⟩ := exists_parent?_eq_some hm
  have hentry := Forest.eq_of_id_eq p.entry_mem he p.id_entry
  exact ⟨p, climb_succ_of_climb hclimb hp, congrArg Forest.Entry.parent hentry⟩

/-- **Going up comes to an end** within the height of a forest. The induction is on a part `G` of
it, whose topmost nodes are reached. -/
theorem exists_climb_lt_height (hG : ∀ e ∈ G.entries parent id, e ∈ F.entries none 0)
    {n : Node (ofForest view F)} (hn : n.entry ∈ G.entries parent id) :
    ∃ steps < G.height, ∃ m, n.climb steps = some m ∧ m.entry.parent = parent := by
  induction G generalizing parent id with
  | nil => cases hn
  | cons label children rest ihc ihr =>
    rw [Forest.height_cons]
    simp only [Forest.mem_entries_cons] at hG hn
    rcases hn with hn | hn | hn
    · exact ⟨0, by omega, n, rfl, by rw [hn]⟩
    · obtain ⟨steps, hlt, m, hclimb, hm⟩ := ihc (fun e he => hG e (.inr (.inl he))) hn
      obtain ⟨p, hclimb, hp⟩ := exists_climb_of_parent_eq (hG _ (.inl rfl)) hclimb hm
      exact ⟨steps + 1, by omega, p, hclimb, hp⟩
    · obtain ⟨steps, hlt, m, hclimb, hm⟩ := ihr (fun e he => hG e (.inr (.inr he))) hn
      exact ⟨steps, by omega, m, hclimb, hm⟩

/-- **Some node is as far** from the topmost nodes as the height of the forest says. -/
theorem exists_climb_height (view : α → NodeLabel)
    (hG : ∀ e ∈ G.entries parent id, e ∈ F.entries none 0) {h : Nat} (hheight : G.height = h + 1) :
    ∃ n m : Node (ofForest view F), n.climb h = some m ∧ m.entry.parent = parent := by
  induction G generalizing parent id h with
  | nil => cases hheight
  | cons label children rest ihc ihr =>
    rw [Forest.height_cons] at hheight
    simp only [Forest.mem_entries_cons] at hG
    by_cases hrest : rest.height = h + 1
    · exact ihr (fun e he => hG e (.inr (.inr he))) hrest
    · have hchildren : children.height = h := by omega
      cases h with
      | zero =>
        obtain ⟨n, hn⟩ := exists_entry_eq view (hG _ (.inl rfl))
        exact ⟨n, n, rfl, by rw [hn]⟩
      | succ h =>
        obtain ⟨n, m, hclimb, hm⟩ := ihc (fun e he => hG e (.inr (.inl he))) hchildren
        obtain ⟨p, hclimb, hp⟩ := exists_climb_of_parent_eq (hG _ (.inl rfl)) hclimb hm
        exact ⟨n, p, hclimb, hp⟩

theorem parent?_eq_none_iff {n : Node (ofForest view F)} :
    n.parent? = none ↔ n.entry.parent = none := by
  rw [← n.map_id_parent?, Option.map_eq_none_iff]

/-- A node has fewer ancestors than the forest has levels. -/
theorem exists_climb_and_encard (n : Node (ofForest view F)) :
    ∃ steps < F.height, (∃ root, n.climb steps = some root ∧ root.parent? = none) ∧
      {m | IsAncestor m n}.encard = steps := by
  obtain ⟨steps, hlt, root, hclimb, hroot⟩ := exists_climb_lt_height (fun _ he => he) n.entry_mem
  have hroot := parent?_eq_none_iff.mpr hroot
  exact ⟨steps, hlt, ⟨root, hclimb, hroot⟩, encard_ancestors hclimb hroot⟩

/-- Some node has just one ancestor fewer than the forest has levels. -/
theorem exists_encard_add_one {h : Nat} (hheight : F.height = h) (hpos : 0 < h) :
    ∃ n : Node (ofForest view F), {m | IsAncestor m n}.encard + 1 = h := by
  obtain ⟨h, rfl⟩ := Nat.exists_eq_add_of_le' hpos
  obtain ⟨n, root, hclimb, hroot⟩ := exists_climb_height view (fun _ he => he) hheight
  refine ⟨n, ?_⟩
  rw [encard_ancestors hclimb (parent?_eq_none_iff.mpr hroot), Nat.cast_succ]

end Node

/-! ## The levels of a document -/

namespace Token

open Json (Value Nests)

variable {depth n : Nat} {v : Value} {t : Token} {items : List Value}
  {members : List (String × Value)}

/-- The children are missing, or one member gives them. -/
theorem FieldsOf.children_cases (h : FieldsOf members t items) :
    items = [] ∨ valuesOf members "children" = [.array items] := by
  have hchildren := h.children
  generalize valuesOf members "children" = vs at hchildren
  cases hchildren with
  | missing => exact .inl rfl
  | given hw => exact .inr (congrArg List.singleton hw)

/-- A token takes one level for itself, and its list of children has to do with the others. -/
theorem IsToken.exists_nests (h : IsToken v t) (hv : Nests depth v) :
    ∃ d items, depth = d + 1 ∧ List.Forall₂ IsToken items t.children ∧
      (items = [] ∨ Nests d (.array items)) := by
  have hmem {members : List (String × Value)} {items : List Value} (h : FieldsOf members t items) :
      items = [] ∨ ("children", .array items) ∈ members :=
    h.children_cases.imp_right fun hvalues => mem_of_mem_valuesOf (by simp [hvalues])
  cases h with
  | object h hchildren =>
    obtain ⟨d, rfl, hinside⟩ := hv.exists_of_not_isScalar id
    refine ⟨d, _, rfl, hchildren, (hmem h).imp_right fun hmem => ?_⟩
    exact hinside _ (List.mem_map_of_mem hmem)
  | array hlength h hchildren =>
    obtain ⟨d, rfl, hinside⟩ := hv.exists_of_not_isScalar id
    refine ⟨d, _, rfl, hchildren, (hmem h).imp_right fun hmem => ?_⟩
    exact hinside _ (List.of_mem_zip hmem).2

/-- **Each level of tokens takes two levels** of their values. -/
theorem two_mul_height_le : ∀ (ts : List Token) {depth : Nat} {items : List Value},
    (∀ v ∈ items, Nests depth v) → List.Forall₂ IsToken items ts →
      2 * (forest ts).height ≤ depth + 1
  | [], _, _, _, _ => by simp
  | ⟨kind, text, start, children⟩ :: ts, depth, items, hitems, h => by
    obtain ⟨v, items, hv, hrest, rfl⟩ := List.forall₂_cons_right_iff.mp h
    obtain ⟨hnests, hitems⟩ := List.forall_mem_cons.mp hitems
    have hts := two_mul_height_le ts hitems hrest
    obtain ⟨d, below, rfl, hchildren, hbelow⟩ := hv.exists_nests hnests
    rw [forest_cons, Forest.height_cons]
    rcases hbelow with rfl | hbelow
    · obtain rfl := List.forall₂_nil_left_iff.mp hchildren
      rw [forest_nil, Forest.height_nil]
      omega
    · obtain ⟨d, rfl, hinside⟩ := hbelow.exists_of_not_isScalar id
      have hheight := two_mul_height_le children hinside hchildren
      omega

theorem IsDocument.two_mul_height_le {ts : List Token} (h : IsDocument v ts)
    (hv : Nests depth v) : 2 * (forest ts).height ≤ depth + 1 := by
  cases h with
  | tokens h =>
    obtain ⟨d, rfl, hinside⟩ := hv.exists_of_not_isScalar id
    exact Nat.le_succ_of_le (Token.two_mul_height_le ts hinside h)
  | @token _ t h hne =>
    exact Token.two_mul_height_le [t] (List.forall_mem_singleton.mpr hv) (.cons h .nil)

theorem IsDocument.unique {ts ts' : List Token} (h : IsDocument v ts) (h' : IsDocument v ts') :
    ts = ts' := by
  rw [← forestOfValue?_eq_some_iff] at h h'
  exact Option.some.inj (h.symm.trans h')

/-! ## Objects inside each other -/

/-- Whether a value is **`n` objects inside each other**: each but the last has the next as its only
child, and no other array or object stands in any of them. -/
inductive Nested : Nat → Value → Prop
  /-- The innermost object. -/
  | innermost {members : List (String × Value)} {t : Token} (h : FieldsOf members t [])
    (hscalar : ∀ m ∈ members, m.2.IsScalar) : Nested 1 (.object members)
  /-- An object around another one. -/
  | around {n : Nat} {v : Value} {members : List (String × Value)} {t : Token}
    (h : FieldsOf members t [v]) (hscalar : ∀ m ∈ members, m.1 ≠ "children" → m.2.IsScalar)
    (hv : Nested n v) : Nested (n + 1) (.object members)

theorem Nested.pos (h : Nested n v) : 0 < n := by
  cases h <;> exact Nat.succ_pos _

/-- Objects inside each other take no more levels than they have to. -/
theorem Nested.nests (h : Nested n v) (hdepth : 2 * n ≤ depth + 1) : Nests depth v := by
  induction h generalizing depth with
  | innermost h hscalar =>
    obtain ⟨d, rfl⟩ := Nat.exists_eq_add_of_le' (show 1 ≤ depth by omega)
    exact List.forall_mem_map.mpr fun m hm => Json.nests_of_isScalar (hscalar m hm) d
  | @around n v members t h hscalar hv ih =>
    have hpos := hv.pos
    obtain ⟨d, rfl⟩ := Nat.exists_eq_add_of_le' (show 2 ≤ depth by omega)
    refine List.forall_mem_map.mpr fun m hm => ?_
    by_cases hkey : m.1 = "children"
    · have hmem : m.2 ∈ valuesOf members "children" :=
        List.mem_map_of_mem (List.mem_filter.mpr ⟨hm, decide_eq_true hkey⟩)
      rw [h.children_cases.resolve_left nofun, List.mem_singleton] at hmem
      rw [hmem]
      exact List.forall_mem_singleton.mpr (ih (by omega))
    · exact Json.nests_of_isScalar (hscalar m hm hkey) _

/-- Objects inside each other are a token with as many levels, and with no more than one token at
each. -/
theorem Nested.exists_isToken (h : Nested n v) :
    ∃ t, IsToken v t ∧ (forest [t]).height = n ∧ forestSize [t] = n := by
  induction h with
  | @innermost members t h hscalar =>
    refine ⟨⟨t.kind, t.text, t.start, []⟩, ?_, ?_, ?_⟩
    · exact .object ⟨h.kind, h.text, h.line, h.column, h.children⟩ .nil
    · simp
    · simp [size]
  | @around n v members t h hscalar hv ih =>
    obtain ⟨below, hbelow, hheight, hsize⟩ := ih
    refine ⟨⟨t.kind, t.text, t.start, [below]⟩, ?_, ?_, ?_⟩
    · exact .object ⟨h.kind, h.text, h.line, h.column, h.children⟩ (.cons hbelow .nil)
    · rw [forest_cons, Forest.height_cons, hheight, forest_nil, Forest.height_nil, Nat.max_zero]
    · rw [forestSize_cons, size, hsize, forestSize_nil, Nat.add_zero]

/-- An object without members, with `n` objects around it. -/
def nestedObjects : Nat → Value
  | 0 => .object []
  | n + 1 => .object [("children", .array [nestedObjects n])]

theorem nested_nestedObjects (n : Nat) : Nested (n + 1) (nestedObjects n) := by
  induction n with
  | zero =>
    have hfields : FieldsOf [] ⟨none, "", ⟨0, 0⟩, []⟩ [] :=
      ⟨.missing, .missing, .missing, .missing, .missing⟩
    exact .innermost hfields (List.forall_mem_nil _)
  | succ n ih =>
    have hfields : FieldsOf [("children", .array [nestedObjects n])] ⟨none, "", ⟨0, 0⟩, []⟩
        [nestedObjects n] :=
      ⟨.missing, .missing, .missing, .missing, .given rfl⟩
    exact .around hfields (List.forall_mem_singleton.mpr fun h => absurd rfl h) ih

theorem exact_nestedObjects (n : Nat) : Json.Exact (2 * n + 1) (nestedObjects n) := by
  induction n with
  | zero => exact .object (List.forall_mem_nil _)
  | succ n ih =>
    refine .object (List.forall_mem_singleton.mpr ?_)
    exact .array (List.forall_mem_singleton.mpr ih)

end Token

/-! ## Loaded trees -/

namespace SyntaxTree

open Json Token

variable {text : String} {v : Value} {n : Nat}

/-- **The forest of a text** that is loaded has at most 64 levels. -/
theorem height_le_of_forestOfJson {ts : List Token} (h : forestOfJson text = .ok ts) :
    (forest ts).height ≤ 64 := by
  obtain ⟨v, htext, hdocument⟩ := forestOfJson_eq_ok_iff.mp h
  have hle := hdocument.two_mul_height_le (isText_iff_writes.mp htext).2
  rw [maxDepth] at hle
  omega

/-- **Objects inside each other** are loaded if there are no more than 64 of them, as a forest with
a level for each. -/
theorem forestOfJson_of_nested (h : Nested n v) (htext : Writes text v) :
    ∃ t, (forest [t]).height = n ∧ forestSize [t] = n ∧
      ∀ ts, forestOfJson text = .ok ts ↔ n ≤ 64 ∧ ts = [t] := by
  obtain ⟨t, htoken, hheight, hsize⟩ := h.exists_isToken
  have hdocument : IsDocument v [t] := .token htoken (by cases h <;> nofun)
  refine ⟨t, hheight, hsize, fun ts => ⟨fun hts => ?_, ?_⟩⟩
  · have hle := height_le_of_forestOfJson hts
    -- The text writes no other value, and the value is no other document.
    obtain ⟨w, hw, hwts⟩ := forestOfJson_eq_ok_iff.mp hts
    obtain rfl := (isText_iff_writes.mp hw).1.unique htext
    obtain rfl := hwts.unique hdocument
    rw [hheight] at hle
    exact ⟨hle, rfl⟩
  · rintro ⟨hn, rfl⟩
    have hnests : Nests maxDepth v := h.nests (by rw [maxDepth]; omega)
    exact forestOfJson_eq_ok_iff.mpr ⟨v, isText_iff_writes.mpr ⟨htext, hnests⟩, hdocument⟩

/-- **Loaded trees are at most 64 nodes deep**: going up from a node ends after at most 63 steps,
and it has as many ancestors. There is no sharper bound: any number of objects inside each other can
be written, they are loaded exactly if there are at most 64 of them, and then some node has all the
others above it. -/
theorem ofJson_depth :
    (∀ text tree, ofJson text = .ok tree → ∀ n : Node tree, ∃ steps ≤ 63,
      (∃ root, n.climb steps = some root ∧ root.parent? = none) ∧
        {m : Node tree | m.IsAncestor n}.encard = steps) ∧
    ∀ n ≥ 1, (∃ v text, Nested n v ∧ Writes text v) ∧
      ∀ v text, Nested n v → Writes text v →
        ((∃ tree, ofJson text = .ok tree) ↔ n ≤ 64) ∧
        ∀ tree, ofJson text = .ok tree →
          ∃ m : Node tree, {a : Node tree | a.IsAncestor m}.encard + 1 = n := by
  refine ⟨?_, fun n hn => ⟨?_, ?_⟩⟩
  · intro text tree h
    obtain ⟨ts, hts, -, rfl⟩ := ofJson_eq_ok_iff.mp h
    have hheight := height_le_of_forestOfJson hts
    rw [ofTokens_eq_ofForest]
    intro n
    obtain ⟨steps, hlt, hroot, hcard⟩ := n.exists_climb_and_encard
    exact ⟨steps, by omega, hroot, hcard⟩
  · obtain ⟨n, rfl⟩ := Nat.exists_eq_add_of_le' hn
    exact ⟨nestedObjects n, _, nested_nestedObjects n, (exact_nestedObjects n).writes_render⟩
  · intro v text h htext
    obtain ⟨t, hheight, hsize, hload⟩ := forestOfJson_of_nested h htext
    have hroom (hle : n ≤ 64) : forestSize [t] ≤ maxNodes :=
      hsize.trans_le (hle.trans (by decide))
    simp only [ofJson_eq_ok_iff, hload]
    constructor
    · constructor
      · rintro ⟨tree, ts, ⟨hle, -⟩, -⟩
        exact hle
      · intro hle
        exact ⟨_, [t], ⟨hle, rfl⟩, hroom hle, rfl⟩
    · rintro tree ⟨ts, ⟨-, rfl⟩, -, rfl⟩
      rw [ofTokens_eq_ofForest]
      exact Node.exists_encard_add_one hheight hn

/-- Sixty-four objects inside each other are loaded, and sixty-five are not. -/
theorem ofJson_depth_of_nestedObjects :
    (∃ tree, ofJson (nestedObjects 63).render = .ok tree ∧
      (∀ n : Node tree, ∃ steps ≤ 63, (∃ root, n.climb steps = some root ∧ root.parent? = none) ∧
        {m : Node tree | m.IsAncestor n}.encard = steps) ∧
      ∃ m : Node tree, {a : Node tree | a.IsAncestor m}.encard + 1 = (64 : ℕ)) ∧
    ¬ ∃ tree, ofJson (nestedObjects 64).render = .ok tree := by
  obtain ⟨hbound, hexact⟩ := ofJson_depth
  obtain ⟨hload, hdeep⟩ := (hexact 64 (by decide)).2 _ _ (nested_nestedObjects 63)
    (exact_nestedObjects 63).writes_render
  obtain ⟨hrefused, -⟩ := (hexact 65 (by decide)).2 _ _ (nested_nestedObjects 64)
    (exact_nestedObjects 64).writes_render
  obtain ⟨tree, htree⟩ := hload.mpr (by decide)
  refine ⟨⟨tree, htree, hbound _ _ htree, hdeep tree htree⟩, fun h => ?_⟩
  exact absurd (hrefused.mp h) (by decide)

end SyntaxTree

end DescriptiveLinks
