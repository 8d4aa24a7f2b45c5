import Mathlib.Data.List.Chain
import Mathlib.Logic.Relation
import DescriptiveLinks.Proofs.Tree.Table

/-! # Ancestors and siblings

Ids tell how nodes are related. The nodes below a node have the ids that come right after its own,
and of two siblings the later has the id that comes right after the nodes below the earlier.

* `Node.isAncestor_iff` says which ids the nodes below a node have.
* `Node.exists_climb_eq_root` says that going up comes to an end.
* `Node.isChain_children` says where the children of a node follow each other. -/

namespace DescriptiveLinks

/-! ## Forests -/

namespace Forest

variable {α : Type} {parent : Option Nat} {id : Nat} {F : Forest α} {d e : Entry α}

/-- What is below a node that is below another is below that other. -/
theorem last_le_last (hparent : ∀ p, parent = some p → p < id) (hd : d ∈ F.entries parent id)
    (he : e ∈ F.entries parent id) (hlt : e.id < d.id) (hle : d.id ≤ e.last) :
    d.last ≤ e.last := by
  have hlast := last_lt ((mem_entries_children_iff hparent hd he).mpr ⟨hlt, hle⟩)
  simp only [Entry.last] at hlast ⊢
  omega

/-- The nodes below a node of a forest are nodes of the forest. -/
theorem mem_entries_of_mem_children (hparent : ∀ p, parent = some p → p < id)
    (he : e ∈ F.entries parent id) (hd : d ∈ e.children.entries (some e.id) (e.id + 1)) :
    d ∈ F.entries parent id := by
  obtain ⟨before, after, hsplit, -⟩ := exists_split hparent he
  rw [hsplit]
  exact List.mem_append_right _ (List.mem_cons_of_mem _ (List.mem_append_left _ hd))

/-- The topmost nodes of a forest that is numbered from `id`. -/
def rootEntries (parent : Option Nat) (id : Nat) : Forest α → List (Entry α)
  | nil => []
  | cons label children rest =>
    ⟨parent, id, label, children⟩ :: rest.rootEntries parent (id + children.size + 1)

theorem map_id_rootEntries (parent : Option Nat) (id : Nat) (F : Forest α) :
    (F.rootEntries parent id).map Entry.id = F.rootIds id := by
  induction F generalizing id with
  | nil => rfl
  | cons label children rest _ ih => rw [rootEntries, List.map_cons, ih, rootIds_cons]

theorem mem_entries_of_mem_rootEntries (h : e ∈ F.rootEntries parent id) :
    e ∈ F.entries parent id := by
  induction F generalizing id with
  | nil => cases h
  | cons label children rest _ ih =>
    rw [mem_entries_cons]
    rcases List.mem_cons.mp h with rfl | h
    · exact .inl rfl
    · exact .inr (.inr (ih h))

/-- The first of the topmost nodes has the first id. -/
theorem id_of_head?_rootEntries (h : (F.rootEntries parent id).head? = some e) : e.id = id := by
  cases F with
  | nil => cases h
  | cons label children rest => exact (Option.some_inj.mp h) ▸ rfl

/-- Each of the topmost nodes comes right after what is below the one before. -/
theorem isChain_rootEntries (parent : Option Nat) (id : Nat) (F : Forest α) :
    (F.rootEntries parent id).IsChain fun d e => e.id = d.last + 1 := by
  induction F generalizing id with
  | nil => exact List.isChain_nil
  | cons label children rest _ ih =>
    rw [rootEntries, List.isChain_cons]
    refine ⟨fun e he => ?_, ih _⟩
    rw [id_of_head?_rootEntries he]
    rfl

/-- Nodes of a forest are told by their ids. -/
theorem eq_of_map_id_eq {ds es : List (Entry α)} (hds : ∀ d ∈ ds, d ∈ F.entries parent id)
    (hes : ∀ e ∈ es, e ∈ F.entries parent id) (h : ds.map Entry.id = es.map Entry.id) :
    ds = es := by
  induction ds generalizing es with
  | nil => exact (List.map_eq_nil_iff.mp h.symm).symm
  | cons d ds ih =>
    obtain ⟨e, es, rfl, hid, hrest⟩ := List.map_eq_cons_iff.mp h.symm
    obtain ⟨hd, hds⟩ := List.forall_mem_cons.mp hds
    obtain ⟨he, hes⟩ := List.forall_mem_cons.mp hes
    rw [eq_of_id_eq hd he hid.symm, ih hds hes hrest.symm]

end Forest

/-! ## Going up -/

namespace Node

variable {tree : SyntaxTree}

/-- A node is an **ancestor** of another if it is reached from it by going to the parent once or
more often. -/
def IsAncestor : Node tree → Node tree → Prop :=
  Relation.TransGen fun p n => n.parent? = some p

/-- The node that going to the parent leads to when it is done `steps` times. -/
def climb (n : Node tree) : Nat → Option (Node tree)
  | 0 => some n
  | steps + 1 => n.parent?.bind fun p => p.climb steps

end Node

namespace Node

open SyntaxTree

variable {α : Type} {view : α → NodeLabel} {F : Forest α} {m n p : Node (ofForest view F)}

/-- A child is below its parent. -/
theorem bounds_of_parent? (h : n.parent? = some p) : p.id < n.id ∧ n.id ≤ p.entry.last := by
  have hparent := entry_parent_eq_some_iff.mpr h
  rw [← id_entry p, Forest.parent_eq_some_iff (Forest.none_lt 0) n.entry_mem p.entry_mem]
    at hparent
  have hid := Forest.rootIds_bounds hparent
  rw [id_entry, id_entry] at hid
  rw [Forest.Entry.last, id_entry]
  omega

/-- Going up from a node below another leads to that other. -/
theorem isAncestor_of_le_last (hlt : m.id < n.id) (hle : n.id ≤ m.entry.last) :
    m.IsAncestor n := by
  -- The parent of `n` is `m` or has a smaller id and is still below `m`.
  induction hid : n.id using Nat.strongRecOn generalizing n with
  | ind i ih =>
    subst hid
    obtain ⟨p, hp, hmp, hpn⟩ := Forest.exists_parent_of_le_last (Forest.none_lt 0) n.entry_mem
      m.entry_mem (by simpa using hlt) (by simpa using hle)
    rw [id_entry] at hmp hpn
    obtain ⟨parent, hparent, rfl⟩ := exists_parent?_eq_some hp
    rcases Nat.eq_or_lt_of_le hmp with heq | hlt'
    · rw [eq_of_id_eq heq]
      exact Relation.TransGen.single hparent
    · exact (ih parent.id hpn hlt' (by omega) rfl).tail hparent

/-- **The nodes below a node** are those whose ids come after its own, up to its last. -/
theorem isAncestor_iff : m.IsAncestor n ↔ m.id < n.id ∧ n.id ≤ m.entry.last := by
  refine ⟨fun h => ?_, fun h => isAncestor_of_le_last h.1 h.2⟩
  induction h with
  | single hparent => exact bounds_of_parent? hparent
  | @tail p c _ hparent ih =>
    obtain ⟨hlt, hle⟩ := ih
    obtain ⟨hlt', hle'⟩ := bounds_of_parent? hparent
    have hlast : p.entry.last ≤ m.entry.last :=
      Forest.last_le_last (Forest.none_lt 0) p.entry_mem m.entry_mem (by simpa using hlt)
        (by simpa using hle)
    omega

/-- Nodes with one parent, or none at all, are not below each other. -/
theorem last_lt_of_parent?_eq (hlt : m.id < n.id) (h : m.parent? = n.parent?) :
    m.entry.last < n.id := by
  refine Nat.lt_of_not_le fun hle => ?_
  obtain ⟨p, hp, hmp, -⟩ := Forest.exists_parent_of_le_last (Forest.none_lt 0) n.entry_mem
    m.entry_mem (by simpa using hlt) (by simpa using hle)
  obtain ⟨parent, hparent, rfl⟩ := exists_parent?_eq_some hp
  -- If `n` were below `m`, their parent would be `m` or below it, but `m` comes after its parent.
  have hm := entry_parent_eq_some_iff.mpr (h.trans hparent)
  have hlt := Forest.lt_of_parent_eq_some (Forest.none_lt 0) m.entry_mem hm
  rw [id_entry] at hmp hlt
  omega

/-- Going up from a node comes to a node without a parent, after no more steps than its id says. -/
theorem exists_climb_eq_root (n : Node (ofForest view F)) :
    ∃ steps ≤ n.id, ∃ root, n.climb steps = some root ∧ root.parent? = none := by
  induction hid : n.id using Nat.strongRecOn generalizing n with
  | ind i ih =>
    subst hid
    cases hparent : n.parent? with
    | none => exact ⟨0, Nat.zero_le _, n, rfl, hparent⟩
    | some p =>
      have hlt := (bounds_of_parent? hparent).1
      obtain ⟨steps, hle, root, hclimb, hroot⟩ := ih p.id hlt p rfl
      refine ⟨steps + 1, by omega, root, ?_, hroot⟩
      rw [climb, hparent]
      exact hclimb

/-! ## Siblings -/

/-- The children of a node are the topmost nodes of what is below it. -/
theorem map_entry_children (n : Node (ofForest view F)) :
    n.children.map entry = n.entry.children.rootEntries (some n.entry.id) (n.entry.id + 1) := by
  have hchildren : ∀ e ∈ n.children.map entry, e ∈ F.entries none 0 :=
    List.forall_mem_map.mpr fun c _ => c.entry_mem
  have hbelow : ∀ e ∈ n.entry.children.rootEntries (some n.entry.id) (n.entry.id + 1),
      e ∈ F.entries none 0 := by
    intro e he
    apply Forest.mem_entries_of_mem_children (Forest.none_lt 0) n.entry_mem
    exact Forest.mem_entries_of_mem_rootEntries he
  -- Both lists are of nodes of the whole forest, so it is enough that the ids agree.
  apply Forest.eq_of_map_id_eq hchildren hbelow
  rw [List.map_map, Forest.map_id_rootEntries]
  exact (List.map_congr_left fun c _ => id_entry c).trans n.map_id_children

/-- The first child comes right after its parent. -/
theorem id_of_head?_children {c : Node (ofForest view F)} (h : n.children.head? = some c) :
    c.id = n.id + 1 := by
  have hhead := congrArg List.head? n.map_entry_children
  rw [List.head?_map, h] at hhead
  rw [← id_entry c, ← id_entry n]
  exact Forest.id_of_head?_rootEntries hhead.symm

/-- Each other child comes right after what is below the child before. -/
theorem isChain_children (n : Node (ofForest view F)) :
    n.children.IsChain fun c d => d.id = c.entry.last + 1 := by
  have hchain := Forest.isChain_rootEntries (some n.entry.id) (n.entry.id + 1) n.entry.children
  rw [← map_entry_children, List.isChain_map] at hchain
  simpa only [id_entry] using hchain

end Node

end DescriptiveLinks
