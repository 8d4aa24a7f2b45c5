import DescriptiveLinks.Tree.Basic

/-! # Numbered forests

A forest whose nodes are numbered in document order is the common form of all syntax trees. An
*entry* is a node of such a forest with what the numbering says about it: its id, the id of its
parent, and the forest below it, whose ids come right after its own.

* `Forest.exists_split` cuts the entries at a node: those before it, itself, those below it, and
  those after it.
* `Forest.parent_eq_some_iff` says that a node's parent is the node that lists it as a child. -/

namespace DescriptiveLinks

/-- An ordered **forest** with a label at every node: no tree, or a first tree, given by its label
and the forest of its children, and the trees after it. -/
inductive Forest (α : Type) where
  /-- No tree. -/
  | nil
  /-- A first tree and the rest. -/
  | cons (label : α) (children rest : Forest α)

namespace Forest

variable {α : Type}

/-- The number of nodes. -/
def size : Forest α → Nat
  | nil => 0
  | cons _ children rest => children.size + 1 + rest.size

/-- The ids of the topmost nodes of a forest that is numbered from `id`. -/
def rootIds (id : Nat) : Forest α → List Nat
  | nil => []
  | cons _ children rest => id :: rest.rootIds (id + children.size + 1)

/-- A node of a numbered forest. -/
structure Entry (α : Type) where
  /-- The id of the parent. -/
  parent : Option Nat
  /-- The id. -/
  id : Nat
  /-- The label. -/
  label : α
  /-- What is below the node. -/
  children : Forest α

/-- The ids of the children of a node. -/
def Entry.childIds (e : Entry α) : List Nat :=
  e.children.rootIds (e.id + 1)

/-- The greatest id of a node and those below it. -/
def Entry.last (e : Entry α) : Nat :=
  e.id + e.children.size

/-- The nodes of a forest that is numbered from `id` and whose topmost nodes have the parent
`parent`, in document order. -/
def entries (parent : Option Nat) (id : Nat) : Forest α → List (Entry α)
  | nil => []
  | cons label children rest =>
    ⟨parent, id, label, children⟩ ::
      (children.entries (some id) (id + 1) ++ rest.entries parent (id + children.size + 1))

@[simp] theorem size_nil : (nil : Forest α).size = 0 := rfl

@[simp] theorem size_cons (label : α) (children rest : Forest α) :
    (cons label children rest).size = children.size + 1 + rest.size := rfl

@[simp] theorem rootIds_nil (id : Nat) : (nil : Forest α).rootIds id = [] := rfl

@[simp] theorem rootIds_cons (id : Nat) (label : α) (children rest : Forest α) :
    (cons label children rest).rootIds id = id :: rest.rootIds (id + children.size + 1) := rfl

theorem mem_entries_cons {parent : Option Nat} {id : Nat} {label : α} {children rest : Forest α}
    {e : Entry α} :
    e ∈ (cons label children rest).entries parent id ↔
      e = ⟨parent, id, label, children⟩ ∨ e ∈ children.entries (some id) (id + 1) ∨
        e ∈ rest.entries parent (id + children.size + 1) := by
  rw [entries, List.mem_cons, List.mem_append]

/-! ## Ids -/

/-- The ids are consecutive. -/
theorem map_id_entries (parent : Option Nat) (id : Nat) (F : Forest α) :
    (F.entries parent id).map Entry.id = List.range' id F.size := by
  induction F generalizing parent id with
  | nil => rfl
  | cons label children rest ihc ihr =>
    rw [entries, List.map_cons, List.map_append, ihc, ihr, size_cons,
      Nat.add_right_comm children.size, List.range'_succ, ← List.range'_append_1,
      Nat.add_right_comm id]

@[simp] theorem length_entries (parent : Option Nat) (id : Nat) (F : Forest α) :
    (F.entries parent id).length = F.size := by
  rw [← List.length_map Entry.id, map_id_entries, List.length_range']

theorem id_getElem_entries {parent : Option Nat} {id i : Nat} {F : Forest α}
    (h : i < (F.entries parent id).length) : (F.entries parent id)[i].id = id + i := by
  rw [← List.getElem_map Entry.id (h := by simpa using h)]
  simp [map_id_entries]

theorem id_bounds {parent : Option Nat} {id : Nat} {F : Forest α} {e : Entry α}
    (h : e ∈ F.entries parent id) : id ≤ e.id ∧ e.id < id + F.size := by
  have := List.mem_map_of_mem (f := Entry.id) h
  rwa [map_id_entries, List.mem_range'_1] at this

/-- An id names one entry. -/
theorem eq_of_id_eq {parent : Option Nat} {id : Nat} {F : Forest α} {d e : Entry α}
    (hd : d ∈ F.entries parent id) (he : e ∈ F.entries parent id) (h : d.id = e.id) : d = e := by
  obtain ⟨i, hi, rfl⟩ := List.mem_iff_getElem.mp hd
  obtain ⟨j, hj, rfl⟩ := List.mem_iff_getElem.mp he
  rw [id_getElem_entries, id_getElem_entries] at h
  obtain rfl : i = j := by omega
  rfl

/-- What holds between entries in document order holds between entries with ids in order. -/
theorem rel_of_id_lt {parent : Option Nat} {id : Nat} {F : Forest α}
    {R : Entry α → Entry α → Prop} (hR : (F.entries parent id).Pairwise R) {d e : Entry α}
    (hd : d ∈ F.entries parent id) (he : e ∈ F.entries parent id) (h : d.id < e.id) : R d e := by
  obtain ⟨i, hi, rfl⟩ := List.mem_iff_getElem.mp hd
  obtain ⟨j, hj, rfl⟩ := List.mem_iff_getElem.mp he
  rw [id_getElem_entries, id_getElem_entries] at h
  exact List.pairwise_iff_getElem.mp hR i j hi hj (by omega)

theorem getElem?_entries_eq_some_iff {parent : Option Nat} {i : Nat} {F : Forest α} {e : Entry α} :
    (F.entries parent 0)[i]? = some e ↔ e ∈ F.entries parent 0 ∧ e.id = i := by
  constructor
  · intro h
    obtain ⟨hi, rfl⟩ := List.getElem?_eq_some_iff.mp h
    exact ⟨List.getElem_mem hi, by rw [id_getElem_entries, Nat.zero_add]⟩
  · rintro ⟨he, rfl⟩
    obtain ⟨i, hi, rfl⟩ := List.mem_iff_getElem.mp he
    rw [id_getElem_entries, Nat.zero_add, List.getElem?_eq_getElem hi]

theorem last_lt {parent : Option Nat} {id : Nat} {F : Forest α} {e : Entry α}
    (h : e ∈ F.entries parent id) : e.last < id + F.size := by
  induction F generalizing parent id with
  | nil => cases h
  | cons label children rest ihc ihr =>
    rw [size_cons]
    rcases mem_entries_cons.mp h with rfl | h | h
    · simp only [Entry.last]; omega
    · have := ihc h; omega
    · have := ihr h; omega

theorem rootIds_bounds {id i : Nat} {F : Forest α} (h : i ∈ F.rootIds id) :
    id ≤ i ∧ i < id + F.size := by
  induction F generalizing id with
  | nil => cases h
  | cons label children rest _ ihr =>
    rw [size_cons]
    rcases List.mem_cons.mp h with rfl | h
    · omega
    · have := ihr h; omega

theorem pairwise_rootIds (id : Nat) (F : Forest α) : (F.rootIds id).Pairwise (· < ·) := by
  induction F generalizing id with
  | nil => exact List.Pairwise.nil
  | cons label children rest _ ihr =>
    refine List.pairwise_cons.mpr ⟨?_, ihr _⟩
    intro i hi
    have := rootIds_bounds hi
    omega

/-! ## Parents -/

/-- A node of a forest is topmost or has its parent before it in the forest. -/
theorem parent_cases {parent : Option Nat} {id : Nat} {F : Forest α} {e : Entry α}
    (h : e ∈ F.entries parent id) :
    e.parent = parent ∨ ∃ p, e.parent = some p ∧ id ≤ p ∧ p < e.id := by
  induction F generalizing parent id with
  | nil => cases h
  | cons label children rest ihc ihr =>
    rcases mem_entries_cons.mp h with rfl | h | h
    · exact .inl rfl
    · right
      have hid := id_bounds h
      rcases ihc h with hp | ⟨p, hp, hle, hlt⟩
      · exact ⟨id, hp, by omega, by omega⟩
      · exact ⟨p, hp, by omega, hlt⟩
    · rcases ihr h with hp | ⟨p, hp, hle, hlt⟩
      · exact .inl hp
      · exact .inr ⟨p, hp, by omega, hlt⟩

/-- The topmost nodes of a whole document have no parent, so none that could come after them. -/
theorem none_lt (id : Nat) : ∀ p, none = some p → p < id :=
  nofun

/-- A node comes after its parent. -/
theorem lt_of_parent_eq_some {parent : Option Nat} {id p : Nat} {F : Forest α}
    (hparent : ∀ p, parent = some p → p < id) {e : Entry α} (h : e ∈ F.entries parent id)
    (hp : e.parent = some p) : p < e.id := by
  have hid := id_bounds h
  rcases parent_cases h with hq | ⟨q, hq, -, hlt⟩
  · have := hparent p (hq ▸ hp)
    omega
  · obtain rfl : q = p := Option.some_inj.mp (hq ▸ hp)
    exact hlt

/-- The nodes of a forest whose parent is outside it are the topmost ones. -/
theorem parent_eq_iff_mem_rootIds {parent : Option Nat} {id : Nat} {F : Forest α}
    (hparent : ∀ p, parent = some p → p < id) {e : Entry α} (h : e ∈ F.entries parent id) :
    e.parent = parent ↔ e.id ∈ F.rootIds id := by
  induction F generalizing parent id with
  | nil => cases h
  | cons label children rest ihc ihr =>
    rw [rootIds_cons, List.mem_cons]
    rcases mem_entries_cons.mp h with rfl | h | h
    · simp
    · -- A node below the first tree's root has a parent in the forest.
      have hid := id_bounds h
      have hroot : e.id ∉ rest.rootIds (id + children.size + 1) := by
        intro hmem
        have := rootIds_bounds hmem
        omega
      have hne : e.parent ≠ parent := by
        intro heq
        rcases parent_cases h with hp | ⟨p, hp, hle, hlt⟩
        · have := hparent id (heq ▸ hp); omega
        · have := hparent p (heq ▸ hp); omega
      simp [hroot, hne, show e.id ≠ id by omega]
    · have hid := id_bounds h
      rw [ihr (fun p hp => by have := hparent p hp; omega) h]
      simp [show e.id ≠ id by omega]

/-- **Cutting a forest at a node**: the entries are those before it, itself, those below it and
those after it, none of which has a parent among those below. -/
theorem exists_split {parent : Option Nat} {id : Nat} {F : Forest α}
    (hparent : ∀ p, parent = some p → p < id) {e : Entry α} (h : e ∈ F.entries parent id) :
    ∃ before after, F.entries parent id
        = before ++ e :: (e.children.entries (some e.id) (e.id + 1) ++ after) ∧
      (∀ d ∈ before, d.id < e.id) ∧
      ∀ d ∈ after, e.last < d.id ∧ ∀ p, d.parent = some p → p < e.id ∨ e.last < p := by
  induction F generalizing parent id with
  | nil => cases h
  | cons label children rest ihc ihr =>
    rcases mem_entries_cons.mp h with rfl | h | h
    -- At the root of the first tree, the rest comes after, and no parent there is below the root.
    · refine ⟨[], rest.entries parent (id + children.size + 1), rfl, by simp, ?_⟩
      intro d hd
      have hid := id_bounds hd
      refine ⟨by simp only [Entry.last]; omega, ?_⟩
      intro p hp
      rcases parent_cases hd with hq | ⟨q, hq, hle, hlt⟩
      · exact .inl (hparent p (hq ▸ hp))
      · right
        simp only [Entry.last]
        have : q = p := Option.some_inj.mp (hq ▸ hp)
        omega
    -- Inside the first tree, the rest comes after the cut of the children.
    · obtain ⟨before, after, hsplit, hbefore, hafter⟩ :=
        ihc (fun p hp => by cases hp; omega) h
      have hid := id_bounds h
      have hlast := last_lt h
      refine ⟨⟨parent, id, label, children⟩ :: before,
        after ++ rest.entries parent (id + children.size + 1), ?_, ?_, ?_⟩
      · rw [entries, hsplit]
        simp
      · intro d hd
        rcases List.mem_cons.mp hd with rfl | hd
        · exact hid.1
        · exact hbefore d hd
      · intro d hd
        rcases List.mem_append.mp hd with hd | hd
        · exact hafter d hd
        · have hdid := id_bounds hd
          refine ⟨by omega, ?_⟩
          intro p hp
          rcases parent_cases hd with hq | ⟨q, hq, hle, hlt⟩
          · have := hparent p (hq ▸ hp)
            omega
          · have : q = p := Option.some_inj.mp (hq ▸ hp)
            omega
    -- In the rest, the whole first tree comes before.
    · obtain ⟨before, after, hsplit, hbefore, hafter⟩ :=
        ihr (fun p hp => by have := hparent p hp; omega) h
      have hid := id_bounds h
      refine ⟨⟨parent, id, label, children⟩ ::
        (children.entries (some id) (id + 1) ++ before), after, ?_, ?_, hafter⟩
      · rw [entries, hsplit]
        simp
      · intro d hd
        rcases List.mem_cons.mp hd with rfl | hd
        · show id < e.id
          omega
        · rcases List.mem_append.mp hd with hd | hd
          · have := id_bounds hd
            omega
          · exact hbefore d hd

section Cut

variable {parent : Option Nat} {id : Nat} {F : Forest α} {d e : Entry α}

/-- The nodes below a node are those whose ids run from its own to its last. -/
theorem mem_entries_children_iff (hparent : ∀ p, parent = some p → p < id)
    (hd : d ∈ F.entries parent id) (he : e ∈ F.entries parent id) :
    d ∈ e.children.entries (some e.id) (e.id + 1) ↔ e.id < d.id ∧ d.id ≤ e.last := by
  constructor
  · intro h
    have := id_bounds h
    simp only [Entry.last]
    omega
  · rintro ⟨hlt, hle⟩
    obtain ⟨before, after, hsplit, hbefore, hafter⟩ := exists_split hparent he
    rw [hsplit, List.mem_append, List.mem_cons, List.mem_append] at hd
    rcases hd with hd | rfl | hd | hd
    · have := hbefore d hd; omega
    · omega
    · exact hd
    · have := (hafter d hd).1; omega

/-- The parent of a node below another is that other node or below it. -/
theorem exists_parent_of_le_last (hparent : ∀ p, parent = some p → p < id)
    (hd : d ∈ F.entries parent id) (he : e ∈ F.entries parent id) (hlt : e.id < d.id)
    (hle : d.id ≤ e.last) : ∃ p, d.parent = some p ∧ e.id ≤ p ∧ p < d.id := by
  have hbelow := (mem_entries_children_iff hparent hd he).mpr ⟨hlt, hle⟩
  rcases parent_cases hbelow with hp | ⟨p, hp, hle, hlt⟩
  · exact ⟨e.id, hp, Nat.le_refl _, hlt⟩
  · exact ⟨p, hp, by omega, hlt⟩

/-- **The parent of a node is the node that lists it as a child.** -/
theorem parent_eq_some_iff (hparent : ∀ p, parent = some p → p < id)
    (hd : d ∈ F.entries parent id) (he : e ∈ F.entries parent id) :
    d.parent = some e.id ↔ d.id ∈ e.childIds := by
  by_cases hbelow : d ∈ e.children.entries (some e.id) (e.id + 1)
  -- Below `e`, the children are the topmost nodes; anywhere else, both sides are false.
  · exact parent_eq_iff_mem_rootIds (fun p hp => by cases hp; omega) hbelow
  · have hchild : d.id ∉ e.childIds := by
      intro h
      have := rootIds_bounds h
      rw [mem_entries_children_iff hparent hd he, Entry.last] at hbelow
      omega
    refine iff_of_false ?_ hchild
    intro hp
    have hlt := lt_of_parent_eq_some hparent hd hp
    obtain ⟨before, after, hsplit, hbefore, hafter⟩ := exists_split hparent he
    rw [hsplit, List.mem_append, List.mem_cons, List.mem_append] at hd
    rcases hd with hd | rfl | hd | hd
    · have := hbefore d hd; omega
    · omega
    · exact hbelow hd
    · rcases (hafter d hd).2 e.id hp with h | h
      · omega
      · simp only [Entry.last] at h
        omega

end Cut

/-! ## Appending -/

/-- The trees of `F` and after them those of `G`. -/
def append (F G : Forest α) : Forest α :=
  match F with
  | nil => G
  | cons label children rest => cons label children (rest.append G)

@[simp] theorem nil_append (G : Forest α) : nil.append G = G := rfl

@[simp] theorem cons_append (label : α) (children rest G : Forest α) :
    (cons label children rest).append G = cons label children (rest.append G) := rfl

@[simp] theorem append_nil (F : Forest α) : F.append nil = F := by
  induction F with
  | nil => rfl
  | cons label children rest _ ih => rw [cons_append, ih]

theorem append_assoc (F G H : Forest α) :
    (F.append G).append H = F.append (G.append H) := by
  induction F with
  | nil => rfl
  | cons label children rest _ ih => rw [cons_append, cons_append, cons_append, ih]

@[simp] theorem size_append (F G : Forest α) : (F.append G).size = F.size + G.size := by
  induction F with
  | nil => rw [nil_append, size_nil, Nat.zero_add]
  | cons label children rest _ ih => rw [cons_append, size_cons, size_cons, ih, ← Nat.add_assoc]

theorem rootIds_append (id : Nat) (F G : Forest α) :
    (F.append G).rootIds id = F.rootIds id ++ G.rootIds (id + F.size) := by
  induction F generalizing id with
  | nil => rfl
  | cons label children rest _ ih =>
    rw [cons_append, rootIds_cons, rootIds_cons, ih, size_cons, List.cons_append]
    congr 3
    omega

theorem entries_append (parent : Option Nat) (id : Nat) (F G : Forest α) :
    (F.append G).entries parent id = F.entries parent id ++ G.entries parent (id + F.size) := by
  induction F generalizing id with
  | nil => rfl
  | cons label children rest _ ih =>
    rw [cons_append, entries, entries, ih, size_cons, List.cons_append, List.append_assoc]
    congr 4
    omega

end Forest

end DescriptiveLinks
