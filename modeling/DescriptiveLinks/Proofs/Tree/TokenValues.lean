import Mathlib.Data.List.Forall2
import Mathlib.Tactic.MkIffOfInductiveProp
import DescriptiveLinks.Tree.Loader

/-! # Values that are tokens

A token is an object whose members give its fields, or an array that gives them in their order. Each
field may be given once; a field that is not given has a default, and members with other keys are of
no concern.

* `Token.IsToken` and `Token.IsDocument` relate values to the tokens that they stand for.
* `Token.ofValue?_eq_some_iff` and `Token.forestOfValue?_eq_some_iff` say that these are the tokens
  that are loaded. -/

namespace DescriptiveLinks.Token

open Json (Value)

/-! ## The law -/

/-- The values of the members with a given key. -/
def valuesOf (members : List (String × Value)) (key : String) : List Value :=
  (members.filter fun m => m.1 = key).map Prod.snd

/-- A **field** by the values that are given for it, of which there is at most one. -/
inductive Field {α : Type} (Holds : Value → α → Prop) (default : α) : List Value → α → Prop
  /-- The field is missing. -/
  | missing : Field Holds default [] default
  /-- The field is given. -/
  | given {v : Value} {a : α} (h : Holds v a) : Field Holds default [v] a

/-- The values of a type, which may be `null`. -/
inductive HoldsKind : Value → Option String → Prop
  /-- There is no type. -/
  | null : HoldsKind .null none
  /-- The type is a string. -/
  | string (s : String) : HoldsKind (.string s) (some s)

/-- Whether a value is a given string. -/
def HoldsText (v : Value) (s : String) : Prop :=
  v = .string s

/-- Whether a value is a given natural number, written as an integer. -/
def HoldsNat (v : Value) (n : Nat) : Prop :=
  v = .number (.integer n)

/-- Whether a value is an array of given items. -/
def HoldsItems (v : Value) (items : List Value) : Prop :=
  v = .array items

/-- Whether members give the **fields of a token**, where `items` are the values for its
children. -/
structure FieldsOf (members : List (String × Value)) (t : Token) (items : List Value) : Prop where
  /-- The type. -/
  kind : Field HoldsKind none (valuesOf members "type") t.kind
  /-- The text. -/
  text : Field HoldsText "" (valuesOf members "text") t.text
  /-- The line. -/
  line : Field HoldsNat 0 (valuesOf members "startLine") t.start.line
  /-- The column. -/
  column : Field HoldsNat 0 (valuesOf members "startColumn") t.start.column
  /-- The children. -/
  children : Field HoldsItems [] (valuesOf members "children") items

/-- Whether a value **is a token**. -/
inductive IsToken : Value → Token → Prop
  /-- The members of an object give the fields by their keys. -/
  | object {members : List (String × Value)} {t : Token} {items : List Value}
    (h : FieldsOf members t items) (hchildren : List.Forall₂ IsToken items t.children) :
    IsToken (.object members) t
  /-- The values of an array give the fields in the order of their keys. -/
  | array {values : List Value} {t : Token} {items : List Value} (hlength : values.length ≤ 5)
    (h : FieldsOf (TokenFields.keys.zip values) t items)
    (hchildren : List.Forall₂ IsToken items t.children) : IsToken (.array values) t

/-- Whether a value **is a document** with given tokens at the top. -/
inductive IsDocument : Value → List Token → Prop
  /-- All the items of an array are tokens. -/
  | tokens {items : List Value} {ts : List Token} (h : List.Forall₂ IsToken items ts) :
    IsDocument (.array items) ts
  /-- The value is itself a token. The empty array is a document without tokens instead. -/
  | token {v : Value} {t : Token} (h : IsToken v t) (hne : v ≠ .array []) : IsDocument v [t]

/-! ## Slots -/

section Slots

variable {α : Type} {read : Value → Option α} {vs ws : List Value} {s s' : Option α}

/-- What values for one field leave in the slot for it: the first one fills it, and there may be no
second one. -/
def slot (read : Value → Option α) : List Value → Option (Option α)
  | [] => some none
  | [v] => (read v).map some
  | _ => none

/-- Whether a slot goes from `s` to `s'` by a value that is read as `r` and may be given for another
field. -/
def Updates (isGiven : Prop) [Decidable isGiven] (r s s' : Option α) : Prop :=
  if isGiven then s = none ∧ r.isSome ∧ s' = r else s' = s

theorem slot_append_singleton (h : slot read vs = some s) (v : Value) :
    slot read (vs ++ [v]) = some s' ↔ s = none ∧ (read v).isSome ∧ s' = read v := by
  match vs with
  | [] =>
    obtain rfl : none = s := Option.some.inj h
    cases hv : read v <;> simp [slot, hv, eq_comm]
  | [w] =>
    obtain ⟨a, -, rfl⟩ := Option.map_eq_some_iff.mp h
    simp [slot]
  | w :: x :: vs => cases h

theorem exists_slot_of_append (h : slot read (vs ++ ws) = some s) :
    ∃ s', slot read vs = some s' := by
  match vs with
  | [] => exact ⟨none, rfl⟩
  | [v] =>
    cases ws with
    | nil => exact ⟨s, h⟩
    | cons w ws => cases h
  | v :: w :: vs => cases h

/-- A field is its slot, or the default if the slot is empty. -/
theorem field_iff {Holds : Value → α → Prop} {default a : α}
    (hread : ∀ v a, read v = some a ↔ Holds v a) :
    Field Holds default vs a ↔ ∃ s, slot read vs = some s ∧ s.getD default = a := by
  constructor
  · intro h
    cases h with
    | missing => exact ⟨none, rfl, rfl⟩
    | @given v a h => exact ⟨some a, by rw [slot, (hread v a).mpr h]; rfl, rfl⟩
  · rintro ⟨s, hs, rfl⟩
    match vs with
    | [] =>
      obtain rfl : none = s := Option.some.inj hs
      exact .missing
    | [v] =>
      obtain ⟨a, ha, rfl⟩ := Option.map_eq_some_iff.mp hs
      exact .given ((hread v a).mp ha)
    | v :: w :: vs => cases hs

variable {done : List (String × Value)} {key : String} {v : Value}

theorem valuesOf_append (members others : List (String × Value)) (key : String) :
    valuesOf (members ++ others) key = valuesOf members key ++ valuesOf others key := by
  simp [valuesOf]

/-- One more member updates the slot of its field. -/
theorem slot_valuesOf_append_singleton {k : String} (h : slot read (valuesOf done k) = some s) :
    slot read (valuesOf (done ++ [(key, v)]) k) = some s' ↔ Updates (key = k) (read v) s s' := by
  rw [valuesOf_append, Updates]
  by_cases hkey : key = k
  · have hvalues : valuesOf [(key, v)] k = [v] := by simp [valuesOf, hkey]
    rw [if_pos hkey, hvalues, slot_append_singleton h]
  · have hvalues : valuesOf [(key, v)] k = [] := by simp [valuesOf, hkey]
    rw [if_neg hkey, hvalues, List.append_nil, h, Option.some.injEq, eq_comm]

end Slots

/-! ## Adding fields -/

/-- The type that a value gives. -/
def kind? : Value → Option (Option String)
  | .null => some none
  | .string s => some (some s)
  | _ => none

theorem kind?_eq_some_iff (v : Value) (kind : Option String) :
    kind? v = some kind ↔ HoldsKind v kind := by
  constructor
  · intro h
    unfold kind? at h
    split at h <;> cases h
    · exact .null
    · exact .string _
  · intro h
    cases h <;> rfl

theorem string?_eq_some_iff (v : Value) (s : String) : v.string? = some s ↔ HoldsText v s := by
  cases v <;> simp [Value.string?, HoldsText]

theorem nat?_eq_some_iff (v : Value) (n : Nat) : v.nat? = some n ↔ HoldsNat v n := by
  unfold Value.nat?
  split
  · next m =>
    rw [Option.some.injEq, HoldsNat, Value.number.injEq, Json.Number.integer.injEq]
    exact Int.ofNat_inj.symm
  · next hnot =>
    constructor
    · intro h
      cases h
    · intro h
      exact absurd h (hnot n)

variable {f g : TokenFields} {key : String} {v : Value}

theorem addField?_eq (f : TokenFields) (key : String) (v : Value) :
    addField? f key v =
      if key = "children" then (ofArray? v).bind f.addChildren else f.addPlain key v := by
  cases v with
  | array items => rw [addField?, ofArray?]
  | _ => by_cases hkey : key = "children" <;> simp [addField?, ofArray?, TokenFields.addPlain, hkey]

/-- **A member is added** by updating the slot of its field. -/
theorem addField?_eq_some_iff :
    addField? f key v = some g ↔
      Updates (key = "type") (kind? v) f.kind g.kind ∧
      Updates (key = "text") v.string? f.text g.text ∧
      Updates (key = "startLine") v.nat? f.line g.line ∧
      Updates (key = "startColumn") v.nat? f.column g.column ∧
      Updates (key = "children") (ofArray? v) f.children g.children := by
  rw [addField?_eq]
  obtain ⟨kind, text, line, column, children⟩ := f
  obtain ⟨kind', text', line', column', children'⟩ := g
  -- One case for each key of a field: its slot is filled if it is empty, and the others stay.
  by_cases hkind : key = "type"
  · subst hkind
    cases v <;> cases kind <;>
      simp [Updates, TokenFields.addPlain, TokenFields.addKind, kind?, eq_comm]
  by_cases htext : key = "text"
  · subst htext
    cases hv : v.string? <;> cases text <;>
      simp [Updates, TokenFields.addPlain, TokenFields.addText, hv, eq_comm]
  by_cases hline : key = "startLine"
  · subst hline
    cases hv : v.nat? <;> cases line <;>
      simp [Updates, TokenFields.addPlain, TokenFields.addLine, hv, eq_comm]
  by_cases hcolumn : key = "startColumn"
  · subst hcolumn
    cases hv : v.nat? <;> cases column <;>
      simp [Updates, TokenFields.addPlain, TokenFields.addColumn, hv, eq_comm]
  by_cases hchildren : key = "children"
  · subst hchildren
    cases hv : ofArray? v <;> cases children <;>
      simp [Updates, TokenFields.addChildren, eq_comm]
  · simp [Updates, TokenFields.addPlain, hkind, htext, hline, hcolumn, hchildren, eq_comm]

/-! ## Runs over members -/

variable {members done rest : List (String × Value)}

/-- Whether members **leave** fields: each slot is what the values for its field leave in it. -/
@[mk_iff]
structure Leaves (members : List (String × Value)) (f : TokenFields) : Prop where
  /-- The type. -/
  kind : slot kind? (valuesOf members "type") = some f.kind
  /-- The text. -/
  text : slot Value.string? (valuesOf members "text") = some f.text
  /-- The line. -/
  line : slot Value.nat? (valuesOf members "startLine") = some f.line
  /-- The column. -/
  column : slot Value.nat? (valuesOf members "startColumn") = some f.column
  /-- The children. -/
  children : slot ofArray? (valuesOf members "children") = some f.children

theorem leaves_nil : Leaves [] {} :=
  ⟨rfl, rfl, rfl, rfl, rfl⟩

theorem Leaves.unique (hf : Leaves members f) (hg : Leaves members g) : f = g := by
  have hkind := Option.some.inj (hf.kind.symm.trans hg.kind)
  have htext := Option.some.inj (hf.text.symm.trans hg.text)
  have hline := Option.some.inj (hf.line.symm.trans hg.line)
  have hcolumn := Option.some.inj (hf.column.symm.trans hg.column)
  have hchildren := Option.some.inj (hf.children.symm.trans hg.children)
  cases f
  cases g
  simp only at hkind htext hline hcolumn hchildren
  rw [hkind, htext, hline, hcolumn, hchildren]

/-- Members at the front leave something if all of them do. -/
theorem Leaves.exists_of_append (h : Leaves (done ++ rest) g) : ∃ f, Leaves done f := by
  have hvalues (key : String) := valuesOf_append done rest key
  obtain ⟨kind, hkind⟩ := exists_slot_of_append ((hvalues _).symm ▸ h.kind)
  obtain ⟨text, htext⟩ := exists_slot_of_append ((hvalues _).symm ▸ h.text)
  obtain ⟨line, hline⟩ := exists_slot_of_append ((hvalues _).symm ▸ h.line)
  obtain ⟨column, hcolumn⟩ := exists_slot_of_append ((hvalues _).symm ▸ h.column)
  obtain ⟨children, hchildren⟩ := exists_slot_of_append ((hvalues _).symm ▸ h.children)
  exact ⟨⟨kind, text, line, column, children⟩, hkind, htext, hline, hcolumn, hchildren⟩

/-- **One more member**: what it is added to is what the members before leave. -/
theorem Leaves.addField?_eq_some_iff (h : Leaves done f) :
    addField? f key v = some g ↔ Leaves (done ++ [(key, v)]) g := by
  rw [Token.addField?_eq_some_iff, leaves_iff, slot_valuesOf_append_singleton h.kind,
    slot_valuesOf_append_singleton h.text, slot_valuesOf_append_singleton h.line,
    slot_valuesOf_append_singleton h.column, slot_valuesOf_append_singleton h.children]

/-- **All members**, one after the other. -/
theorem Leaves.addMembers?_eq_some_iff (h : Leaves done f) :
    addMembers? f members = some g ↔ Leaves (done ++ members) g := by
  induction members generalizing done f with
  | nil =>
    rw [addMembers?, List.append_nil, Option.some.injEq]
    constructor
    · rintro rfl
      exact h
    · exact h.unique
  | cons m members ih =>
    obtain ⟨key, v⟩ := m
    rw [addMembers?, Option.bind_eq_some_iff, List.append_cons]
    constructor
    · rintro ⟨f', hf', hg⟩
      exact (ih (h.addField?_eq_some_iff.mp hf')).mp hg
    · intro hg
      -- What all members leave is only there if the first of them left something to go on from.
      obtain ⟨f', hf'⟩ := hg.exists_of_append
      exact ⟨f', h.addField?_eq_some_iff.mpr hf', (ih hf').mpr hg⟩

theorem addMembers?_eq_some_iff : addMembers? {} members = some g ↔ Leaves members g :=
  leaves_nil.addMembers?_eq_some_iff

/-- The values of an array are added like members with the keys in their order. -/
theorem addItems?_eq (f : TokenFields) (keys : List String) (values : List Value) :
    addItems? f keys values =
      if values.length ≤ keys.length then addMembers? f (keys.zip values) else none := by
  induction values generalizing f keys with
  | nil => simp [addItems?, addMembers?]
  | cons v values ih =>
    cases keys with
    | nil => simp [addItems?]
    | cons key keys =>
      rw [addItems?, List.zip_cons_cons, addMembers?, List.length_cons, List.length_cons]
      cases addField? f key v with
      | none => simp
      | some f' => simp [ih]

/-! ## Tokens -/

variable {t : Token} {items values : List Value} {ts : List Token}

theorem ofArray?_eq_some_iff :
    ofArray? v = some ts ↔ ∃ items, HoldsItems v items ∧ ofItems? items = some ts := by
  cases v with
  | array items => simp [ofArray?, HoldsItems]
  | _ => simp [ofArray?, HoldsItems]

/-- The children are those of the items that are given for them. -/
theorem field_children_iff {vs : List Value} :
    Field (fun v ts => ofArray? v = some ts) [] vs ts ↔
      ∃ items, Field HoldsItems [] vs items ∧ ofItems? items = some ts := by
  constructor
  · intro h
    cases h with
    | missing => exact ⟨[], .missing, by rw [ofItems?]⟩
    | given h =>
      obtain ⟨items, hv, hitems⟩ := ofArray?_eq_some_iff.mp h
      exact ⟨items, .given hv, hitems⟩
  · rintro ⟨items, h, hitems⟩
    cases h with
    | missing =>
      rw [ofItems?] at hitems
      rw [← Option.some.inj hitems]
      exact .missing
    | given hv => exact .given (ofArray?_eq_some_iff.mpr ⟨items, hv, hitems⟩)

/-- **The fields of a token** are what its members leave. -/
theorem exists_leaves_iff :
    (∃ g, Leaves members g ∧ g.toToken = t) ↔
      ∃ items, FieldsOf members t items ∧ ofItems? items = some t.children := by
  have hchildren (vs : List Value) (ts : List Token) :
      Field (fun v ts => ofArray? v = some ts) [] vs ts ↔
        ∃ s, slot ofArray? vs = some s ∧ s.getD [] = ts :=
    field_iff fun _ _ => Iff.rfl
  constructor
  · rintro ⟨g, hg, rfl⟩
    obtain ⟨items, hfield, hitems⟩ :=
      field_children_iff.mp ((hchildren _ _).mpr ⟨_, hg.children, rfl⟩)
    exact ⟨items, ⟨(field_iff kind?_eq_some_iff).mpr ⟨_, hg.kind, rfl⟩,
      (field_iff string?_eq_some_iff).mpr ⟨_, hg.text, rfl⟩,
      (field_iff nat?_eq_some_iff).mpr ⟨_, hg.line, rfl⟩,
      (field_iff nat?_eq_some_iff).mpr ⟨_, hg.column, rfl⟩, hfield⟩, hitems⟩
  · rintro ⟨items, h, hitems⟩
    obtain ⟨kind, hkind, htkind⟩ := (field_iff kind?_eq_some_iff).mp h.kind
    obtain ⟨text, htext, httext⟩ := (field_iff string?_eq_some_iff).mp h.text
    obtain ⟨line, hline, htline⟩ := (field_iff nat?_eq_some_iff).mp h.line
    obtain ⟨column, hcolumn, htcolumn⟩ := (field_iff nat?_eq_some_iff).mp h.column
    obtain ⟨children, hchildren', htchildren⟩ :=
      (hchildren _ _).mp (field_children_iff.mpr ⟨items, h.children, hitems⟩)
    refine ⟨⟨kind, text, line, column, children⟩,
      ⟨hkind, htext, hline, hcolumn, hchildren'⟩, ?_⟩
    rw [TokenFields.toToken, htkind, httext, htline, htcolumn, htchildren]
    cases t
    rfl

theorem ofValue?_object_iff :
    ofValue? (.object members) = some t ↔
      ∃ items, FieldsOf members t items ∧ ofItems? items = some t.children := by
  rw [ofValue?, Option.map_eq_some_iff, ← exists_leaves_iff]
  simp only [addMembers?_eq_some_iff]

theorem ofValue?_array_iff :
    ofValue? (.array values) = some t ↔ values.length ≤ TokenFields.keys.length ∧
      ∃ items, FieldsOf (TokenFields.keys.zip values) t items ∧
        ofItems? items = some t.children := by
  rw [ofValue?, Option.map_eq_some_iff, ← exists_leaves_iff, addItems?_eq]
  by_cases hlength : values.length ≤ TokenFields.keys.length
  · rw [if_pos hlength]
    simp only [addMembers?_eq_some_iff, hlength, true_and]
  · simp [hlength]

/-- Items are tokens one by one, if that is so of each of them. -/
theorem ofItems?_eq_some_iff_of (h : ∀ v ∈ items, ∀ t, ofValue? v = some t ↔ IsToken v t) :
    ofItems? items = some ts ↔ List.Forall₂ IsToken items ts := by
  induction items generalizing ts with
  | nil => rw [ofItems?, Option.some.injEq, List.forall₂_nil_left_iff, eq_comm]
  | cons v items ih =>
    obtain ⟨hv, hitems⟩ := List.forall_mem_cons.mp h
    rw [List.forall₂_cons_left_iff, ofItems?]
    constructor
    · intro h
      -- Each item has to be a token for the rest to be looked at.
      obtain ⟨t, ht, h⟩ := Option.bind_eq_some_iff.mp h
      obtain ⟨rest, hrest, h⟩ := Option.bind_eq_some_iff.mp h
      exact ⟨t, rest, (hv t).mp ht, (ih hitems).mp hrest, (Option.some.inj h).symm⟩
    · rintro ⟨t, rest, ht, hrest, rfl⟩
      refine Option.bind_eq_some_iff.mpr ⟨t, (hv t).mpr ht, ?_⟩
      exact Option.bind_eq_some_iff.mpr ⟨rest, (ih hitems).mpr hrest, rfl⟩

theorem mem_of_mem_valuesOf (h : v ∈ valuesOf members key) : (key, v) ∈ members := by
  obtain ⟨⟨k, w⟩, hm, rfl⟩ := List.mem_map.mp h
  obtain rfl : k = key := by simpa using (List.mem_filter.mp hm).2
  exact (List.mem_filter.mp hm).1

/-- The items for the children lie inside one of the members. -/
theorem FieldsOf.sizeOf_lt (h : FieldsOf members t items) {n : Nat}
    (hmembers : ∀ m ∈ members, sizeOf m.2 ≤ n) : ∀ v ∈ items, sizeOf v < n := by
  intro v hv
  have hchildren := h.children
  generalize hvalues : valuesOf members "children" = vs at hchildren
  cases hchildren with
  | missing => exact absurd hv List.not_mem_nil
  | @given w _ hw =>
    have hmem : ("children", w) ∈ members :=
      mem_of_mem_valuesOf (by rw [hvalues]; exact List.mem_singleton_self w)
    have hle := hmembers _ hmem
    have hlt := List.sizeOf_lt_of_mem hv
    rw [hw] at hle
    simp only [Value.array.sizeOf_spec] at hle
    omega

/-- **A value is a token** exactly if it is loaded as one. -/
theorem ofValue?_eq_some_iff : ofValue? v = some t ↔ IsToken v t := by
  induction hsize : sizeOf v using Nat.strongRecOn generalizing v t with
  | ind n ih =>
    subst hsize
    -- The children of a token lie inside it, so they are smaller.
    have hbelow {members : List (String × Value)} {items : List Value} {t : Token}
        (h : FieldsOf members t items) (hmembers : ∀ m ∈ members, sizeOf m.2 ≤ sizeOf v) :
        ofItems? items = some t.children ↔ List.Forall₂ IsToken items t.children :=
      ofItems?_eq_some_iff_of fun w hw t => ih _ (h.sizeOf_lt hmembers w hw) rfl
    cases v with
    | object members =>
      have hmembers : ∀ m ∈ members, sizeOf m.2 ≤ sizeOf (Value.object members) := by
        rintro ⟨key, w⟩ hm
        have hlt := List.sizeOf_lt_of_mem hm
        simp only [Prod.mk.sizeOf_spec, Value.object.sizeOf_spec] at hlt ⊢
        omega
      rw [ofValue?_object_iff]
      constructor
      · rintro ⟨items, h, hitems⟩
        exact .object h ((hbelow h hmembers).mp hitems)
      · intro htoken
        cases htoken with
        | @object _ _ items h hchildren => exact ⟨items, h, (hbelow h hmembers).mpr hchildren⟩
    | array values =>
      have hmembers : ∀ m ∈ TokenFields.keys.zip values,
          sizeOf m.2 ≤ sizeOf (Value.array values) := by
        rintro ⟨key, w⟩ hm
        have hlt := List.sizeOf_lt_of_mem (List.of_mem_zip hm).2
        simp only [Value.array.sizeOf_spec]
        omega
      rw [ofValue?_array_iff]
      constructor
      · rintro ⟨hlength, items, h, hitems⟩
        exact .array hlength h ((hbelow h hmembers).mp hitems)
      · intro htoken
        cases htoken with
        | @array _ _ items hlength h hchildren =>
          exact ⟨hlength, items, h, (hbelow h hmembers).mpr hchildren⟩
    | _ =>
      refine iff_of_false (by simp [ofValue?]) ?_
      intro htoken
      cases htoken

theorem ofItems?_eq_some_iff : ofItems? items = some ts ↔ List.Forall₂ IsToken items ts :=
  ofItems?_eq_some_iff_of fun _ _ _ => ofValue?_eq_some_iff

/-! ## Documents -/

/-- The first value of an array that is a token gives its type, so it is no token itself. -/
theorem not_isToken_of_isToken_array (h : IsToken (.array (v :: values)) t) (t' : Token) :
    ¬ IsToken v t' := by
  intro hv
  cases h with
  | array hlength h =>
    have hkind := h.kind
    have hvalues : valuesOf (TokenFields.keys.zip (v :: values)) "type" =
        v :: valuesOf (TokenFields.keys.tail.zip values) "type" := by
      simp [TokenFields.keys, valuesOf]
    rw [hvalues] at hkind
    generalize valuesOf (TokenFields.keys.tail.zip values) "type" = vs at hkind
    generalize t.kind = kind at hkind
    cases hkind with
    | given hheld => cases hheld <;> cases hv

/-- **A value is a document** exactly if it is loaded as one. -/
theorem forestOfValue?_eq_some_iff : forestOfValue? v = some ts ↔ IsDocument v ts := by
  rw [forestOfValue?, Option.orElse_eq_orElse, Option.orElse_eq_or, Option.or_eq_some_iff]
  constructor
  · rintro (h | ⟨hnone, h⟩)
    · obtain ⟨items, hv, hitems⟩ := ofArray?_eq_some_iff.mp h
      rw [hv]
      exact .tokens (ofItems?_eq_some_iff.mp hitems)
    · obtain ⟨t, ht, rfl⟩ := Option.map_eq_some_iff.mp h
      refine .token (ofValue?_eq_some_iff.mp ht) ?_
      rintro rfl
      rw [ofArray?, ofItems?] at hnone
      cases hnone
  · intro h
    cases h with
    | tokens h => exact .inl (ofItems?_eq_some_iff.mpr h)
    | @token _ t h hne =>
      refine .inr ⟨?_, by rw [ofValue?_eq_some_iff.mpr h]; rfl⟩
      rw [Option.eq_none_iff_forall_ne_some]
      intro ts hts
      obtain ⟨items, hv, hitems⟩ := ofArray?_eq_some_iff.mp hts
      cases ofItems?_eq_some_iff.mp hitems with
      | nil => exact hne hv
      | cons hw =>
        rw [hv] at h
        exact not_isToken_of_isToken_array h _ hw

end DescriptiveLinks.Token
