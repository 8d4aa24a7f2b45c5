import DescriptiveLinks.Json.Parser

/-! # The grammar of JSON texts

What a text writes is a relation between texts and values, without regard to how texts are read.
Each kind of text has its own relation: numbers, strings, items between brackets, values. The values
inside arrays and objects are those of one level less, so a number bounds how many are open at once.

`Json.IsText` relates whole texts to the values that they write. -/

namespace DescriptiveLinks.Json

/-- Whether a text is white space. -/
def IsBlank (s : List Char) : Prop :=
  ∀ c ∈ s, isBlank c

theorem isBlank_nil : IsBlank [] :=
  List.forall_mem_nil _

/-! ## Numbers -/

/-- Whether a text is digits that do not start with a zero, or a zero. -/
def IsWhole (s : List Char) : Prop :=
  Text.isDigits s ∧ (s.head? = some '0' → s = ['0'])

instance (s : List Char) : Decidable (IsWhole s) :=
  inferInstanceAs (Decidable (_ ∧ _))

/-- The texts of a fraction, which may be absent. -/
inductive FractionText : List Char → Option (List Char) → Prop
  /-- There is no point. -/
  | absent : FractionText [] none
  /-- Digits after a point. -/
  | digits {ds : List Char} (h : Text.isDigits ds) : FractionText ('.' :: ds) (some ds)

/-- The texts of an integer with an optional sign. -/
inductive SignedText : List Char → Int → Prop
  /-- Digits without a sign. -/
  | plain {ds : List Char} (h : Text.isDigits ds) : SignedText ds (Text.digitsValue ds)
  /-- Digits after a plus sign. -/
  | plus {ds : List Char} (h : Text.isDigits ds) : SignedText ('+' :: ds) (Text.digitsValue ds)
  /-- Digits after a minus sign. -/
  | minus {ds : List Char} (h : Text.isDigits ds) : SignedText ('-' :: ds) (-Text.digitsValue ds)

/-- The texts of an exponent, which may be absent. -/
inductive ExponentText : List Char → Option Int → Prop
  /-- There is no exponent. -/
  | absent : ExponentText [] none
  /-- An integer after the letter. -/
  | signed {c : Char} {t : List Char} {n : Int} (hc : c = 'e' ∨ c = 'E') (h : SignedText t n) :
    ExponentText (c :: t) (some n)

/-- The texts of the parts of a number, but for its sign. -/
inductive UnsignedText (negative : Bool) : List Char → NumberParts → Prop
  /-- The whole part, the fraction and the exponent. -/
  | parts {whole t u : List Char} {fraction : Option (List Char)} {exponent : Option Int}
    (hwhole : IsWhole whole) (ht : FractionText t fraction) (hu : ExponentText u exponent) :
    UnsignedText negative (whole ++ (t ++ u)) ⟨negative, whole, fraction, exponent⟩

/-- The texts of the parts of a number. -/
inductive PartsText : List Char → NumberParts → Prop
  /-- There is no sign. -/
  | positive {t : List Char} {p : NumberParts} (h : UnsignedText false t p) : PartsText t p
  /-- There is a minus sign. -/
  | negative {t : List Char} {p : NumberParts} (h : UnsignedText true t p) : PartsText ('-' :: t) p

/-- Whether the parts are those of an integer of 64 bits. There is no negative zero. -/
def NumberParts.IsInteger (p : NumberParts) : Prop :=
  p.fraction = none ∧ p.exponent = none ∧
    if p.negative then 0 < Text.digitsValue p.whole ∧ Text.digitsValue p.whole ≤ wordLimit / 2
    else Text.digitsValue p.whole < wordLimit

/-- **The texts of a number.** -/
inductive NumberText : List Char → Number → Prop
  /-- A natural number of 64 bits, without sign, fraction and exponent. -/
  | natural {ds : List Char} (h : IsWhole ds) (hlt : Text.digitsValue ds < wordLimit) :
    NumberText ds (.integer (Text.digitsValue ds))
  /-- A negative number of 64 bits, without fraction and exponent. -/
  | negative {ds : List Char} (h : IsWhole ds) (hpos : 0 < Text.digitsValue ds)
    (hle : Text.digitsValue ds ≤ wordLimit / 2) :
    NumberText ('-' :: ds) (.integer (-Text.digitsValue ds))
  /-- Any other number, unless it is too large for a double. -/
  | decimal {t : List Char} {p : NumberParts} (h : PartsText t p) (hp : ¬ p.IsInteger)
    (hsmall : overflows p.decimal.1 p.decimal.2 = false) :
    NumberText t (.decimal p.negative p.decimal.1 p.decimal.2)

/-! ## Strings -/

/-- The escapes of one letter, with the characters that they stand for. -/
def letterEscapes : List (Char × Char) :=
  [('"', '"'), ('\\', '\\'), ('/', '/'), ('b', '\x08'), ('f', '\x0c'), ('n', '\n'), ('r', '\r'),
    ('t', '\t')]

/-- Whether a text is the four digits of a code unit. -/
def IsUnit (ds : List Char) (n : Nat) : Prop :=
  ds.length = 4 ∧ Text.hexValue? ds = some n

/-- **The texts of a character** between quotes. -/
inductive CharText : List Char → Char → Prop
  /-- The character itself, if it needs no escape. -/
  | plain {c : Char} (hc : c ≠ '"' ∧ c ≠ '\\') (h : 0x20 ≤ c.toNat) : CharText [c] c
  /-- An escape of one letter. -/
  | letter {e c : Char} (h : (e, c) ∈ letterEscapes) : CharText ['\\', e] c
  /-- An escape of a code unit that stands for a character. -/
  | unit {ds : List Char} {n : Nat} (h : IsUnit ds n) (hn : ¬ IsLeading n ∧ ¬ IsTrailing n) :
    CharText ('\\' :: 'u' :: ds) (Char.ofNat n)
  /-- Escapes of two code units that stand for a character together. -/
  | pair {ds es : List Char} {m n : Nat} (hm : IsUnit ds m) (hn : IsUnit es n)
    (hleading : IsLeading m) (htrailing : IsTrailing n) :
    CharText ('\\' :: 'u' :: (ds ++ '\\' :: 'u' :: es)) (pairedChar m n)

/-- The texts of characters one after the other. -/
inductive CharsText : List Char → List Char → Prop
  /-- No character. -/
  | nil : CharsText [] []
  /-- A character and those after it. -/
  | cons {t u : List Char} {c : Char} {cs : List Char} (h : CharText t c) (hs : CharsText u cs) :
    CharsText (t ++ u) (c :: cs)

/-- The texts of a string. -/
inductive StringText : List Char → String → Prop
  /-- The characters between quotes. -/
  | quoted {t : List Char} {s : String} (h : CharsText t s.toList) :
    StringText ('"' :: (t ++ ['"'])) s

/-! ## Values -/

section Items

variable {α : Type} (W : List Char → α → Prop)

/-- The texts of items with commas between them, where `W` gives those of an item. -/
inductive ItemsText : List Char → List α → Prop
  /-- The last item. -/
  | last {b t b' : List Char} {a : α} (hb : IsBlank b) (h : W t a) (hb' : IsBlank b') :
    ItemsText (b ++ (t ++ b')) [a]
  /-- An item, a comma and the items after it. -/
  | cons {b t b' u : List Char} {a : α} {as : List α} (hb : IsBlank b) (h : W t a)
    (hb' : IsBlank b') (hs : ItemsText u as) : ItemsText (b ++ (t ++ (b' ++ ',' :: u))) (a :: as)

/-- What stands between brackets. -/
inductive ListText : List Char → List α → Prop
  /-- There is no item. -/
  | none {b : List Char} (hb : IsBlank b) : ListText b []
  /-- There are items. -/
  | items {t : List Char} {as : List α} (h : ItemsText W t as) : ListText t as

/-- The texts of a member, where `W` gives those of its value. -/
inductive MemberText : List Char → String × α → Prop
  /-- A key, a colon and a value. -/
  | pair {t b b' u : List Char} {key : String} {a : α} (hkey : StringText t key) (hb : IsBlank b)
    (hb' : IsBlank b') (h : W u a) : MemberText (t ++ (b ++ ':' :: (b' ++ u))) (key, a)

end Items

/-- The texts of values other than arrays and objects. -/
inductive ScalarText : List Char → Value → Prop
  /-- The word `null`. -/
  | null : ScalarText ['n', 'u', 'l', 'l'] .null
  /-- The word `true`. -/
  | true : ScalarText ['t', 'r', 'u', 'e'] (.bool Bool.true)
  /-- The word `false`. -/
  | false : ScalarText ['f', 'a', 'l', 's', 'e'] (.bool Bool.false)
  /-- A number. -/
  | number {t : List Char} {n : Number} (h : NumberText t n) : ScalarText t (.number n)
  /-- A string. -/
  | string {t : List Char} {s : String} (h : StringText t s) : ScalarText t (.string s)

/-- The texts of arrays and objects, where `W` gives those of the values inside. -/
inductive ContainerText (W : List Char → Value → Prop) : List Char → Value → Prop
  /-- An array. -/
  | array {t : List Char} {items : List Value} (h : ListText W t items) :
    ContainerText W ('[' :: (t ++ [']'])) (.array items)
  /-- An object. -/
  | object {t : List Char} {members : List (String × Value)}
    (h : ListText (MemberText W) t members) : ContainerText W ('\x7b' :: (t ++ ['\x7d'])) (.object members)

/-- **The texts of a value** in which at most `depth` arrays and objects are open at once. -/
def ValueText : Nat → List Char → Value → Prop
  | 0, t, v => ScalarText t v
  | depth + 1, t, v => ScalarText t v ∨ ContainerText (ValueText depth) t v

/-- **Whole texts**: a value in which at most 127 arrays and objects are open at once, with white
space around it. -/
def IsText (text : String) (v : Value) : Prop :=
  ∃ b t b', text.toList = b ++ (t ++ b') ∧ IsBlank b ∧ ValueText 127 t v ∧ IsBlank b'

/-! ## Parts of texts -/

section Parts

variable {α : Type} {W : List Char → α → Prop} {t : List Char} {as : List α} {a : α}

/-- An item is written in a part of the text for all of them. -/
theorem ItemsText.exists_length_le (h : ItemsText W t as) (ha : a ∈ as) :
    ∃ u, u.length ≤ t.length ∧ W u a := by
  induction h with
  | @last b u b' a' hb h hb' =>
    obtain rfl := List.mem_singleton.mp ha
    refine ⟨u, ?_, h⟩
    simp only [List.length_append]
    omega
  | @cons b u b' w a' as hb h hb' _ ih =>
    obtain rfl | ha := List.mem_cons.mp ha
    · refine ⟨u, ?_, h⟩
      simp only [List.length_append]
      omega
    · obtain ⟨x, hle, hx⟩ := ih ha
      refine ⟨x, Nat.le_trans hle ?_, hx⟩
      simp only [List.length_append, List.length_cons]
      omega

theorem ListText.exists_length_le (h : ListText W t as) (ha : a ∈ as) :
    ∃ u, u.length ≤ t.length ∧ W u a := by
  cases h with
  | none => exact absurd ha List.not_mem_nil
  | items h => exact h.exists_length_le ha

theorem MemberText.exists_length_le {m : String × α} (h : MemberText W t m) :
    ∃ u, u.length ≤ t.length ∧ W u m.2 := by
  cases h with
  | @pair _ b b' u key a _ _ _ h =>
    refine ⟨u, ?_, h⟩
    simp only [List.length_append, List.length_cons]
    omega

end Parts

end DescriptiveLinks.Json
