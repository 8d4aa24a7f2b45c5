import DescriptiveLinks.Json.Printer
import DescriptiveLinks.Proofs.Json.Reading

/-! # Writing follows the grammar

What is written of a value is one of its texts, so it is read back as the same value. That needs
numbers that are integers of 64 bits, since any other is read as a decimal, and no more arrays and
objects inside each other than may be open at once.

* `Json.Exact` says of a value that it is written exactly.
* `Json.parse_render` says that such a value is read back from the line that it is written on. -/

namespace DescriptiveLinks.Json

/-! ## Strings -/

/-- The last two digits of an escape by code unit give a control character. -/
theorem hexValue?_controlDigits :
    ∀ n < 0x20, Text.hexValue? ['0', '0', Nat.digitChar (n / 16), Nat.digitChar (n % 16)] =
      some n := by
  decide

/-- **A character** is written by one of its texts. -/
theorem charText_quotedChar (c : Char) : CharText (quotedChar c) c := by
  have hletter {e d : Char} (hc : c = d) (h : (e, d) ∈ letterEscapes) : CharText ['\\', e] c := by
    rw [hc]
    exact .letter h
  rw [quotedChar]
  split
  · next hc => exact hletter hc (by decide)
  next hquote =>
  split
  · next hc => exact hletter hc (by decide)
  next hslash =>
  split
  · next hc => exact hletter hc (by decide)
  split
  · next hc => exact hletter hc (by decide)
  split
  · next hc => exact hletter hc (by decide)
  split
  · next hc => exact hletter hc (by decide)
  split
  · next hc => exact hletter hc (by decide)
  split
  · next hcontrol =>
    -- Control characters lie far below the code units that come in pairs.
    have hunit : ¬ IsLeading c.toNat ∧ ¬ IsTrailing c.toNat := by
      rw [IsLeading, IsTrailing]
      omega
    have htext := CharText.unit ⟨rfl, hexValue?_controlDigits c.toNat hcontrol⟩ hunit
    rwa [Char.ofNat_toNat] at htext
  · next hcontrol => exact .plain ⟨hquote, hslash⟩ (Nat.not_lt.mp hcontrol)

theorem charsText_flatMap_quotedChar (cs : List Char) : CharsText (cs.flatMap quotedChar) cs := by
  induction cs with
  | nil => exact .nil
  | cons c cs ih =>
    rw [List.flatMap_cons]
    exact .cons (charText_quotedChar c) ih

/-- A string is written by one of its texts. -/
theorem stringText_quote (s : String) : StringText (quote s) s :=
  .quoted (charsText_flatMap_quotedChar s.toList)

/-! ## Numbers -/

/-- The digits of a number do not start with a zero, unless it is zero. -/
theorem eq_zero_of_head?_toDigits {n : Nat} (h : (Nat.toDigits 10 n).head? = some '0') : n = 0 := by
  induction n using Nat.strongRecOn with
  | ind n ih =>
    by_cases hn : n < 10
    · have hdigit : ∀ m < 10, some m.digitChar = some '0' → m = 0 := by decide
      rw [Nat.toDigits_of_lt_base hn] at h
      exact hdigit n hn h
    · -- The first digit is that of the number without its last digit, which is not zero.
      rw [Nat.toDigits_of_base_le (by decide) (Nat.not_lt.mp hn)] at h
      obtain ⟨c, cs, hdigits⟩ := List.exists_cons_of_ne_nil (Nat.toDigits_ne_nil (n := n / 10))
      have hzero := ih (n / 10) (by omega) (by rw [hdigits] at h ⊢; exact h)
      omega

theorem isWhole_toDigits (n : Nat) : IsWhole (Nat.toDigits 10 n) := by
  refine ⟨isDigits_iff.mpr ⟨Nat.toDigits_ne_nil, fun c hc => ?_⟩, fun h => ?_⟩
  · exact Nat.isDigit_of_mem_toDigits (by decide) (by decide) hc
  · rw [eq_zero_of_head?_toDigits h]
    exact Nat.toDigits_zero 10

theorem digitsValue_toDigits (n : Nat) : Text.digitsValue (Nat.toDigits 10 n) = n := by
  have h := Nat.ofDigitChars_ten_toDigits (n := n)
  rw [Nat.ofDigitChars_eq_foldl] at h
  simpa only [Text.digitsValue, Text.digitValue, Nat.mul_comm] using h

/-- Whether a number is an integer of 64 bits. -/
def Number.IsWord : Number → Prop
  | integer n => -(wordLimit / 2 : Nat) ≤ n ∧ n < wordLimit
  | decimal .. => False

theorem Number.isWord_natCast {n : Nat} (h : n < wordLimit) : (integer n).IsWord := by
  constructor <;> omega

/-- **An integer of 64 bits** is written by one of its texts. -/
theorem numberText_print {n : Number} (h : n.IsWord) : NumberText n.print n := by
  cases n with
  | decimal => exact h.elim
  | integer n =>
    obtain ⟨hlow, hhigh⟩ := h
    cases n with
    | ofNat n =>
      have hprint : (Number.integer (.ofNat n)).print = Nat.toDigits 10 n := by
        show n.repr.toList = _
        rw [Nat.repr_eq_ofList_toDigits, String.toList_ofList]
      have hlt : Text.digitsValue (Nat.toDigits 10 n) < wordLimit := by
        rw [digitsValue_toDigits]
        exact Int.ofNat_lt.mp hhigh
      have htext := NumberText.natural (isWhole_toDigits n) hlt
      rw [digitsValue_toDigits] at htext
      rw [hprint]
      exact htext
    | negSucc n =>
      have hprint : (Number.integer (.negSucc n)).print = '-' :: Nat.toDigits 10 (n + 1) := by
        simp [Number.print, toString, Int.repr, Nat.repr_eq_ofList_toDigits]
      have hpos : 0 < Text.digitsValue (Nat.toDigits 10 (n + 1)) := by
        rw [digitsValue_toDigits]
        exact Nat.succ_pos n
      have hle : Text.digitsValue (Nat.toDigits 10 (n + 1)) ≤ wordLimit / 2 := by
        rw [digitsValue_toDigits]
        omega
      have htext := NumberText.negative (isWhole_toDigits (n + 1)) hpos hle
      rw [digitsValue_toDigits] at htext
      rw [hprint]
      exact htext

/-! ## Values -/

/-- Whether a value is **written exactly**: its numbers are integers of 64 bits, and at most `depth`
arrays and objects stand inside each other. -/
inductive Exact : Nat → Value → Prop
  /-- The value `null`. -/
  | null {depth : Nat} : Exact depth .null
  /-- A truth value. -/
  | bool {depth : Nat} (b : Bool) : Exact depth (.bool b)
  /-- An integer of 64 bits. -/
  | number {depth : Nat} {n : Number} (h : n.IsWord) : Exact depth (.number n)
  /-- A string. -/
  | string {depth : Nat} (s : String) : Exact depth (.string s)
  /-- An array of such values, with one level less in them. -/
  | array {depth : Nat} {items : List Value} (h : ∀ v ∈ items, Exact depth v) :
    Exact (depth + 1) (.array items)
  /-- An object with such values, with one level less in them. -/
  | object {depth : Nat} {members : List (String × Value)} (h : ∀ m ∈ members, Exact depth m.2) :
    Exact (depth + 1) (.object members)

theorem isBlank_lineBreak (depth : Nat) : IsBlank (lineBreak depth) := by
  intro c hc
  obtain rfl | hc := List.mem_cons.mp hc
  · decide
  · rw [List.eq_of_mem_replicate hc]
    decide

/-- What is written of a member, where its value starts on a line at the given depth. -/
def printMember (depth : Nat) (m : String × Value) : List Char :=
  quote m.1 ++ ':' :: ' ' :: m.2.print depth

/-- The items after the first are written one like the other. -/
theorem printItems_eq_flatMap (depth : Nat) (vs : List Value) :
    Value.printItems depth vs = vs.flatMap fun v => ',' :: (lineBreak depth ++ v.print depth) := by
  induction vs with
  | nil => rfl
  | cons v vs ih => rw [Value.printItems, ih, List.flatMap_cons]; rfl

/-- The members after the first are written one like the other. -/
theorem printMembers_eq_flatMap (depth : Nat) (members : List (String × Value)) :
    Value.printMembers depth members =
      members.flatMap fun m => ',' :: (lineBreak depth ++ printMember depth m) := by
  induction members with
  | nil => rfl
  | cons m members ih =>
    rw [Value.printMembers, ih, List.flatMap_cons]
    simp [printMember]

/-- Items that are written by their texts, with a comma and white space between them. -/
theorem itemsText_flatMap {α : Type} {W : List Char → α → Prop} {write : α → List Char}
    {b b' : List Char} (hb : IsBlank b) (hb' : IsBlank b') {a : α} {as : List α}
    (h : ∀ x ∈ a :: as, W (write x) x) :
    ItemsText W (b ++ (write a ++ ((as.flatMap fun x => ',' :: (b ++ write x)) ++ b')))
      (a :: as) := by
  induction as generalizing a with
  | nil => exact .last hb (h a List.mem_cons_self) hb'
  | cons x as ih =>
    obtain ⟨ha, has⟩ := List.forall_mem_cons.mp h
    have hitems := ItemsText.cons hb ha isBlank_nil (ih has)
    simpa only [List.flatMap_cons, List.nil_append, List.cons_append, List.append_assoc] using
      hitems

theorem memberText_printMember {W : List Char → Value → Prop} {depth : Nat} {m : String × Value}
    (h : W (m.2.print depth) m.2) : MemberText W (printMember depth m) m :=
  @MemberText.pair _ W _ [] [' '] _ _ _ (stringText_quote m.1) isBlank_nil
    (List.forall_mem_singleton.mpr rfl) h

theorem valueText_of_scalarText {t : List Char} {v : Value} (h : ScalarText t v) (depth : Nat) :
    ValueText depth t v := by
  cases depth with
  | zero => exact h
  | succ depth => exact .inl h

/-- **A value** that is written exactly is written by one of its texts. -/
theorem Exact.valueText_print {depth : Nat} {v : Value} (h : Exact depth v) (indent : Nat) :
    ValueText depth (v.print indent) v := by
  -- The values inside stand on lines of greater depth, so the induction is for any.
  induction h generalizing indent with
  | null => exact valueText_of_scalarText .null _
  | bool b => cases b <;> exact valueText_of_scalarText (by constructor) _
  | number h => exact valueText_of_scalarText (.number (numberText_print h)) _
  | string s => exact valueText_of_scalarText (.string (stringText_quote s)) _
  | @array depth items _ ih =>
    cases items with
    | nil => exact .inr (@ContainerText.array _ [] [] (.none isBlank_nil))
    | cons v vs =>
      have hitems := itemsText_flatMap (isBlank_lineBreak (indent + 1)) (isBlank_lineBreak indent)
        fun w hw => ih w hw (indent + 1)
      rw [← printItems_eq_flatMap] at hitems
      have hvalue := ContainerText.array (.items hitems)
      rw [Value.print]
      simp only [List.cons_append, List.append_assoc] at hvalue ⊢
      exact .inr hvalue
  | @object depth members _ ih =>
    cases members with
    | nil => exact .inr (@ContainerText.object _ [] [] (.none isBlank_nil))
    | cons m members =>
      have hmembers := itemsText_flatMap (isBlank_lineBreak (indent + 1)) (isBlank_lineBreak indent)
        fun x hx => memberText_printMember (ih x hx (indent + 1))
      rw [← printMembers_eq_flatMap] at hmembers
      have hvalue := ContainerText.object (.items hmembers)
      rw [Value.print]
      simp only [printMember, List.cons_append, List.append_assoc] at hvalue ⊢
      exact .inr hvalue

/-- **A value is read back** from the line that it is written on. -/
theorem parse_render {v : Value} (h : Exact maxDepth v) : parse (v.render ++ "\n") = .ok v := by
  refine parse_eq_ok_iff.mpr ⟨[], v.print 0, ['\n'], ?_, isBlank_nil, h.valueText_print 0, ?_⟩
  · simp [Value.render]
  · exact List.forall_mem_singleton.mpr rfl

end DescriptiveLinks.Json
