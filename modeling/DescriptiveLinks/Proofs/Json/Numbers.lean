import DescriptiveLinks.Proofs.Json.Grammar

/-! # Reading numbers

A number goes on for as long as it can, so it is read back from a text only if what comes after it
could not be more of it.

* `Json.readNumber_sound` says that what is read is in the grammar.
* `Json.readNumber_complete` says that what is in the grammar is read. -/

namespace DescriptiveLinks.Json

/-- Whether a text does not start with a digit. -/
def NoDigit (s : List Char) : Prop :=
  ∀ c, s.head? = some c → c.isDigit = false

/-- Whether a number ends where a text begins. -/
def Closes (s : List Char) : Prop :=
  ∀ c, s.head? = some c → c.isDigit = false ∧ c ≠ '.' ∧ c ≠ 'e' ∧ c ≠ 'E'

theorem closes_nil : Closes [] :=
  fun _ h => nomatch h

theorem closes_cons {c : Char} (s : List Char)
    (h : c.isDigit = false ∧ c ≠ '.' ∧ c ≠ 'e' ∧ c ≠ 'E') : Closes (c :: s) := by
  intro d hd
  rw [← Option.some.inj hd]
  exact h

theorem noDigit_cons {c : Char} (s : List Char) (h : c.isDigit = false) : NoDigit (c :: s) := by
  intro d hd
  rw [← Option.some.inj hd]
  exact h

theorem Closes.noDigit {s : List Char} (h : Closes s) : NoDigit s :=
  fun c hc => (h c hc).1

/-! ## Digits -/

variable {s t rest ds : List Char}

theorem isDigits_iff : Text.isDigits ds ↔ ds ≠ [] ∧ ∀ c ∈ ds, c.isDigit := by
  simp [Text.isDigits]

/-- Digits begin with a digit. -/
theorem exists_cons_of_isDigits (h : Text.isDigits ds) :
    ∃ c cs, ds = c :: cs ∧ c.isDigit := by
  obtain ⟨hne, hall⟩ := isDigits_iff.mp h
  obtain ⟨c, cs, rfl⟩ := List.exists_cons_of_ne_nil hne
  exact ⟨c, cs, rfl, hall c List.mem_cons_self⟩

/-- As many digits are read as there are. -/
theorem readDigits_eq_ok_iff :
    readDigits s = .ok (ds, rest) ↔ s = ds ++ rest ∧ Text.isDigits ds ∧ NoDigit rest := by
  constructor
  · intro h
    rw [readDigits] at h
    split at h
    · cases h
    · next hne =>
      obtain ⟨rfl, rfl⟩ := Prod.mk.inj (Except.ok.inj h)
      refine ⟨List.takeWhile_append_dropWhile.symm, ?_, ?_⟩
      · rw [isDigits_iff]
        exact ⟨by simpa using hne, List.all_eq_true.mp List.all_takeWhile⟩
      · intro c hc
        have hhead := List.head?_dropWhile_not Char.isDigit s
        rw [hc] at hhead
        exact hhead
  · rintro ⟨rfl, hds, hrest⟩
    obtain ⟨hne, hall⟩ := isDigits_iff.mp hds
    -- The rest does not start with a digit, so nothing of it is taken.
    have htake : rest.takeWhile Char.isDigit = [] := by
      cases rest with
      | nil => rfl
      | cons c rest => exact List.takeWhile_cons_of_neg (by simp [hrest c rfl])
    have hdrop : rest.dropWhile Char.isDigit = rest := by
      cases rest with
      | nil => rfl
      | cons c rest => exact List.dropWhile_cons_of_neg (by simp [hrest c rfl])
    simp [readDigits, List.takeWhile_append_of_pos hall, List.dropWhile_append_of_pos hall, htake,
      hdrop, hne]

theorem readWhole_eq_ok_iff :
    readWhole s = .ok (ds, rest) ↔ s = ds ++ rest ∧ IsWhole ds ∧ NoDigit rest := by
  -- A leading zero has to be the only digit.
  have hzero (h : Text.isDigits ds) :
      ¬ (ds.head? = some '0' ∧ 1 < ds.length) ↔ (ds.head? = some '0' → ds = ['0']) := by
    obtain ⟨c, cs, rfl, -⟩ := exists_cons_of_isDigits h
    cases cs <;> simp
  constructor
  · intro h
    obtain ⟨⟨ds', rest'⟩, hread, h⟩ := bind_eq_ok_iff.mp h
    dsimp only at h
    split at h
    · cases h
    · next hhead =>
      obtain ⟨rfl, rfl⟩ := Prod.mk.inj (pure_eq_ok_iff.mp h)
      obtain ⟨hs, hds, hrest⟩ := readDigits_eq_ok_iff.mp hread
      exact ⟨hs, ⟨hds, (hzero hds).mp hhead⟩, hrest⟩
  · rintro ⟨hs, hwhole, hrest⟩
    have hread := readDigits_eq_ok_iff.mpr ⟨hs, hwhole.1, hrest⟩
    exact bind_eq_ok_iff.mpr ⟨_, hread, if_neg ((hzero hwhole.1).mpr hwhole.2)⟩

/-! ## Fraction and exponent -/

theorem readFraction_sound {fraction : Option (List Char)}
    (h : readFraction s = .ok (fraction, rest)) :
    ∃ t, FractionText t fraction ∧ s = t ++ rest := by
  unfold readFraction at h
  split at h
  · obtain ⟨⟨ds, rest'⟩, hread, h⟩ := bind_eq_ok_iff.mp h
    obtain ⟨rfl, rfl⟩ := Prod.mk.inj (pure_eq_ok_iff.mp h)
    obtain ⟨rfl, hds, -⟩ := readDigits_eq_ok_iff.mp hread
    exact ⟨'.' :: ds, .digits hds, rfl⟩
  · obtain ⟨rfl, rfl⟩ := Prod.mk.inj (Except.ok.inj h)
    exact ⟨[], .absent, rfl⟩

theorem readFraction_complete {fraction : Option (List Char)} (h : FractionText t fraction)
    (hrest : NoDigit rest) (hpoint : rest.head? ≠ some '.') :
    readFraction (t ++ rest) = .ok (fraction, rest) := by
  cases h with
  | absent =>
    rw [List.nil_append]
    unfold readFraction
    split
    · exact absurd rfl hpoint
    · rfl
  | @digits ds h =>
    exact bind_eq_ok_iff.mpr ⟨(ds, rest), readDigits_eq_ok_iff.mpr ⟨rfl, h, hrest⟩, rfl⟩

theorem readSigned_sound {n : Int} (h : readSigned s = .ok (n, rest)) :
    ∃ t, SignedText t n ∧ s = t ++ rest := by
  unfold readSigned at h
  split at h
  all_goals
    obtain ⟨⟨ds, rest'⟩, hread, h⟩ := bind_eq_ok_iff.mp h
    obtain ⟨rfl, rfl⟩ := Prod.mk.inj (pure_eq_ok_iff.mp h)
    obtain ⟨rfl, hds, -⟩ := readDigits_eq_ok_iff.mp hread
  · exact ⟨'+' :: ds, .plus hds, rfl⟩
  · exact ⟨'-' :: ds, .minus hds, rfl⟩
  · exact ⟨ds, .plain hds, rfl⟩

theorem readSigned_complete {n : Int} (h : SignedText t n) (hrest : NoDigit rest) :
    readSigned (t ++ rest) = .ok (n, rest) := by
  cases h with
  | plain h =>
    have hread := readDigits_eq_ok_iff.mpr ⟨rfl, h, hrest⟩
    obtain ⟨c, cs, rfl, hc⟩ := exists_cons_of_isDigits h
    unfold readSigned
    split
    · next heq =>
      -- A sign is no digit.
      obtain ⟨rfl, -⟩ := List.cons.inj heq
      cases hc
    · next heq =>
      obtain ⟨rfl, -⟩ := List.cons.inj heq
      cases hc
    · exact bind_eq_ok_iff.mpr ⟨_, hread, rfl⟩
  | @plus ds h =>
    exact bind_eq_ok_iff.mpr ⟨(ds, rest), readDigits_eq_ok_iff.mpr ⟨rfl, h, hrest⟩, rfl⟩
  | @minus ds h =>
    exact bind_eq_ok_iff.mpr ⟨(ds, rest), readDigits_eq_ok_iff.mpr ⟨rfl, h, hrest⟩, rfl⟩

theorem readExponent_sound {exponent : Option Int} (h : readExponent s = .ok (exponent, rest)) :
    ∃ t, ExponentText t exponent ∧ s = t ++ rest := by
  unfold readExponent at h
  split at h
  · obtain ⟨⟨n, rest'⟩, hread, h⟩ := bind_eq_ok_iff.mp h
    obtain ⟨rfl, rfl⟩ := Prod.mk.inj (pure_eq_ok_iff.mp h)
    obtain ⟨t, ht, rfl⟩ := readSigned_sound hread
    exact ⟨'e' :: t, .signed (.inl rfl) ht, rfl⟩
  · obtain ⟨⟨n, rest'⟩, hread, h⟩ := bind_eq_ok_iff.mp h
    obtain ⟨rfl, rfl⟩ := Prod.mk.inj (pure_eq_ok_iff.mp h)
    obtain ⟨t, ht, rfl⟩ := readSigned_sound hread
    exact ⟨'E' :: t, .signed (.inr rfl) ht, rfl⟩
  · obtain ⟨rfl, rfl⟩ := Prod.mk.inj (Except.ok.inj h)
    exact ⟨[], .absent, rfl⟩

theorem readExponent_complete {exponent : Option Int} (h : ExponentText t exponent)
    (hrest : Closes rest) : readExponent (t ++ rest) = .ok (exponent, rest) := by
  cases h with
  | absent =>
    rw [List.nil_append]
    unfold readExponent
    split
    · exact absurd rfl (hrest 'e' rfl).2.2.1
    · exact absurd rfl (hrest 'E' rfl).2.2.2
    · rfl
  | @signed c t n hc h =>
    have hread : readSigned (t ++ rest) = .ok (n, rest) :=
      readSigned_complete h hrest.noDigit
    rcases hc with rfl | rfl <;> exact bind_eq_ok_iff.mpr ⟨_, hread, rfl⟩

/-! ## Parts -/

/-- A fraction may come before an exponent, and digits may not. -/
theorem ExponentText.head?_append {exponent : Option Int} (h : ExponentText t exponent)
    (hrest : Closes rest) : NoDigit (t ++ rest) ∧ (t ++ rest).head? ≠ some '.' := by
  cases h with
  | absent => exact ⟨hrest.noDigit, fun hpoint => (hrest '.' hpoint).2.1 rfl⟩
  | signed hc h =>
    rcases hc with rfl | rfl
    · exact ⟨noDigit_cons _ rfl, by simp⟩
    · exact ⟨noDigit_cons _ rfl, by simp⟩

theorem FractionText.noDigit_append {fraction : Option (List Char)} (h : FractionText t fraction)
    (hrest : NoDigit rest) : NoDigit (t ++ rest) := by
  cases h with
  | absent => exact hrest
  | digits h => exact noDigit_cons _ rfl

theorem readUnsigned_sound {negative : Bool} {p : NumberParts}
    (h : readUnsigned negative s = .ok (p, rest)) :
    ∃ t, UnsignedText negative t p ∧ s = t ++ rest := by
  obtain ⟨⟨whole, s₁⟩, hread, h⟩ := bind_eq_ok_iff.mp h
  obtain ⟨⟨fraction, s₂⟩, hfraction, h⟩ := bind_eq_ok_iff.mp h
  obtain ⟨⟨exponent, s₃⟩, hexponent, h⟩ := bind_eq_ok_iff.mp h
  obtain ⟨rfl, rfl⟩ := Prod.mk.inj (pure_eq_ok_iff.mp h)
  obtain ⟨u, hu, rfl⟩ := readExponent_sound hexponent
  obtain ⟨t, ht, rfl⟩ := readFraction_sound hfraction
  obtain ⟨rfl, hwhole, -⟩ := readWhole_eq_ok_iff.mp hread
  exact ⟨whole ++ (t ++ u), .parts hwhole ht hu, by simp only [List.append_assoc]⟩

theorem readUnsigned_complete {negative : Bool} {p : NumberParts} (h : UnsignedText negative t p)
    (hrest : Closes rest) : readUnsigned negative (t ++ rest) = .ok (p, rest) := by
  cases h with
  | @parts whole t u fraction exponent hwhole ht hu =>
    obtain ⟨hdigit, hpoint⟩ := hu.head?_append hrest
    simp only [List.append_assoc]
    refine bind_eq_ok_iff.mpr ⟨(whole, t ++ (u ++ rest)), ?_, ?_⟩
    · exact readWhole_eq_ok_iff.mpr ⟨rfl, hwhole, ht.noDigit_append hdigit⟩
    refine bind_eq_ok_iff.mpr ⟨(fraction, u ++ rest), readFraction_complete ht hdigit hpoint, ?_⟩
    exact bind_eq_ok_iff.mpr ⟨(exponent, rest), readExponent_complete hu hrest, rfl⟩

theorem readParts_sound {p : NumberParts} (h : readParts s = .ok (p, rest)) :
    ∃ t, PartsText t p ∧ s = t ++ rest := by
  unfold readParts at h
  split at h
  · obtain ⟨t, ht, rfl⟩ := readUnsigned_sound h
    exact ⟨'-' :: t, .negative ht, rfl⟩
  · obtain ⟨t, ht, rfl⟩ := readUnsigned_sound h
    exact ⟨t, .positive ht, rfl⟩

/-- A number without a sign begins with a digit. -/
theorem UnsignedText.exists_cons {negative : Bool} {p : NumberParts}
    (h : UnsignedText negative t p) : ∃ c cs, t = c :: cs ∧ c.isDigit := by
  cases h with
  | parts hwhole ht hu =>
    obtain ⟨c, cs, rfl, hc⟩ := exists_cons_of_isDigits hwhole.1
    exact ⟨c, _, rfl, hc⟩

theorem readParts_complete {p : NumberParts} (h : PartsText t p) (hrest : Closes rest) :
    readParts (t ++ rest) = .ok (p, rest) := by
  cases h with
  | positive h =>
    have hread := readUnsigned_complete h hrest
    -- The first character is a digit, so it is not taken for a sign.
    obtain ⟨c, cs, rfl, hc⟩ := h.exists_cons
    unfold readParts
    split
    · next heq =>
      obtain ⟨rfl, -⟩ := List.cons.inj heq
      cases hc
    · exact hread
  | negative h => exact readUnsigned_complete h hrest

/-! ## Numbers -/

/-- Parts of an integer give an integer. -/
theorem NumberParts.number_of_isInteger {p : NumberParts} (h : p.IsInteger) :
    p.number = .ok (.integer
      (if p.negative then -Text.digitsValue p.whole else Text.digitsValue p.whole)) := by
  obtain ⟨negative, whole, fraction, exponent⟩ := p
  obtain ⟨rfl, rfl, hvalue⟩ := h
  cases negative with
  | false =>
    have hlt : Text.digitsValue whole < wordLimit := hvalue
    simp [NumberParts.number, hlt]
  | true =>
    obtain ⟨hpos, hle⟩ : 0 < Text.digitsValue whole ∧ Text.digitsValue whole ≤ wordLimit / 2 :=
      hvalue
    simp [NumberParts.number, hpos, hle]

/-- Other parts give a decimal, if it is not too large. -/
theorem NumberParts.number_of_not_isInteger {p : NumberParts} (h : ¬ p.IsInteger) :
    p.number = if overflows p.decimal.1 p.decimal.2 then .error .numberOutOfRange
      else .ok (.decimal p.negative p.decimal.1 p.decimal.2) := by
  have hnatural : ¬ ((p.fraction.isNone && p.exponent.isNone) && !p.negative &&
      decide (Text.digitsValue p.whole < wordLimit)) := by
    intro hall
    simp only [Bool.and_eq_true, Bool.not_eq_true', decide_eq_true_eq, Option.isNone_iff_eq_none]
      at hall
    obtain ⟨⟨⟨hfraction, hexponent⟩, hsign⟩, hlt⟩ := hall
    exact h ⟨hfraction, hexponent, by rw [hsign]; exact hlt⟩
  have hnegative : ¬ ((p.fraction.isNone && p.exponent.isNone) && p.negative &&
      decide (0 < Text.digitsValue p.whole) &&
      decide (Text.digitsValue p.whole ≤ wordLimit / 2)) := by
    intro hall
    simp only [Bool.and_eq_true, decide_eq_true_eq, Option.isNone_iff_eq_none] at hall
    obtain ⟨⟨⟨⟨hfraction, hexponent⟩, hsign⟩, hpos⟩, hle⟩ := hall
    exact h ⟨hfraction, hexponent, by rw [hsign]; exact ⟨hpos, hle⟩⟩
  rw [NumberParts.number]
  dsimp only
  rw [if_neg hnatural, if_neg hnegative]

/-- Without fraction and exponent, the text of a number is that of its whole part. -/
theorem UnsignedText.eq_whole {negative : Bool} {p : NumberParts} (h : UnsignedText negative t p)
    (hfraction : p.fraction = none) (hexponent : p.exponent = none) :
    t = p.whole ∧ IsWhole p.whole ∧ p.negative = negative := by
  cases h with
  | parts hwhole ht hu =>
    subst hfraction hexponent
    cases ht with
    | absent =>
      cases hu with
      | absent => exact ⟨List.append_nil _, hwhole, rfl⟩

theorem UnsignedText.of_isWhole (negative : Bool) (h : IsWhole ds) :
    UnsignedText negative ds ⟨negative, ds, none, none⟩ := by
  have hparts : UnsignedText negative (ds ++ ([] ++ [])) ⟨negative, ds, none, none⟩ :=
    .parts h .absent .absent
  rwa [List.append_nil, List.append_nil] at hparts

/-- The texts of a number are those of its parts. -/
theorem numberText_iff {n : Number} : NumberText t n ↔ ∃ p, PartsText t p ∧ p.number = .ok n := by
  constructor
  · intro h
    cases h with
    | natural h hlt =>
      exact ⟨_, .positive (.of_isWhole false h), NumberParts.number_of_isInteger ⟨rfl, rfl, hlt⟩⟩
    | negative h hpos hle =>
      exact ⟨_, .negative (.of_isWhole true h),
        NumberParts.number_of_isInteger ⟨rfl, rfl, hpos, hle⟩⟩
    | @decimal t p h hp hsmall =>
      refine ⟨p, h, ?_⟩
      rw [NumberParts.number_of_not_isInteger hp, hsmall]
      rfl
  · rintro ⟨p, ht, hn⟩
    -- The parts decide between the exact numbers and the decimals.
    by_cases hp : p.IsInteger
    · rw [NumberParts.number_of_isInteger hp] at hn
      obtain rfl := Except.ok.inj hn
      obtain ⟨hfraction, hexponent, hvalue⟩ := hp
      cases ht with
      | positive ht =>
        obtain ⟨rfl, hwhole, hsign⟩ := ht.eq_whole hfraction hexponent
        rw [hsign] at hvalue ⊢
        exact .natural hwhole hvalue
      | negative ht =>
        obtain ⟨rfl, hwhole, hsign⟩ := ht.eq_whole hfraction hexponent
        rw [hsign] at hvalue ⊢
        exact .negative hwhole hvalue.1 hvalue.2
    · rw [NumberParts.number_of_not_isInteger hp] at hn
      split at hn
      · cases hn
      · next hsmall =>
        rw [← Except.ok.inj hn]
        exact .decimal ht hp (by simpa using hsmall)

/-- **The texts of natural numbers** of 64 bits are their digits: there is no minus sign, no
fraction and no exponent. -/
theorem numberText_natCast_iff {n : Nat} :
    NumberText t (.integer n) ↔ IsWhole t ∧ Text.digitsValue t = n ∧ n < wordLimit := by
  constructor
  · intro h
    generalize hm : (n : Int) = m at h
    cases h with
    | natural h hlt =>
      -- Integers without a sign are the only ones that are not negative.
      have hn : Text.digitsValue t = n := (Int.ofNat_inj.mp hm).symm
      exact ⟨h, hn, hn ▸ hlt⟩
    | negative h hpos hle => omega
  · rintro ⟨h, rfl, hlt⟩
    exact .natural h hlt

/-- What is read as a number is one. -/
theorem readNumber_sound {n : Number} (h : readNumber s = .ok (n, rest)) :
    ∃ t, NumberText t n ∧ s = t ++ rest := by
  obtain ⟨⟨p, rest'⟩, hparts, h⟩ := bind_eq_ok_iff.mp h
  obtain ⟨n', hn, h⟩ := bind_eq_ok_iff.mp h
  obtain ⟨rfl, rfl⟩ := Prod.mk.inj (pure_eq_ok_iff.mp h)
  obtain ⟨t, ht, rfl⟩ := readParts_sound hparts
  exact ⟨t, numberText_iff.mpr ⟨p, ht, hn⟩, rfl⟩

/-- **A number is read** if it ends where the rest begins. -/
theorem readNumber_complete {n : Number} (h : NumberText t n) (hrest : Closes rest) :
    readNumber (t ++ rest) = .ok (n, rest) := by
  obtain ⟨p, ht, hn⟩ := numberText_iff.mp h
  refine bind_eq_ok_iff.mpr ⟨(p, rest), readParts_complete ht hrest, ?_⟩
  exact bind_eq_ok_iff.mpr ⟨n, hn, rfl⟩

end DescriptiveLinks.Json
