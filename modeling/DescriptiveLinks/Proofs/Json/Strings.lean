import DescriptiveLinks.Proofs.Json.Grammar

/-! # Reading strings

A string ends at its closing quote, so whether it is read does not depend on what comes after it.
`Json.readString_eq_ok_iff` is therefore an equivalence. -/

namespace DescriptiveLinks.Json

variable {s rest : List Char}

/-! ## Escapes -/

theorem readHex_eq_ok_iff {n : Nat} :
    readHex s = .ok (n, rest) ↔ ∃ ds, IsUnit ds n ∧ s = ds ++ rest := by
  constructor
  · intro h
    unfold readHex at h
    split at h
    · next a b c d rest' =>
      split at h
      · next hvalue =>
        obtain ⟨rfl, rfl⟩ := Prod.mk.inj (Except.ok.inj h)
        exact ⟨[a, b, c, d], ⟨rfl, hvalue⟩, rfl⟩
      · cases h
    · cases h
  · rintro ⟨ds, ⟨hlength, hvalue⟩, rfl⟩
    obtain _ | ⟨a, _ | ⟨b, _ | ⟨c, _ | ⟨d, _ | ⟨e, ds⟩⟩⟩⟩⟩ := ds <;> simp at hlength
    simp [readHex, hvalue]

theorem readTrailing_eq_ok_iff {m : Nat} {c : Char} :
    readTrailing m s = .ok (c, rest) ↔
      ∃ es n, IsUnit es n ∧ IsTrailing n ∧ c = pairedChar m n ∧
        s = '\\' :: 'u' :: (es ++ rest) := by
  constructor
  · intro h
    unfold readTrailing at h
    split at h
    · cases h
    · cases h
    · obtain ⟨⟨n, rest'⟩, hread, h⟩ := bind_eq_ok_iff.mp h
      dsimp only at h
      split at h
      · next htrailing =>
        obtain ⟨rfl, rfl⟩ := Prod.mk.inj (pure_eq_ok_iff.mp h)
        obtain ⟨es, hunit, rfl⟩ := readHex_eq_ok_iff.mp hread
        exact ⟨es, n, hunit, htrailing, rfl, rfl⟩
      · cases h
    · cases h
  · rintro ⟨es, n, hunit, htrailing, hc, rfl⟩
    rw [readTrailing, bind_eq_ok_iff, hc]
    refine ⟨(n, rest), readHex_eq_ok_iff.mpr ⟨es, hunit, rfl⟩, ?_⟩
    dsimp only
    rw [if_pos htrailing]
    rfl

/-- An escape by code unit is that of a character, or of two code units that belong together. -/
theorem readUnicodeEscape_eq_ok_iff {c : Char} :
    readUnicodeEscape s = .ok (c, rest) ↔
      (∃ ds n, IsUnit ds n ∧ (¬ IsLeading n ∧ ¬ IsTrailing n) ∧ c = Char.ofNat n ∧ s = ds ++ rest) ∨
      ∃ ds m es n, IsUnit ds m ∧ IsUnit es n ∧ IsLeading m ∧ IsTrailing n ∧ c = pairedChar m n ∧
        s = ds ++ '\\' :: 'u' :: (es ++ rest) := by
  rw [readUnicodeEscape, bind_eq_ok_iff]
  constructor
  · rintro ⟨⟨m, rest'⟩, hread, h⟩
    obtain ⟨ds, hunit, rfl⟩ := readHex_eq_ok_iff.mp hread
    dsimp only at h
    split at h
    · cases h
    · next htrailing =>
      split at h
      · next hleading =>
        obtain ⟨es, n, hunit', htrailing', hc, rfl⟩ := readTrailing_eq_ok_iff.mp h
        exact .inr ⟨ds, m, es, n, hunit, hunit', hleading, htrailing', hc, rfl⟩
      · next hleading =>
        obtain ⟨rfl, rfl⟩ := Prod.mk.inj (pure_eq_ok_iff.mp h)
        exact .inl ⟨ds, m, hunit, ⟨hleading, htrailing⟩, rfl, rfl⟩
  · rintro (⟨ds, n, hunit, ⟨hleading, htrailing⟩, hc, rfl⟩ |
      ⟨ds, m, es, n, hunit, hunit', hleading, htrailing, hc, rfl⟩)
    · refine ⟨(n, rest), readHex_eq_ok_iff.mpr ⟨ds, hunit, rfl⟩, ?_⟩
      dsimp only
      rw [if_neg htrailing, if_neg hleading, hc]
      rfl
    · refine ⟨(m, _), readHex_eq_ok_iff.mpr ⟨ds, hunit, rfl⟩, ?_⟩
      -- No code unit is both the first and the second of a pair.
      have htrailing' : ¬ IsTrailing m := by
        simp only [IsLeading, IsTrailing] at hleading ⊢
        omega
      dsimp only
      rw [if_neg htrailing', if_pos hleading]
      exact readTrailing_eq_ok_iff.mpr ⟨es, n, hunit', htrailing, hc, rfl⟩

theorem readEscape_letter {e c : Char} (h : (e, c) ∈ letterEscapes) (rest : List Char) :
    readEscape (e :: rest) = .ok (c, rest) := by
  simp only [letterEscapes, List.mem_cons, Prod.mk.injEq, List.not_mem_nil, or_false] at h
  rcases h with ⟨rfl, rfl⟩ | ⟨rfl, rfl⟩ | ⟨rfl, rfl⟩ | ⟨rfl, rfl⟩ | ⟨rfl, rfl⟩ | ⟨rfl, rfl⟩ |
    ⟨rfl, rfl⟩ | ⟨rfl, rfl⟩ <;> rfl

theorem readEscape_eq_ok_iff {c : Char} :
    readEscape s = .ok (c, rest) ↔ ∃ t, CharText ('\\' :: t) c ∧ s = t ++ rest := by
  constructor
  · intro h
    unfold readEscape at h
    split at h
    · cases h
    · rcases readUnicodeEscape_eq_ok_iff.mp h with
        ⟨ds, n, hunit, hn, hc, rfl⟩ | ⟨ds, m, es, n, hm, hn, hleading, htrailing, hc, rfl⟩
      · rw [hc]
        exact ⟨'u' :: ds, .unit hunit hn, rfl⟩
      · rw [hc]
        refine ⟨'u' :: (ds ++ '\\' :: 'u' :: es), .pair hm hn hleading htrailing, ?_⟩
        simp only [List.cons_append, List.append_assoc]
    all_goals
      cases h
    all_goals
      exact ⟨[_], .letter (by simp [letterEscapes]), rfl⟩
  · rintro ⟨t, h, rfl⟩
    cases h with
    | plain hc => exact absurd rfl hc.2
    | letter h => exact readEscape_letter h rest
    | unit h hn =>
      exact readUnicodeEscape_eq_ok_iff.mpr (.inl ⟨_, _, h, hn, rfl, rfl⟩)
    | @pair ds es m n hm hn hleading htrailing =>
      refine readUnicodeEscape_eq_ok_iff.mpr
        (.inr ⟨ds, m, es, n, hm, hn, hleading, htrailing, rfl, ?_⟩)
      exact List.append_assoc ds ('\\' :: 'u' :: es) rest

/-! ## Characters -/

/-- The next character is read, or the closing quote. -/
theorem readPiece_eq_ok_none_iff : readPiece s = .ok (none, rest) ↔ s = '"' :: rest := by
  constructor
  · intro h
    unfold readPiece at h
    split at h
    · cases h
    · cases h
      rfl
    · obtain ⟨p, -, h⟩ := bind_eq_ok_iff.mp h
      cases h
    · split at h <;> cases h
  · rintro rfl
    rfl

theorem readPiece_eq_ok_some_iff {c : Char} :
    readPiece s = .ok (some c, rest) ↔ ∃ t, CharText t c ∧ s = t ++ rest := by
  constructor
  · intro h
    unfold readPiece at h
    -- The end of the text, the closing quote, an escape, and any other character.
    split at h
    · cases h
    · cases h
    · obtain ⟨⟨d, rest'⟩, hread, h⟩ := bind_eq_ok_iff.mp h
      obtain ⟨rfl, rfl⟩ : d = c ∧ rest' = rest := by simpa using h
      obtain ⟨t, ht, rfl⟩ := readEscape_eq_ok_iff.mp hread
      exact ⟨'\\' :: t, ht, rfl⟩
    · next d s hquote hslash =>
      split at h
      · cases h
      · next hcontrol =>
        obtain ⟨rfl, rfl⟩ : d = c ∧ s = rest := by simpa using h
        exact ⟨[d], .plain ⟨hquote, hslash⟩ (Nat.not_lt.mp hcontrol), rfl⟩
  · rintro ⟨t, h, rfl⟩
    have hescape {t : List Char} (h : CharText ('\\' :: t) c) :
        readPiece ('\\' :: (t ++ rest)) = .ok (some c, rest) :=
      bind_eq_ok_iff.mpr ⟨(c, rest), readEscape_eq_ok_iff.mpr ⟨t, h, rfl⟩, rfl⟩
    cases h with
    | plain hc h =>
      obtain ⟨hquote, hslash⟩ := hc
      rw [List.singleton_append, readPiece.eq_4 c rest hquote hslash]
      exact if_neg (Nat.not_lt.mpr h)
    | letter h => exact hescape (.letter h)
    | unit h hn => exact hescape (.unit h hn)
    | pair hm hn hleading htrailing => exact hescape (.pair hm hn hleading htrailing)

/-! ## Strings -/

theorem readString_go_of_none {done : List Char} (h : readPiece s = .ok (none, rest)) :
    readString.go done s = .ok (String.ofList done.reverse, rest) := by
  rw [readString.go]
  split <;> simp_all

theorem readString_go_of_some {done : List Char} {c : Char}
    (h : readPiece s = .ok (some c, rest)) :
    readString.go done s = readString.go (c :: done) rest := by
  rw [readString.go]
  split <;> simp_all

/-- Characters are read up to the closing quote, after those that have been read. -/
theorem readString_go_eq_ok_iff {done : List Char} {text : String} :
    readString.go done s = .ok (text, rest) ↔
      ∃ t cs, CharsText t cs ∧ text = String.ofList (done.reverse ++ cs) ∧
        s = t ++ '"' :: rest := by
  constructor
  · intro h
    fun_induction readString.go done s with
    | case1 => cases h
    | case2 done s rest' hpiece =>
      obtain ⟨rfl, rfl⟩ := Prod.mk.inj (Except.ok.inj h)
      refine ⟨[], [], .nil, ?_, readPiece_eq_ok_none_iff.mp hpiece⟩
      rw [List.append_nil]
    | case3 done s c rest' hpiece ih =>
      obtain ⟨t, cs, hcs, rfl, rfl⟩ := ih h
      obtain ⟨u, hu, rfl⟩ := readPiece_eq_ok_some_iff.mp hpiece
      refine ⟨u ++ t, c :: cs, .cons hu hcs, ?_, ?_⟩
      · rw [List.reverse_cons, List.append_assoc, List.singleton_append]
      · rw [List.append_assoc]
  · rintro ⟨t, cs, hcs, rfl, rfl⟩
    -- The characters read so far grow, so the induction is for any of them.
    induction hcs generalizing done with
    | nil =>
      rw [List.append_nil]
      exact readString_go_of_none rfl
    | @cons t u c cs ht hcs ih =>
      have hpiece : readPiece (t ++ (u ++ '"' :: rest)) = .ok (some c, u ++ '"' :: rest) :=
        readPiece_eq_ok_some_iff.mpr ⟨t, ht, rfl⟩
      rw [List.append_assoc, readString_go_of_some hpiece, ih, List.reverse_cons,
        List.append_assoc, List.singleton_append]

/-- **A string is read** up to its closing quote. -/
theorem readString_eq_ok_iff {text : String} :
    readString s = .ok (text, rest) ↔ ∃ t, StringText ('"' :: t) text ∧ s = t ++ rest := by
  rw [readString, readString_go_eq_ok_iff]
  constructor
  · rintro ⟨t, cs, hcs, rfl, rfl⟩
    refine ⟨t ++ ['"'], .quoted ?_, ?_⟩
    · simpa using hcs
    · simp
  · rintro ⟨t, h, rfl⟩
    cases h with
    | @quoted t _ h => exact ⟨t, text.toList, h, by simp, by simp⟩

end DescriptiveLinks.Json
