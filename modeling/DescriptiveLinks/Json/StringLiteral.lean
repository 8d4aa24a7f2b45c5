import DescriptiveLinks.Json.Error
import DescriptiveLinks.Text.Digits
import DescriptiveLinks.Text.Offset

/-! # Strings in JSON texts

Between its quotes a string holds characters as they are and escapes. A character beyond the first
2¹⁶ code points is escaped as a pair of surrogates, which have to stand together.

* `readString` reads a string whose opening quote has been read.
* `quote` writes one, with no escapes but those that are needed. -/

namespace DescriptiveLinks.Json

/-! ## Reading -/

/-- The four digits of an escape. Fewer than four bytes are the end of the text, whatever they
are. -/
def readHex (s : List Char) : Except Error (Nat × List Char) :=
  match s with
  | a :: b :: c :: d :: rest =>
    match Text.hexValue? [a, b, c, d] with
    | some n => .ok (n, rest)
    | none => .error .invalidEscape
  | _ => .error (if Text.byteLength s < 4 then .unfinishedString else .invalidEscape)

/-- Whether a code unit is the first of a pair. -/
def IsLeading (n : Nat) : Prop := 0xD800 ≤ n ∧ n ≤ 0xDBFF

/-- Whether a code unit is the second of a pair. -/
def IsTrailing (n : Nat) : Prop := 0xDC00 ≤ n ∧ n ≤ 0xDFFF

instance (n : Nat) : Decidable (IsLeading n) := inferInstanceAs (Decidable (_ ∧ _))

instance (n : Nat) : Decidable (IsTrailing n) := inferInstanceAs (Decidable (_ ∧ _))

/-- The character that a pair of code units stands for. -/
def pairedChar (leading trailing : Nat) : Char :=
  Char.ofNat ((leading - 0xD800) * 1024 + (trailing - 0xDC00) + 0x10000)

/-- The second half of a pair of escapes. -/
def readTrailing (leading : Nat) : List Char → Except Error (Char × List Char)
  | [] => .error .unfinishedString
  | ['\\'] => .error .unfinishedString
  | '\\' :: 'u' :: s => do
    let (trailing, rest) ← readHex s
    if IsTrailing trailing then return (pairedChar leading trailing, rest)
    else .error .loneSurrogate
  | _ => .error .unfinishedPair

/-- An escape by code unit, after its `u`. -/
def readUnicodeEscape (s : List Char) : Except Error (Char × List Char) := do
  let (unit, rest) ← readHex s
  if IsTrailing unit then .error .loneSurrogate
  else if IsLeading unit then readTrailing unit rest
  else return (Char.ofNat unit, rest)

/-- An escape, after its backslash. -/
def readEscape : List Char → Except Error (Char × List Char)
  | [] => .error .unfinishedString
  | 'u' :: s => readUnicodeEscape s
  | '"' :: s => .ok ('"', s)
  | '\\' :: s => .ok ('\\', s)
  | '/' :: s => .ok ('/', s)
  | 'b' :: s => .ok ('\x08', s)
  | 'f' :: s => .ok ('\x0c', s)
  | 'n' :: s => .ok ('\n', s)
  | 'r' :: s => .ok ('\r', s)
  | 't' :: s => .ok ('\t', s)
  | _ :: _ => .error .invalidEscape

/-- The next character of a string, or `none` at its closing quote. -/
def readPiece : List Char → Except Error (Option Char × List Char)
  | [] => .error .unfinishedString
  | '"' :: s => .ok (none, s)
  | '\\' :: s => do
    let (c, rest) ← readEscape s
    return (some c, rest)
  | c :: s => if c.toNat < 0x20 then .error .controlCharacter else .ok (some c, s)

theorem length_readHex {s rest : List Char} {n : Nat} (h : readHex s = .ok (n, rest)) :
    rest.length < s.length := by
  unfold readHex at h
  split at h
  · split at h
    · simp only [Except.ok.injEq, Prod.mk.injEq] at h
      simp only [List.length_cons, ← h.2]
      omega
    · simp at h
  · simp at h

theorem length_readTrailing {s rest : List Char} {n : Nat} {c : Char}
    (h : readTrailing n s = .ok (c, rest)) : rest.length < s.length := by
  unfold readTrailing at h
  split at h
  · simp at h
  · simp at h
  · next t =>
    obtain ⟨⟨m, r⟩, hm, h⟩ := bind_eq_ok_iff.1 h
    have := length_readHex hm
    simp only at h
    split at h
    · simp only [pure_eq_ok_iff, Prod.mk.injEq] at h
      simp only [List.length_cons, ← h.2]
      omega
    · simp at h
  · simp at h

theorem length_readUnicodeEscape {s rest : List Char} {c : Char}
    (h : readUnicodeEscape s = .ok (c, rest)) : rest.length < s.length := by
  obtain ⟨⟨m, r⟩, hm, h⟩ := bind_eq_ok_iff.1 h
  have := length_readHex hm
  simp only at h
  split at h
  · simp at h
  · split at h
    · have := length_readTrailing h
      omega
    · simp only [pure_eq_ok_iff, Prod.mk.injEq] at h
      rwa [← h.2]

theorem length_readEscape {s rest : List Char} {c : Char} (h : readEscape s = .ok (c, rest)) :
    rest.length < s.length := by
  unfold readEscape at h
  split at h
  · simp at h
  · have := length_readUnicodeEscape h
    simp only [List.length_cons]
    omega
  all_goals simp_all

theorem length_readPiece {s rest : List Char} {c : Option Char}
    (h : readPiece s = .ok (c, rest)) : rest.length < s.length := by
  unfold readPiece at h
  split at h
  · simp at h
  · simp_all
  · next t =>
    obtain ⟨⟨d, r⟩, hd, h⟩ := bind_eq_ok_iff.1 h
    have := length_readEscape hd
    simp only [pure_eq_ok_iff, Prod.mk.injEq] at h
    simp only [List.length_cons, ← h.2]
    omega
  · split at h <;> simp_all

/-- The characters of a string up to its closing quote. -/
def readString (s : List Char) : Except Error (String × List Char) :=
  go [] s
where
  /-- Reads on from `s`, after the characters `done`, the last one first. -/
  go (done s : List Char) : Except Error (String × List Char) :=
    match _h : readPiece s with
    | .error e => .error e
    | .ok (none, rest) => .ok (String.ofList done.reverse, rest)
    | .ok (some c, rest) => go (c :: done) rest
  termination_by s.length
  decreasing_by exact length_readPiece ‹_›

theorem length_readString_go {done s rest : List Char} {text : String}
    (h : readString.go done s = .ok (text, rest)) : rest.length < s.length := by
  fun_induction readString.go done s with
  | case1 => simp at h
  | case2 done s r hp =>
    have := length_readPiece hp
    simp only [Except.ok.injEq, Prod.mk.injEq] at h
    rwa [← h.2]
  | case3 done s c r hp ih =>
    have := length_readPiece hp
    have := ih h
    omega

theorem length_readString {s rest : List Char} {text : String}
    (h : readString s = .ok (text, rest)) : rest.length < s.length :=
  length_readString_go h

/-! ## Writing -/

/-- A character as it stands between quotes. -/
def quotedChar (c : Char) : List Char :=
  if c = '"' then ['\\', '"']
  else if c = '\\' then ['\\', '\\']
  else if c = '\x08' then ['\\', 'b']
  else if c = '\x0c' then ['\\', 'f']
  else if c = '\n' then ['\\', 'n']
  else if c = '\r' then ['\\', 'r']
  else if c = '\t' then ['\\', 't']
  else if c.toNat < 0x20 then
    ['\\', 'u', '0', '0', Nat.digitChar (c.toNat / 16), Nat.digitChar (c.toNat % 16)]
  else [c]

/-- A string between quotes. -/
def quote (s : String) : List Char :=
  '"' :: s.toList.flatMap quotedChar ++ ['"']

end DescriptiveLinks.Json
