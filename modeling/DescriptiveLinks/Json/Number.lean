import DescriptiveLinks.Json.Error
import DescriptiveLinks.Json.Value
import DescriptiveLinks.Text.Digits

/-! # Numbers in JSON texts

A number without fraction and exponent that fits 64 bits is an integer and exact. Any other is a
decimal, kept as a significand of at most 64 bits and a power of ten, which is how it enters a
floating-point value; one too large for a double is refused.

* `readNumber` reads a number at the front of a text.
* `overflows` says which decimals are too large. -/

namespace DescriptiveLinks.Json

/-! ## Size -/

/-- The least number that does not fit 64 bits. -/
def wordLimit : Nat := Nat.pow 2 64

/-- A natural number rounded to 53 significant bits, to the nearest and from the middle to the even
one: the integers among the doubles. -/
def roundToDouble (n : Nat) : Nat :=
  if n < Nat.pow 2 53 then n
  else
    let shift := Nat.log2 n - 52
    let unit := Nat.pow 2 shift
    let half := unit / 2
    let kept := n / unit
    let rest := n % unit
    if half < rest ∨ (rest = half ∧ kept % 2 = 1) then (kept + 1) * unit else kept * unit

/-- Half a unit above the greatest finite double: from here on rounding goes to infinity. -/
def doubleLimit : Nat := Nat.pow 2 1024 - Nat.pow 2 970

/-- Whether a decimal overflows a double: the product of the doubles nearest to the significand and
to the power of ten rounds to infinity. Powers beyond `10 ^ 308` are no doubles. -/
def overflows (significand : Nat) (exponent : Int) : Bool :=
  if significand = 0 then false
  else if exponent < 0 then false
  else if 308 < exponent then true
  else doubleLimit ≤ roundToDouble significand * roundToDouble (Nat.pow 10 exponent.toNat)

/-! ## Digits -/

/-- Appends digits to a significand for as long as it fits 64 bits, and counts those it took. -/
def appendDigits (significand : Nat) : List Char → Nat × Nat
  | [] => (significand, 0)
  | c :: cs =>
    if significand * 10 + Text.digitValue c < wordLimit then
      let (result, taken) := appendDigits (significand * 10 + Text.digitValue c) cs
      (result, taken + 1)
    else (significand, 0)

/-- The parts of a number as it is written. -/
structure NumberParts where
  /-- Whether it starts with a minus sign. -/
  negative : Bool
  /-- The digits before the point. -/
  whole : List Char
  /-- The digits after the point, if there is one. -/
  fraction : Option (List Char)
  /-- The exponent, if there is one. -/
  exponent : Option Int
deriving DecidableEq, Repr

namespace NumberParts

/-- The decimal that the parts write. Digits of the whole part that do not fit count as powers of
ten, and digits of the fraction that do not fit are dropped. -/
def decimal (p : NumberParts) : Nat × Int :=
  let (whole, taken) := appendDigits 0 p.whole
  let (significand, places) := appendDigits whole (p.fraction.getD [])
  (significand, (p.whole.length - taken : Nat) - (places : Int) + p.exponent.getD 0)

/-- The number that the parts write. Minus zero is a decimal, since no integer is negative zero. -/
def number (p : NumberParts) : Except Error Number :=
  let n := Text.digitsValue p.whole
  let isInteger := p.fraction.isNone && p.exponent.isNone
  if isInteger && !p.negative && n < wordLimit then .ok (.integer n)
  else if isInteger && p.negative && 0 < n && n ≤ wordLimit / 2 then .ok (.integer (-n))
  else
    let (significand, exponent) := p.decimal
    if overflows significand exponent then .error .numberOutOfRange
    else .ok (.decimal p.negative significand exponent)

end NumberParts

/-! ## Reading -/

/-- The error for a digit that is missing at the front of `s`. -/
def missingDigit (s : List Char) : Error :=
  if s.isEmpty then .unfinishedValue else .invalidNumber

/-- One or more digits at the front of a text. -/
def readDigits (s : List Char) : Except Error (List Char × List Char) :=
  let digits := s.takeWhile Char.isDigit
  if digits.isEmpty then .error (missingDigit s) else .ok (digits, s.dropWhile Char.isDigit)

/-- The digits before the point: a single zero, or digits that do not start with one. -/
def readWhole (s : List Char) : Except Error (List Char × List Char) := do
  let (digits, rest) ← readDigits s
  if digits.head? = some '0' ∧ 1 < digits.length then .error .invalidNumber
  else return (digits, rest)

/-- The point and the digits after it, if there is a point. -/
def readFraction : List Char → Except Error (Option (List Char) × List Char)
  | '.' :: s => do
    let (digits, rest) ← readDigits s
    return (some digits, rest)
  | s => .ok (none, s)

/-- The sign of an exponent, which may be absent, and its digits. -/
def readSigned : List Char → Except Error (Int × List Char)
  | '+' :: s => do
    let (digits, rest) ← readDigits s
    return (Text.digitsValue digits, rest)
  | '-' :: s => do
    let (digits, rest) ← readDigits s
    return (-Text.digitsValue digits, rest)
  | s => do
    let (digits, rest) ← readDigits s
    return (Text.digitsValue digits, rest)

/-- The exponent, if there is one. -/
def readExponent : List Char → Except Error (Option Int × List Char)
  | 'e' :: s | 'E' :: s => do
    let (exponent, rest) ← readSigned s
    return (some exponent, rest)
  | s => .ok (none, s)

/-- The parts of an unsigned number at the front of a text. -/
def readUnsigned (negative : Bool) (s : List Char) :
    Except Error (NumberParts × List Char) := do
  let (whole, s) ← readWhole s
  let (fraction, s) ← readFraction s
  let (exponent, s) ← readExponent s
  return (⟨negative, whole, fraction, exponent⟩, s)

/-- The parts of a number at the front of a text. -/
def readParts : List Char → Except Error (NumberParts × List Char)
  | '-' :: s => readUnsigned true s
  | s => readUnsigned false s

/-- A number at the front of a text. -/
def readNumber (s : List Char) : Except Error (Number × List Char) := do
  let (parts, rest) ← readParts s
  let n ← parts.number
  return (n, rest)

/-! ## Progress -/

theorem length_readDigits {s digits rest : List Char} (h : readDigits s = .ok (digits, rest)) :
    rest.length < s.length := by
  simp only [readDigits] at h
  split at h
  · simp at h
  · next hne =>
    simp only [Except.ok.injEq, Prod.mk.injEq] at h
    rw [← h.2]
    have happ := congrArg List.length (List.takeWhile_append_dropWhile (p := Char.isDigit) (l := s))
    have hpos := List.length_pos_iff.2 fun hnil => hne (List.isEmpty_iff.2 hnil)
    simp only [List.length_append] at happ
    omega

theorem length_readWhole {s digits rest : List Char} (h : readWhole s = .ok (digits, rest)) :
    rest.length < s.length := by
  obtain ⟨⟨d, r⟩, hd, h⟩ := bind_eq_ok_iff.1 h
  have := length_readDigits hd
  simp only at h
  split at h
  · simp at h
  · simp only [pure_eq_ok_iff, Prod.mk.injEq] at h
    rwa [← h.2]

theorem length_readFraction {s rest : List Char} {digits : Option (List Char)}
    (h : readFraction s = .ok (digits, rest)) : rest.length ≤ s.length := by
  unfold readFraction at h
  split at h
  · obtain ⟨⟨d, r⟩, hd, h⟩ := bind_eq_ok_iff.1 h
    have := length_readDigits hd
    simp only [pure_eq_ok_iff, Prod.mk.injEq] at h
    simp only [List.length_cons, ← h.2]
    omega
  · simp_all

theorem length_readSigned {s rest : List Char} {n : Int} (h : readSigned s = .ok (n, rest)) :
    rest.length < s.length := by
  unfold readSigned at h
  split at h
  all_goals
    obtain ⟨⟨d, r⟩, hd, h⟩ := bind_eq_ok_iff.1 h
    have := length_readDigits hd
    simp only [pure_eq_ok_iff, Prod.mk.injEq] at h
    simp only [List.length_cons, ← h.2]
    omega

theorem length_readExponent {s rest : List Char} {n : Option Int}
    (h : readExponent s = .ok (n, rest)) : rest.length ≤ s.length := by
  unfold readExponent at h
  split at h
  case h_3 => simp_all
  all_goals
    obtain ⟨⟨d, r⟩, hd, h⟩ := bind_eq_ok_iff.1 h
    have := length_readSigned hd
    simp only [pure_eq_ok_iff, Prod.mk.injEq] at h
    simp only [List.length_cons, ← h.2]
    omega

theorem length_readUnsigned {negative : Bool} {s rest : List Char} {p : NumberParts}
    (h : readUnsigned negative s = .ok (p, rest)) : rest.length < s.length := by
  obtain ⟨⟨_, r⟩, hw, h⟩ := bind_eq_ok_iff.1 h
  obtain ⟨⟨_, t⟩, hf, h⟩ := bind_eq_ok_iff.1 h
  obtain ⟨⟨_, u⟩, he, h⟩ := bind_eq_ok_iff.1 h
  have := length_readWhole hw
  have := length_readFraction hf
  have := length_readExponent he
  simp only [pure_eq_ok_iff, Prod.mk.injEq] at h
  rw [← h.2]
  omega

theorem length_readNumber {s rest : List Char} {n : Number} (h : readNumber s = .ok (n, rest)) :
    rest.length < s.length := by
  obtain ⟨⟨p, r⟩, hp, h⟩ := bind_eq_ok_iff.1 h
  obtain ⟨m, -, h⟩ := bind_eq_ok_iff.1 h
  simp only [pure_eq_ok_iff, Prod.mk.injEq] at h
  rw [← h.2]
  unfold readParts at hp
  split at hp
  · have := length_readUnsigned hp
    simp only [List.length_cons]
    omega
  · exact length_readUnsigned hp

end DescriptiveLinks.Json
