import DescriptiveLinks.Json.Number
import DescriptiveLinks.Json.StringLiteral

/-! # Reading JSON texts

Reading goes by recursive descent. A `Reader` carries the proof that a success consumes something,
so the loop over the items of an array or object ends, and values are read by recursion on the
number of arrays and objects that may still be opened inside each other.

* `readFirst` reads the value at the front of a text.
* `parse` reads a whole text, and `decode` makes something of its value. -/

namespace DescriptiveLinks.Json

/-- White space between tokens. -/
def isBlank (c : Char) : Bool :=
  c = ' ' || c = '\t' || c = '\n' || c = '\r'

/-- The text from its first character that is not white space. -/
def skipBlank (s : List Char) : List Char :=
  s.dropWhile isBlank

theorem length_skipBlank_le (s : List Char) : (skipBlank s).length ≤ s.length :=
  (List.dropWhile_sublist isBlank).length_le

theorem length_lt_of_skipBlank {s t : List Char} {c : Char} (h : skipBlank s = c :: t) :
    t.length < s.length := by
  have := length_skipBlank_le s
  simp only [h, List.length_cons] at this
  omega

/-! ## Readers -/

/-- A way to read something at the front of a text, which on success consumes at least one
character. -/
structure Reader (α : Type) where
  /-- What is read, with the text after it. -/
  read : List Char → Except Error (α × List Char)
  /-- The text after it is shorter. -/
  length_lt : ∀ {s rest : List Char} {a : α}, read s = .ok (a, rest) → rest.length < s.length

/-! ## Items between brackets -/

/-- How a list of items is written. -/
structure Brackets where
  /-- The closing bracket. -/
  closing : Char
  /-- The error where the text ends. -/
  unfinished : Error
  /-- The error where an item is followed by neither a comma nor the closing bracket. -/
  unseparated : Error

/-- The brackets of arrays. -/
def arrayBrackets : Brackets := ⟨']', .unfinishedArray, .expectedCommaOrBracket⟩

/-- The brackets of objects. -/
def objectBrackets : Brackets := ⟨'\x7d', .unfinishedObject, .expectedCommaOrBrace⟩

variable {α : Type}

/-- Reads one item and those after it up to the closing bracket, where the items `done`, the last
one first, come before. -/
def readItems (b : Brackets) (item : Reader α) (done : List α) (s : List Char) :
    Except Error (List α × List Char) :=
  match _hitem : item.read s with
  | .error e => .error e
  | .ok (a, rest) =>
    match _hrest : skipBlank rest with
    | [] => .error b.unfinished
    | c :: t =>
      if c = b.closing then .ok ((a :: done).reverse, t)
      else if c = ',' then
        match skipBlank t with
        | [] => .error .unfinishedValue
        | d :: _ => if d = b.closing then .error .trailingComma else readItems b item (a :: done) t
      else .error b.unseparated
termination_by s.length
decreasing_by
  have := item.length_lt ‹_›
  have := length_lt_of_skipBlank ‹_›
  omega

/-- Reads items up to the closing bracket, after the opening one. -/
def readList (b : Brackets) (item : Reader α) (s : List Char) :
    Except Error (List α × List Char) :=
  match skipBlank s with
  | [] => .error b.unfinished
  | c :: t => if c = b.closing then .ok ([], t) else readItems b item [] s

theorem length_readItems {b : Brackets} {item : Reader α} {done items : List α}
    {s rest : List Char} (h : readItems b item done s = .ok (items, rest)) :
    rest.length < s.length := by
  fun_induction readItems b item done s with
  | case1 | case2 | case4 | case5 | case7 => simp at h
  | case3 =>
    have := item.length_lt ‹_›
    have := length_lt_of_skipBlank ‹_›
    simp only [Except.ok.injEq, Prod.mk.injEq] at h
    rw [← h.2]
    omega
  | case6 =>
    rename_i ih
    have := item.length_lt ‹_›
    have := length_lt_of_skipBlank ‹_›
    have := ih h
    omega

theorem length_readList {b : Brackets} {item : Reader α} {items : List α} {s rest : List Char}
    (h : readList b item s = .ok (items, rest)) : rest.length < s.length := by
  unfold readList at h
  split at h
  · simp at h
  · next c t hs =>
    split at h
    · have := length_lt_of_skipBlank hs
      simp only [Except.ok.injEq, Prod.mk.injEq] at h
      rwa [← h.2]
    · exact length_readItems h

/-! ## Members -/

/-- Reads the colon between a key and its value. -/
def readColon (s : List Char) : Except Error (List Char) :=
  match skipBlank s with
  | [] => .error .unfinishedObject
  | ':' :: rest => .ok rest
  | _ => .error .expectedColon

/-- Reads a member of an object: a key, a colon and a value. -/
def readMember (value : Reader α) (s : List Char) : Except Error ((String × α) × List Char) :=
  match skipBlank s with
  | '"' :: t => do
    let (key, t) ← readString t
    let t ← readColon t
    let (a, rest) ← value.read t
    return ((key, a), rest)
  | _ => .error .expectedKey

theorem length_readColon {s rest : List Char} (h : readColon s = .ok rest) :
    rest.length < s.length := by
  unfold readColon at h
  split at h
  · simp at h
  · next hs =>
    cases h
    exact length_lt_of_skipBlank hs
  · simp at h

theorem length_readMember {value : Reader α} {s rest : List Char} {m : String × α}
    (h : readMember value s = .ok (m, rest)) : rest.length < s.length := by
  unfold readMember at h
  split at h
  · next t hs =>
    obtain ⟨⟨key, u⟩, hk, h⟩ := bind_eq_ok_iff.1 h
    obtain ⟨v, hc, h⟩ := bind_eq_ok_iff.1 h
    obtain ⟨⟨a, w⟩, hv, h⟩ := bind_eq_ok_iff.1 h
    have := length_lt_of_skipBlank hs
    have := length_readString hk
    have := length_readColon hc
    have := value.length_lt hv
    simp only [pure_eq_ok_iff, Prod.mk.injEq] at h
    rw [← h.2]
    omega
  · simp at h

/-- The reader of members. -/
def memberReader (value : Reader α) : Reader (String × α) where
  read := readMember value
  length_lt := length_readMember

/-! ## Values -/

/-- Reads the rest of a word that stands for a value. -/
def readWord (word : List Char) (v : Value) (s : List Char) : Except Error (Value × List Char) :=
  match word, s with
  | [], rest => .ok (v, rest)
  | _ :: _, [] => .error .unfinishedValue
  | w :: ws, c :: cs => if c = w then readWord ws v cs else .error .expectedWord

theorem length_readWord {word s rest : List Char} {v w : Value}
    (h : readWord word v s = .ok (w, rest)) : rest.length ≤ s.length := by
  induction word generalizing s with
  | nil => simp_all [readWord]
  | cons x xs ih =>
    cases s with
    | nil => simp [readWord] at h
    | cons c cs =>
      simp only [readWord] at h
      split at h
      · have := ih h
        simp only [List.length_cons]
        omega
      · simp at h

/-- What an opening bracket leads to: an error if no more may be opened. -/
def readOpened (inner : Option (Reader Value)) (opening : Char) (s : List Char) :
    Except Error (Value × List Char) :=
  match inner with
  | none => .error .nestedTooDeep
  | some value =>
    if opening = '[' then do
      let (items, rest) ← readList arrayBrackets value s
      return (.array items, rest)
    else do
      let (members, rest) ← readList objectBrackets (memberReader value) s
      return (.object members, rest)

/-- Reads a value, where `inner` reads those inside arrays and objects and is absent if none may be
opened. -/
def readValue (inner : Option (Reader Value)) (s : List Char) :
    Except Error (Value × List Char) :=
  match skipBlank s with
  | [] => .error .unfinishedValue
  | c :: t =>
    if c = 'n' then readWord ['u', 'l', 'l'] .null t
    else if c = 't' then readWord ['r', 'u', 'e'] (.bool true) t
    else if c = 'f' then readWord ['a', 'l', 's', 'e'] (.bool false) t
    else if c = '"' then do
      let (text, rest) ← readString t
      return (.string text, rest)
    else if c = '[' ∨ c = '\x7b' then readOpened inner c t
    else if c = '-' ∨ c.isDigit then do
      let (n, rest) ← readNumber (c :: t)
      return (.number n, rest)
    else .error .expectedValue

theorem length_readOpened {inner : Option (Reader Value)} {opening : Char} {s rest : List Char}
    {v : Value} (h : readOpened inner opening s = .ok (v, rest)) : rest.length < s.length := by
  unfold readOpened at h
  split at h
  · simp at h
  · split at h
    all_goals
      obtain ⟨⟨_, r⟩, hl, h⟩ := bind_eq_ok_iff.1 h
      have := length_readList hl
      simp only [pure_eq_ok_iff, Prod.mk.injEq] at h
      rwa [← h.2]

theorem length_readValue {inner : Option (Reader Value)} {s rest : List Char} {v : Value}
    (h : readValue inner s = .ok (v, rest)) : rest.length < s.length := by
  unfold readValue at h
  split at h
  · simp at h
  · next c t hs =>
    have := length_lt_of_skipBlank hs
    repeat' split at h
    · have := length_readWord h
      omega
    · have := length_readWord h
      omega
    · have := length_readWord h
      omega
    · obtain ⟨⟨_, r⟩, hl, h⟩ := bind_eq_ok_iff.1 h
      have := length_readString hl
      simp only [pure_eq_ok_iff, Prod.mk.injEq] at h
      rw [← h.2]
      omega
    · have := length_readOpened h
      omega
    · obtain ⟨⟨_, r⟩, hl, h⟩ := bind_eq_ok_iff.1 h
      have := length_readNumber hl
      simp only [pure_eq_ok_iff, Prod.mk.injEq, List.length_cons] at h this
      rw [← h.2]
      omega
    · simp at h

/-- The reader of values in which at most `depth` arrays and objects are open at once. -/
def valueReader : Nat → Reader Value
  | 0 => ⟨readValue none, length_readValue⟩
  | depth + 1 => ⟨readValue (some (valueReader depth)), length_readValue⟩

/-! ## Texts -/

/-- How many arrays and objects may be open at once. -/
def maxDepth : Nat := 127

/-- The value at the front of a text, with the text after it. -/
def readFirst (text : String) : Except Error (Value × List Char) :=
  (valueReader maxDepth).read text.toList

/-- Checks that nothing but white space is left. -/
def checkEnd (rest : List Char) : Except Error Unit :=
  if (skipBlank rest).isEmpty then .ok () else .error .trailingCharacters

/-- The value that a whole text writes. -/
def parse (text : String) : Except Error Value := do
  let (v, rest) ← readFirst text
  checkEnd rest
  return v

/-- What `f` makes of the value that a text writes. A value that `f` rejects is reported before
anything that stands after it. -/
def decode {ε : Type} (f : Value → Except ε α) (text : String) : Except (Failure ε) α := do
  let (v, rest) ← (readFirst text).mapError .notJson
  let a ← (f v).mapError .rejected
  (checkEnd rest).mapError .notJson
  return a

end DescriptiveLinks.Json
