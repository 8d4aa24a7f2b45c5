/-! # Errors of JSON texts

`Json.Error` says why a text is not JSON, at the first place where that shows. `Json.Failure` adds
the case that the text starts with a value which its reader rejects. -/

namespace DescriptiveLinks.Json

/-- Why a text is not JSON. -/
inductive Error where
  /-- The text ends where a value is due, or inside one other than a string. -/
  | unfinishedValue
  /-- The text ends inside an array, where neither a value nor a comma is open. -/
  | unfinishedArray
  /-- The text ends inside an object, where neither a value nor a comma is open. -/
  | unfinishedObject
  /-- The text ends inside a string. -/
  | unfinishedString
  /-- A character that starts no value. -/
  | expectedValue
  /-- A word other than the three that are values. -/
  | expectedWord
  /-- A digit is missing, or one follows a leading zero. -/
  | invalidNumber
  /-- A number too large for a floating-point value. -/
  | numberOutOfRange
  /-- Another character instead of the colon after a key. -/
  | expectedColon
  /-- Another character after an element of an array. -/
  | expectedCommaOrBracket
  /-- Another character after a member of an object. -/
  | expectedCommaOrBrace
  /-- A comma before the closing bracket. -/
  | trailingComma
  /-- Another character where a key is due. -/
  | expectedKey
  /-- Something other than white space after the value. -/
  | trailingCharacters
  /-- An escape that is none. -/
  | invalidEscape
  /-- A control character that is not escaped. -/
  | controlCharacter
  /-- Half of a pair of escapes for one character, without the other half. -/
  | loneSurrogate
  /-- Something other than an escape after the first half of such a pair. -/
  | unfinishedPair
  /-- Too many arrays and objects inside each other. -/
  | nestedTooDeep
deriving DecidableEq, Repr

namespace Error

/-- The text of the error, without the line and the column of the place. -/
def message : Error → String
  | unfinishedValue => "EOF while parsing a value"
  | unfinishedArray => "EOF while parsing a list"
  | unfinishedObject => "EOF while parsing an object"
  | unfinishedString => "EOF while parsing a string"
  | expectedValue => "expected value"
  | expectedWord => "expected ident"
  | invalidNumber => "invalid number"
  | numberOutOfRange => "number out of range"
  | expectedColon => "expected `:`"
  | expectedCommaOrBracket => "expected `,` or `]`"
  | expectedCommaOrBrace => "expected `,` or `\x7d`"
  | trailingComma => "trailing comma"
  | expectedKey => "key must be a string"
  | trailingCharacters => "trailing characters"
  | invalidEscape => "invalid escape"
  | controlCharacter => "control character (\\u0000-\\u001F) found while parsing a string"
  | loneSurrogate => "lone leading surrogate in hex escape"
  | unfinishedPair => "unexpected end of hex escape"
  | nestedTooDeep => "recursion limit exceeded"

/-- Whether more text could have helped: the text ends too early. -/
def IsUnfinished (e : Error) : Prop :=
  e = unfinishedValue ∨ e = unfinishedArray ∨ e = unfinishedObject ∨ e = unfinishedString

instance (e : Error) : Decidable e.IsUnfinished :=
  inferInstanceAs (Decidable (_ ∨ _))

end Error

/-- Why nothing was made of a text: it is not JSON, or its value was rejected for a reason of its
reader's. -/
inductive Failure (Reason : Type) where
  /-- The text is not JSON. -/
  | notJson (e : Error)
  /-- The value was rejected. -/
  | rejected (reason : Reason)
deriving DecidableEq, Repr

/-- What a failure is about. -/
inductive Category where
  /-- The text ends too early. -/
  | unfinished
  /-- The text is not JSON. -/
  | malformed
  /-- The value is not what its reader wants. -/
  | rejected
deriving DecidableEq, Repr

/-- The category of an error. -/
def Error.category (e : Error) : Category :=
  if e.IsUnfinished then .unfinished else .malformed

/-- The category of a failure. -/
def Failure.category {Reason : Type} : Failure Reason → Category
  | notJson e => e.category
  | rejected _ => .rejected

/-! ## Readings in sequence -/

/-- Two readings in sequence succeed exactly if the first one does and then the second. -/
theorem bind_eq_ok_iff {ε α β : Type} {x : Except ε α} {f : α → Except ε β} {b : β} :
    x >>= f = .ok b ↔ ∃ a, x = .ok a ∧ f a = .ok b := by
  cases x with
  | error e => exact ⟨nofun, fun ⟨_, h, _⟩ => nomatch h⟩
  | ok a => exact ⟨fun h => ⟨a, rfl, h⟩, fun ⟨_, rfl, h⟩ => h⟩

@[simp] theorem pure_eq_ok_iff {ε α : Type} {a b : α} :
    (pure a : Except ε α) = .ok b ↔ a = b :=
  ⟨Except.ok.inj, congrArg Except.ok⟩

end DescriptiveLinks.Json
