import Std.Data.TreeMap

/-! # JSON values

A `Json.Value` keeps the members of an object as they stand in the text, in their order and with
repeated keys, because readers differ in what they make of a repetition. `Json.entries` is the view
of those who want one value per key. -/

namespace DescriptiveLinks.Json

/-- A number as it was written. -/
inductive Number where
  /-- A number without fraction and exponent that fits 64 bits. -/
  | integer (n : Int)
  /-- Any other number: `significand` times the power of ten with the given exponent. -/
  | decimal (negative : Bool) (significand : Nat) (exponent : Int)
deriving DecidableEq, Repr

/-- A JSON value. -/
inductive Value where
  /-- The value `null`. -/
  | null
  /-- A truth value. -/
  | bool (b : Bool)
  /-- A number. -/
  | number (n : Number)
  /-- A string. -/
  | string (s : String)
  /-- An array. -/
  | array (items : List Value)
  /-- An object with its members as written. -/
  | object (members : List (String × Value))

instance : Inhabited Value := ⟨.null⟩

/-- The six kinds of values. -/
inductive Kind where
  /-- The kind of `null`. -/
  | null
  /-- The kind of truth values. -/
  | bool
  /-- The kind of numbers. -/
  | number
  /-- The kind of strings. -/
  | string
  /-- The kind of arrays. -/
  | array
  /-- The kind of objects. -/
  | object
deriving DecidableEq, Repr

/-- A kind in the words of messages. -/
def Kind.phrase : Kind → String
  | null => "null"
  | bool => "a boolean"
  | number => "a number"
  | string => "a string"
  | array => "an array"
  | object => "an object"

namespace Value

/-- The kind of a value. -/
def kind : Value → Kind
  | null => .null
  | bool _ => .bool
  | number _ => .number
  | string _ => .string
  | array _ => .array
  | object _ => .object

/-- The truth value, if it is one. -/
def bool? : Value → Option Bool
  | bool b => some b
  | _ => none

/-- The string, if it is one. -/
def string? : Value → Option String
  | string s => some s
  | _ => none

/-- The number, if it is a natural number that was written as an integer. -/
def nat? : Value → Option Nat
  | number (.integer (.ofNat n)) => some n
  | _ => none

end Value

/-- The members of an object by key, in the order of the keys' code points; of several members with
one key the last counts. -/
def entries (members : List (String × Value)) : Std.TreeMap String Value :=
  Std.TreeMap.ofList members

namespace Value

/-- The object with the given members, which stand in the order of the map. -/
def ofEntries (members : Std.TreeMap String Value) : Value :=
  object members.toList

/-- Puts a member in an object, in place of one with the same key. Other values have no members. -/
def insert (object : Value) (key : String) (v : Value) : Value :=
  match object with
  | .object members => ofEntries ((entries members).insert key v)
  | other => other

end Value

end DescriptiveLinks.Json
