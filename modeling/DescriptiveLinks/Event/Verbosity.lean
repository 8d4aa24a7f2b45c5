import DescriptiveLinks.Event
import DescriptiveLinks.Text.Digits

/-! # Verbosity

How much of a log is shown: the events up to a level, which has a name and a number. -/

namespace DescriptiveLinks

/-- How much is shown: the events up to a level. -/
inductive Verbosity where
  /-- Nothing. -/
  | off
  /-- Errors only. -/
  | error
  /-- Also warnings. -/
  | warn
  /-- Also information for users. -/
  | info
  /-- Also progress. -/
  | debug
  /-- Everything. -/
  | trace
deriving DecidableEq, Repr

namespace Verbosity

/-- The verbosity with a given number. -/
def ofNumber? : Nat → Option Verbosity
  | 0 => some off
  | 1 => some error
  | 2 => some warn
  | 3 => some info
  | 4 => some debug
  | 5 => some trace
  | _ => none

/-- The number that a text writes in digits, perhaps with a plus sign. -/
def number? (text : List Char) : Option Nat :=
  let digits := if text.head? = some '+' then text.tail else text
  if Text.isDigits digits then some (Text.digitsValue digits) else none

/-- The verbosity that a text writes: by its number, or by its name in any mixture of ASCII capitals
and small letters. -/
def ofText? (text : List Char) : Option Verbosity :=
  match (number? text).bind ofNumber? with
  | some v => some v
  | none =>
    match String.ofList (text.map Char.toLower) with
    | "off" => some off
    | "error" => some error
    | "warn" => some warn
    | "info" => some info
    | "debug" => some debug
    | "trace" => some trace
    | _ => none

/-- Whether events of a level are shown. -/
def shows : Verbosity → Level → Bool
  | off, _ | error, _ => false
  | warn, l | info, l => l = .warn
  | debug, _ | trace, _ => true

end Verbosity

end DescriptiveLinks
