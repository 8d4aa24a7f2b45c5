import DescriptiveLinks.Json.StringLiteral
import DescriptiveLinks.Json.Value

/-! # Writing JSON texts

Values are written over several lines, each item of an array and each member of an object on a line
of its own, indented by two blanks for every array and object around it. Members stand in the order
in which the value has them. -/

namespace DescriptiveLinks.Json

/-- A number as digits. -/
def Number.print : Number → List Char
  | integer n => (toString n).toList
  | decimal negative significand exponent =>
    (if negative then ['-'] else []) ++ (toString significand).toList ++
      'e' :: (toString exponent).toList

/-- The break before a line at the given depth. -/
def lineBreak (depth : Nat) : List Char :=
  '\n' :: List.replicate (2 * depth) ' '

namespace Value

mutual

/-- A value whose first line is at the given depth. -/
def print (depth : Nat) : Value → List Char
  | null => ['n', 'u', 'l', 'l']
  | bool true => ['t', 'r', 'u', 'e']
  | bool false => ['f', 'a', 'l', 's', 'e']
  | number n => n.print
  | string s => quote s
  | array [] => ['[', ']']
  | array (v :: vs) =>
    '[' :: lineBreak (depth + 1) ++ v.print (depth + 1) ++ printItems (depth + 1) vs ++
      lineBreak depth ++ [']']
  | object [] => ['\x7b', '\x7d']
  | object ((key, v) :: members) =>
    '\x7b' :: lineBreak (depth + 1) ++ quote key ++ ':' :: ' ' :: v.print (depth + 1) ++
      printMembers (depth + 1) members ++ lineBreak depth ++ ['\x7d']
termination_by structural v => v

/-- The items of an array after the first. -/
def printItems (depth : Nat) : List Value → List Char
  | [] => []
  | v :: vs => ',' :: lineBreak depth ++ v.print depth ++ printItems depth vs
termination_by structural vs => vs

/-- The members of an object after the first. -/
def printMembers (depth : Nat) : List (String × Value) → List Char
  | [] => []
  | (key, v) :: members =>
    ',' :: lineBreak depth ++ quote key ++ ':' :: ' ' :: v.print depth ++
      printMembers depth members
termination_by structural members => members

end

/-- The text of a value. -/
def render (v : Value) : String :=
  String.ofList (v.print 0)

end Value

end DescriptiveLinks.Json
