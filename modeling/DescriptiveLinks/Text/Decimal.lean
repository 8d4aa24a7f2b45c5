import DescriptiveLinks.Text.Digits

/-! # Decimal numbers

A decimal number has digits, perhaps with a point between them or on one side of them, and perhaps
an exponent. -/

namespace DescriptiveLinks.Text

/-- Whether a text is empty or an exponent: the letter `e` before digits, perhaps with a sign. -/
def isExponent : List Char → Bool
  | [] => true
  | c :: s =>
    c.toLower = 'e' && isDigits (if s.head? ∈ [some '+', some '-'] then s.tail else s)

/-- Whether a text is a decimal number without a sign. -/
def isDecimal (s : List Char) : Bool :=
  let whole := s.takeWhile Char.isDigit
  match s.dropWhile Char.isDigit with
  | '.' :: s =>
    isDigits (whole ++ s.takeWhile Char.isDigit) && isExponent (s.dropWhile Char.isDigit)
  | s => isDigits whole && isExponent s

end DescriptiveLinks.Text
