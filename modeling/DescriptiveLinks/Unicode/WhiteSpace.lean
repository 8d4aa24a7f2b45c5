import DescriptiveLinks.Unicode.CodeTable

/-! # White space

The characters with the property White_Space: the ASCII controls from tab to carriage return, the
blank, next line, the fixed-width blanks, and the line and paragraph separators. -/

namespace DescriptiveLinks.Unicode

/-- The code points of white space, in increasing order. -/
def whiteSpaceRanges : List CodeRange := [
  ⟨0x9, 0xD⟩, ⟨0x20, 0x20⟩, ⟨0x85, 0x85⟩, ⟨0xA0, 0xA0⟩, ⟨0x1680, 0x1680⟩, ⟨0x2000, 0x200A⟩,
  ⟨0x2028, 0x2029⟩, ⟨0x202F, 0x202F⟩, ⟨0x205F, 0x205F⟩, ⟨0x3000, 0x3000⟩]

/-- Whether a character is white space. -/
def isWhiteSpace (c : Char) : Bool :=
  CodeRange.cover whiteSpaceRanges c.toNat

/-- Removes white space from both ends of a text. -/
def trim (cs : List Char) : List Char :=
  ((cs.dropWhile isWhiteSpace).reverse.dropWhile isWhiteSpace).reverse

@[simp] theorem trim_nil : trim [] = [] := rfl

end DescriptiveLinks.Unicode
