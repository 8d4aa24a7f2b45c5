import DescriptiveLinks.Unicode.BaseCharacter
import DescriptiveLinks.Unicode.Ignorable
import DescriptiveLinks.Unicode.WhiteSpace

/-! # Quoted text

Text inside log lines and node descriptions is quoted: it stands between double quotes, and what
could be mistaken for the end of the quotation, would break the line or could not be seen is
escaped. -/

namespace DescriptiveLinks.Text

open Unicode

/-- Whether a reader can see and tell a character: it shows on its own, and it is no white space
except for the blank. -/
def isPlain (c : Char) : Bool :=
  isBase c && !isIgnorable c && (c = ' ' || !isWhiteSpace c)

/-- A character inside quotes. A character that is not plain and has no letter of its own is written
by its code point in lower-case hexadecimal digits, without padding. -/
def escaped (c : Char) : List Char :=
  if c = '"' then ['\\', '"']
  else if c = '\\' then ['\\', '\\']
  else if c = '\t' then ['\\', 't']
  else if c = '\n' then ['\\', 'n']
  else if c = '\r' then ['\\', 'r']
  else if c = '\x00' then ['\\', '0']
  else if isPlain c then [c]
  else ['\\', 'u', '\x7b'] ++ Nat.toDigits 16 c.toNat ++ ['\x7d']

/-- A text between quotes. -/
def quoted (text : String) : String :=
  String.ofList ('"' :: text.toList.flatMap escaped ++ ['"'])

end DescriptiveLinks.Text
