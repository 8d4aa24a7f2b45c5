/-! # Files

What the command sees of the file system is a function from paths to contents, any of which may be
impossible to read. The standard input is a further source of contents. -/

namespace DescriptiveLinks.Command

/-- Why a text cannot be read. -/
inductive ReadError where
  /-- There is nothing under the path. -/
  | notFound
  /-- The path leads to a directory. -/
  | isDirectory
  /-- The path leads on from what is not a directory. -/
  | notDirectory
  /-- The path, or a step of it, is longer than the system allows. -/
  | tooLong
  /-- The bytes are not UTF-8. -/
  | notText
  /-- Another cause, in the words of the system. -/
  | other (cause : String)
deriving DecidableEq, Repr

/-- The text of the error. -/
def ReadError.message : ReadError → String
  | notFound => "No such file or directory (os error 2)"
  | isDirectory => "Is a directory (os error 21)"
  | notDirectory => "Not a directory (os error 20)"
  | tooLong => "File name too long (os error 36)"
  | notText => "stream did not contain valid UTF-8"
  | other cause => cause

/-- The bytes of a file or a stream, unless they cannot be read. -/
abbrev Contents : Type :=
  Except ReadError ByteArray

/-- The contents under each path. -/
abbrev Files : Type :=
  String → Contents

/-- The text that bytes hold. -/
def decodeText (bytes : ByteArray) : Except ReadError String :=
  match String.fromUTF8? bytes with
  | some text => .ok text
  | none => .error .notText

/-- The text that contents hold. -/
def Contents.text (contents : Contents) : Except ReadError String :=
  contents.bind decodeText

/-- The text of the file under a path. -/
def Files.readText (files : Files) (path : String) : Except ReadError String :=
  (files path).text

end DescriptiveLinks.Command
