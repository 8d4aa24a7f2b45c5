import DescriptiveLinks.Json.Parser
import DescriptiveLinks.Tree.Token

/-! # Loading syntax trees

A syntax tree is stored as JSON: an array of tokens, or a single token. A token is an object, in
which any of the five fields may be missing and other members are ignored, or an array of at most
five values, which are the fields in their order. A value that is neither is refused as a whole.

* `Token.ofValue?` reads a token from a JSON value.
* `SyntaxTree.ofJson` loads a tree from a text: it reads the tokens, and puts them in a table. -/

namespace DescriptiveLinks

/-- Why a text is refused as a syntax tree. -/
inductive LoadError where
  /-- The text is not JSON, or its value is neither a token nor an array of tokens. -/
  | json (e : Json.Failure Unit)
  /-- There is no id left for a token. -/
  | tooLarge
deriving DecidableEq, Repr

/-- The text of the error. -/
def LoadError.message : LoadError → String
  | json (.notJson e) => s!"invalid syntax tree json: {e.message}"
  | json (.rejected ()) =>
    "invalid syntax tree json: data did not match any variant of untagged enum TokenTree"
  | tooLarge => tooLargeMessage

/-- The fields of a token, as far as they have been read. -/
structure TokenFields where
  /-- The type, which may be given as `null`. -/
  kind : Option (Option String) := none
  /-- The text. -/
  text : Option String := none
  /-- The line. -/
  line : Option Nat := none
  /-- The column. -/
  column : Option Nat := none
  /-- The children. -/
  children : Option (List Token) := none

namespace TokenFields

/-- The keys of the fields, in the order in which an array gives them. -/
def keys : List String :=
  ["type", "text", "startLine", "startColumn", "children"]

/-- The token with these fields; a missing field is empty, or zero. -/
def toToken (f : TokenFields) : Token where
  kind := f.kind.getD none
  text := f.text.getD ""
  start := ⟨f.line.getD 0, f.column.getD 0⟩
  children := f.children.getD []

/-- Adds the type, unless there is one already. -/
def addKind (f : TokenFields) : Json.Value → Option TokenFields
  | .null => if f.kind.isSome then none else some { f with kind := some none }
  | .string s => if f.kind.isSome then none else some { f with kind := some (some s) }
  | _ => none

/-- Adds the text, unless there is one already. -/
def addText (f : TokenFields) (v : Json.Value) : Option TokenFields := do
  let text ← v.string?
  if f.text.isSome then none else some { f with text := some text }

/-- Adds the line, unless there is one already. -/
def addLine (f : TokenFields) (v : Json.Value) : Option TokenFields := do
  let line ← v.nat?
  if f.line.isSome then none else some { f with line := some line }

/-- Adds the column, unless there is one already. -/
def addColumn (f : TokenFields) (v : Json.Value) : Option TokenFields := do
  let column ← v.nat?
  if f.column.isSome then none else some { f with column := some column }

/-- Adds the children, unless there are some already. -/
def addChildren (f : TokenFields) (children : List Token) : Option TokenFields :=
  if f.children.isSome then none else some { f with children := some children }

/-- Adds the field with a given key, where the value is no array of children. Other keys than those
of the fields are ignored, whatever they hold. -/
def addPlain (f : TokenFields) (key : String) (v : Json.Value) : Option TokenFields :=
  if key = "type" then f.addKind v
  else if key = "text" then f.addText v
  else if key = "startLine" then f.addLine v
  else if key = "startColumn" then f.addColumn v
  else if key = "children" then none
  else some f

end TokenFields

namespace Token

mutual

/-- The token that a value stands for. -/
def ofValue? : Json.Value → Option Token
  | .object members => (addMembers? {} members).map TokenFields.toToken
  | .array items => (addItems? {} TokenFields.keys items).map TokenFields.toToken
  | _ => none
termination_by structural v => v

/-- The tokens that the items of an array stand for. -/
def ofItems? : List Json.Value → Option (List Token)
  | [] => some []
  | v :: vs => do
    let t ← ofValue? v
    let ts ← ofItems? vs
    return t :: ts
termination_by structural vs => vs

/-- Adds the field with a given key. -/
def addField? (f : TokenFields) (key : String) : Json.Value → Option TokenFields
  | .array items =>
    if key = "children" then (ofItems? items).bind f.addChildren
    else f.addPlain key (.array items)
  | v => f.addPlain key v
termination_by structural v => v

/-- Adds the fields that the members of an object give. -/
def addMembers? (f : TokenFields) : List (String × Json.Value) → Option TokenFields
  | [] => some f
  | (key, v) :: rest => (addField? f key v).bind fun f => addMembers? f rest
termination_by structural members => members

/-- Adds the fields that the items of an array give, in the order of `keys`. -/
def addItems? (f : TokenFields) (keys : List String) : List Json.Value → Option TokenFields
  | [] => some f
  | v :: vs =>
    match keys with
    | [] => none
    | key :: keys => (addField? f key v).bind fun f => addItems? f keys vs
termination_by structural vs => vs

end

/-- The tokens that an array stands for. -/
def ofArray? : Json.Value → Option (List Token)
  | .array items => ofItems? items
  | _ => none

/-- The forest that a value stands for: the tokens of an array, or one token. -/
def forestOfValue? (v : Json.Value) : Option (List Token) :=
  ofArray? v <|> (ofValue? v).map ([·])

/-- The forest that a text stands for. -/
def forestOfJson (text : String) : Except (Json.Failure Unit) (List Token) :=
  Json.decode (fun v => (forestOfValue? v).elim (.error ()) .ok) text

end Token

/-- The tree that a text stands for. -/
def SyntaxTree.ofJson (text : String) : Except LoadError SyntaxTree := do
  let tokens ← (Token.forestOfJson text).mapError .json
  (load? tokens).elim (.error .tooLarge) .ok

end DescriptiveLinks
