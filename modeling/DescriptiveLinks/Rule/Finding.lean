import DescriptiveLinks.Rule.Options
import DescriptiveLinks.Tree.KindIndex

/-! # Findings

A link is reported if its label as a whole comes down to a banned phrase, so that formatting inside
the label does not hide it. Every run of text in such a label is a finding of its own. Labels that
are not part of a link, such as those of reference definitions, are left alone, and so are runs that
have no place in the source.

* `findings` lists the findings of a document.
* `lint` applies the options of the rule, and says what it did. -/

namespace DescriptiveLinks

/-- The type of links. -/
def linkKind : String := "link"

/-- The type of the labels of links and of reference definitions. -/
def labelKind : String := "label"

/-- The type of the runs of text in a label. -/
def labelTextKind : String := "labelText"

/-- One run of text in the label of a link that does not say where it leads. -/
structure Finding where
  /-- Where the run starts. -/
  start : Position
  /-- The whole label as it is written. -/
  text : String
deriving DecidableEq, Repr

/-- The length that is reported: the number of characters of the label. -/
def Finding.length (f : Finding) : Nat :=
  f.text.length

namespace Node

variable {tree : SyntaxTree} (n : Node tree)

/-- Whether the parent of the node is a link. -/
def inLink : Bool :=
  n.parent?.any fun parent => parent.kind = linkKind

/-- The runs of text among the children of a label that have a place in the source. -/
def textRuns : List (Node tree) :=
  n.children.filter fun child => child.kind = labelTextKind && 0 < child.start.line

/-- The findings of a label: all of its runs, or none. A label without runs is not compared. -/
def findings (banned : BannedPhrases) : List Finding :=
  let runs := n.textRuns
  if !runs.isEmpty && normalize n.text ∈ banned then runs.map fun run => ⟨run.start, n.text⟩
  else []

end Node

/-- The **findings** of a document in document order. -/
def findings {tree : SyntaxTree} (index : KindIndex tree) (banned : BannedPhrases) :
    List Finding :=
  ((index.nodesOfKinds [labelKind]).filter Node.inLink).flatMap fun label => label.findings banned

/-- Hands every finding in turn to `report`, which keeps a state of its own, and counts them. -/
def reportFindings {tree : SyntaxTree} {σ : Type} (index : KindIndex tree) (banned : BannedPhrases)
    (report : σ → Finding → σ) (state : σ) : σ × Nat :=
  (findings index banned).foldl (fun (state, count) f => (report state f, count + 1)) (state, 0)

/-- Checks a document: the findings that the options ask for. -/
def lint (tree : SyntaxTree) (options : RuleOptions) : Logged (List Finding) :=
  if options.enabled then
    let banned := options.bannedPhrases
    let (found, count) :=
      reportFindings (.ofTree tree) banned (fun (found : Array Finding) f => found.push f) #[]
    ⟨[.linkTextChecked tree.size banned.size count], found.toList⟩
  else ⟨[.checkDisabled], []⟩

end DescriptiveLinks
