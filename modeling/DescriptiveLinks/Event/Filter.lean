import DescriptiveLinks.Event.Directive
import DescriptiveLinks.Text.Pieces

/-! # Log filters

A filter says which events are shown. It is a list of directives with commas between them, such as
`warn,linktext_core=debug`.

* `LogFilter.ofSetting` reads a filter.
* `LogFilter.shows` decides about an event by the directive that says most about it. -/

namespace DescriptiveLinks

/-- A log filter: its directives about events, in order. -/
structure LogFilter where
  /-- The directives. -/
  directives : List Directive
deriving DecidableEq, Repr

namespace LogFilter

/-- The filter that shows warnings. -/
def default : LogFilter :=
  ⟨[{ verbosity := .warn }]⟩

/-- The filter that a text writes. Nothing between two commas is no directive. -/
def ofText? (text : String) : Option LogFilter :=
  let texts := (Text.pieces ',' text.toList).filter (!·.isEmpty)
  (texts.mapM Directive.ofText?).map fun directives => ⟨directives.filterMap id⟩

/-- The filter to use where a setting may give one: without a setting, or if it is no filter, the
default. -/
def ofSetting (setting : Option String) : LogFilter :=
  (setting.bind ofText?).getD default

/-- The directive that decides about an event: of those that are about it the one that says most,
and of equals the last. -/
def deciding? (f : LogFilter) (e : Event) : Option Directive :=
  (f.directives.filter fun d => d.IsAbout e).foldl
    (fun best d => if ∀ b ∈ best, d.IsAtLeast b then some d else best) none

/-- Whether an event is shown. -/
def shows (f : LogFilter) (e : Event) : Bool :=
  (f.deciding? e).any fun d => d.verbosity.shows e.level

end LogFilter

end DescriptiveLinks
