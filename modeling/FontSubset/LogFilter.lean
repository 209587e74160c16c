import FontSubset.Event
/-! Log filters: which events are kept, by the part of the program they come from, by the
fields they have and by their level. Of the rules that fit an event the most specific one
decides. -/
namespace FontSubset

/-- Events from targets that begin with `target` and that have all of `fields` are kept up to
a level, or not at all. -/
structure LogRule where
  target : String
  fields : List String
  finest : Option Level
  deriving DecidableEq, Repr

abbrev LogFilter := List LogRule

def Event.fieldNames (event : Event) : List String := "message" :: event.fields.map (·.1)

namespace LogRule

def fits (rule : LogRule) (event : Event) : Bool :=
  rule.target.toList.isPrefixOf event.target.toList &&
    rule.fields.all event.fieldNames.contains

def admits (rule : LogRule) (level : Level) : Bool :=
  match rule.finest with
  | some finest => level.fineness ≤ finest.fineness
  | none => false

/-- How specific a rule is: by the length of its target, then by the number of its fields. The
names tell apart what is equally specific. -/
def specificity (rule other : LogRule) : Ordering :=
  ((((compare rule.target.utf8ByteSize other.target.utf8ByteSize).then
    (compare rule.fields.length other.fields.length)).then
    (compare rule.target other.target)).then
    (compare rule.fields other.fields))

end LogRule

namespace LogFilter

def closer (best : Option LogRule) (rule : LogRule) : Option LogRule :=
  match best with
  | some best => if rule.specificity best = .lt then some best else some rule
  | none => some rule

def deciding? (filter : LogFilter) (event : Event) : Option LogRule :=
  (filter.filter (·.fits event)).foldl closer none

def keeps (filter : LogFilter) (event : Event) : Bool :=
  match filter.deciding? event with
  | some rule => rule.admits event.level
  | none => false

def errorsOnly : LogFilter := [⟨"", [], some .error⟩]

def standard : LogFilter :=
  ["fontcut", "fontcut_core", "fontcut_infra_system"].map fun target => ⟨target, [], some .info⟩

end LogFilter
end FontSubset
