import FontSubset.LogFilter
import FontSubset.Text.Alphanumeric
import FontSubset.Text.Classes
import FontSubset.Text.Regular
/-! The directives of a log filter: a target, then a span and the fields it has to have in
brackets, then a level behind an equals sign, each of which may be left out. A directive is
read character by character, and its parts are cut out of it where they begin and end. -/
namespace FontSubset

structure FieldMatch where
  name : String
  value? : Option String
  deriving DecidableEq, Repr

namespace FieldMatch

/-- Reads `name` or `name=value`, the value being a number or a regular expression. What follows
a second equals sign is ignored. -/
def parse? (text : String) : Option FieldMatch :=
  match text.toList.splitOn '=' with
  | name :: value :: _ =>
    if Text.isNumber value || Text.isRegular value then
      some ⟨String.ofList name, some (String.ofList value)⟩
    else none
  | _ => some ⟨text, none⟩

end FieldMatch

structure Directive where
  target? : Option String
  span? : Option String
  fields : List FieldMatch
  finest : Option Level
  deriving DecidableEq, Repr

namespace Directive

def empty : Directive := ⟨none, none, [], some .trace⟩

/-- The rule that a directive comes to. One about spans, or about values that only spans keep,
comes to none, for nothing happens in a span. -/
def rule? (directive : Directive) : Option LogRule :=
  if directive.span?.isSome || directive.fields.any (·.value?.isSome) then none
  else some ⟨directive.target?.getD "", directive.fields.map (·.name), directive.finest⟩

def levelNames : List (String × Option Level) :=
  [("off", none), ("error", some .error), ("warn", some .warn), ("info", some .info),
    ("debug", some .debug), ("trace", some .trace)]

def levels : List (Option Level) := levelNames.map (·.2)

def digits? (digits : List Char) : Option Nat :=
  if digits.isEmpty || !digits.all Char.isDigit then none
  else some (digits.foldl (fun n c => 10 * n + (c.toNat - '0'.toNat)) 0)

def number? : List Char → Option Nat
  | '+' :: digits => digits? digits
  | digits => digits? digits

def level? (text : String) : Option (Option Level) :=
  match (number? text.toList).bind fun n => levels[n]? with
  | some finest => some finest
  | none =>
    (levelNames.find? fun (name, _) => Text.lowercase text.toList == name.toList).map (·.2)

def finest? (text : String) : Option (Option Level) :=
  if text.isEmpty then some (some .trace) else level? text

def ofWord (text : String) (directive : Directive) : Directive :=
  match level? text with
  | some finest => { directive with finest }
  | none => { directive with target? := some text }

inductive Stage
  | start
  | levelOrTarget (first : Nat)
  | span (first : Nat)
  | field (first : Nat)
  | fieldsEnd
  | spanEnd
  | level (first : Nat)
  deriving DecidableEq, Repr

structure Reader where
  text : Bytes
  directive : Directive
  stage : Stage

namespace Reader

def cut? (reader : Reader) (first stop : Nat) : Option String :=
  Text.decode? ((reader.text.drop first).take (stop - first))

def rest? (reader : Reader) (first : Nat) : Option String := reader.cut? first reader.text.length

def addField? (reader : Reader) (first stop : Nat) (stage : Stage) : Option Reader := do
  let text ← reader.cut? first stop
  if text.isEmpty then none
  else
    let field ← FieldMatch.parse? text
    return { reader with
      directive := { reader.directive with fields := reader.directive.fields ++ [field] }
      stage }

def isWordStart (c : Char) : Bool :=
  c == '-' || c == ':' || c == '_' || Text.isAlphanumeric c

def next? (reader : Reader) (place : Nat) (c : Char) : Option Reader :=
  let directive := reader.directive
  match reader.stage, c with
  | .start, '[' => some { reader with stage := .span (place + 1) }
  | .start, c => if isWordStart c then some { reader with stage := .levelOrTarget place } else none
  | .levelOrTarget first, '=' => do
    let directive := { directive with target? := some (← reader.cut? first place) }
    return { reader with directive, stage := .level (place + 1) }
  | .levelOrTarget first, '[' => do
    let directive := { directive with target? := some (← reader.cut? first place) }
    return { reader with directive, stage := .span (place + 1) }
  | .span first, ']' => do
    let directive := { directive with span? := some (← reader.cut? first place) }
    return { reader with directive, stage := .spanEnd }
  | .span first, '\x7b' => do
    let name ← reader.cut? first place
    let directive := { directive with span? := if name.isEmpty then none else some name }
    return { reader with directive, stage := .field (place + 1) }
  | .field first, '\x7d' => reader.addField? first place .fieldsEnd
  | .fieldsEnd, ']' => some { reader with stage := .spanEnd }
  | .spanEnd, '=' => some { reader with stage := .level (place + 1) }
  | .levelOrTarget _, _ | .span _, _ | .field _, _ | .level _, _ => some reader
  | .fieldsEnd, _ | .spanEnd, _ => none

def finish? (reader : Reader) : Option Directive :=
  match reader.stage with
  | .levelOrTarget first => do return ofWord (← reader.rest? first) reader.directive
  | .level first => do
    return { reader.directive with finest := ← finest? (← reader.rest? first) }
  | .spanEnd => some reader.directive
  | .start | .span _ | .field _ | .fieldsEnd => none

def run? (reader : Reader) (place : Nat) : List Char → Option Directive
  | [] => reader.finish?
  | c :: rest => do (← reader.next? place c).run? (place + c.utf8Size) rest

end Reader

/-- Reads a directive. Blanks around it are passed over by the reader but are not left out of
the places it counts, so they are cut into the parts. -/
def parse? (text : List Char) : Option Directive :=
  Reader.run? ⟨Text.encodeChars text, .empty, .start⟩ 0 (Text.trim text)

end Directive

namespace LogFilter

def stretches (text : List Char) : List (List Char) :=
  (text.splitOn ',').filter (!·.isEmpty)

def parse? (text : String) : Option LogFilter :=
  match stretches text.toList with
  | [] => some errorsOnly
  | texts => (texts.mapM Directive.parse?).map fun directives => directives.filterMap Directive.rule?

def ofVariable (value? : Option Bytes) : LogFilter :=
  ((value?.bind Text.decode?).bind parse?).getD standard

end LogFilter
end FontSubset
