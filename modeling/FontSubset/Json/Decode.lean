import FontSubset.Json.Draft
import FontSubset.Text.Quoted
/-! Reading typed values out of drafts and values: what was found where something else
was expected, and records that are written as objects. -/
namespace FontSubset.Json

inductive Found
  | null
  | bool (b : Bool)
  | number (n : Number)
  | text (s : String)
  | array
  | object
  deriving Repr

def Found.describe : Found → String
  | null => "null"
  | bool true => "boolean `true`"
  | bool false => "boolean `false`"
  | number (.integer n) => "integer `" ++ toString n ++ "`"
  | number n => "floating point `" ++ n.text ++ "`"
  | text s => "string " ++ Text.quote s
  | array => "sequence"
  | object => "map"

inductive DecodeError
  | malformed
  | wrongType (found : Found) (expected : String)
  | outOfRange (n : Int) (expected : String)
  | unknownVariant (name : String) (known : List String)
  | missingField (name : String)
  | duplicateField (name : String)
  | wrongLength (length : Nat) (expected : String)
  deriving Repr

def alternatives : List String → String
  | [a] => "`" ++ a ++ "`"
  | [a, b] => "`" ++ a ++ "` or `" ++ b ++ "`"
  | names => "one of " ++ ", ".intercalate (names.map fun name => "`" ++ name ++ "`")

def DecodeError.message : DecodeError → String
  | malformed => "malformed JSON text"
  | wrongType found expected => "invalid type: " ++ found.describe ++ ", expected " ++ expected
  | outOfRange n expected =>
    "invalid value: integer `" ++ toString n ++ "`, expected " ++ expected
  | unknownVariant name known =>
    "unknown variant `" ++ name ++ "`, expected " ++ alternatives known
  | missingField name => "missing field `" ++ name ++ "`"
  | duplicateField name => "duplicate field `" ++ name ++ "`"
  | wrongLength length expected =>
    "invalid length " ++ toString length ++ ", expected " ++ expected

abbrev Decoded (α : Type) := Except DecodeError α

def Value.found : Value → Found
  | null => .null
  | bool b => .bool b
  | number n => .number n
  | text s => .text s
  | array _ => .array
  | object _ => .object

/-- What a draft begins with. A bracket is enough to know a list, but a number or a
text is read to its end. -/
def Draft.found? : Draft → Option Found
  | broken => none
  | null => some .null
  | bool b => some (.bool b)
  | number n => n.map .number
  | text content => content.map .text
  | array .. => some .array
  | object .. => some .object

def Draft.refuse {α : Type} (draft : Draft) (expected : String) : Decoded α :=
  match draft.found? with
  | some found => .error (.wrongType found expected)
  | none => .error .malformed

def orMalformed {α : Type} : Option α → Decoded α
  | some a => .ok a
  | none => .error .malformed

namespace Found

def integer (low high : Int) (expected : String) : Found → Decoded Int
  | number (.integer n) => if low ≤ n ∧ n ≤ high then .ok n else .error (.outOfRange n expected)
  | found => .error (.wrongType found expected)

def string (expected : String) : Found → Decoded String
  | text s => .ok s
  | found => .error (.wrongType found expected)

def boolean : Found → Decoded Bool
  | bool b => .ok b
  | found => .error (.wrongType found "a boolean")

end Found

def Draft.one {α : Type} (draft : Draft) (decode : Found → Decoded α) : Decoded α :=
  (orMalformed draft.found?).bind decode

/-- A named place of a record that is filled once, from a value of kind `α`. -/
structure Slot (α σ : Type) where
  name : String
  isFilled : σ → Bool
  fill : α → σ → Decoded σ

/-- Reads members into the slots of a record, in order. Members without a slot only
have to be whole. -/
def fillSlots {α σ : Type} (slots : List (Slot α σ)) (isWhole : α → Bool) :
    List (Option String × α) → σ → Decoded σ
  | [], record => .ok record
  | (none, _) :: _, _ => .error .malformed
  | (some name, value) :: rest, record =>
    match slots.find? (·.name == name) with
    | some slot =>
      if slot.isFilled record then .error (.duplicateField name)
      else (slot.fill value record).bind (fillSlots slots isWhole rest)
    | none => if isWhole value then fillSlots slots isWhole rest record else .error .malformed

def fillFromDraft {σ : Type} (slots : List (Slot Draft σ)) (members : List (Draft × Draft))
    (closed : Bool) (record : σ) : Decoded σ :=
  (fillSlots slots Draft.isWhole (members.map fun (key, value) => (key.keyText?, value)) record).bind
    fun record => if closed then .ok record else .error .malformed

def fillFromValues {σ : Type} (slots : List (Slot Value σ)) (members : List (String × Value))
    (record : σ) : Decoded σ :=
  fillSlots slots (fun _ => true) (members.map fun (key, value) => (some key, value)) record

def required {α : Type} (name : String) : Option α → Decoded α
  | some a => .ok a
  | none => .error (.missingField name)

def itemAt (items : List Draft) (closed : Bool) (place : Nat) (expected : String) :
    Decoded Draft :=
  match items[place]? with
  | some item => .ok item
  | none => .error (if closed then .wrongLength place expected else .malformed)

def endAt (items : List Draft) (closed : Bool) (length : Nat) : Decoded Unit :=
  if closed && items.length ≤ length then .ok () else .error .malformed

end FontSubset.Json
