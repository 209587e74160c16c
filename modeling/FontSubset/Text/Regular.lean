import FontSubset.Text.Utf8
/-! Regular expressions and numbers, as far as to tell whether a text is one. -/
namespace FontSubset.Text

namespace Regular

inductive Place
  | item (repeatable : Bool)
  | groupStart
  | flags
  | groupName
  | setStart (negated : Bool)
  | escape
  | digits (owed : Nat)
  deriving DecidableEq, Repr

structure Reader where
  groups : Nat
  sets : Nat
  place : Place
  deriving DecidableEq, Repr

def isHexDigit (c : Char) : Bool :=
  c.isDigit || ('a' ≤ c && c ≤ 'f') || ('A' ≤ c && c ≤ 'F')

/-- What may stand behind a backslash, numbers apart: the names of control characters and of
places in the text, and the signs of ASCII. -/
def isEscaped (c : Char) : Bool :=
  "aftnrvAz".toList.contains c || (c.toNat < 0x80 && !c.isAlphanum && c != '<' && c != '>')

namespace Reader

def moved (reader : Reader) (place : Place) : Option Reader := some { reader with place }

def member? (reader : Reader) (c : Char) : Option Reader :=
  match c with
  | '\\' => reader.moved .escape
  | '[' => some { reader with sets := reader.sets + 1, place := .setStart false }
  | ']' => some { reader with sets := reader.sets - 1, place := .item true }
  | _ => reader.moved (.item true)

def item? (reader : Reader) (repeatable : Bool) (c : Char) : Option Reader :=
  if reader.sets > 0 then reader.member? c
  else
    match c with
    | '\\' => reader.moved .escape
    | '[' => some { reader with sets := 1, place := .setStart false }
    | '(' => some { reader with groups := reader.groups + 1, place := .groupStart }
    | ')' =>
      if reader.groups = 0 then none
      else some { reader with groups := reader.groups - 1, place := .item true }
    | '|' => reader.moved (.item false)
    | '*' | '+' | '?' => if repeatable then reader.moved (.item true) else none
    | '\x7b' => none
    | _ => reader.moved (.item true)

def next? (reader : Reader) (c : Char) : Option Reader :=
  match reader.place, c with
  | .item repeatable, c => reader.item? repeatable c
  | .groupStart, '?' => reader.moved .flags
  | .groupStart, c => reader.item? false c
  | .flags, ')' => some { reader with groups := reader.groups - 1, place := .item false }
  | .flags, ':' => reader.moved (.item false)
  | .flags, '<' => reader.moved .groupName
  | .flags, c => if "-PRUmsux".toList.contains c then some reader else none
  | .groupName, '>' => reader.moved (.item false)
  | .groupName, c => if c.isAlphanum || c == '_' then some reader else none
  | .setStart false, '^' => reader.moved (.setStart true)
  | .setStart _, ']' => reader.moved (.item true)
  | .setStart _, c => reader.member? c
  | .escape, 'x' => reader.moved (.digits 1)
  | .escape, 'u' => reader.moved (.digits 3)
  | .escape, 'U' => reader.moved (.digits 7)
  | .escape, c => if isEscaped c then reader.moved (.item true) else none
  | .digits 0, c => if isHexDigit c then reader.moved (.item true) else none
  | .digits (owed + 1), c => if isHexDigit c then reader.moved (.digits owed) else none

def isDone (reader : Reader) : Bool :=
  reader.groups == 0 && reader.sets == 0 && (reader.place matches .item _)

end Reader
end Regular

/-- Whether a text is a regular expression in which no count of repetitions is given. -/
def isRegular (text : List Char) : Bool :=
  ((text.foldlM Regular.Reader.next? ⟨0, 0, .item false⟩).map Regular.Reader.isDone).getD false

def mantissa (text : List Char) : List Char :=
  let isMark (c : Char) : Bool := c == 'e' || c == 'E'
  match text.dropWhile (!isMark ·) with
  | _ :: '+' :: c :: rest | _ :: '-' :: c :: rest | _ :: c :: rest =>
    if (c :: rest).all Char.isDigit then text.takeWhile (!isMark ·) else text
  | _ => text

def isNumber (text : List Char) : Bool :=
  let unsigned := match text with
    | '+' :: rest | '-' :: rest => rest
    | _ => text
  let digits := mantissa unsigned
  let around := digits.takeWhile Char.isDigit ++ match digits.dropWhile Char.isDigit with
    | '.' :: rest => rest
    | rest => rest
  !around.isEmpty && around.all Char.isDigit

end FontSubset.Text
