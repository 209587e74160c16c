import FontSubset.Decimal.Shortest
/-! JSON values and their two written forms, one line without blanks and one member
a line with two blanks a level. Members keep their order. -/
namespace FontSubset.Json

/-- A number: an integer of 64 bits, signed or not, or else a binary fraction. -/
inductive Number
  | integer (n : Int)
  | real (negative : Bool) (value : Decimal.Binary64)
  deriving DecidableEq, Repr

def Number.text : Number → String
  | integer n => toString n
  | real negative value => Decimal.text negative value

inductive Value
  | null
  | bool (b : Bool)
  | number (n : Number)
  | text (s : String)
  | array (items : List Value)
  | object (members : List (String × Value))
  deriving Repr, Inhabited

namespace Value

def int (n : Int) : Value := number (.integer n)

def hexDigit (n : Nat) : Char := Nat.digitChar n

/-- A character inside quotes. Only quotes, backslashes and controls are escaped. -/
def escape (c : Char) : List Char :=
  if c = '"' ∨ c = '\\' then ['\\', c]
  else if c = '\x08' then ['\\', 'b']
  else if c = '\x0c' then ['\\', 'f']
  else if c = '\n' then ['\\', 'n']
  else if c = '\r' then ['\\', 'r']
  else if c = '\t' then ['\\', 't']
  else if c.toNat < 0x20 then
    ['\\', 'u', '0', '0', hexDigit (c.toNat / 16), hexDigit (c.toNat % 16)]
  else [c]

def quoted (s : String) : List Char := '"' :: s.toList.flatMap escape ++ ['"']

def atom : Value → List Char
  | null => "null".toList
  | bool true => "true".toList
  | bool false => "false".toList
  | number n => n.text.toList
  | text s => quoted s
  | array _ | object _ => []

mutual

def compact : Value → List Char
  | array items => '[' :: compactItems items ++ [']']
  | object members => '{' :: compactMembers members ++ ['}']
  | null => atom null
  | bool b => atom (bool b)
  | number n => atom (number n)
  | text s => atom (text s)

def compactItems : List Value → List Char
  | [] => []
  | [item] => compact item
  | item :: rest => compact item ++ ',' :: compactItems rest

def compactMembers : List (String × Value) → List Char
  | [] => []
  | [(key, value)] => quoted key ++ ':' :: compact value
  | (key, value) :: rest => quoted key ++ ':' :: compact value ++ ',' :: compactMembers rest

end

def newLine (level : Nat) : List Char := '\n' :: List.replicate (2 * level) ' '

mutual

def pretty (level : Nat) : Value → List Char
  | array [] => ['[', ']']
  | array (item :: items) =>
    '[' :: prettyItems (level + 1) (item :: items) ++ newLine level ++ [']']
  | object [] => ['{', '}']
  | object (member :: members) =>
    '{' :: prettyMembers (level + 1) (member :: members) ++ newLine level ++ ['}']
  | null => atom null
  | bool b => atom (bool b)
  | number n => atom (number n)
  | text s => atom (text s)

def prettyItems (level : Nat) : List Value → List Char
  | [] => []
  | [item] => newLine level ++ pretty level item
  | item :: rest => newLine level ++ pretty level item ++ ',' :: prettyItems level rest

def prettyMembers (level : Nat) : List (String × Value) → List Char
  | [] => []
  | [(key, value)] => newLine level ++ quoted key ++ ':' :: ' ' :: pretty level value
  | (key, value) :: rest =>
    newLine level ++ quoted key ++ ':' :: ' ' :: pretty level value ++
      ',' :: prettyMembers level rest

end

def write (value : Value) : String := String.ofList value.compact

def writePretty (value : Value) : String := String.ofList (value.pretty 0)

end Value
end FontSubset.Json
