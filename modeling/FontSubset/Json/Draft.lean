import FontSubset.Json.Token
/-! What can be read of a JSON text from the left: a tree that may break off. The
first mistake of the text is the last thing in the tree, so whoever walks the tree in
order meets a wrong value before a mistake that comes after it. -/
namespace FontSubset.Json

/-- A list or an object holds what stands before its closing bracket or before the first mistake. A
key that is no text comes last, with nothing for a value. -/
inductive Draft
  | broken
  | null
  | bool (b : Bool)
  | number (n : Option Number)
  | text (content : Option String)
  | array (items : List Draft) (closed : Bool)
  | object (members : List (Draft × Draft)) (closed : Bool)
  deriving Repr, Inhabited

namespace Draft

mutual

def ofTokens : Nat → List Token → Draft × List Token
  | 0, _ => (broken, [])
  | steps + 1, tokens =>
    match tokens with
    | .null :: rest => (null, rest)
    | .bool b :: rest => (bool b, rest)
    | .number n :: rest => (number n, rest)
    | .text content :: rest => (text content, rest)
    | .beginArray :: .endArray :: rest => (array [] true, rest)
    | .beginArray :: rest =>
      let (items, closed, rest) := itemsOfTokens steps rest
      (array items closed, rest)
    | .beginObject :: .endObject :: rest => (object [] true, rest)
    | .beginObject :: rest =>
      let (members, closed, rest) := membersOfTokens steps rest
      (object members closed, rest)
    | _ => (broken, [])

def itemsOfTokens : Nat → List Token → List Draft × Bool × List Token
  | 0, _ => ([], false, [])
  | steps + 1, tokens =>
    let (item, rest) := ofTokens steps tokens
    match rest with
    | .comma :: rest =>
      let (items, closed, rest) := itemsOfTokens steps rest
      (item :: items, closed, rest)
    | .endArray :: rest => ([item], true, rest)
    | _ => ([item], false, [])

def membersOfTokens : Nat → List Token → List (Draft × Draft) × Bool × List Token
  | 0, _ => ([], false, [])
  | steps + 1, tokens =>
    match tokens with
    | .text key :: .colon :: rest =>
      let (value, rest) := ofTokens steps rest
      match rest with
      | .comma :: rest =>
        let (members, closed, rest) := membersOfTokens steps rest
        ((text key, value) :: members, closed, rest)
      | .endObject :: rest => ([(text key, value)], true, rest)
      | _ => ([(text key, value)], false, [])
    | tokens => ([((ofTokens steps tokens).1, broken)], false, [])

end

/-- The draft of a text, and whether nothing comes after it. Each step into the tree
takes a token and at most two levels of the count. -/
def read (source : String) : Draft × Bool :=
  let tokens := Token.ofChars source.toList
  let (draft, rest) := ofTokens (2 * tokens.length + 2) tokens
  (draft, rest.isEmpty)

def isText : Draft → Bool
  | text _ => true
  | _ => false

def keyText? : Draft → Option String
  | text content => content
  | _ => none

mutual

def isWhole : Draft → Bool
  | broken => false
  | null | bool _ | number _ | text _ => true
  | array items closed => areWhole items && closed
  | object members closed => membersWhole members && closed

def areWhole : List Draft → Bool
  | [] => true
  | item :: rest => isWhole item && areWhole rest

def membersWhole : List (Draft × Draft) → Bool
  | [] => true
  | (key, value) :: rest => isText key && isWhole value && membersWhole rest

end

mutual

def value? (depth : Nat) : Draft → Option Value
  | broken => none
  | null => some .null
  | bool b => some (.bool b)
  | number n => n.map .number
  | text content => content.map .text
  | array items closed =>
    if depth ≤ 1 then none
    else (values? (depth - 1) items).bind fun items => if closed then some (.array items) else none
  | object members closed =>
    if depth ≤ 1 then none
    else (memberValues? (depth - 1) members).bind fun members =>
      if closed then some (.object members) else none

def values? (depth : Nat) : List Draft → Option (List Value)
  | [] => some []
  | item :: rest => do
    let item ← value? depth item
    let rest ← values? depth rest
    return item :: rest

def memberValues? (depth : Nat) : List (Draft × Draft) → Option (List (String × Value))
  | [] => some []
  | (key, value) :: rest => do
    let key ← keyText? key
    let value ← value? depth value
    let rest ← memberValues? depth rest
    return (key, value) :: rest

end

end Draft
end FontSubset.Json
