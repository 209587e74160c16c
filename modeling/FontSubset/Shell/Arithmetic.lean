import FontSubset.Shell.State
import FontSubset.Shell.Token
/-! Integer expressions. An unset variable counts as zero, and variables can be assigned to. -/
namespace FontSubset.Shell.Arithmetic

inductive Item
  | number (n : Int64)
  | name (text : String)
  | sign (text : String)
  | stranger
  deriving DecidableEq, Repr

inductive Fault
  | mistake (text : String)
  | illegal (value : String)
  | fixed (name : String)
  deriving DecidableEq, Repr

def Fault.text (expression : String) : Fault → String
  | mistake text => "arithmetic expression: " ++ text ++ ": \"" ++ expression ++ "\""
  | illegal value => "Illegal number: " ++ value
  | fixed name => name ++ ": is read only"

abbrev Evaluating := StateT (List Item × State) (Except Fault)

def levels : List (List String) :=
  [["|"], ["^"], ["&"], ["==", "!="], ["<=", ">=", "<", ">"], ["<<", ">>"], ["+", "-"],
    ["*", "/", "%"]]

def assignments : List (String × Option String) :=
  ("=", none) ::
    ["*", "/", "%", "+", "-", "<<", ">>", "&", "^", "|"].map fun sign => (sign ++ "=", some sign)

def signs : List String :=
  let all := assignments.map (·.1) ++ levels.flatten ++ ["||", "&&", "!", "~", "(", ")", "?", ":"]
  all.filter (·.length == 3) ++ all.filter (·.length == 2) ++ all.filter (·.length == 1)

def items : Nat → List Char → List Item
  | 0, _ => []
  | _, [] => []
  | steps + 1, c :: rest =>
    if c ∈ [' ', '\t', '\n'] then items steps rest
    else if Token.isNameStart c then
      .name (String.ofList ((c :: rest).takeWhile Token.isNameChar)) ::
        items steps ((c :: rest).dropWhile Token.isNameChar)
    else
      match Numeral.literal? (c :: rest), signs.find? fun sign => sign.toList.isPrefixOf (c :: rest) with
      | some (n, rest), _ => .number (Int64.ofInt (Numeral.clamped n)) :: items steps rest
      | none, some sign => .sign sign :: items steps ((c :: rest).drop sign.length)
      | none, none => [.stranger]

def mistake {α : Type} (text : String) : Evaluating α := throw (.mistake text)

def missingOperand {α : Type} : Evaluating α := mistake "expecting primary"

def sign? : Evaluating (Option String) := do
  match (← get).1 with
  | .sign sign :: _ => return some sign
  | _ => return none

def skip : Evaluating Unit := modify fun (items, state) => (items.tail, state)

def expect (sign : String) : Evaluating Unit := do
  if (← sign?) = some sign then skip else mistake ("expecting '" ++ sign ++ "'")

def apply (sign : String) (a b : Int64) : Evaluating Int64 :=
  let ofBool (answer : Bool) : Int64 := if answer then 1 else 0
  match sign with
  | "|" => return a ||| b
  | "^" => return a ^^^ b
  | "&" => return a &&& b
  | "==" => return ofBool (a == b)
  | "!=" => return ofBool (a != b)
  | "<=" => return ofBool (a ≤ b)
  | ">=" => return ofBool (b ≤ a)
  | "<" => return ofBool (a < b)
  | ">" => return ofBool (b < a)
  | "<<" => return a <<< b
  | ">>" => return a >>> b
  | "+" => return a + b
  | "-" => return a - b
  | "*" => return a * b
  | "/" => if b = 0 then mistake "division by zero" else return a / b
  | "%" => if b = 0 then mistake "division by zero" else return a % b
  | _ => missingOperand

def value (name : String) : Evaluating Int64 := do
  let text := ((← get).2.lookup name).getD ""
  if text.toList.all Numeral.isBlank then return 0
  else
    match Numeral.whole? Numeral.literal? text with
    | some n => return Int64.ofInt n
    | none => throw (.illegal text)

def assign (name : String) (n : Int64) : Evaluating Unit := do
  let (items, state) ← get
  if state.isFixed name then throw (.fixed name)
  else set (items, state.assign name (toString n.toInt))

mutual

/-- An operand: a number, a variable, a negation or something in brackets. Variables are only
looked at if the operand counts. -/
def operand (steps : Nat) (counts : Bool) : Evaluating Int64 :=
  match steps with
  | 0 => missingOperand
  | steps + 1 => do
    match (← get).1.head? with
    | some (.number n) => do
      skip
      return n
    | some (.name name) => do
      skip
      if counts then value name else return 0
    | some (.sign "-") => do
      skip
      return -(← operand steps counts)
    | some (.sign "+") => do
      skip
      operand steps counts
    | some (.sign "!") => do
      skip
      return if (← operand steps counts) == 0 then 1 else 0
    | some (.sign "~") => do
      skip
      return ~~~(← operand steps counts)
    | some (.sign "(") => do
      skip
      let n ← expression steps counts
      expect ")"
      return n
    | _ => missingOperand

def level (steps : Nat) (counts : Bool) (remaining : List (List String)) : Evaluating Int64 :=
  match steps, remaining with
  | 0, _ => missingOperand
  | steps + 1, [] => operand steps counts
  | steps + 1, signs :: tighter => do more steps counts signs tighter (← level steps counts tighter)

def more (steps : Nat) (counts : Bool) (signs : List String) (tighter : List (List String))
    (first : Int64) : Evaluating Int64 :=
  match steps with
  | 0 => missingOperand
  | steps + 1 => do
    match (← sign?).filter signs.contains with
    | none => return first
    | some sign => do
      skip
      let second ← level steps counts tighter
      more steps counts signs tighter (← if counts then apply sign first second else pure second)

def conjunction (steps : Nat) (counts : Bool) : Evaluating Int64 :=
  match steps with
  | 0 => missingOperand
  | steps + 1 => do
    let first ← level steps counts levels
    if (← sign?) = some "&&" then do
      skip
      let second ← conjunction steps (counts && first != 0)
      return if first != 0 && second != 0 then 1 else 0
    else return first

def disjunction (steps : Nat) (counts : Bool) : Evaluating Int64 :=
  match steps with
  | 0 => missingOperand
  | steps + 1 => do
    let first ← conjunction steps counts
    if (← sign?) = some "||" then do
      skip
      let second ← disjunction steps (counts && first == 0)
      return if first != 0 || second != 0 then 1 else 0
    else return first

def conditional (steps : Nat) (counts : Bool) : Evaluating Int64 :=
  match steps with
  | 0 => missingOperand
  | steps + 1 => do
    let first ← disjunction steps counts
    if (← sign?) = some "?" then do
      skip
      let yes ← expression steps (counts && first != 0)
      expect ":"
      let no ← conditional steps (counts && first == 0)
      return if first != 0 then yes else no
    else return first

def expression (steps : Nat) (counts : Bool) : Evaluating Int64 :=
  match steps with
  | 0 => missingOperand
  | steps + 1 => do
    match (← get).1 with
    | .name name :: .sign sign :: _ =>
      match assignments.lookup sign with
      | none => conditional steps counts
      | some change? => do
        skip
        skip
        let n ← expression steps counts
        if counts then do
          let n ← match change? with
            | some sign => apply sign (← value name) n
            | none => pure n
          assign name n
          return n
        else return n
    | _ => conditional steps counts

end

/-- The value of an expression and the state after its assignments, or what is wrong with it. -/
def evaluate (text : String) (state : State) : Except Fault (Int64 × State) := do
  let items := items (text.length + 1) text.toList
  let (n, rest, state) ← (expression (32 * items.length + 32) true).run (items, state)
  if rest.isEmpty then return (n, state) else throw (.mistake "expecting EOF")

end FontSubset.Shell.Arithmetic
