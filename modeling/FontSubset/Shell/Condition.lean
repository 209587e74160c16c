import FontSubset.Files.Place
import FontSubset.Shell.Numeral
import FontSubset.Text.Utf8
/-! Conditions on texts, numbers and files. What a word means depends on where it stands: a sign
with nothing to apply to is a text. -/
namespace FontSubset.Shell

def pathOf (text : String) : Path := ⟨Text.ofOctets text⟩

namespace Condition

inductive Role
  | unary
  | binary
  | negation
  | conjunction
  | disjunction
  | opening
  | closing
  deriving DecidableEq, Repr

def unarySigns : List String :=
  ["-r", "-w", "-x", "-e", "-f", "-d", "-c", "-b", "-p", "-u", "-g", "-k", "-s", "-t", "-z", "-n",
    "-h", "-O", "-G", "-L", "-S"]

def binarySigns : List String :=
  ["=", "!=", "<", ">", "-eq", "-ne", "-gt", "-ge", "-lt", "-le", "-nt", "-ot", "-ef"]

def role? (word : String) : Option Role :=
  if unarySigns.contains word then some .unary
  else if binarySigns.contains word then some .binary
  else
    match word with
    | "!" => some .negation
    | "-a" => some .conjunction
    | "-o" => some .disjunction
    | "(" => some .opening
    | ")" => some .closing
    | _ => none

def isAlone : List String → Bool
  | [] => true
  | [_] => false
  | word :: _ => role? word = some .binary

def roleAt : List String → Option Role
  | [] => none
  | word :: rest =>
    match role? word with
    | some .unary => if isAlone rest then none else some .unary
    | some .opening => if rest.isEmpty then none else some .opening
    | role => role

/-- An answer, the last word it took, and the words behind that. -/
structure Answer where
  holds : Bool
  last : String
  rest : List String

abbrev Outcome := Except String Answer

def nodeAt? (files : Files) (text : String) : Option Files.Node := (files.find (pathOf text)).toOption

def isLink (files : Files) (text : String) : Bool :=
  match files.place false (pathOf text) with
  | .ok ⟨_, some (.link _)⟩ => true
  | _ => false

def isSame (files : Files) (a b : String) : Bool :=
  match files.place true (pathOf a), files.place true (pathOf b) with
  | .ok ⟨here, some _⟩, .ok ⟨there, some _⟩ => here == there
  | _, _ => false

def isExecutable : Files.Node → Bool
  | .file _ executable => executable
  | .program _ | .directory _ => true
  | _ => false

def hasSize : Files.Node → Bool
  | .file bytes _ => !bytes.isEmpty
  | .program _ | .directory _ => true
  | _ => false

def isDevice : Files.Node → Bool
  | .device _ => true
  | _ => false

def numberOf (text : String) : Except String Int :=
  match Numeral.whole? Numeral.decimal? text with
  | some n => .ok n
  | none => .error ("Illegal number: " ++ text)

/-- No descriptor leads to a terminal, and no file has a special mode. -/
def applyUnary (files : Files) (sign argument : String) : Except String Bool :=
  let node? := nodeAt? files argument
  match sign with
  | "-n" => .ok !argument.isEmpty
  | "-z" => .ok argument.isEmpty
  | "-f" => .ok (node?.any Files.Node.isFile)
  | "-d" => .ok (node?.any Files.Node.isDirectory)
  | "-x" => .ok (node?.any isExecutable)
  | "-s" => .ok (node?.any hasSize)
  | "-c" => .ok (node?.any isDevice)
  | "-L" | "-h" => .ok (isLink files argument)
  | "-t" => (numberOf argument).map fun _ => false
  | "-e" | "-r" | "-w" | "-O" | "-G" => .ok node?.isSome
  | _ => .ok false

def applyBinary (files : Files) (sign a b : String) : Except String Bool :=
  let compared (holds : Int → Int → Bool) : Except String Bool := do
    let a ← numberOf a
    let b ← numberOf b
    return holds a b
  match sign with
  | "=" => .ok (a == b)
  | "!=" => .ok (a != b)
  | "<" => .ok (a < b)
  | ">" => .ok (b < a)
  | "-eq" => compared fun a b => a == b
  | "-ne" => compared fun a b => a != b
  | "-lt" => compared fun a b => a < b
  | "-le" => compared fun a b => a ≤ b
  | "-gt" => compared fun a b => b < a
  | "-ge" => compared fun a b => b ≤ a
  | "-ef" => .ok (isSame files a b)
  | _ => .ok false

mutual

def primary (files : Files) (steps : Nat) (role : Option Role) (words : List String) : Outcome :=
  match steps, words with
  | 0, _ => .error "too many arguments"
  | _, [] => .ok ⟨false, "", []⟩
  | steps + 1, word :: rest =>
    match role, rest with
    | some .opening, rest =>
      if roleAt rest = some .closing then .ok ⟨false, ")", rest.tail⟩
      else do
        let answer ← disjunction files steps (roleAt rest) rest
        if roleAt answer.rest = some .closing then return { answer with last := ")", rest := answer.rest.tail }
        else .error "closing paren expected"
    | some .unary, [] => .error (word ++ ": argument expected")
    | some .unary, argument :: rest => do
      return ⟨← applyUnary files word argument, argument, rest⟩
    | _, sign :: rest =>
      if role? sign = some .binary then
        match rest with
        | [] => .error (sign ++ ": argument expected")
        | second :: rest => do return ⟨← applyBinary files sign word second, second, rest⟩
      else .ok ⟨!word.isEmpty, word, sign :: rest⟩
    | _, [] => .ok ⟨!word.isEmpty, word, []⟩

def negated (files : Files) (steps : Nat) (role : Option Role) (words : List String) : Outcome :=
  match steps with
  | 0 => .error "too many arguments"
  | steps + 1 =>
    match role, words with
    | some .negation, ["!"] => .ok ⟨true, "!", []⟩
    | some .negation, _ :: rest => do
      let answer ← negated files steps (roleAt rest) rest
      return { answer with holds := !answer.holds }
    | role, words => primary files steps role words

def conjunction (files : Files) (steps : Nat) (role : Option Role) (words : List String) : Outcome :=
  match steps with
  | 0 => .error "too many arguments"
  | steps + 1 => do
    let first ← negated files steps role words
    if roleAt first.rest = some .conjunction then do
      let second ← conjunction files steps (roleAt first.rest.tail) first.rest.tail
      return { second with holds := first.holds && second.holds }
    else return first

def disjunction (files : Files) (steps : Nat) (role : Option Role) (words : List String) : Outcome :=
  match steps with
  | 0 => .error "too many arguments"
  | steps + 1 => do
    let first ← conjunction files steps role words
    if roleAt first.rest = some .disjunction then do
      let second ← disjunction files steps (roleAt first.rest.tail) first.rest.tail
      return { second with holds := first.holds || second.holds }
    else return first

end

def whole (files : Files) (role : Option Role) (words : List String) : Except String Bool := do
  let answer ← disjunction files (4 * words.length + 8) role words
  if answer.rest.isEmpty then return answer.holds
  else .error (answer.last ++ ": unexpected operator")

/-- What some words come to. Of three words the middle one decides, if it is a binary sign; a
negation or brackets around two or three words come before everything else. -/
def check (files : Files) : List String → Except String Bool
  | [] => .ok false
  | first :: rest =>
    let isBinary := rest.length == 2 && (rest.head?.bind role?) == some .binary
    let isShort := rest.length == 2 || rest.length == 3
    if isBinary then whole files none (first :: rest)
    else if isShort && first == "(" && rest.getLast? == some ")" then
      whole files (roleAt rest.dropLast) rest.dropLast
    else if isShort && first == "!" then (check files rest).map not
    else whole files (roleAt (first :: rest)) (first :: rest)

end Condition
end FontSubset.Shell
