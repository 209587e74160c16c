/-! Scripts of the command language, read. -/
namespace FontSubset.Shell

/-- What is done to a parameter by the signs `-`, `+`, `=`, `?`, `#` and `%`. A colon before the sign
counts an empty parameter as unset. -/
inductive Change
  | otherwise (orEmpty : Bool)
  | instead (orEmpty : Bool)
  | settle (orEmpty : Bool)
  | demand (orEmpty : Bool)
  | cutFront (longest : Bool)
  | cutBack (longest : Bool)
  deriving DecidableEq, Repr

/-- A part of a word. What is quoted is not split at blanks. -/
inductive Piece
  | text (content : String) (quoted : Bool)
  | parameter (name : String) (quoted : Bool)
  | changed (name : String) (change : Change) (word : List Piece) (quoted : Bool)
  | size (name : String)
  | malformed
  | arithmetic (expression : List Piece)
  | substitution (script : String) (quoted : Bool)
  deriving Repr, Inhabited

abbrev Word := List Piece

inductive Opening
  | replace
  | force
  | append
  deriving DecidableEq, Repr

inductive Redirection
  | duplicate (descriptor : Nat) (source : Word)
  | write (descriptor : Nat) (path : Word) (mode : Opening)
  | read (descriptor : Nat) (path : Word)
  | hereText (descriptor : Nat) (text : Word)
  deriving Repr

structure Simple where
  line : Nat
  assignments : List (String × Word)
  words : List Word
  redirections : List Redirection
  deriving Repr, Inhabited

mutual

inductive Command
  | nothing
  | simple (command : Simple)
  | sequence (first second : Command)
  | both (first second : Command)
  | either (first second : Command)
  | negated (command : Command)
  | piped (first second : Command)
  | apart (command : Command)
  | behind (command : Command)
  | loop (whileTrue : Bool) (condition body : Command)
  | each (line : Nat) (name : String) (words : List Word) (body : Command)
  | branch (condition yes no : Command)
  | choice (line : Nat) (word : Word) (cases : Cases)
  | define (name : String) (body : Command)
  | redirected (line : Nat) (redirections : List Redirection) (command : Command)

inductive Cases
  | none
  | more (patterns : List Word) (body : Command) (rest : Cases)

end

def Command.isNothing : Command → Bool
  | nothing => true
  | _ => false

instance : Inhabited Command := ⟨.nothing⟩

structure Script where
  commands : List Command
  mistake? : Option (Nat × String)

end FontSubset.Shell
