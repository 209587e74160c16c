import FontSubset.Shell.Token
/-! Commands read from tokens, a line of the script at a time. Commands before the line
of a mistake are kept. -/
namespace FontSubset.Shell

structure Mistake where
  line : Nat
  text : String
  deriving Repr

abbrev Parsed := Except Mistake

namespace Lexeme

def bare? (lexeme : Lexeme) : Option String :=
  match lexeme.token with
  | .word [.text content false] => some content
  | _ => none

def isBare (lexeme : Lexeme) (names : List String) : Bool :=
  lexeme.bare?.any names.contains

def isSign (lexeme : Lexeme) (names : List String) : Bool :=
  match lexeme.token with
  | .operator name => names.contains name
  | _ => lexeme.isBare names

def keywords : List String :=
  ["if", "then", "else", "elif", "fi", "for", "in", "while", "until", "do", "done", "case", "esac",
    "\x7b", "\x7d", "!"]

/-- What ends a list of commands, if it stands where a further one could begin. -/
def closers : List String :=
  ["then", "else", "elif", "fi", "do", "done", "esac", "\x7d", ")", ";;"]

def reserved : List String :=
  ["then", "else", "elif", "fi", "in", "do", "done", "esac", "\x7d", "!"]

def quote (name : String) : String := "\"" ++ name ++ "\""

/-- How a complaint names a token; `reading` tells whether keywords are looked for. -/
def describe (reading : Bool) (lexeme : Lexeme) : String :=
  match lexeme.token with
  | .newLine => "newline"
  | .operator name => if name ∈ ["<", ">", "<<", ">>", "<&", ">&", ">|"] then "redirection" else quote name
  | .descriptor _ => "redirection"
  | .word _ =>
    match lexeme.bare?.filter fun name => reading && keywords.contains name with
    | some name => quote name
    | none => "word"

end Lexeme

def refuse {α : Type} (reading : Bool) (expected : Option String) (lexemes : List Lexeme)
    (line : Nat) : Parsed α :=
  let hint := match expected with
    | some name => " (expecting " ++ name ++ ")"
    | none => ""
  match lexemes with
  | [] => .error ⟨line, "end of file unexpected" ++ hint⟩
  | lexeme :: _ => .error ⟨lexeme.line, lexeme.describe reading ++ " unexpected" ++ hint⟩

def unexpected {α : Type} (lexemes : List Lexeme) (line : Nat) : Parsed α :=
  refuse true none lexemes line

def expect (reading : Bool) (name : String) (line : Nat) : List Lexeme → Parsed (List Lexeme)
  | [] => refuse reading (some (Lexeme.quote name)) [] line
  | lexeme :: rest =>
    if lexeme.isSign [name] then .ok rest
    else refuse reading (some (Lexeme.quote name)) (lexeme :: rest) line

def skipLines : List Lexeme → List Lexeme
  | [] => []
  | lexeme :: rest =>
    match lexeme.token with
    | .newLine => skipLines rest
    | _ => lexeme :: rest

def redirectionOf? (descriptor : Option Nat) (operator : String) (word : Word) :
    Option Redirection :=
  match operator with
  | ">" => some (.write (descriptor.getD 1) word .replace)
  | ">|" => some (.write (descriptor.getD 1) word .force)
  | ">>" => some (.write (descriptor.getD 1) word .append)
  | "<" => some (.read (descriptor.getD 0) word)
  | "<<" => some (.hereText (descriptor.getD 0) word)
  | ">&" => some (.duplicate (descriptor.getD 1) word)
  | "<&" => some (.duplicate (descriptor.getD 0) word)
  | _ => none

def redirection? (line : Nat) (lexemes : List Lexeme) :
    Parsed (Option (Redirection × List Lexeme)) :=
  let (descriptor, lexemes) : Option Nat × List Lexeme := match lexemes with
    | ⟨.descriptor n, _⟩ :: rest => (some n, rest)
    | _ => (none, lexemes)
  match lexemes with
  | ⟨.operator name, _⟩ :: rest =>
    if (redirectionOf? descriptor name []).isNone then .ok none
    else
      match rest with
      | ⟨.word target, _⟩ :: rest => .ok ((redirectionOf? descriptor name target).map (·, rest))
      | rest => unexpected rest line
  | _ => .ok none

def redirections (line : Nat) : Nat → List Lexeme → Parsed (List Redirection × List Lexeme)
  | 0, lexemes => .ok ([], lexemes)
  | steps + 1, lexemes => do
    match ← redirection? line lexemes with
    | none => return ([], lexemes)
    | some (redirection, rest) =>
      let (more, rest) ← redirections line steps rest
      return (redirection :: more, rest)

def assignment? : Word → Option (String × Word)
  | .text content false :: rest =>
    let chars := content.toList
    let name := String.ofList (chars.takeWhile (· ≠ '='))
    match chars.dropWhile (· ≠ '=') with
    | _ :: value =>
      if Token.isName name then some (name, .text (String.ofList value) false :: rest) else none
    | [] => none
  | _ => none

def simpleCommand : Nat → Simple → List Lexeme → Parsed (Simple × List Lexeme)
  | 0, command, lexemes => .ok (command, lexemes)
  | steps + 1, command, lexemes => do
    match ← redirection? command.line lexemes with
    | some (redirection, rest) =>
      simpleCommand steps
        { command with redirections := command.redirections ++ [redirection] } rest
    | none =>
      match lexemes with
      | ⟨.word word, _⟩ :: rest =>
        match command.words, assignment? word with
        | [], some assignment =>
          simpleCommand steps
            { command with assignments := command.assignments ++ [assignment] } rest
        | words, _ => simpleCommand steps { command with words := words ++ [word] } rest
      | _ => return (command, lexemes)

def Simple.isEmpty (command : Simple) : Bool :=
  command.words.isEmpty && command.assignments.isEmpty && command.redirections.isEmpty

def plainWords : List Lexeme → List Word × List Lexeme
  | ⟨.word word, _⟩ :: rest =>
    let (words, rest) := plainWords rest
    (word :: words, rest)
  | lexemes => ([], lexemes)

def eachWords (last : Nat) (lexemes : List Lexeme) : Parsed (List Word × List Lexeme) :=
  match lexemes with
  | [] => .ok ([], [])
  | lexeme :: rest =>
    if lexeme.isBare ["in"] then
      let (words, rest) := plainWords rest
      match rest with
      | ⟨.newLine, _⟩ :: rest | ⟨.operator ";", _⟩ :: rest => .ok (words, skipLines rest)
      | rest => refuse false none rest last
    else .ok ([[.parameter "@" true]], if lexeme.isSign [";"] then skipLines rest else lexeme :: rest)

def casePatterns (last : Nat) : List Lexeme → Parsed (List Word × List Lexeme)
  | [] => refuse true (some (Lexeme.quote ")")) [] last
  | lexeme :: rest =>
    let word := match lexeme.token with
      | .word word => word
      | _ => []
    match rest with
    | ⟨.operator "|", _⟩ :: rest => do
      let (words, rest) ← casePatterns last rest
      return (word :: words, rest)
    | rest => do return ([word], ← expect false ")" last rest)

/-- Commands that cannot be the name of a function, for their own meaning is not to be changed. -/
def specialNames : List String :=
  [".", ":", "break", "continue", "eval", "exec", "exit", "export", "readonly", "return", "set",
    "shift", "times", "trap", "unset"]

mutual

/-- Commands up to something that ends them: the end of the line if `oneLine`, or what the caller
expects to stand there. The first of them may be `optional`. -/
def commandList (steps : Nat) (oneLine optional : Bool) (last : Nat) (lexemes : List Lexeme) :
    Parsed (Command × List Lexeme) :=
  match steps with
  | 0 => unexpected lexemes last
  | steps + 1 =>
    match if oneLine then lexemes else skipLines lexemes with
    | [] => .ok (.nothing, [])
    | lexeme :: rest =>
      match lexeme.token with
      | .newLine => .ok (.nothing, rest)
      | _ =>
        if optional && !oneLine && lexeme.isSign Lexeme.closers then .ok (.nothing, lexeme :: rest)
        else do
          let (first, rest) ← conjunction steps last (lexeme :: rest)
          match rest with
          | [] => return (first, [])
          | ⟨.operator ";", _⟩ :: after => do
            let (more, rest) ← commandList steps oneLine true last after
            return (.sequence first more, rest)
          | ⟨.operator "&", _⟩ :: after => do
            let (more, rest) ← commandList steps oneLine true last after
            return (.sequence (.behind first) more, rest)
          | ⟨.newLine, _⟩ :: after =>
            if oneLine then return (first, after)
            else do
              let (more, rest) ← commandList steps oneLine true last after
              return (.sequence first more, rest)
          | rest => if oneLine then unexpected rest last else return (first, rest)

def conjunction (steps : Nat) (last : Nat) (lexemes : List Lexeme) :
    Parsed (Command × List Lexeme) :=
  match steps with
  | 0 => unexpected lexemes last
  | steps + 1 => do
    let (first, rest) ← negation steps last lexemes
    moreConjuncts steps last first rest

def moreConjuncts (steps : Nat) (last : Nat) (first : Command) (lexemes : List Lexeme) :
    Parsed (Command × List Lexeme) :=
  match steps with
  | 0 => unexpected lexemes last
  | steps + 1 =>
    match lexemes with
    | ⟨.operator "&&", _⟩ :: rest => do
      let (second, rest) ← negation steps last (skipLines rest)
      moreConjuncts steps last (.both first second) rest
    | ⟨.operator "||", _⟩ :: rest => do
      let (second, rest) ← negation steps last (skipLines rest)
      moreConjuncts steps last (.either first second) rest
    | _ => .ok (first, lexemes)

def negation (steps : Nat) (last : Nat) (lexemes : List Lexeme) :
    Parsed (Command × List Lexeme) :=
  match steps with
  | 0 => unexpected lexemes last
  | steps + 1 =>
    match lexemes with
    | [] => unexpected [] last
    | lexeme :: rest =>
      if lexeme.isBare ["!"] then do
        let (command, rest) ← pipeline steps last rest
        return (.negated command, rest)
      else pipeline steps last lexemes

def pipeline (steps : Nat) (last : Nat) (lexemes : List Lexeme) :
    Parsed (Command × List Lexeme) :=
  match steps with
  | 0 => unexpected lexemes last
  | steps + 1 => do
    let (first, rest) ← oneCommand steps last lexemes
    morePipes steps last first rest

def morePipes (steps : Nat) (last : Nat) (first : Command) (lexemes : List Lexeme) :
    Parsed (Command × List Lexeme) :=
  match steps with
  | 0 => unexpected lexemes last
  | steps + 1 =>
    match lexemes with
    | ⟨.operator "|", _⟩ :: rest => do
      let (second, rest) ← oneCommand steps last (skipLines rest)
      morePipes steps last (.piped first second) rest
    | _ => .ok (first, lexemes)

def oneCommand (steps : Nat) (last : Nat) (lexemes : List Lexeme) :
    Parsed (Command × List Lexeme) :=
  match steps with
  | 0 => unexpected lexemes last
  | steps + 1 =>
    match lexemes with
    | [] => unexpected [] last
    | lexeme :: rest =>
      let inside (stop : String) (rest : List Lexeme) : Parsed (Command × List Lexeme) := do
        let (command, rest) ← commandList steps false false last rest
        return (command, ← expect true stop last rest)
      let finish (command : Command) (rest : List Lexeme) : Parsed (Command × List Lexeme) := do
        match ← redirections lexeme.line steps rest with
        | ([], rest) => return (command, rest)
        | (list, rest) => return (.redirected lexeme.line list command, rest)
      match lexeme.bare? with
      | some "while" => do
        let (condition, rest) ← inside "do" rest
        let (body, rest) ← inside "done" rest
        finish (.loop true condition body) rest
      | some "until" => do
        let (condition, rest) ← inside "do" rest
        let (body, rest) ← inside "done" rest
        finish (.loop false condition body) rest
      | some "for" =>
        match (rest.head?.bind Lexeme.bare?).filter Token.isName with
        | some name => do
          let (words, rest) ← eachWords last (skipLines rest.tail)
          let (body, rest) ← inside "done" (← expect true "do" last rest)
          finish (.each lexeme.line name words body) rest
        | none => .error ⟨(rest.head?.map (·.line)).getD last, "Bad for loop variable"⟩
      | some "case" =>
        match rest with
        | ⟨.word word, _⟩ :: rest => do
          let rest ← expect true "in" last (skipLines rest)
          let (list, rest) ← caseList steps last (skipLines rest)
          finish (.choice lexeme.line word list) rest
        | _ => refuse true (some "word") rest last
      | some "if" => do
        let (command, rest) ← alternatives steps last rest
        finish command rest
      | some "\x7b" => do
        let (body, rest) ← inside "\x7d" rest
        finish body rest
      | name? =>
        if lexeme.isSign ["("] then do
          let (body, rest) ← inside ")" rest
          finish (.apart body) rest
        else if name?.any Lexeme.reserved.contains then unexpected lexemes last
        else
          match lexeme.token, rest with
          | .word word, ⟨.operator "(", _⟩ :: rest => do
            if (assignment? word).isSome then unexpected (lexemes.drop 1) last
            else
            let rest ← expect false ")" last rest
            match name?.filter fun name => Token.isName name && !specialNames.contains name with
            | none => .error ⟨lexeme.line, "Bad function name"⟩
            | some name => do
              let (body, rest) ← oneCommand steps last (skipLines rest)
              return (.define name body, rest)
          | _, _ => do
            let start : Simple := ⟨lexeme.line, [], [], []⟩
            let (command, rest) ← simpleCommand lexemes.length start lexemes
            if command.isEmpty then unexpected rest last
            else return (.simple command, rest)

def caseList (steps : Nat) (last : Nat) (lexemes : List Lexeme) : Parsed (Cases × List Lexeme) :=
  match steps with
  | 0 => unexpected lexemes last
  | steps + 1 =>
    if lexemes.head?.any (·.isBare ["esac"]) then .ok (.none, lexemes.tail)
    else do
      let patterns := if lexemes.head?.any (·.isSign ["("]) then lexemes.tail else lexemes
      let (patterns, rest) ← casePatterns last patterns
      let (body, rest) ← commandList steps false true last rest
      if rest.head?.any (·.isBare ["esac"]) then return (.more patterns body .none, rest.tail)
      else do
        let (list, rest) ← caseList steps last (skipLines (← expect true ";;" last rest))
        return (.more patterns body list, rest)

def alternatives (steps : Nat) (last : Nat) (lexemes : List Lexeme) :
    Parsed (Command × List Lexeme) :=
  match steps with
  | 0 => unexpected lexemes last
  | steps + 1 => do
    let (condition, rest) ← commandList steps false false last lexemes
    let (yes, rest) ← commandList steps false false last (← expect true "then" last rest)
    if rest.head?.any (·.isBare ["elif"]) then do
      let (no, rest) ← alternatives steps last rest.tail
      return (.branch condition yes no, rest)
    else if rest.head?.any (·.isBare ["else"]) then do
      let (no, rest) ← commandList steps false false last rest.tail
      return (.branch condition yes no, ← expect true "fi" last rest)
    else return (.branch condition yes .nothing, ← expect true "fi" last rest)

end

def readLines (last : Nat) : Nat → List Lexeme → List Command × Option Mistake
  | 0, _ => ([], none)
  | _, [] => ([], none)
  | steps + 1, lexemes =>
    match commandList (8 * lexemes.length + 8) true false last lexemes with
    | .ok (command, rest) =>
      let (commands, mistake) := readLines last steps rest
      (command :: commands, mistake)
    | .error mistake => ([], some mistake)

def Lexeme.endsLine (lexeme : Lexeme) : Bool :=
  match lexeme.token with
  | .newLine => true
  | _ => false

def wholeLines (lexemes : List Lexeme) : List Lexeme :=
  (lexemes.reverse.dropWhile fun lexeme => !lexeme.endsLine).reverse

def Script.read (text : String) : Script :=
  let chars := text.toList
  let (lexemes, unreadable) := Token.ofScript chars
  let lexemes := if unreadable.isSome then wholeLines lexemes else lexemes
  let (commands, mistake) := readLines (chars.count '\n' + 1) (lexemes.length + 1) lexemes
  ⟨commands, (mistake.map fun m => (m.line, m.text)).orElse fun () => unreadable⟩

end FontSubset.Shell
