import FontSubset.Shell.Grammar
/-! Scripts cut into words and operators. -/
namespace FontSubset.Shell

inductive Token
  | word (word : Word)
  | operator (name : String)
  | descriptor (n : Nat)
  | newLine
  deriving Repr, Inhabited

structure Lexeme where
  token : Token
  line : Nat
  deriving Repr, Inhabited

namespace Token

def isBlank (c : Char) : Bool := c == ' ' || c == '\t'

def isOperator (c : Char) : Bool := c ∈ [';', '&', '|', '<', '>', '(', ')']

def isSpecial (c : Char) : Bool :=
  isBlank c || isOperator c || c ∈ ['\n', '\\', '\'', '"', '$', '`']

def isNameStart (c : Char) : Bool := c.isAlpha || c == '_'

def isNameChar (c : Char) : Bool := c.isAlphanum || c == '_'

def isName (name : String) : Bool :=
  match name.toList with
  | [] => false
  | c :: rest => isNameStart c && rest.all isNameChar

abbrev Cut := Except String

def unterminated : String := "Unterminated quoted string"

def unclosed : String := "Missing '\x7d'"

def parameterName? (chars : List Char) : Option (String × List Char) :=
  match chars with
  | [] => none
  | c :: rest =>
    if isNameStart c then
      some (String.ofList (chars.takeWhile isNameChar), chars.dropWhile isNameChar)
    else if c.isDigit || c ∈ ['@', '*', '#', '?', '$', '!', '-'] then
      some (String.singleton c, rest)
    else none

def arithmeticText (depth : Nat) : List Char → Cut (List Char × List Char)
  | ')' :: ')' :: rest =>
    if depth = 0 then .ok ([], rest)
    else do
      let (text, rest) ← arithmeticText (depth - 1) (')' :: rest)
      return (')' :: text, rest)
  | c :: rest => do
    let depth := if c = '(' then depth + 1 else if c = ')' then depth - 1 else depth
    let (text, rest) ← arithmeticText depth rest
    return (c :: text, rest)
  | [] => .error "Missing '))'"

def scriptText : Nat → Nat → List Char → Option (List Char × List Char)
  | 0, _, _ => none
  | _, _, [] => none
  | steps + 1, depth, '\\' :: c :: rest =>
    (scriptText steps depth rest).map fun (text, rest) => ('\\' :: c :: text, rest)
  | steps + 1, depth, c :: rest =>
    if c = '\'' ∨ c = '"' then
      let inside := rest.takeWhile (· ≠ c)
      match rest.dropWhile (· ≠ c) with
      | [] => none
      | _ :: after =>
        (scriptText steps depth after).map fun (text, rest) => (c :: inside ++ c :: text, rest)
    else if c = ')' ∧ depth = 0 then some ([], rest)
    else
      let depth := if c = '(' then depth + 1 else if c = ')' then depth - 1 else depth
      (scriptText steps depth rest).map fun (text, rest) => (c :: text, rest)

def backquoted : List Char → Option (List Char × List Char)
  | [] => none
  | '`' :: rest => some ([], rest)
  | '\\' :: c :: rest =>
    let meant := if c ∈ ['$', '`', '\\'] then [c] else ['\\', c]
    (backquoted rest).map fun (text, rest) => (meant ++ text, rest)
  | c :: rest => (backquoted rest).map fun (text, rest) => (c :: text, rest)

def backquote (quoted : Bool) (chars : List Char) : Cut (Piece × List Char) :=
  match backquoted chars with
  | some (text, rest) => .ok (.substitution (String.ofList text) quoted, rest)
  | none => .error "EOF in backquote substitution"

def change? : List Char → Option (Change × List Char)
  | ':' :: '-' :: rest => some (.otherwise true, rest)
  | '-' :: rest => some (.otherwise false, rest)
  | ':' :: '+' :: rest => some (.instead true, rest)
  | '+' :: rest => some (.instead false, rest)
  | ':' :: '=' :: rest => some (.settle true, rest)
  | '=' :: rest => some (.settle false, rest)
  | ':' :: '?' :: rest => some (.demand true, rest)
  | '?' :: rest => some (.demand false, rest)
  | '#' :: '#' :: rest => some (.cutFront true, rest)
  | '#' :: rest => some (.cutFront false, rest)
  | '%' :: '%' :: rest => some (.cutBack true, rest)
  | '%' :: rest => some (.cutBack false, rest)
  | _ => none

def bracedName? (chars : List Char) : Option (String × List Char) :=
  if (chars.head?.any Char.isDigit) then
    some (String.ofList (chars.takeWhile Char.isDigit), chars.dropWhile Char.isDigit)
  else parameterName? chars

def isQuotedIn (quoted : Bool) : Change → Bool
  | .cutFront _ | .cutBack _ => false
  | _ => quoted

def sized? (chars : List Char) : Option (String × List Char) :=
  match chars with
  | '#' :: rest =>
    match bracedName? rest with
    | some (name, '}' :: rest) => some (name, rest)
    | _ => none
  | _ => none

mutual

def dollar (steps : Nat) (quoted : Bool) (chars : List Char) : Cut (Piece × List Char) :=
  match steps with
  | 0 => .error unterminated
  | steps + 1 =>
    match chars with
    | '(' :: '(' :: rest => do
      let (text, rest) ← arithmeticText 0 rest
      let (pieces, _) ← quotedPieces steps true text
      return (.arithmetic pieces, rest)
    | '(' :: rest =>
      match scriptText (rest.length + 1) 0 rest with
      | some (text, rest) => .ok (.substitution (String.ofList text) quoted, rest)
      | none => .error "end of file unexpected (expecting \")\")"
    | '{' :: rest =>
      match sized? rest, bracedName? rest with
      | some (name, rest), _ => .ok (.size name, rest)
      | none, some (name, '}' :: rest) => .ok (.parameter name quoted, rest)
      | none, named =>
        match named.bind fun (name, rest) => (change? rest).map (name, ·) with
        | some (name, change, rest) => do
          let (pieces, rest) ← braced steps (isQuotedIn quoted change) rest
          return (.changed name change pieces quoted, rest)
        | none => do
          let (_, rest) ← braced steps quoted rest
          return (.malformed, rest)
    | chars =>
      match parameterName? chars with
      | some (name, rest) => .ok (.parameter name quoted, rest)
      | none => .ok (.text "$" quoted, chars)

def braced (steps : Nat) (quoted : Bool) (chars : List Char) : Cut (Word × List Char) :=
  match steps with
  | 0 => .error unterminated
  | steps + 1 =>
    match chars with
    | [] => .error unclosed
    | '}' :: rest => .ok ([], rest)
    | '$' :: rest => do
      let (piece, rest) ← dollar steps quoted rest
      let (pieces, rest) ← braced steps quoted rest
      return (piece :: pieces, rest)
    | '`' :: rest => do
      let (piece, rest) ← backquote quoted rest
      let (pieces, rest) ← braced steps quoted rest
      return (piece :: pieces, rest)
    | '\\' :: c :: rest => do
      let (pieces, rest) ← braced steps quoted rest
      return (.text (String.singleton c) true :: pieces, rest)
    | c :: rest =>
      if c = '"' then do
        let (inner, rest) ← quotedPieces steps false rest
        let (pieces, rest) ← braced steps quoted rest
        return (.text "" true :: inner ++ pieces, rest)
      else if c = '\'' ∧ !quoted ∧ '\'' ∈ rest then do
        let (pieces, final) ← braced steps quoted ((rest.dropWhile (· ≠ '\'')).drop 1)
        return (.text (String.ofList (rest.takeWhile (· ≠ '\''))) true :: pieces, final)
      else do
        let (pieces, rest) ← braced steps quoted rest
        return (.text (String.singleton c) quoted :: pieces, rest)

/-- The pieces up to the closing double quote, or, of a text `here` in the script, up to
its end. -/
def quotedPieces (steps : Nat) (here : Bool) (chars : List Char) : Cut (Word × List Char) :=
  match steps with
  | 0 => .error unterminated
  | steps + 1 =>
    match chars with
    | [] => if here then .ok ([], []) else .error unterminated
    | '\\' :: '\n' :: rest => quotedPieces steps here rest
    | '\\' :: c :: rest => do
      let isEscape := c ∈ ['$', '`', '\\'] || (c == '"' && !here)
      let text := if isEscape then String.singleton c else String.ofList ['\\', c]
      let (pieces, rest) ← quotedPieces steps here rest
      return (.text text true :: pieces, rest)
    | '$' :: rest => do
      let (piece, rest) ← dollar steps true rest
      let (pieces, rest) ← quotedPieces steps here rest
      return (piece :: pieces, rest)
    | '`' :: rest => do
      let (piece, rest) ← backquote true rest
      let (pieces, rest) ← quotedPieces steps here rest
      return (piece :: pieces, rest)
    | c :: rest =>
      if c = '"' ∧ !here then .ok ([], rest)
      else do
        let isPlain (c : Char) : Bool := c ∉ ['"', '\\', '$', '`']
        let plain := rest.takeWhile isPlain
        let (pieces, rest) ← quotedPieces steps here (rest.dropWhile isPlain)
        return (.text (String.ofList (c :: plain)) true :: pieces, rest)

end

def wordPieces (steps : Nat) (chars : List Char) : Cut (Word × List Char) :=
  match steps with
  | 0 => .ok ([], chars)
  | steps + 1 =>
    match chars with
    | [] => .ok ([], [])
    | '\\' :: '\n' :: rest => wordPieces steps rest
    | '\\' :: c :: rest => do
      let (pieces, rest) ← wordPieces steps rest
      return (.text (String.singleton c) true :: pieces, rest)
    | ['\\'] => .ok ([.text "\\" true], [])
    | '\'' :: rest =>
      match rest.dropWhile (· ≠ '\'') with
      | [] => .error unterminated
      | _ :: after => do
        let (pieces, final) ← wordPieces steps after
        return (.text (String.ofList (rest.takeWhile (· ≠ '\''))) true :: pieces, final)
    | '"' :: rest => do
      let (inner, rest) ← quotedPieces (rest.length + 1) false rest
      let (pieces, rest) ← wordPieces steps rest
      return (.text "" true :: inner ++ pieces, rest)
    | '$' :: rest => do
      let (piece, rest) ← dollar (rest.length + 1) false rest
      let (pieces, rest) ← wordPieces steps rest
      return (piece :: pieces, rest)
    | '`' :: rest => do
      let (piece, rest) ← backquote false rest
      let (pieces, rest) ← wordPieces steps rest
      return (piece :: pieces, rest)
    | c :: _ =>
      if isSpecial c then .ok ([], chars)
      else do
        let isPlain (c : Char) : Bool := !isSpecial c
        let (pieces, rest) ← wordPieces steps (chars.dropWhile isPlain)
        return (.text (String.ofList (chars.takeWhile isPlain)) false :: pieces, rest)

def operator? : List Char → Option (String × List Char)
  | '>' :: '>' :: rest => some (">>", rest)
  | '>' :: '&' :: rest => some (">&", rest)
  | '>' :: '|' :: rest => some (">|", rest)
  | '<' :: '&' :: rest => some ("<&", rest)
  | '<' :: '<' :: '-' :: rest => some ("<<-", rest)
  | '<' :: '<' :: rest => some ("<<", rest)
  | '&' :: '&' :: rest => some ("&&", rest)
  | '|' :: '|' :: rest => some ("||", rest)
  | ';' :: ';' :: rest => some (";;", rest)
  | c :: rest => if isOperator c then some (String.singleton c, rest) else none
  | [] => none

/-- A lone digit before a redirection names a descriptor. -/
def descriptor? : List Char → Option (Nat × List Char)
  | c :: d :: rest =>
    if c.isDigit ∧ d ∈ ['<', '>'] then some (c.toNat - '0'.toNat, d :: rest) else none
  | _ => none

def plainText (word : Word) : List Char × Bool :=
  (word.flatMap fun
    | .text content _ => content.toList
    | _ => [],
    word.any fun
      | .text _ quoted => quoted
      | _ => false)

def linesUntil (indented : Bool) (stop : List Char) : Nat → List Char → List Char × List Char
  | 0, _ => ([], [])
  | _, [] => ([], [])
  | steps + 1, chars =>
    let line := chars.takeWhile (· ≠ '\n')
    let lineEnd := (chars.dropWhile (· ≠ '\n')).take 1
    let rest := (chars.dropWhile (· ≠ '\n')).drop 1
    let line := if indented then line.dropWhile (· == '\t') else line
    if line = stop then ([], rest)
    else
      let (lines, rest) := linesUntil indented stop steps rest
      (line ++ lineEnd ++ lines, rest)

/-- The text that stands in the script from the next line on, as a word, and the script
without it. There is none if no word tells where it ends. -/
def hereText (indented : Bool) (chars : List Char) : Cut (Option Word × List Char) := do
  let start := chars.dropWhile isBlank
  let (stop, rest) ← wordPieces (chars.length + 1) start
  if rest.length = start.length then return (none, start)
  let (stop, isQuoted) := plainText stop
  let line := rest.takeWhile (· ≠ '\n')
  let (text, after) := linesUntil indented stop rest.length ((rest.dropWhile (· ≠ '\n')).drop 1)
  if isQuoted then return (some [.text (String.ofList text) true], line ++ '\n' :: after)
  else
    let (pieces, _) ← quotedPieces (text.length + 1) true text
    return (some pieces, line ++ '\n' :: after)

def lineOf (total : Nat) (rest : List Char) : Nat := total + 1 - rest.count '\n'

/-- Tokens from the left, and the first mistake if there is one; `total` counts the line
ends of the whole script. -/
def scan (total : Nat) : Nat → List Char → List Lexeme × Option (Nat × String)
  | 0, _ => ([], none)
  | _, [] => ([], none)
  | steps + 1, c :: rest =>
    if isBlank c then scan total steps rest
    else if c = '\n' then
      let (lexemes, mistake) := scan total steps rest
      (⟨newLine, lineOf total (c :: rest)⟩ :: lexemes, mistake)
    else if c = '#' then scan total steps (rest.dropWhile (· ≠ '\n'))
    else match c, rest with
      | '\\', '\n' :: after => scan total steps after
      | _, _ =>
        match descriptor? (c :: rest), operator? (c :: rest) with
        | some (n, rest), _ =>
          let (lexemes, mistake) := scan total steps rest
          (⟨descriptor n, lineOf total rest⟩ :: lexemes, mistake)
        | none, some (name, rest) =>
          if name = "<<" ∨ name = "<<-" then
            match hereText (name = "<<-") rest with
            | .ok (text, rest) =>
              let (lexemes, mistake) := scan total steps rest
              let text := text.toList.map fun text => ⟨word text, lineOf total rest⟩
              (⟨operator "<<", lineOf total rest⟩ :: text ++ lexemes, mistake)
            | .error text => ([], some (total + 1, text))
          else
            let (lexemes, mistake) := scan total steps rest
            (⟨operator name, lineOf total rest⟩ :: lexemes, mistake)
        | none, none =>
          match wordPieces (rest.length + 2) (c :: rest) with
          | .ok (pieces, rest) =>
            let (lexemes, mistake) := scan total steps rest
            (⟨word pieces, lineOf total rest⟩ :: lexemes, mistake)
          | .error text => ([], some (total + 1, text))

def ofScript (chars : List Char) : List Lexeme × Option (Nat × String) :=
  scan (chars.count '\n') (chars.length + 1) chars

end Token
end FontSubset.Shell
