/-! Backslash escapes of texts that are printed. -/
namespace FontSubset.Shell

def isOctal (c : Char) : Bool := '0' ≤ c && c ≤ '7'

def octal (value : Nat) : Nat → List Char → Nat × List Char
  | count + 1, c :: rest =>
    if isOctal c then octal (value * 8 + (c.toNat - '0'.toNat)) count rest else (value, c :: rest)
  | _, rest => (value, rest)

def simpleEscape? (c : Char) : Option Char :=
  match c with
  | 'a' => some '\x07'
  | 'b' => some '\x08'
  | 'e' => some '\x1b'
  | 'f' => some '\x0c'
  | 'n' => some '\n'
  | 'r' => some '\r'
  | 't' => some '\t'
  | 'v' => some '\x0b'
  | '\\' => some '\\'
  | _ => none

def escapeAt (chars : List Char) : List Char × List Char :=
  match chars with
  | [] => (['\\'], [])
  | c :: rest =>
    if isOctal c then
      let (value, rest) := octal 0 3 chars
      ([Char.ofNat (value % 256)], rest)
    else match simpleEscape? c with
      | some meant => ([meant], rest)
      | none => (['\\', c], rest)

/-- Resolves all escapes of a text. A zero may stand before an octal number, and `\c` ends
all output; the flag tells that it did. -/
def unescape : Nat → List Char → List Char × Bool
  | 0, _ => ([], false)
  | _, [] => ([], false)
  | _, '\\' :: 'c' :: _ => ([], true)
  | steps + 1, '\\' :: '0' :: rest =>
    let (value, rest) := octal 0 3 rest
    let (text, ended) := unescape steps rest
    (Char.ofNat (value % 256) :: text, ended)
  | steps + 1, '\\' :: rest =>
    let (meant, rest) := escapeAt rest
    let (text, ended) := unescape steps rest
    (meant ++ text, ended)
  | steps + 1, c :: rest =>
    let (text, ended) := unescape steps rest
    (c :: text, ended)

def echoText (arguments : List String) : String :=
  let (arguments, lineEnd) := match arguments with
    | "-n" :: rest => (rest, "")
    | arguments => (arguments, "\n")
  let joined := (" ".intercalate arguments).toList
  let (text, ended) := unescape (joined.length + 1) joined
  String.ofList text ++ if ended then "" else lineEnd

end FontSubset.Shell
