import FontSubset.Host.Catalogue
/-! How a program is started: a file that names an interpreter is handed to it. -/
namespace FontSubset.Host
open Files (Fault)

def depthLimit : Nat := 40

def interpreter? (bytes : Bytes) : Option (Bytes × List Bytes) :=
  match Text.octets (bytes.takeWhile (· ≠ 0x0A)) |>.toList with
  | '#' :: '!' :: line =>
    let isBlank (c : Char) : Bool := c == ' ' || c == '\t'
    let line := ((line.dropWhile isBlank).reverse.dropWhile isBlank).reverse
    let name := line.takeWhile (!isBlank ·)
    let argument := (line.dropWhile (!isBlank ·)).dropWhile isBlank
    let toBytes (chars : List Char) : Bytes := Text.ofOctets (String.ofList chars)
    if name.isEmpty then none
    else some (toBytes name, if argument.isEmpty then [] else [toBytes argument])
  | _ => none

/-- Starts the file at a path. One that is neither a program nor names an interpreter is
a script of the shell, if `asScript`. -/
def execute : Nat → Bool → Path → Task → Except Fault Performance
  | 0, _, _, _ => .error .tooManyLinks
  | depth + 1, asScript, path, task => do
    let arguments := task.words.tail
    match ← task.files.find path with
    | .program name =>
      match programNamed? name with
      | some program => return program (execute depth true) task
      | none => .error .badExecutable
    | .file bytes true =>
      match interpreter? bytes, asScript with
      | some (interpreter, extra), _ =>
        execute depth false ⟨interpreter⟩
          { task with words := interpreter :: extra ++ path.bytes :: arguments }
      | none, true =>
        execute depth false "/bin/sh"
          { task with words := Text.encode "/bin/sh" :: path.bytes :: arguments }
      | none, false => .error .badExecutable
    | _ => .error .permissionDenied

def start (task : Task) : Except Fault Performance := search (execute depthLimit false) task

end FontSubset.Host
