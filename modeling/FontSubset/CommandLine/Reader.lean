import FontSubset.CommandLine.Selection
/-! The words of a command line, read from the left. The value of a setting is only
looked at when the next word has been recognised, so a word that nobody knows is
complained about first. -/
namespace FontSubset.CommandLine

/-- What has been read so far. A pending setting waits for its value, or for the value to be looked
at; behind two dashes only roots follow. -/
structure Reader where
  selection : Selection
  pending : Option (Setting × Option Bytes)
  rootSeen : Bool
  ended : Bool

namespace Reader

def start : Reader := ⟨.empty, none, false, false⟩

def refuse {α : Type} (error : UsageError) : Except Interruption α := .error (.refused error)

def orRefuse {α : Type} : Except UsageError α → Except Interruption α
  | .ok a => .ok a
  | .error error => refuse error

def settle (reader : Reader) : Except Interruption Reader :=
  match reader.pending with
  | none => .ok reader
  | some (setting, none) => refuse (.missingValue setting)
  | some (setting, some value) => do
    let selection ← orRefuse (reader.selection.takeOnce setting value)
    return { reader with selection, pending := none }

def root (reader : Reader) (word : Bytes) : Except Interruption Reader :=
  if reader.rootSeen then refuse (.unexpectedArgument (Text.lossy word))
  else do
    let reader ← reader.settle
    return { reader with pending := some (.root, some word), rootSeen := true }

def switchOn (reader : Reader) (switch : Switch) : Except Interruption Reader := do
  let reader ← reader.settle
  return { reader with selection := ← reader.selection.turnOn switch }

def long (reader : Reader) (name : Bytes) (value? : Option Bytes) : Except Interruption Reader :=
  let known := Text.decode? name
  match known.bind Setting.named?, known.bind Switch.named?, value? with
  | some setting, _, some value => do
    let reader ← reader.settle
    return { reader with selection := ← orRefuse (reader.selection.takeOnce setting value) }
  | some setting, _, none => do
    let reader ← reader.settle
    return { reader with pending := some (setting, none) }
  | none, some switch, some value => refuse (.unneededValue (Text.lossy value) switch)
  | none, some switch, none => reader.switchOn switch
  | none, none, _ => refuse (.unexpectedArgument ("--" ++ Text.lossy name))

/-- Letters behind a dash. The first one decides. -/
def short (reader : Reader) (letters : Bytes) : Except Interruption Reader :=
  match Text.pieces letters with
  | .char 'h' :: _ => do
    let _ ← reader.settle
    .error (.help false)
  | .char 'V' :: _ => do
    let _ ← reader.settle
    .error .version
  | .char c :: _ => refuse (.unexpectedArgument (String.ofList ['-', c]))
  | _ => refuse (.unexpectedArgument ("-" ++ Text.lossy letters))

def plain (reader : Reader) (word : Bytes) : Except Interruption Reader :=
  match reader.pending with
  | some (setting, none) => .ok { reader with pending := some (setting, some word) }
  | _ => reader.root word

def dash : UInt8 := 0x2D

def atEquals (bytes : Bytes) : Bytes × Option Bytes :=
  (bytes.takeWhile (· ≠ 0x3D), ((bytes.dropWhile (· ≠ 0x3D)).head?).map fun _ =>
    (bytes.dropWhile (· ≠ 0x3D)).tail)

def next (reader : Reader) (word : Bytes) : Except Interruption Reader :=
  if reader.ended then reader.root word
  else
    match word with
    | [] => reader.plain []
    | [b] => reader.plain [b]
    | b :: c :: rest =>
      if b ≠ dash then reader.plain word
      else if c ≠ dash then reader.short (c :: rest)
      else if rest = [] then .ok { reader with ended := true }
      else
        let (name, value?) := atEquals rest
        reader.long name value?

end Reader

def select (environment : Environment) (words : List Bytes) : Except Interruption Selection := do
  let reader ← words.foldlM Reader.next .start
  let reader ← reader.settle
  Reader.orRefuse (reader.selection.complete environment)

end FontSubset.CommandLine
