import FontSubset.Host.Program
/-! Programs that read text and write text. -/
namespace FontSubset.Host

def inputNamed (task : Task) (name : String) : Except Files.Fault Bytes :=
  let path := Shell.pathOf name
  if name = "-" || task.files.descriptor? path = some 0 then .ok task.input
  else task.files.read path

def inputs (task : Task) (operands : List String) : List (String × Except Files.Fault Bytes) :=
  match operands with
  | [] => [("-", .ok task.input)]
  | operands => operands.map fun name => (name, inputNamed task name)

def forInputs (task : Task) (operands : List String) (complaint : String → Files.Fault → String)
    (write : String → Bytes → Bytes) : Performance :=
  let inputs := inputs task operands
  let output := inputs.map fun (name, input) =>
    match input with
    | .ok bytes => (Stream.stdout, write name bytes)
    | .error fault => (Stream.stderr, Text.ofOctets (complaint name fault ++ "\n"))
  let isFailure := inputs.any fun (_, input) => input.toOption.isNone
  task.finish (if isFailure then 1 else 0) output

def named (program : String) (name : String) (fault : Files.Fault) : String :=
  program ++ ": " ++ name ++ ": " ++ fault.text

def cannotRead (program : String) (name : String) (fault : Files.Fault) : String :=
  program ++ ": cannot open '" ++ name ++ "' for reading: " ++ fault.text

def cat (task : Task) (call : Call) : Performance :=
  forInputs task call.operands (named "cat") fun _ bytes => bytes

/-- The lines of some bytes, each with its end; the last may have none. -/
def linesOf : Bytes → List Bytes
  | [] => []
  | b :: rest =>
    if b = 0x0A then [b] :: linesOf rest
    else match linesOf rest with
      | [] => [[b]]
      | line :: more => (b :: line) :: more

def countOf (call : Call) (letter : Char) (absent : Nat) : Nat :=
  let digits := call.switches.filter Char.isDigit
  ((call.value? letter).bind String.toNat?).getD
    (((String.ofList digits).toNat?).getD absent)

def head (task : Task) (call : Call) : Performance :=
  forInputs task call.operands (cannotRead "head") fun _ bytes =>
    match (call.value? 'c').bind String.toNat? with
    | some count => bytes.take count
    | none => ((linesOf bytes).take (countOf call 'n' 10)).flatten

def tail (task : Task) (call : Call) : Performance :=
  forInputs task call.operands (cannotRead "tail") fun _ bytes =>
    match (call.value? 'c').bind String.toNat? with
    | some count => bytes.drop (bytes.length - count)
    | none =>
      let lines := linesOf bytes
      (lines.drop (lines.length - countOf call 'n' 10)).flatten

def wordCount (inside : Bool) : Bytes → Nat
  | [] => 0
  | b :: rest =>
    let isBlank := b == 0x20 || (0x09 ≤ b && b ≤ 0x0D)
    (if !isBlank && !inside then 1 else 0) + wordCount (!isBlank) rest

def alignRight (width : Nat) (text : String) : String :=
  String.ofList (List.replicate (width - text.length) ' ') ++ text

def wc (task : Task) (call : Call) : Performance :=
  let all := call.switches.isEmpty
  let counts (bytes : Bytes) : List Nat :=
    (if all || call.has 'l' then [bytes.count 0x0A] else []) ++
      (if all || call.has 'w' then [wordCount false bytes] else []) ++
      (if all || call.has 'c' || call.has 'm' then [bytes.length] else [])
  forInputs task call.operands (named "wc") fun name bytes =>
    let counts := counts bytes
    let width := if counts.length ≤ 1 then 1
      else if call.operands.isEmpty then 7 else (toString bytes.length).length
    let numbers := counts.map fun n => alignRight width (toString n)
    Text.ofOctets (" ".intercalate (numbers ++ (if call.operands.isEmpty then [] else [name])) ++ "\n")

def leadingNumber (line : Bytes) : Int :=
  match Shell.Numeral.signed? Shell.Numeral.decimal? (Text.octets line).toList with
  | some (n, _) => n
  | none => 0

def sort (task : Task) (call : Call) : Performance :=
  let inputs := inputs task call.operands
  match inputs.find? fun (_, input) => input.toOption.isNone with
  | some (name, input) =>
    let reason := match input with
      | .error fault => fault.text
      | .ok _ => ""
    complainTo task 2 ("sort: cannot read: " ++ name ++ ": " ++ reason ++ "\n")
  | none =>
    let lines := (inputs.filterMap fun (_, input) => input.toOption).flatMap linesOf
    let whole := lines.map fun line => if line.getLast? = some 0x0A then line else line ++ [0x0A]
    let key (line : Bytes) : Int := if call.has 'n' then leadingNumber line else 0
    let sorted := whole.mergeSort fun a b => ((compare (key a) (key b)).then (compare a b)).isLE
    let sorted := if call.has 'r' then sorted.reverse else sorted
    task.finish 0 [(.stdout, (if call.has 'u' then sorted.eraseReps else sorted).flatten)]

def seq (task : Task) (call : Call) : Performance :=
  match call.operands.mapM String.toInt? with
  | some [last] => numbers 1 1 last
  | some [first, last] => numbers first 1 last
  | some [first, step, last] => numbers first step last
  | _ => complainTo task 1 "seq: missing operand\nTry 'seq --help' for more information.\n"
where
  numbers (first step last : Int) : Performance :=
    let count := if step = 0 then 0 else (Int.fdiv (last - first) step + 1).toNat
    task.finish 0 [(.stdout, Text.ofOctets (String.join
      ((List.range count).map fun (k : Nat) => toString (first + step * k) ++ "\n")))]

def runsOf : List Bytes → List (Nat × Bytes)
  | [] => []
  | line :: rest =>
    match runsOf rest with
    | (count, next) :: more =>
      if next = line then (count + 1, line) :: more else (1, line) :: (count, next) :: more
    | [] => [(1, line)]

def uniq (task : Task) (call : Call) : Performance :=
  forInputs task (call.operands.take 1) (named "uniq") fun _ bytes =>
    let lines := (linesOf bytes).map fun line => line.filter (· ≠ 0x0A)
    let wanted := (runsOf lines).filter fun (count, _) =>
      (!call.has 'd' || 1 < count) && (!call.has 'u' || count = 1)
    wanted.flatMap fun (count, line) =>
      (if call.has 'c' then Text.ofOctets (alignRight 7 (toString count) ++ " ") else []) ++ line ++ [0x0A]

/-- The places that a list names, such as `2,4-5,7-`. -/
def placesIn? (text : String) : Option (List (Nat × Option Nat)) :=
  (text.toList.splitOn ',').mapM fun part =>
    match part.splitOn '-' with
    | [only] => (Shell.Numeral.natural? (String.ofList only)).map fun n => (n, some n)
    | [first, []] => (Shell.Numeral.natural? (String.ofList first)).map fun n => (n, none)
    | [first, last] => do
      let last ← Shell.Numeral.natural? (String.ofList last)
      if first.isEmpty then return (1, some last)
      else return (← Shell.Numeral.natural? (String.ofList first), some last)
    | _ => none

def atPlaces {α : Type} (places : List (Nat × Option Nat)) (items : List α) : List α :=
  (items.zipIdx.filter fun (_, k) => places.any fun (first, last?) =>
    first ≤ k + 1 && last?.all (k + 1 ≤ ·)).map (·.1)

def cut (task : Task) (call : Call) : Performance :=
  let mark := ((call.value? 'd').bind fun text => (Text.ofOctets text).head?).getD 0x09
  let fieldsOf (places : List (Nat × Option Nat)) (line : Bytes) : Option Bytes :=
    if !line.contains mark then (if call.has 's' then none else some line)
    else some ([mark].intercalate (atPlaces places (line.splitOn mark)))
  let run (keep : Bytes → Option Bytes) : Performance :=
    forInputs task call.operands (named "cut") fun _ bytes =>
      ((linesOf bytes).filterMap fun line => (keep (line.filter (· ≠ 0x0A))).map (· ++ [0x0A])).flatten
  let places? (letter : Char) : Option (List (Nat × Option Nat)) := (call.value? letter).bind placesIn?
  match (places? 'c').orElse (fun () => places? 'b'), places? 'f' with
  | some places, _ => run fun line => some (atPlaces places line)
  | none, some places => run (fieldsOf places)
  | none, none => complainTo task 1 ("cut: you must specify a list of bytes, characters, or fields\n" ++
      "Try 'cut --help' for more information.\n")

def charactersFrom (low high : Char) : List Char :=
  (List.range (high.toNat + 1 - low.toNat)).map fun k => Char.ofNat (low.toNat + k)

def classIn? (chars : List Char) : Option (List (Char × Char) × List Char) :=
  (Shell.Pattern.class? (chars.map (·, false))).map fun (ranges, rest) => (ranges, rest.map (·.1))

def characterSet : Nat → List Char → List Char
  | 0, _ => []
  | _, [] => []
  | steps + 1, '\\' :: rest =>
    let (meant, rest) := Shell.escapeAt rest
    meant ++ characterSet steps rest
  | steps + 1, c :: rest =>
    match classIn? (c :: rest), rest with
    | some (ranges, rest), _ =>
      ranges.flatMap (fun (low, high) => charactersFrom low high) ++ characterSet steps rest
    | none, '-' :: high :: rest => charactersFrom c high ++ characterSet steps rest
    | none, rest => c :: characterSet steps rest

def squeezed (set : List Char) : List Char → List Char
  | c :: d :: rest =>
    if c = d && set.contains c then squeezed set (d :: rest) else c :: squeezed set (d :: rest)
  | short => short

/-- Characters in the place of others. The last one of the news stands for all that are missing,
and of two places of one old character the last counts. -/
def replacement (olds news : List Char) (c : Char) : Char :=
  match (olds.zipIdx.reverse.find? (·.1 == c)), news.getLast? with
  | some (_, k), some last => (news[k]?).getD last
  | _, _ => c

def tr (task : Task) (call : Call) : Performance :=
  let sets := call.operands.map fun text => characterSet text.length text.toList
  let sets := match sets with
    | first :: rest =>
      if call.has 'c' then (charactersFrom '\x00' '\xff').filter (!first.contains ·) :: rest else sets
    | [] => []
  let input := (Text.octets task.input).toList
  let squeeze (set output : List Char) : List Char := if call.has 's' then squeezed set output else output
  let finish (output : List Char) : Performance :=
    task.finish 0 [(.stdout, Text.ofOctets (String.ofList output))]
  match sets, call.has 'd' with
  | [gone], true => finish (input.filter (!gone.contains ·))
  | [gone, set], true => finish (squeeze set (input.filter (!gone.contains ·)))
  | [olds, news], false => finish (squeeze news (input.map (replacement olds news)))
  | [set], false =>
    if call.has 's' then finish (squeezed set input)
    else complainTo task 1 ("tr: missing operand after '" ++ call.operands.headD "" ++
      "'\nTwo strings must be given when translating.\nTry 'tr --help' for more information.\n")
  | _, _ => complainTo task 1 "tr: missing operand\nTry 'tr --help' for more information.\n"

def yes (task : Task) (call : Call) : Performance :=
  let text := if call.operands.isEmpty then "y" else " ".intercalate call.operands
  let line := Text.ofOctets (text ++ "\n")
  let lines := List.replicate (Files.endlessLength / line.length + 1) line
  ⟨task.files, [(.stdout, lines.flatten)], 0, .overtime⟩

def byteCount? (text : String) : Option Nat :=
  let digits := text.toList.takeWhile Char.isDigit
  let unit? : Option Nat := match text.toList.dropWhile Char.isDigit with
    | [] | ['c'] => some 1
    | ['b'] => some 512
    | ['k'] | ['K'] => some 1024
    | ['M'] => some 1048576
    | _ => none
  do return (← Shell.Numeral.natural? (String.ofList digits)) * (← unit?)

def dd : Program := fun _ task =>
  let settings := (words task).tail.map fun word =>
    (String.ofList (word.toList.takeWhile (· ≠ '=')),
      String.ofList ((word.toList.dropWhile (· ≠ '=')).drop 1))
  let size := ((settings.lookup "bs").bind byteCount?).getD 512
  let source := (settings.lookup "if").getD "-"
  match inputNamed task source with
  | .ok bytes =>
    let bytes := bytes.drop (size * ((settings.lookup "skip").bind byteCount?).getD 0)
    let bytes := match (settings.lookup "count").bind byteCount? with
      | some count => bytes.take (size * count)
      | none => bytes
    let records := toString (bytes.length / size) ++ (if bytes.length % size = 0 then "+0" else "+1")
    let summary := records ++ " records in\n" ++ records ++ " records out\n" ++
      toString bytes.length ++ " bytes copied\n"
    let summary := if settings.lookup "status" = some "none" then "" else summary
    let notes : List (Stream × Bytes) := [(.stderr, Text.ofOctets summary)]
    match settings.lookup "of" with
    | none => task.finish 0 ((.stdout, bytes) :: notes)
    | some path =>
      match task.files.write (Shell.pathOf path) bytes false with
      | .ok files => { task.finish 0 notes with files }
      | .error fault => complainTo task 1 ("dd: failed to open '" ++ path ++ "': " ++ fault.text ++ "\n")
  | .error fault => complainTo task 1 ("dd: failed to open '" ++ source ++ "': " ++ fault.text ++ "\n")

def lastName (path : List Char) : List Char :=
  let trimmed := (path.reverse.dropWhile (· == '/')).reverse
  if trimmed.isEmpty then path.take 1 else (trimmed.reverse.takeWhile (· != '/')).reverse

def basename (task : Task) (call : Call) : Performance :=
  match call.operands with
  | [] => complainTo task 1 "basename: missing operand\nTry 'basename --help' for more information.\n"
  | path :: rest =>
    let name := lastName path.toList
    let ending := (rest.headD "").toList
    let name := if ending.isSuffixOf name && ending != name then name.take (name.length - ending.length)
      else name
    task.finish 0 [(.stdout, Text.ofOctets (String.ofList name ++ "\n"))]

def dirname (task : Task) (call : Call) : Performance :=
  let directory (path : String) : List Char :=
    let trimmed := path.toList.reverse.dropWhile (· == '/')
    let rest := trimmed.dropWhile (· != '/')
    if trimmed.isEmpty && !path.isEmpty then ['/']
    else if rest.isEmpty then ['.']
    else
      let parent := (rest.dropWhile (· == '/')).reverse
      if parent.isEmpty then ['/'] else parent
  task.finish 0 (call.operands.map fun path =>
    (.stdout, Text.ofOctets (String.ofList (directory path) ++ "\n")))

def textPrograms : List (String × Program) :=
  [("cat", withOptions 1 "u" "" cat), ("head", withOptions 1 "0123456789" "nc" head),
    ("tail", withOptions 1 "0123456789" "nc" tail), ("wc", withOptions 1 "clmw" "" wc),
    ("sort", withOptions 2 "nur" "" sort), ("uniq", withOptions 1 "cdu" "" uniq),
    ("cut", withOptions 1 "s" "bcdf" cut), ("seq", withOptions 1 "" "" seq),
    ("tr", withOptions 1 "cds" "" tr), ("basename", withOptions 1 "" "" basename),
    ("dirname", withOptions 1 "" "" dirname), ("yes", withOptions 1 "" "" yes), ("dd", dd)]

end FontSubset.Host
