import FontSubset.Host.FilePrograms
import FontSubset.Host.Search
import FontSubset.Host.TextPrograms
/-! All programs of the machine, the shell among them. -/
namespace FontSubset.Host

/-! ## The shell -/

def shellOptions : List Char := "abcCefhiIlmnpqsuvVx".toList

def afterOptions (letters : List Char) : List String → Except Char (List Char × List String)
  | [] => .ok (letters, [])
  | word :: rest =>
    match word.toList with
    | ['-'] | ['-', '-'] => .ok (letters, rest)
    | '-' :: more =>
      match more.find? (· ∉ shellOptions) with
      | some letter => .error letter
      | none => afterOptions (letters ++ more) rest
    | _ => .ok (letters, word :: rest)

/-- Runs a script: a file's, the word behind the options if `-c` is one, or the input. -/
def shell : Program := fun start task =>
  let name := (words task).headD "sh"
  let complain (code : Nat) (text : String) : Performance :=
    complainTo task code (name ++ ": 0: " ++ text ++ "\n")
  match afterOptions [] (words task).tail with
  | .error letter => complain 2 ("Illegal option -" ++ String.singleton letter)
  | .ok (letters, operands) =>
    let run (text name : String) (arguments : List String) (task : Task) : Performance :=
      Shell.runScript start text (letters.foldl (fun state letter => state.turn true letter)
        (.ofTask task name arguments))
    let runInput (arguments : List String) : Performance :=
      run (Text.octets task.input) name arguments { task with input := [] }
    match letters.contains 'c', letters.contains 's', operands with
    | true, _, [] => complain 2 "-c requires an argument"
    | true, _, command :: rest => run command (rest.headD name) rest.tail task
    | false, true, arguments => runInput arguments
    | false, false, [] => runInput []
    | false, false, script :: arguments =>
      match task.files.find (Shell.pathOf script) with
      | .error fault => complain 2 (Shell.cannotOpen script fault)
      | .ok (.file bytes _) => run (Text.octets bytes) script arguments task
      | .ok _ => task.finish 0 []

/-! ## Small programs -/

def echoSwitches (lineEnd escapes : Bool) : List String → Bool × Bool × List String
  | [] => (lineEnd, escapes, [])
  | word :: rest =>
    match word.toList with
    | '-' :: c :: letters =>
      if (c :: letters).all (· ∈ ['n', 'e', 'E']) then
        echoSwitches (lineEnd && !((c :: letters).contains 'n'))
          ((c :: letters).foldl
            (fun escapes c => if c = 'e' then true else if c = 'E' then false else escapes) escapes)
          rest
      else (lineEnd, escapes, word :: rest)
    | _ => (lineEnd, escapes, word :: rest)

def echo : Program := fun _ task =>
  let (lineEnd, escapes, arguments) := echoSwitches true false (words task).tail
  let joined := " ".intercalate arguments
  let (text, ended) : String × Bool :=
    if escapes then
      let (chars, ended) := Shell.unescape (joined.length + 1) joined.toList
      (String.ofList chars, ended)
    else (joined, false)
  task.finish 0 [(.stdout, Text.ofOctets (text ++ if lineEnd && !ended then "\n" else ""))]

def interval? (text : String) : Option Nat := do
  let unit? : Char → Option Nat
    | 's' => some 1
    | 'm' => some 60
    | 'h' => some 3600
    | 'd' => some 86400
    | _ => none
  let chars := text.toList
  let (digits, scale) := match chars.getLast?.bind unit? with
    | some scale => (chars.dropLast, scale)
    | none => (chars, 1)
  let whole := digits.takeWhile Char.isDigit
  let rest := digits.dropWhile Char.isDigit
  let seconds ← if whole.isEmpty then some 0 else (String.ofList whole).toNat?
  match rest with
  | [] => if whole.isEmpty then none else return 1000 * seconds * scale
  | '.' :: fraction =>
    let thousandths ← (String.ofList (fraction ++ ['0', '0', '0'] |>.take 3)).toNat?
    return (1000 * seconds + thousandths) * scale
  | _ => none

def sleep (task : Task) (call : Call) : Performance :=
  match call.operands.find? fun text => (interval? text).isNone with
  | some text =>
    complainTo task 1 ("sleep: invalid time interval '" ++ text ++
      "'\nTry 'sleep --help' for more information.\n")
  | none =>
    if call.operands.isEmpty then
      complainTo task 1 "sleep: missing operand\nTry 'sleep --help' for more information.\n"
    else task.sleep ((call.operands.filterMap interval?).foldr (· + ·) 0)

def faultText : Shell.FormatFault → String
  | .notNumeric argument => "'" ++ argument ++ "': expected a numeric value"
  | .leftover argument => "'" ++ argument ++ "': value not completely converted"
  | .outOfRange argument => "'" ++ argument ++ "': Numerical result out of range"
  | .unknown directive => directive ++ ": invalid conversion specification"
  | .unfinished => "%: invalid conversion specification"

def printf : Program := fun _ task =>
  match (words task).tail with
  | [] => complainTo task 1 "printf: missing operand\nTry 'printf --help' for more information.\n"
  | format :: arguments =>
    let once := Shell.formatOnce (format.length + 1) format.toList (.start arguments)
    if once.isDirected then
      let done := Shell.formatted format arguments
      task.finish (if done.faults.isEmpty then 0 else 1)
        (done.faults.map (fun fault => (.stderr, Text.ofOctets ("printf: " ++ faultText fault ++ "\n"))) ++
          [(.stdout, Text.ofOctets (String.ofList done.text))])
    else
      let excess := match arguments with
        | [] => []
        | first :: _ => [(Stream.stderr, Text.ofOctets
            ("printf: warning: ignoring excess arguments, starting with '" ++ first ++ "'\n"))]
      task.finish 0 (excess ++ [(.stdout, Text.ofOctets (String.ofList once.text))])

def isAssignment (word : String) : Bool := word.toList.contains '='

def changedEnvironment (environment : Environment) :
    List String → Except String (Environment × List String)
  | "-i" :: rest | "-" :: rest => changedEnvironment [] rest
  | "-u" :: name :: rest => changedEnvironment (environment.unset (Text.ofOctets name)) rest
  | "--" :: rest => .ok (environment, rest)
  | word :: rest =>
    match word.toList with
    | '-' :: letter :: _ => .error ("invalid option -- '" ++ String.singleton letter ++ "'")
    | _ => .ok (environment, word :: rest)
  | [] => .ok (environment, [])

def env : Program := fun start task =>
  match changedEnvironment task.environment (words task).tail with
  | .error text =>
    complainTo task 125 ("env: " ++ text ++ "\nTry 'env --help' for more information.\n")
  | .ok (environment, rest) =>
  let settings := rest.takeWhile isAssignment
  let command := rest.dropWhile isAssignment
  let environment := settings.foldl (fun environment setting =>
    environment.set (Text.ofOctets (String.ofList (setting.toList.takeWhile (· ≠ '='))))
      (Text.ofOctets (String.ofList ((setting.toList.dropWhile (· ≠ '=')).drop 1)))) environment
  match command with
  | [] =>
    task.finish 0 (environment.map fun (name, value) =>
      (.stdout, name ++ Text.encode "=" ++ value ++ Text.encode "\n"))
  | name :: _ =>
    match search start { task with environment, words := command.map Text.ofOctets } with
    | .ok performance => performance
    | .error fault =>
      complainTo task (if fault = .notFound then 127 else 126)
        ("env: '" ++ name ++ "': " ++ fault.text ++ "\n")

def afterStopOptions : List String → List String
  | "-s" :: _ :: rest | "-k" :: _ :: rest => afterStopOptions rest
  | "--preserve-status" :: rest | "--foreground" :: rest => afterStopOptions rest
  | "--" :: rest => rest
  | words => words

def timeout : Program := fun start task =>
  match afterStopOptions (words task).tail with
  | duration :: name :: arguments =>
    match interval? duration with
    | none => complainTo task 125 ("timeout: invalid time interval '" ++ duration ++
        "'\nTry 'timeout --help' for more information.\n")
    | some limit =>
      let isShorter := limit ≠ 0 && task.limit.all (limit < ·)
      let inner := { task with
        words := (name :: arguments).map Text.ofOctets
        limit := if isShorter then some limit else task.limit }
      match search start inner with
      | .error fault => complainTo task (if fault = .notFound then 127 else 126)
          ("timeout: failed to run command '" ++ name ++ "': " ++ fault.text ++ "\n")
      | .ok performance =>
        if isShorter && performance.ending = .overtime then
          { performance with ending := .exited 124, elapsed := limit }
        else performance
  | _ => complainTo task 125 "timeout: missing operand\nTry 'timeout --help' for more information.\n"

def programs : List (String × Program) :=
  [("sh", shell), ("dash", shell), ("bash", shell), ("echo", echo), ("printf", printf), ("env", env),
    ("true", fun _ task => task.finish 0 []), ("false", fun _ task => task.finish 1 []),
    ("sleep", withOptions 1 "" "" sleep), ("date", withOptions 1 "u" "" fun task _ => task.finish 0 []),
    ("timeout", timeout)] ++
  textPrograms ++ filePrograms

def programNamed? (name : String) : Option Program :=
  (programs.find? (·.1 == name)).map (·.2)

end FontSubset.Host
