import FontSubset.Host.Program
/-! Programs that look at the file tree and change it. -/
namespace FontSubset.Host
open Shell (pathOf)

structure Work where
  files : Files
  output : List (Stream × Bytes)
  isFailure : Bool

namespace Work

def fail (work : Work) (text : String) : Work :=
  { work with output := work.output ++ [(.stderr, Text.ofOctets (text ++ "\n"))], isFailure := true }

def say (work : Work) (text : String) : Work :=
  { work with output := work.output ++ [(.stdout, Text.ofOctets (text ++ "\n"))] }

def change (work : Work) (changed : Except Files.Fault Files) (complaint : String) : Work :=
  match changed with
  | .ok files => { work with files }
  | .error fault => work.fail (complaint ++ ": " ++ fault.text)

end Work

def forOperands (code : Nat) (task : Task) (operands : List String)
    (step : Work → String → Work) : Performance :=
  let work := operands.foldl step ⟨task.files, [], false⟩
  ⟨work.files, work.output, 0, .exited (if work.isFailure then code else 0)⟩

def nodeAt? (files : Files) (path : String) : Except Files.Fault Files.Node := do
  match (← files.place false (pathOf path)).node? with
  | some node => return node
  | none => .error .notFound

def rm (task : Task) (call : Call) : Performance :=
  let recursive := call.has 'r' || call.has 'R'
  forOperands 1 task call.operands fun work path =>
    let refusal := "rm: cannot remove '" ++ path ++ "'"
    match nodeAt? work.files path with
    | .error fault => if call.has 'f' then work else work.fail (refusal ++ ": " ++ fault.text)
    | .ok (.directory _) =>
      if recursive then work.change (work.files.remove (pathOf path)) refusal
      else work.fail (refusal ++ ": " ++ Files.Fault.isADirectory.text)
    | .ok _ => work.change (work.files.remove (pathOf path)) refusal

def rmdir (task : Task) (call : Call) : Performance :=
  forOperands 1 task call.operands fun work path =>
    let refusal := "rmdir: failed to remove '" ++ path ++ "'"
    match nodeAt? work.files path with
    | .ok (.directory []) => work.change (work.files.remove (pathOf path)) refusal
    | .ok (.directory _) => work.fail (refusal ++ ": Directory not empty")
    | .ok _ => work.fail (refusal ++ ": " ++ Files.Fault.notADirectory.text)
    | .error fault => work.fail (refusal ++ ": " ++ fault.text)

def mkdir (task : Task) (call : Call) : Performance :=
  forOperands 1 task call.operands fun work path =>
    let refusal := "mkdir: cannot create directory '" ++ path ++ "'"
    if call.has 'p' then work.change (work.files.makeDirectories (pathOf path)) refusal
    else if (nodeAt? work.files path).toOption.isSome then
      work.fail (refusal ++ ": " ++ Files.Fault.text .exists)
    else work.change (work.files.makeDirectory (pathOf path)) refusal

def touch (task : Task) (call : Call) : Performance :=
  forOperands 1 task call.operands fun work path =>
    match work.files.find (pathOf path) with
    | .ok _ => work
    | .error _ =>
      if call.has 'c' then work
      else work.change (work.files.append (pathOf path) []) ("touch: cannot touch '" ++ path ++ "'")

def destination (files : Files) (source target : String) : Path :=
  match files.find (pathOf target) with
  | .ok (.directory _) =>
    let segments := (Path.segmentsOf (pathOf source).bytes).filter (· ≠ [])
    (pathOf target).join ⟨segments.getLastD []⟩
  | _ => pathOf target

def forSources (name : String) (task : Task) (operands : List String)
    (step : Work → String → Path → Work) : Performance :=
  match operands.reverse with
  | [] => complainTo task 1 (name ++ ": missing file operand\nTry '" ++ name ++
      " --help' for more information.\n")
  | [only] => complainTo task 1 (name ++ ": missing destination file operand after '" ++ only ++
      "'\nTry '" ++ name ++ " --help' for more information.\n")
  | target :: sources => forOperands 1 task sources.reverse fun work source =>
    step work source (destination work.files source target)

def mv (task : Task) (call : Call) : Performance :=
  forSources "mv" task call.operands fun work source target =>
    match nodeAt? work.files source with
    | .error fault => work.fail ("mv: cannot stat '" ++ source ++ "': " ++ fault.text)
    | .ok _ =>
      work.change (work.files.rename (pathOf source) target)
        ("mv: cannot move '" ++ source ++ "' to '" ++ Text.octets target.bytes ++ "'")

def cp (task : Task) (call : Call) : Performance :=
  forSources "cp" task call.operands fun work source target =>
    match work.files.find (pathOf source) with
    | .error fault => work.fail ("cp: cannot stat '" ++ source ++ "': " ++ fault.text)
    | .ok (.file bytes executable) =>
      work.change (work.files.write target bytes executable)
        ("cp: cannot create regular file '" ++ Text.octets target.bytes ++ "'")
    | .ok node =>
      if call.has 'r' || call.has 'R' || call.has 'a' then
        work.change (do return work.files.put (← work.files.place true target).location node)
          ("cp: cannot create directory '" ++ Text.octets target.bytes ++ "'")
      else work.fail ("cp: -r not specified; omitting directory '" ++ source ++ "'")

/-- Whether files are executable under a mode, which may keep that as it is: signs behind the
letters of who may, or digits. -/
def executableUnder? (mode : String) (was : Bool) : Option Bool :=
  let digits := mode.toList
  if !digits.isEmpty && digits.all Shell.isOctal && digits.length ≤ 4 then
    some (digits.any fun c => (c.toNat - '0'.toNat) % 2 = 1)
  else
    match digits.dropWhile (· ∈ ['u', 'g', 'o', 'a']) with
    | sign :: letters =>
      if sign ∉ ['+', '-', '='] || !letters.all (· ∈ ['r', 'w', 'x', 'X', 's', 't']) then none
      else if letters.contains 'x' then some (sign != '-')
      else some (was && sign != '=')
    | [] => none

/-- Makes files executable or not; nothing else is known of their modes. -/
def chmod : Program := fun _ task =>
  match (words task).tail.filter fun word => word != "--" && word != "-R" with
  | [] => complainTo task 1 "chmod: missing operand\nTry 'chmod --help' for more information.\n"
  | [mode] => complainTo task 1 ("chmod: missing operand after '" ++ mode ++
      "'\nTry 'chmod --help' for more information.\n")
  | mode :: paths =>
    if (executableUnder? mode false).isNone then
      complainTo task 1 ("chmod: invalid mode: '" ++ mode ++
        "'\nTry 'chmod --help' for more information.\n")
    else forOperands 1 task paths fun work path =>
      match work.files.place true (pathOf path) with
      | .ok ⟨location, some (.file bytes was)⟩ =>
        let node := Files.Node.file bytes ((executableUnder? mode was).getD was)
        { work with files := work.files.put location node }
      | .ok ⟨_, some _⟩ => work
      | .ok ⟨_, none⟩ =>
        work.fail ("chmod: cannot access '" ++ path ++ "': " ++ Files.Fault.notFound.text)
      | .error fault => work.fail ("chmod: cannot access '" ++ path ++ "': " ++ fault.text)

def ln (task : Task) (call : Call) : Performance :=
  let operands := match call.operands with
    | [only] => [only, "."]
    | operands => operands
  forSources "ln" task operands fun work source target =>
    let shown := Text.octets target.bytes
    let files := if call.has 'f' then (work.files.remove target).toOption.getD work.files else work.files
    let work := { work with files }
    if call.has 's' then
      work.change (work.files.makeLink target (pathOf source))
        ("ln: failed to create symbolic link '" ++ shown ++ "'")
    else
      match nodeAt? work.files source with
      | .error fault => work.fail ("ln: failed to access '" ++ source ++ "': " ++ fault.text)
      | .ok node =>
        work.change (do
            let place ← work.files.place false target
            if place.node?.isSome then .error .exists else return work.files.put place.location node)
          ("ln: failed to create hard link '" ++ shown ++ "'")

def readlink (task : Task) (call : Call) : Performance :=
  forOperands 1 task call.operands fun work path =>
    match nodeAt? work.files path with
    | .ok (.link target) => work.say (Text.octets target)
    | _ => { work with isFailure := true }

def tee (task : Task) (call : Call) : Performance :=
  let copy (stream : Stream) (work : Work) : Work :=
    { work with output := work.output ++ [(stream, task.input)] }
  forOperands 1 task ("-" :: call.operands) fun work path =>
    match task.files.descriptor? (pathOf path) with
    | some 2 => copy .stderr work
    | some _ => copy .stdout work
    | none =>
    if path = "-" then copy .stdout work
    else
      let written := if call.has 'a' then work.files.append (pathOf path) task.input
        else work.files.write (pathOf path) task.input false
      work.change written ("tee: " ++ path)

def listed (call : Call) (entries : List (Bytes × Files.Node)) : List String :=
  let names := (entries.map (·.1)).mergeSort fun a b => (compare a b).isLE
  let names := names.map Text.octets
  if call.has 'a' then "." :: ".." :: names
  else if call.has 'A' then names
  else names.filter fun name => name.toList.head? != some '.'

def ls (task : Task) (call : Call) : Performance :=
  let operands := if call.operands.isEmpty then ["."] else call.operands
  let isDirectory (path : String) : Bool :=
    !call.has 'd' && ((task.files.find (pathOf path)).toOption.any Files.Node.isDirectory)
  let isMissing (path : String) : Bool := (nodeAt? task.files path).toOption.isNone
  let missing := operands.filter isMissing
  let rest := (operands.filter (!isMissing ·)).mergeSort fun a b => (compare a b).isLE
  let plain := rest.filter (!isDirectory ·)
  let directories := rest.filter isDirectory
  let list (work : Work) (path : String) : Work :=
    let entries := ((task.files.find (pathOf path)).toOption.map Files.Node.entries).getD []
    let work := if operands.length ≤ 1 then work
      else
        let work := if (work.output.filter (·.1 == .stdout)).isEmpty then work else work.say ""
        work.say (path ++ ":")
    (listed call entries).foldl Work.say work
  let work : Work := ⟨task.files, [], false⟩
  let work := missing.foldl (fun work path =>
    work.fail ("ls: cannot access '" ++ path ++ "': " ++ Files.Fault.notFound.text)) work
  let work := directories.foldl list (plain.foldl Work.say work)
  ⟨work.files, work.output, 0, .exited (if work.isFailure then 2 else 0)⟩

def pwd (task : Task) (_ : Call) : Performance :=
  task.finish 0 [(.stdout, Text.ofOctets (Shell.State.directoryName task.files ++ "\n"))]

def filePrograms : List (String × Program) :=
  [("rm", withOptions 1 "rRfv" "" rm), ("rmdir", withOptions 1 "" "" rmdir),
    ("mkdir", withOptions 1 "p" "m" mkdir), ("touch", withOptions 1 "acm" "dt" touch),
    ("mv", withOptions 1 "fn" "" mv), ("cp", withOptions 1 "rRafp" "" cp),
    ("ls", withOptions 2 "1aAd" "" ls), ("dir", withOptions 2 "1aAd" "" ls),
    ("vdir", withOptions 2 "1aAd" "" ls), ("pwd", withOptions 1 "LP" "" pwd), ("chmod", chmod),
    ("ln", withOptions 1 "fs" "" ln), ("readlink", withOptions 1 "n" "" readlink),
    ("tee", withOptions 1 "ai" "" tee)]

end FontSubset.Host
