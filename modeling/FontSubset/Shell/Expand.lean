import FontSubset.Shell.Arithmetic
import FontSubset.Shell.Condition
import FontSubset.Shell.Copy
import FontSubset.Shell.Pattern
/-! Words expanded into fields: parameters are replaced by their values, scripts by what
they write, and what came out of an unquoted one is split at separators. -/
namespace FontSubset.Shell

inductive Expansion
  | whole (text : String) (literal : Bool)
  | splittable (text : String)
  | boundary
  deriving Repr

inductive Trouble
  | complaint (text : String)
  | refusal (text : String)
  | stop (stop : Stop)

abbrev Expanding := ExceptT Trouble (StateM State)

def ofParameter (quoted : Bool) (text : String) : Expansion :=
  if quoted then .whole text true else .splittable text

def argumentFields (quoted : Bool) : List String → List Expansion
  | [] => []
  | [argument] => [ofParameter quoted argument]
  | argument :: rest => ofParameter quoted argument :: .boundary :: argumentFields quoted rest

namespace Expansion

def text : Expansion → String
  | whole text _ => text
  | splittable text => text
  | boundary => " "

def marks : Expansion → List Pattern.Mark
  | whole text literal => text.toList.map fun c => (c, literal)
  | splittable text => text.toList.map fun c => (c, false)
  | boundary => [(' ', true)]

end Expansion

def Expansion.loosened : Expansion → Expansion
  | whole text false => splittable text
  | expansion => expansion

def joined (expansions : List Expansion) : String := String.join (expansions.map Expansion.text)

def patternOf (expansions : List Expansion) : Pattern :=
  Pattern.read (expansions.flatMap Expansion.marks)

/-! ## Scripts within scripts -/

def substitute (shell : Surroundings) (text : String) : Expanding String := fun state =>
  let (bytes, stop, after) := capture (shell.run false) (runText (shell.run false) text) state
  let after := { after with status := state.status, substituted := after.status }
  match stop with
  | some stop => (.error (.stop stop), after)
  | none =>
    let bytes := (bytes.filter (· ≠ 0)).reverse.dropWhile (· == 0x0A)
    (.ok (Text.octets bytes.reverse), after)

/-! ## Parameters -/

def unsetText (orEmpty : Bool) : String :=
  if orEmpty then "parameter not set or null" else "parameter not set"

def demanded (name text : String) : Trouble := .complaint (name ++ ": " ++ text)

def State.settled? (state : State) (name : String) (orEmpty : Bool) : Option String :=
  (state.parameter? name).filter fun value => !(orEmpty && value.isEmpty)

def assignTo (name value : String) : Expanding Unit := do
  if (← get).isFixed name then throw (.complaint (name ++ ": is read only"))
  else modify fun state => state.assign name value

def expandParameter (name : String) (quoted : Bool) : Expanding (List Expansion) := do
  let state ← get
  if name = "@" ∨ (name = "*" ∧ !quoted) then return argumentFields quoted state.arguments
  match state.parameter? name with
  | some value => return [ofParameter quoted value]
  | none =>
    if state.has 'u' && name != "!" then throw (demanded name (unsetText false))
    return [ofParameter quoted ""]

/-! ## Homes -/

def State.home? (state : State) (user : String) : Option String :=
  if user.isEmpty then state.lookup "HOME" else if user = "root" then some "/root" else none

def openText : List Expansion → List Char × List Expansion
  | .whole text false :: rest =>
    let (more, rest) := openText rest
    (text.toList ++ more, rest)
  | expansions => ([], expansions)

def partOf (text : String) (literal : Bool) : List Expansion :=
  if text.isEmpty then [] else [.whole text literal]

/-- A path with a home for the tilde at its front. If it is `unfinished` the name behind the tilde
goes on in what follows, and there is no telling whose home is meant. -/
def atHome (state : State) (unfinished : Bool) (path : List Char) : List Expansion :=
  let plain := partOf (String.ofList path) false
  match path with
  | '~' :: rest =>
    let user := rest.takeWhile (· ≠ '/')
    if unfinished && user = rest then plain
    else match state.home? (String.ofList user) with
      | some home => partOf home true ++ partOf (String.ofList (rest.dropWhile (· ≠ '/'))) false
      | none => plain
  | _ => plain

/-- An expanded word with a home for the tilde at its front, or, if it is a `list` with colons, for
the one at the front of each part. -/
def withHomes (list : Bool) (expansions : List Expansion) : Expanding (List Expansion) := do
  let (text, rest) := openText expansions
  if '~' ∉ text then return expansions
  let parts := if list then text.splitOn ':' else [text]
  let state ← get
  let homes := parts.zipIdx.map fun (part, k) =>
    atHome state (k + 1 = parts.length && !rest.isEmpty) part
  return [Expansion.whole ":" false].intercalate homes ++ rest

/-! ## Changes -/

def expandChanged (name : String) (change : Change) (quoted : Bool)
    (word : Expanding (List Expansion)) : Expanding (List Expansion) := do
  let state ← get
  let value := (state.parameter? name).getD ""
  let ofText (chars : List Char) : List Expansion := [ofParameter quoted (String.ofList chars)]
  match change with
  | .otherwise orEmpty =>
    match state.settled? name orEmpty with
    | some value => return [ofParameter quoted value]
    | none => return (← word).map Expansion.loosened
  | .instead orEmpty =>
    if (state.settled? name orEmpty).isSome then return (← word).map Expansion.loosened
    else return []
  | .settle orEmpty =>
    match state.settled? name orEmpty with
    | some value => return [ofParameter quoted value]
    | none =>
      let text := joined (← word)
      assignTo name text
      return [ofParameter quoted text]
  | .demand orEmpty =>
    match state.settled? name orEmpty with
    | some value => return [ofParameter quoted value]
    | none =>
      let text := joined (← word)
      throw (demanded name (if text.isEmpty then unsetText orEmpty else text))
  | .cutFront longest =>
    return ofText ((patternOf (← word)).cutFront longest value.toList)
  | .cutBack longest =>
    return ofText ((patternOf (← word)).cutBack longest value.toList)

mutual

def expandPiece (shell : Surroundings) : Piece → Expanding (List Expansion)
  | .text content quoted => return [.whole content quoted]
  | .parameter name quoted => expandParameter name quoted
  | .changed name change word quoted =>
    expandChanged name change quoted do
      let expansions ← expandPieces shell word
      withHomes false expansions
  | .size name => do
    let value := ((← get).parameter? name).getD ""
    return [.whole (toString value.length) true]
  | .malformed => throw (.complaint "Bad substitution")
  | .arithmetic expression => do
    let text := joined (← expandPieces shell expression)
    match Arithmetic.evaluate text (← get) with
    | .ok (n, state) => do
      set state
      return [.whole (toString n.toInt) true]
    | .error fault => throw (.complaint (fault.text text))
  | .substitution script quoted => return [ofParameter quoted (← substitute shell script)]

def expandPieces (shell : Surroundings) : List Piece → Expanding (List Expansion)
  | [] => return []
  | piece :: rest => return (← expandPiece shell piece) ++ (← expandPieces shell rest)

end

/-! ## Fields -/

abbrev Field := List Pattern.Mark

/-- Fields done, and the one begun. The gap is right behind the end of a field and tells whether only
blanks ended it, so that one other separator may still belong to them. -/
structure Splitting where
  done : List Field
  current : Option Field
  gap : Option Bool

namespace Splitting

def close (splitting : Splitting) (gap : Bool) : Splitting :=
  ⟨splitting.done ++ [splitting.current.getD []], none, some gap⟩

def add (splitting : Splitting) (marks : List Pattern.Mark) : Splitting :=
  ⟨splitting.done, some (splitting.current.getD [] ++ marks), none⟩

def blank (splitting : Splitting) : Splitting :=
  if splitting.current.isSome then splitting.close true else splitting

/-- A character of a text that is split. A separator that is no blank ends even an empty field,
unless it belongs to the blanks before it. -/
def take (separators : List Char) (splitting : Splitting) (c : Char) : Splitting :=
  if c ∉ separators then splitting.add [(c, false)]
  else if c ∈ [' ', '\t', '\n'] then splitting.blank
  else if splitting.gap = some true then { splitting with gap := some false }
  else splitting.close false

def takePart (separators : List Char) (splitting : Splitting) : Expansion → Splitting
  | .boundary => splitting.blank
  | .splittable text =>
    { text.toList.foldl (take separators) splitting with gap := none }
  | part => splitting.add part.marks

end Splitting

def fieldsOf (separators : List Char) (parts : List Expansion) : List Field :=
  let splitting := parts.foldl (Splitting.takePart separators) ⟨[], none, none⟩
  splitting.done ++ splitting.current.toList

/-- The names in a directory that fit a pattern, in order. One that begins with a dot has
to be asked for. -/
def namesThatFit (pattern : Pattern) (node : Files.Node) : List String :=
  let dots := ([[Path.dot], [Path.dot, Path.dot]] : List Bytes)
  let names := (dots ++ node.entries.map (·.1)).mergeSort fun a b => (compare a b).isLE
  (names.map Text.octets).filter fun name =>
    pattern.fits name.toList && (name.toList.head? != some '.' || pattern.head? == some (.only '.'))

def pathsThatFit (files : Files) : List Field → String → List String
  | [], base => [base]
  | step :: rest, base =>
    if step.all fun (c, literal) => literal || !(['*', '?', '[', '\\'].contains c) then
      let path := base ++ String.ofList (step.map (·.1))
      if rest.isEmpty then if step.isEmpty || (files.find (pathOf path)).toOption.isSome then [path] else []
      else pathsThatFit files rest (path ++ "/")
    else
      match files.find (pathOf (if base.isEmpty then "." else base)) with
      | .ok node =>
        (namesThatFit (Pattern.read step) node).flatMap fun name =>
          if rest.isEmpty then [base ++ name] else pathsThatFit files rest (base ++ name ++ "/")
      | .error _ => []

def pathsOf (files : Files) (field : Field) : List String :=
  let text := String.ofList (field.map (·.1))
  if field.any fun (c, literal) => !literal && ['*', '?', '['].contains c then
    match pathsThatFit files (field.splitOnP (·.1 == '/')) "" with
    | [] => [text]
    | paths => paths
  else [text]

/-- A double-quoted empty text stands before `"$@"` and must not make a field of it. -/
def isAllArguments : Word → Bool
  | [.text "" true, .parameter "@" true] => true
  | _ => false

def expandWord (shell : Surroundings) (word : Word) : Expanding (List String) := do
  if isAllArguments word then return (← get).arguments
  let parts ← withHomes false (← expandPieces shell word)
  let state ← get
  let fields := fieldsOf state.separators parts
  if state.has 'f' then return fields.map fun field => String.ofList (field.map (·.1))
  else return fields.flatMap (pathsOf state.files)

def expandText (shell : Surroundings) (word : Word) : Expanding String := do
  return joined (← withHomes false (← expandPieces shell word))

def expandValue (shell : Surroundings) (word : Word) : Expanding String := do
  return joined (← withHomes true (← expandPieces shell word))

def assigningNames : List String := ["export", "readonly", "local", "alias"]

def expandWords (shell : Surroundings) : List Word → Expanding (List String)
  | [] => return []
  | word :: rest => return (← expandWord shell word) ++ (← expandWords shell rest)

def expandAssigning (shell : Surroundings) : List Word → Expanding (List String)
  | [] => return []
  | word :: rest => do
    let fields ← match assignment? word with
      | some (name, value) => do pure [name ++ "=" ++ (← expandValue shell value)]
      | none => expandWord shell word
    return fields ++ (← expandAssigning shell rest)

def expandCommand (shell : Surroundings) : List Word → Expanding (List String)
  | [] => return []
  | word :: rest => do
    match ← expandWord shell word with
    | [] => expandCommand shell rest
    | name :: fields =>
      let arguments ← if assigningNames.contains name then expandAssigning shell rest
        else expandWords shell rest
      return name :: fields ++ arguments

end FontSubset.Shell
