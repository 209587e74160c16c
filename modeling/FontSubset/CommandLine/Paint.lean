import FontSubset.Environment
/-! Colours for terminals, put on only when they are forced. -/
namespace FontSubset.CommandLine

inductive Paint
  | bold
  | underlined
  | red
  | green
  | yellow
  deriving DecidableEq, Repr

namespace Paint

def code : Paint → List Char
  | bold => ['1']
  | underlined => ['4']
  | red => ['3', '1']
  | green => ['3', '2']
  | yellow => ['3', '3']

def start (paint : Paint) : List Char := '\x1b' :: '[' :: paint.code ++ ['m']

def reset : List Char := ['\x1b', '[', '0', 'm']

def resumed (start : List Char) : List Char → List Char
  | '\x1b' :: '[' :: '0' :: 'm' :: rest => reset ++ start ++ resumed start rest
  | c :: rest => c :: resumed start rest
  | [] => []

def on (paint : Paint) (colored : Bool) (text : String) : String :=
  if colored then String.ofList (paint.start ++ resumed paint.start text.toList ++ reset) else text

/-- Output does not go to a terminal, so the colours of a summary have to be forced. -/
def forced (environment : Environment) : Bool :=
  match (environment.get? (Text.encode "CLICOLOR_FORCE")).bind Text.decode? with
  | some text => text != "0"
  | none => false

/-- The colours of texts about the use of the program are asked for by any value, though not if
another variable forbids colours. -/
def asked (environment : Environment) : Bool :=
  let isSet (name : String) : Bool := environment.get? (Text.encode name) |>.any (!·.isEmpty)
  isSet "CLICOLOR_FORCE" && !isSet "NO_COLOR"

end Paint
end FontSubset.CommandLine
