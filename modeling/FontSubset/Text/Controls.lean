/-! Control characters and the sequences that they begin, which a terminal acts on and does not
show. -/
namespace FontSubset.Text

namespace Controls

inductive Stage
  | shown
  | escape
  | intermediate
  | sequence
  | command
  | device
  | message
  deriving DecidableEq, Repr

/-- The string terminator, as it may be part of the encoding of a character. -/
def terminator : UInt8 := 0x9C

def isLayout (c : Char) : Bool := c == '\t' || c == '\n' || c == '\x0c' || c == '\r'

def isBetween (low high : Nat) (c : Char) : Bool := low ≤ c.toNat && c.toNat ≤ high

/-- A character within an escape sequence that is neither its end nor one of its signs: layout
breaks the sequence off and is shown, all else is ignored. -/
def stray (stage : Stage) (c : Char) : Bool × Stage :=
  if isLayout c then (true, .shown) else (false, stage)

def begun (c : Char) : Bool × Stage :=
  match c with
  | '[' => (false, .sequence)
  | ']' => (false, .command)
  | 'P' => (false, .device)
  | 'X' | '^' | '_' => (false, .message)
  | _ =>
    if isBetween 0x20 0x2F c then (false, .intermediate)
    else if isBetween 0x30 0x7E c then (false, .shown)
    else stray .escape c

def step (stage : Stage) (c : Char) : Bool × Stage :=
  if c = '\x1b' then (false, .escape)
  else if c = '\x18' || c = '\x1a' then (false, .shown)
  else
    match stage with
    | .shown => (isLayout c || isBetween 0x20 0x7E c || 0x80 ≤ c.toNat, .shown)
    | .escape => begun c
    | .intermediate =>
      if isBetween 0x30 0x7E c then (false, .shown) else stray .intermediate c
    | .sequence => if isBetween 0x40 0x7E c then (false, .shown) else stray .sequence c
    | .command => (false, if c = '\x07' then .shown else .command)
    | .device => (false, if isBetween 0x40 0x7E c then .message else .device)
    | .message =>
      (false, if (String.utf8EncodeChar c).contains terminator then .shown else .message)

def shownFrom (stage : Stage) : List Char → List Char
  | [] => []
  | c :: rest =>
    match step stage c with
    | (true, stage) => c :: shownFrom stage rest
    | (false, stage) => shownFrom stage rest

end Controls

def withoutControls (text : String) : String :=
  String.ofList (Controls.shownFrom .shown text.toList)

end FontSubset.Text
