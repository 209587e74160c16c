/-! Patterns of texts: a star for any stretch, a question mark for any character, and
brackets for one of several. -/
namespace FontSubset.Shell

inductive PatternItem
  | only (c : Char)
  | one
  | many
  | among (negated : Bool) (ranges : List (Char × Char))
  deriving DecidableEq, Repr

abbrev Pattern := List PatternItem

namespace Pattern

/-- A character of a pattern, and whether it stands for itself. -/
abbrev Mark := Char × Bool

def classNamed? (name : List Char) : Option (List (Char × Char)) :=
  match String.ofList name with
  | "alpha" => some [('a', 'z'), ('A', 'Z')]
  | "digit" => some [('0', '9')]
  | "alnum" => some [('a', 'z'), ('A', 'Z'), ('0', '9')]
  | "upper" => some [('A', 'Z')]
  | "lower" => some [('a', 'z')]
  | "xdigit" => some [('0', '9'), ('a', 'f'), ('A', 'F')]
  | "blank" => some [(' ', ' '), ('\t', '\t')]
  | "space" => some [(' ', ' '), ('\t', '\r')]
  | "cntrl" => some [('\x00', '\x1f'), ('\x7f', '\x7f')]
  | "graph" => some [('!', '~')]
  | "print" => some [(' ', '~')]
  | "punct" => some [('!', '/'), (':', '@'), ('[', '\x60'), ('\x7b', '~')]
  | _ => none

def class? (marks : List Mark) : Option (List (Char × Char) × List Mark) :=
  match marks with
  | ('[', false) :: (':', false) :: rest =>
    match rest.dropWhile (·.1.isAlpha) with
    | (':', false) :: (']', false) :: after =>
      (classNamed? ((rest.takeWhile (·.1.isAlpha)).map (·.1))).map (·, after)
    | _ => none
  | _ => none

def ranges : Nat → List Mark → Option (List (Char × Char) × List Mark)
  | 0, _ => none
  | _, [] => none
  | steps + 1, (c, literal) :: rest =>
    if c = ']' ∧ !literal then some ([], rest)
    else if let some (list, rest) := class? ((c, literal) :: rest) then
      (ranges steps rest).map fun (more, rest) => (list ++ more, rest)
    else
      match rest with
      | ('-', false) :: (d, exact) :: after =>
        if d = ']' ∧ !exact then
          (ranges steps rest).map fun (more, rest) => ((c, c) :: more, rest)
        else (ranges steps after).map fun (more, rest) => ((c, d) :: more, rest)
      | _ => (ranges steps rest).map fun (more, rest) => ((c, c) :: more, rest)

/-- The item that an opening bracket begins. A bracket that closes at once is one of the
characters. -/
def bracket? (marks : List Mark) : Option (PatternItem × List Mark) :=
  let (negated, marks) : Bool × List Mark := match marks with
    | ('!', false) :: rest | ('^', false) :: rest => (true, rest)
    | _ => (false, marks)
  match marks with
  | (']', false) :: rest =>
    (ranges (rest.length + 1) rest).map fun (list, rest) =>
      (.among negated ((']', ']') :: list), rest)
  | _ => (ranges (marks.length + 1) marks).map fun (list, rest) => (.among negated list, rest)

def readFrom : Nat → List Mark → Pattern
  | 0, _ => []
  | _, [] => []
  | steps + 1, ('*', false) :: rest => .many :: readFrom steps rest
  | steps + 1, ('?', false) :: rest => .one :: readFrom steps rest
  | steps + 1, ('\\', false) :: (c, _) :: rest => .only c :: readFrom steps rest
  | steps + 1, ('[', false) :: rest =>
    match bracket? rest with
    | some (item, rest) => item :: readFrom steps rest
    | none => .only '[' :: readFrom steps rest
  | steps + 1, (c, _) :: rest => .only c :: readFrom steps rest

def read (marks : List Mark) : Pattern := readFrom marks.length marks

def PatternItem.fits (c : Char) : PatternItem → Bool
  | .only d => c == d
  | .one | .many => true
  | .among negated ranges => negated != ranges.any fun (low, high) => low ≤ c && c ≤ high

def fits (pattern : Pattern) (text : List Char) : Bool :=
  match pattern, text with
  | [], text => text.isEmpty
  | .many :: rest, [] => fits rest []
  | .many :: rest, c :: text => fits rest (c :: text) || fits (.many :: rest) text
  | _ :: _, [] => false
  | item :: rest, c :: text => PatternItem.fits c item && fits rest text
termination_by (pattern.length, text.length)

def cutFront (pattern : Pattern) (longest : Bool) (text : List Char) : List Char :=
  let counts := List.range (text.length + 1)
  match (if longest then counts.reverse else counts).find? fun k => pattern.fits (text.take k) with
  | some k => text.drop k
  | none => text

def cutBack (pattern : Pattern) (longest : Bool) (text : List Char) : List Char :=
  let counts := List.range (text.length + 1)
  match (if longest then counts else counts.reverse).find? fun k => pattern.fits (text.drop k) with
  | some k => text.take k
  | none => text

end Pattern
end FontSubset.Shell
