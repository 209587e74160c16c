import FontSubset.Text.Classes
/-! The end of a long text. A tool's last lines hold its error, so a text over a
byte limit is cut in front, at a character boundary, and marked by three dots. -/
namespace FontSubset.Text

def byteLength (chars : List Char) : Nat := (chars.map Char.utf8Size).foldr (· + ·) 0

/-- Drops whole characters from the front until at least `count` bytes are gone. -/
def dropBytes : Nat → List Char → List Char
  | _, [] => []
  | count, c :: rest => if count = 0 then c :: rest else dropBytes (count - c.utf8Size) rest

/-- The longest suffix of whole characters within `limit` bytes, trailing blanks
aside, after `...` if anything was cut. -/
def tailChars (chars : List Char) (limit : Nat) : List Char :=
  let kept := trimEnd chars
  let length := byteLength kept
  if length ≤ limit then kept else "...".toList ++ dropBytes (length - limit) kept

def tail (text : String) (limit : Nat) : String := String.ofList (tailChars text.toList limit)

end FontSubset.Text
