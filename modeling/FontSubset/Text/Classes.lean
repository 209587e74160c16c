/-! Classes of characters. A class is given by ranges of code points; that of the blanks, the
Unicode property White_Space, goes with trimming. -/
namespace FontSubset.Text

def inRanges (ranges : List (Nat × Nat)) (c : Char) : Bool :=
  ranges.any fun (low, high) => low ≤ c.toNat && c.toNat ≤ high

def isBlank (c : Char) : Bool :=
  let n := c.toNat
  (0x9 ≤ n && n ≤ 0xD) || n == 0x20 || n == 0x85 || n == 0xA0 || n == 0x1680 ||
    (0x2000 ≤ n && n ≤ 0x200A) || n == 0x2028 || n == 0x2029 || n == 0x202F ||
    n == 0x205F || n == 0x3000

def trimStart (chars : List Char) : List Char := chars.dropWhile isBlank

def trimEnd (chars : List Char) : List Char := (chars.reverse.dropWhile isBlank).reverse

def trim (chars : List Char) : List Char := trimEnd (trimStart chars)

/-- ASCII letters in lower case, all else unchanged. -/
def lowercase (chars : List Char) : List Char := chars.map Char.toLower

end FontSubset.Text
