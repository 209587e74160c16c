import FontSubset.Text.Extending
import FontSubset.Text.Unprintable
import FontSubset.Text.Utf8
/-! Quoted text for diagnostics. Double quotes and backslashes are escaped, controls have
short names, marks and characters that show nothing are given by their numbers. -/
namespace FontSubset.Text

def hexDigits (n : Nat) : List Char := Nat.toDigits 16 n

def escape (c : Char) : List Char :=
  if c = '\x00' then ['\\', '0']
  else if c = '\t' then ['\\', 't']
  else if c = '\r' then ['\\', 'r']
  else if c = '\n' then ['\\', 'n']
  else if c = '"' ∨ c = '\\' then ['\\', c]
  else if isExtending c || !isPrintable c then
    ['\\', 'u', '{'] ++ hexDigits c.toNat ++ ['}']
  else [c]

def quote (text : String) : String :=
  String.ofList ('"' :: text.toList.flatMap escape ++ ['"'])

def hexByte (b : UInt8) : List Char :=
  let digits := (Nat.toDigits 16 b.toNat).map Char.toUpper
  if digits.length < 2 then '0' :: digits else digits

/-- Bytes as a quoted argument: what is not UTF-8 is written byte by byte. -/
def quoteBytes (bytes : Bytes) : String :=
  String.ofList ('"' :: (pieces bytes).flatMap written ++ ['"'])
where
  written : Piece → List Char
    | .char c => escape c
    | .stray bytes => bytes.flatMap fun b => '\\' :: 'x' :: hexByte b

def bracketed (items : List String) : String := "[" ++ ", ".intercalate items ++ "]"

end FontSubset.Text
