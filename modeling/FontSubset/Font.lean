import FontSubset.Path.Hash
import FontSubset.Path.Order
/-! Font files. A font is known by its path; a name qualifies by its extension,
in any ASCII case. -/
namespace FontSubset

structure Font where
  path : Path
  deriving DecidableEq, Repr, Inhabited

namespace Font

def extension : String := "ttf"

def lowerByte (b : UInt8) : UInt8 := if 0x41 ≤ b ∧ b ≤ 0x5A then b + 0x20 else b

/-- Whether a path names a font. Only the name counts: that it is a regular file
is for the caller to see. -/
def qualifies (path : Path) : Bool :=
  path.extension?.any fun bytes => bytes.map lowerByte == Text.encode extension

def display (font : Font) : String := font.path.display

def same (a b : Font) : Bool := a.path.same b.path

instance : Ord Font := ⟨fun a b => compare a.path b.path⟩

def hash {σ : Type} (hasher : Hasher σ) (font : Font) : UInt64 := font.path.hash hasher

/-- Fonts in path order; those that compare alike keep their order. -/
def sort (fonts : List Font) : List Font := fonts.mergeSort fun a b => a.path.le b.path

def distinct : List Font → List Font
  | [] => []
  | font :: rest => font :: (distinct rest).filter fun other => !font.same other

end Font
end FontSubset
