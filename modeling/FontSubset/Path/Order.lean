import FontSubset.Path.Basic
/-! The order of paths: by components, the root before a dot, a dot before two,
and these before names, which compare byte by byte. -/
namespace FontSubset

namespace Component

def rank : Component → Nat
  | root => 0
  | here => 1
  | parent => 2
  | name _ => 3

def letters : Component → Bytes
  | name bytes => bytes
  | _ => []

instance : Ord Component where
  compare a b := (compare a.rank b.rank).then (compare a.letters b.letters)

end Component

namespace Path

protected def compare (p q : Path) : Ordering := Ord.compare p.components q.components

instance : Ord Path := ⟨Path.compare⟩

def same (p q : Path) : Bool := p.components == q.components

def le (p q : Path) : Bool := (Path.compare p q).isLE

end Path
end FontSubset
