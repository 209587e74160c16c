import FontSubset.Path.Basic
/-! What a path gives to a hasher. One pass over the bytes hands over the stretches between
slashes, and behind them a word that tells how the bytes fall into stretches. -/
namespace FontSubset

/-- A way of hashing. Bytes and words change a state, of which a word is made in the end. -/
structure Hasher (σ : Type) where
  start : σ
  bytes : σ → Bytes → σ
  word : σ → UInt64 → σ
  finish : σ → UInt64

namespace Path

/-- Where the pass stands: within a stretch, behind a slash, or behind a slash and a dot, which
counts only if more of a name follows. -/
inductive Reading
  | within (stretch : Bytes)
  | fresh
  | dotted

namespace Reading

def spoken (stretch : Bytes) : List Bytes := if stretch = [] then [] else [stretch]

def step : Reading → UInt8 → List Bytes × Reading
  | within stretch, b =>
    if b = slash then (spoken stretch, fresh) else ([], within (stretch ++ [b]))
  | fresh, b =>
    if b = slash then ([], fresh) else if b = dot then ([], dotted) else ([], within [b])
  | dotted, b => if b = slash then ([], fresh) else ([], within [dot, b])

def finish : Reading → List Bytes
  | within stretch => spoken stretch
  | fresh | dotted => []

def run : Reading → Bytes → List Bytes
  | reading, [] => reading.finish
  | reading, b :: rest => (reading.step b).1 ++ run (reading.step b).2 rest

end Reading

def stretches (path : Path) : List Bytes := Reading.run (.within []) path.bytes

def rotateRight (word : UInt64) : UInt64 := (word >>> 2) ||| (word <<< 62)

def lengthMark (stretches : List Bytes) : UInt64 :=
  stretches.foldl (fun mark stretch => rotateRight (mark + UInt64.ofNat stretch.length)) 0

def hash {σ : Type} (hasher : Hasher σ) (path : Path) : UInt64 :=
  hasher.finish (hasher.word (path.stretches.foldl hasher.bytes hasher.start)
    (lengthMark path.stretches))

end Path
end FontSubset
