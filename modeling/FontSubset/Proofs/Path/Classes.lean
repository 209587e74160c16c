import Mathlib
import FontSubset.Proofs.Path.Order
import FontSubset.Proofs.Path.FileName
/-! Spellings of one path. Equality, order, hash and the name a path ends in all go by the
components, which a respelling leaves as they are, and so does a path joined to a root. -/
namespace FontSubset

/-- What a hasher is given for a component. -/
def Component.stretch? : Component → Option Bytes
  | root => none
  | here => some [Path.dot]
  | parent => some [Path.dot, Path.dot]
  | name bytes => some bytes

namespace Path

/-- What a path has in front: the root, a dot or the first name. -/
def leadOf (absolute : Bool) (first : Bytes) : List Component :=
  if absolute then [.root] else if first = [dot] then [.here] else (stepOf first).toList

theorem components_of_segments {path : Path} {first : Bytes} {rest : List Bytes}
    (segments : segmentsOf path.bytes = first :: rest) :
    path.components = leadOf path.isAbsolute first ++ rest.filterMap stepOf := by
  unfold components leadOf
  rw [segments]
  split_ifs <;> simp_all

theorem stepOf_ne_root (segment : Bytes) : stepOf segment ≠ some .root := by
  unfold stepOf
  split_ifs <;> simp

theorem stepOf_ne_here (segment : Bytes) : stepOf segment ≠ some .here := by
  unfold stepOf
  split_ifs <;> simp

theorem filter_filterMap_stepOf (segments : List Bytes) :
    (segments.filterMap stepOf).filter (· ≠ .here) = segments.filterMap stepOf := by
  apply List.filter_eq_self.mpr
  intro component member
  obtain ⟨segment, -, step⟩ := List.mem_filterMap.mp member
  simp only [decide_eq_true_eq]
  rintro rfl
  exact stepOf_ne_here segment step

/-- Behind a slash just those segments count that say something. -/
theorem components_behind_slash (front back : Bytes) :
    (Path.mk (front ++ slash :: back)).components =
      (Path.mk (front ++ [slash])).components ++ (segmentsOf back).filterMap stepOf := by
  obtain ⟨first, more, segments⟩ := List.exists_cons_of_ne_nil (segmentsOf_ne_nil front)
  have absolute :
      (Path.mk (front ++ slash :: back)).isAbsolute = (Path.mk (front ++ [slash])).isAbsolute := by
    unfold isAbsolute
    cases front <;> simp
  have whole : segmentsOf (front ++ slash :: back) = first :: (more ++ segmentsOf back) := by
    rw [segmentsOf_append_slash, segments, List.cons_append]
  have begun : segmentsOf (front ++ [slash]) = first :: (more ++ [[]]) := by
    rw [segmentsOf_append_slash, segments, List.cons_append]
    rfl
  rw [components_of_segments whole, components_of_segments begun, absolute]
  simp [stepOf]

theorem isAbsolute_eq_true_iff (path : Path) :
    path.isAbsolute = true ↔ path.components.head? = some .root := by
  obtain ⟨first, more, segments⟩ := List.exists_cons_of_ne_nil (segmentsOf_ne_nil path.bytes)
  rw [components_of_segments segments]
  unfold leadOf
  cases path.isAbsolute with
  | true => simp
  | false =>
    have steps : ∀ segments : List Bytes, (segments.filterMap stepOf).head? ≠ some .root := by
      intro segments head
      obtain ⟨segment, -, step⟩ := List.mem_filterMap.mp (List.mem_of_mem_head? head)
      exact stepOf_ne_root segment step
    have split : (stepOf first).toList ++ more.filterMap stepOf =
        (first :: more).filterMap stepOf := by
      rw [List.filterMap_cons]
      cases stepOf first <;> rfl
    rw [if_neg Bool.false_ne_true]
    split_ifs
    · simp
    · rw [split]
      simpa using steps (first :: more)

/-- The segments of a path that is not absolute say what its components say, but for a dot in
front. -/
theorem filterMap_stepOf (path : Path) (relative : path.isAbsolute = false) :
    (segmentsOf path.bytes).filterMap stepOf = path.components.filter (· ≠ .here) := by
  obtain ⟨first, more, segments⟩ := List.exists_cons_of_ne_nil (segmentsOf_ne_nil path.bytes)
  rw [components_of_segments segments, segments, relative, List.filter_append,
    filter_filterMap_stepOf, List.filterMap_cons]
  unfold leadOf
  by_cases h : first = [dot]
  · simp [h, stepOf]
  · have step := stepOf_ne_here first
    cases stepped : stepOf first <;> simp_all

theorem components_join_eq (base path : Path) :
    (base.join path).components =
      if path.isAbsolute = true ∨ base.bytes = [] then path.components
      else base.components ++ path.components.filter (· ≠ .here) := by
  obtain ⟨bytes⟩ := base
  cases absolute : path.isAbsolute with
  | true => simp [join, absolute]
  | false =>
    rw [← filterMap_stepOf path absolute]
    by_cases empty : bytes = []
    · simp [join, absolute, empty]
    · by_cases last : bytes.getLast? = some slash
      · obtain ⟨front, rfl⟩ := List.getLast?_eq_some_iff.mp last
        have joined : (Path.mk (front ++ [slash])).join path = ⟨front ++ slash :: path.bytes⟩ := by
          simp [join, absolute]
        rw [joined, components_behind_slash]
        simp
      · have joined : (Path.mk bytes).join path = ⟨bytes ++ slash :: path.bytes⟩ := by
          simp [join, absolute, empty, last]
        rw [joined, components_behind_slash, components_append_slash bytes empty]
        simp [empty]

theorem components_join_congr {path path' : Path} (same : path.components = path'.components)
    (base : Path) : (base.join path).components = (base.join path').components := by
  have absolute : path.isAbsolute = path'.isAbsolute := by
    rw [Bool.eq_iff_iff, isAbsolute_eq_true_iff, isAbsolute_eq_true_iff, same]
  rw [components_join_eq, components_join_eq, absolute, same]

/-- One step from a spelling to a longer one. -/
inductive Respelled : Path → Path → Prop
  | slash (front back : Bytes) :
    Respelled ⟨front ++ slash :: back⟩ ⟨front ++ slash :: slash :: back⟩
  | dot (front back : Bytes) :
    Respelled ⟨front ++ slash :: back⟩ ⟨front ++ slash :: Path.dot :: slash :: back⟩
  | dotAtEnd {bytes : Bytes} (nonempty : bytes ≠ []) :
    Respelled ⟨bytes⟩ ⟨bytes ++ [slash, Path.dot]⟩

theorem Respelled.components {path path' : Path} (h : Respelled path path') :
    path.components = path'.components := by
  cases h with
  | slash front back =>
    rw [components_behind_slash front back, components_behind_slash front (Path.slash :: back)]
    simp [stepOf]
  | dot front back =>
    have segments : segmentsOf (Path.dot :: Path.slash :: back) = [Path.dot] :: segmentsOf back :=
      segmentsOf_append_slash [Path.dot] back
    rw [components_behind_slash front back,
      components_behind_slash front (Path.dot :: Path.slash :: back), segments]
    simp [stepOf]
  | dotAtEnd nonempty =>
    rw [components_append_segment nonempty (by decide)]
    simp [stepOf]

def speaks (segment : Bytes) : Bool := segment ≠ [] ∧ segment ≠ [dot]

namespace Reading

/-- The pass comes upon the segments, whatever it stands in. -/
theorem run_of_segments {bytes first : Bytes} {more : List Bytes}
    (segments : segmentsOf bytes = first :: more) :
    (∀ stretch, run (.within stretch) bytes = spoken (stretch ++ first) ++ more.filter speaks) ∧
      run .fresh bytes = (first :: more).filter speaks ∧
      run .dotted bytes = ((dot :: first) :: more).filter speaks := by
  induction bytes generalizing first more with
  | nil =>
    obtain ⟨rfl, rfl⟩ := List.cons.inj segments
    simp [run, finish, speaks]
  | cons b rest ih =>
    obtain ⟨next, later, split⟩ := List.exists_cons_of_ne_nil (segmentsOf_ne_nil rest)
    obtain ⟨within, fresh, dotted⟩ := ih split
    by_cases isSlash : b = slash
    · have whole : segmentsOf (b :: rest) = [] :: next :: later := by
        rw [isSlash, segmentsOf_slash, split]
      obtain ⟨rfl, rfl⟩ := List.cons.inj (whole.symm.trans segments)
      simp [run, step, isSlash, fresh, speaks]
    · have whole : segmentsOf (b :: rest) = (b :: next) :: later := by
        rw [segmentsOf_cons_of_ne rest isSlash, split, List.modifyHead_cons]
      obtain ⟨rfl, rfl⟩ := List.cons.inj (whole.symm.trans segments)
      by_cases isDot : b = dot
      · subst isDot
        simp [run, step, isSlash, within, dotted, speaks, spoken]
      · simp [run, step, isSlash, isDot, within, speaks, spoken]

end Reading

/-- What a path gives to a hasher comes from its components. -/
theorem stretches_eq (path : Path) : path.stretches = path.components.filterMap Component.stretch? := by
  obtain ⟨first, more, segments⟩ := List.exists_cons_of_ne_nil (segmentsOf_ne_nil path.bytes)
  have later : (more.filterMap stepOf).filterMap Component.stretch? = more.filter speaks := by
    rw [List.filterMap_filterMap, ← List.filterMap_eq_filter]
    congr 1
    funext segment
    unfold stepOf speaks Option.guard
    split_ifs <;> simp_all [Component.stretch?]
  have lead : (leadOf path.isAbsolute first).filterMap Component.stretch? = Reading.spoken first := by
    unfold leadOf
    cases absolute : path.isAbsolute with
    | true =>
      have empty : first = [] := by
        obtain ⟨rest, bytes⟩ := List.head?_eq_some_iff.mp (beq_iff_eq.mp absolute)
        rw [bytes, segmentsOf_slash] at segments
        exact (List.cons.inj segments).1.symm
      simp [empty, Reading.spoken, Component.stretch?]
    | false =>
      unfold stepOf Reading.spoken
      split_ifs <;> simp_all [Component.stretch?]
  rw [components_of_segments segments, List.filterMap_append, lead, later, stretches,
    (Reading.run_of_segments segments).1, List.nil_append]

theorem hash_congr {σ : Type} (hasher : Hasher σ) {path path' : Path}
    (same : path.components = path'.components) : path.hash hasher = path'.hash hasher := by
  unfold hash
  rw [stretches_eq, stretches_eq, same]

end Path

namespace Font

theorem same_iff {a b : Font} : a.same b = true ↔ a.path.components = b.path.components :=
  beq_iff_eq

theorem compare_eq_iff {a b : Font} : compare a b = .eq ↔ a.path.components = b.path.components :=
  Std.LawfulEqOrd.compare_eq_iff_eq (α := List Component)

theorem qualifies_of_components {path path' : Path} (same : path.components = path'.components) :
    qualifies path = qualifies path' := by
  apply qualifies_congr
  unfold Path.fileName?
  rw [same]

/-- Fonts that are told apart and stand for all others are as many as the lists of components. -/
theorem length_eq_card {members fonts : List Font}
    (apart : members.Pairwise fun a b => a.same b = false)
    (cover : ∀ font : Font, members.any font.same = fonts.any font.same) :
    members.length = (fonts.map fun font => font.path.components).toFinset.card := by
  have nodup : (members.map fun font => font.path.components).Nodup := by
    rw [List.Nodup, List.pairwise_map]
    apply apart.imp
    intro a b different same
    exact Bool.false_ne_true (different.symm.trans (same_iff.mpr same))
  have subset {some all : List Font}
      (cover : ∀ font : Font, some.any font.same = all.any font.same) :
      (some.map fun font => font.path.components).toFinset ⊆
        (all.map fun font => font.path.components).toFinset := by
    intro components member
    simp only [List.mem_toFinset, List.mem_map] at member ⊢
    obtain ⟨font, here, rfl⟩ := member
    have found : some.any font.same = true :=
      List.any_eq_true.mpr ⟨font, here, same_iff.mpr rfl⟩
    obtain ⟨other, there, same⟩ := List.any_eq_true.mp ((cover font).symm.trans found)
    exact ⟨other, there, (same_iff.mp same).symm⟩
  have sets := (subset cover).antisymm (subset fun font => (cover font).symm)
  rw [← sets, List.toFinset_card_of_nodup nodup, List.length_map]

theorem length_distinct (fonts : List Font) : (distinct fonts).length =
    (fonts.map fun font => font.path.components).toFinset.card := by
  apply length_eq_card
  · induction fonts with
    | nil => exact .nil
    | cons font rest ih =>
      rw [distinct, List.pairwise_cons]
      exact ⟨by simp, ih.filter _⟩
  · intro font
    induction fonts with
    | nil => rfl
    | cons first rest ih =>
      rw [distinct, List.any_cons, List.any_cons, ← ih, List.any_filter]
      cases h : font.same first with
      | true => rfl
      | false =>
        congr 2
        funext other
        cases same : font.same other with
        | false => simp
        | true =>
          have apart : first.same other = false := by
            rw [← h, Bool.eq_iff_iff, same_iff, same_iff, same_iff.mp same]
            exact eq_comm
          simp [apart]

/-- A set of fonts that looks for a font only among those of its hash. -/
def hashSet {σ : Type} (hasher : Hasher σ) (fonts : List Font) :
    @Std.HashSet Font ⟨Font.same⟩ ⟨Font.hash hasher⟩ :=
  @Std.HashSet.ofList Font ⟨Font.same⟩ ⟨Font.hash hasher⟩ fonts

theorem size_hashSet {σ : Type} (hasher : Hasher σ) (fonts : List Font) :
    (hashSet hasher fonts).size =
      (fonts.map fun font => font.path.components).toFinset.card := by
  let _ : BEq Font := ⟨Font.same⟩
  let _ : Hashable Font := ⟨Font.hash hasher⟩
  have : EquivBEq Font := {
    rfl := same_iff.mpr rfl
    symm := fun h => same_iff.mpr (same_iff.mp h).symm
    trans := fun h h' => same_iff.mpr ((same_iff.mp h).trans (same_iff.mp h')) }
  have : LawfulHashable Font := ⟨fun a b same => Path.hash_congr hasher (same_iff.mp same)⟩
  rw [← Std.HashSet.length_toList]
  apply length_eq_card
  · exact Std.HashSet.distinct_toList
  · intro font
    have members : (hashSet hasher fonts).toList.contains font = fonts.contains font := by
      rw [Std.HashSet.contains_toList]
      exact Std.HashSet.contains_ofList
    rwa [List.contains_eq_any_beq, List.contains_eq_any_beq] at members

/-- Fonts are in a total order up to equality, and are equal just if their paths have the same
components. Equal fonts are hashed alike, so that a set has one member for each list of components.
Respelling a path does not lead to another font, and of equal fonts both qualify or none, and both
are equal again as seen from a root. -/
theorem equality_order_hash_agree :
    (∀ a b c : Font, compare a a = .eq ∧ compare b a = (compare a b).swap ∧
      ((compare a b).isLE ∨ (compare b a).isLE) ∧
      ((compare a b).isLE → (compare b a).isLE → a.same b) ∧
      ((compare a b).isLE → (compare b c).isLE → (compare a c).isLE)) ∧
    (∀ a b : Font, (a.same b ↔ compare a b = .eq) ∧
      (a.same b ↔ a.path.components = b.path.components)) ∧
    (∀ (σ : Type) (hasher : Hasher σ),
      (∀ a b : Font, a.same b → a.hash hasher = b.hash hasher) ∧
      ∀ fonts, (hashSet hasher fonts).size =
        (fonts.map fun font => font.path.components).toFinset.card) ∧
    (∀ fonts, (distinct fonts).length =
      (fonts.map fun font => font.path.components).toFinset.card) ∧
    (∀ a b : Font, a.path.Respelled b.path → a.same b) ∧
    ∀ a b : Font, a.same b → qualifies a.path = qualifies b.path ∧
      ∀ root : Path, (root.join a.path).same (root.join b.path) := by
  refine ⟨?_, ?_, ?_, length_distinct, ?_, ?_⟩
  · intro a b c
    have turned : compare b a = (compare a b).swap := Std.OrientedCmp.eq_swap
    refine ⟨Std.ReflCmp.compare_self, turned, ?_, ?_, Std.TransCmp.isLE_trans⟩
    · rw [turned]
      cases compare a b <;> simp
    · rw [turned, same_iff, ← compare_eq_iff]
      cases compare a b <;> simp
  · intro a b
    rw [same_iff, compare_eq_iff]
    exact ⟨Iff.rfl, Iff.rfl⟩
  · intro σ hasher
    exact ⟨fun a b same => Path.hash_congr hasher (same_iff.mp same), size_hashSet hasher⟩
  · intro a b respelled
    exact same_iff.mpr respelled.components
  · intro a b same
    have components := same_iff.mp same
    refine ⟨qualifies_of_components components, ?_⟩
    intro root
    exact beq_iff_eq.mpr (Path.components_join_congr components root)

/-- Two spellings with a dot in front, which counts where the path is not joined to a root. -/
theorem equality_order_hash_agree_dotted :
    let a : Font := ⟨"./x//y.TTF"⟩
    let b : Font := ⟨"./x/./y.TTF/."⟩
    let hasher : Hasher UInt64 :=
      { start := 5381
        bytes := fun state bytes => bytes.foldl (fun state b => 33 * state + b.toUInt64) state
        word := fun state word => 33 * state + word
        finish := id }
    a.same b ∧ compare a b = .eq ∧ a.hash hasher = b.hash hasher ∧
      (hashSet hasher [a, b, ⟨"x/y.TTF"⟩, a]).size = 2 ∧
      a.same ⟨"./x///y.TTF"⟩ ∧ qualifies a.path = qualifies b.path ∧
      ((Path.ofString "r/").join a.path).same ((Path.ofString "r/").join b.path) := by
  intro a b hasher
  have same : a.same b = true := by decide +kernel
  obtain ⟨-, equal, hashed, -, respelled, alike⟩ := equality_order_hash_agree
  refine ⟨same, (equal a b).1.mp same, (hashed _ hasher).1 a b same, ?_, ?_, (alike a b same).1,
    (alike a b same).2 _⟩
  · rw [(hashed _ hasher).2]
    decide +kernel
  · exact respelled a _ (.slash (Text.encode "./x/") (Text.encode "y.TTF"))

end Font
end FontSubset
