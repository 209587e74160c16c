import Mathlib
import FontSubset.Font
/-! Components of joined paths. Joining a name adds one component at the end, however the
path in front is spelled. -/
namespace FontSubset.Path

/-- What the system admits as the name of an entry. -/
structure IsName (bytes : Bytes) : Prop where
  nonempty : bytes ≠ []
  slashless : slash ∉ bytes
  ne_dot : bytes ≠ [dot]
  ne_dots : bytes ≠ [dot, dot]

instance (bytes : Bytes) : Decidable (IsName bytes) :=
  decidable_of_iff (bytes ≠ [] ∧ slash ∉ bytes ∧ bytes ≠ [dot] ∧ bytes ≠ [dot, dot])
    ⟨fun ⟨a, b, c, d⟩ => ⟨a, b, c, d⟩, fun h => ⟨h.1, h.2, h.3, h.4⟩⟩

theorem segmentsOf_ne_nil (bytes : Bytes) : segmentsOf bytes ≠ [] := List.splitOn_ne_nil slash bytes

theorem segmentsOf_append_slash (front back : Bytes) :
    segmentsOf (front ++ slash :: back) = segmentsOf front ++ segmentsOf back :=
  List.splitOn_append_cons_self front back

theorem segmentsOf_of_slashless {bytes : Bytes} (h : slash ∉ bytes) :
    segmentsOf bytes = [bytes] := List.splitOn_eq_singleton h

@[simp] theorem segmentsOf_nil : segmentsOf [] = [[]] := segmentsOf_of_slashless List.not_mem_nil

@[simp] theorem segmentsOf_slash (back : Bytes) :
    segmentsOf (slash :: back) = [] :: segmentsOf back := by
  simpa using segmentsOf_append_slash [] back

theorem segmentsOf_cons_of_ne {b : UInt8} (rest : Bytes) (h : b ≠ slash) :
    segmentsOf (b :: rest) = (segmentsOf rest).modifyHead (b :: ·) := by
  rw [segmentsOf, List.splitOn_cons_eq_if_modifyHead, if_neg (by simpa using h)]
  rfl

namespace IsName

variable {name : Bytes}

theorem stepOf (h : IsName name) : stepOf name = some (.name name) := by
  simp [Path.stepOf, h.nonempty, h.ne_dot, h.ne_dots]

theorem not_isAbsolute (h : IsName name) : (Path.mk name).isAbsolute = false := by
  have slashless := h.slashless
  cases name with
  | nil => rfl
  | cons b rest =>
    simp only [List.mem_cons, not_or] at slashless
    simp [isAbsolute, Ne.symm slashless.1]

theorem components (h : IsName name) : (Path.mk name).components = [.name name] := by
  simp [Path.components, segmentsOf_of_slashless h.slashless, h.not_isAbsolute, h.ne_dot, h.stepOf]

theorem fileName? (h : IsName name) : (Path.mk name).fileName? = some name := by
  simp [Path.fileName?, h.components]

end IsName

/-- A further segment is a further component, unless it says nothing. -/
theorem components_append_segment {bytes segment : Bytes} (nonempty : bytes ≠ [])
    (slashless : slash ∉ segment) :
    (Path.mk (bytes ++ slash :: segment)).components =
      (Path.mk bytes).components ++ (stepOf segment).toList := by
  obtain ⟨front, rest, segments⟩ := List.exists_cons_of_ne_nil (segmentsOf_ne_nil bytes)
  have absolute :
      (Path.mk (bytes ++ slash :: segment)).isAbsolute = (Path.mk bytes).isAbsolute := by
    simp [isAbsolute, List.head?_append_of_ne_nil _ nonempty]
  have steps : (rest ++ [segment]).filterMap Path.stepOf =
      rest.filterMap Path.stepOf ++ (Path.stepOf segment).toList := by
    rw [List.filterMap_append, List.filterMap_cons]
    cases Path.stepOf segment <;> rfl
  unfold components
  rw [absolute, segmentsOf_append_slash, segmentsOf_of_slashless slashless, segments]
  simp only [List.cons_append, steps]
  split_ifs <;> simp

theorem components_append_name {bytes name : Bytes} (h : IsName name) (nonempty : bytes ≠ []) :
    (Path.mk (bytes ++ slash :: name)).components = (Path.mk bytes).components ++ [.name name] := by
  rw [components_append_segment nonempty h.slashless, h.stepOf]
  rfl

theorem components_append_slash (bytes : Bytes) (nonempty : bytes ≠ []) :
    (Path.mk (bytes ++ [slash])).components = (Path.mk bytes).components := by
  rw [components_append_segment nonempty List.not_mem_nil]
  exact List.append_nil _

theorem components_join {name : Bytes} (base : Path) (h : IsName name) :
    (base.join ⟨name⟩).components = base.components ++ [.name name] := by
  obtain ⟨bytes⟩ := base
  unfold join
  rw [if_neg (by simp [h.not_isAbsolute])]
  split_ifs with bare
  · rcases bare with rfl | last
    · simpa [components, stepOf, isAbsolute, dot] using h.components
    · obtain ⟨front, rfl⟩ := List.getLast?_eq_some_iff.mp last
      rw [List.append_assoc, List.singleton_append]
      by_cases empty : front = []
      · simp [empty, components, segmentsOf_of_slashless h.slashless, isAbsolute, stepOf,
          h.nonempty, h.ne_dot, h.ne_dots]
      · rw [components_append_name h empty, components_append_slash front empty]
  · exact components_append_name h (by simp_all)

theorem fileName?_join {name : Bytes} (base : Path) (h : IsName name) :
    (base.join ⟨name⟩).fileName? = some name := by
  simp [Path.fileName?, components_join base h]

/-- Whether a name makes a font does not depend on where it stands. -/
theorem qualifies_join {name : Bytes} (base : Path) (h : IsName name) :
    Font.qualifies (base.join ⟨name⟩) = Font.qualifies ⟨name⟩ := by
  simp [Font.qualifies, extension?, fileName?_join base h, h.fileName?]

/-- `base` with one name after the other joined to it. -/
def joinAll (base : Path) (names : List Bytes) : Path :=
  names.foldl (fun path name => path.join ⟨name⟩) base

@[simp] theorem joinAll_nil (base : Path) : base.joinAll [] = base := rfl

@[simp] theorem joinAll_cons (base : Path) (name : Bytes) (names : List Bytes) :
    base.joinAll (name :: names) = (base.join ⟨name⟩).joinAll names := rfl

theorem joinAll_concat (base : Path) (names : List Bytes) (name : Bytes) :
    base.joinAll (names ++ [name]) = (base.joinAll names).join ⟨name⟩ := by
  simp [joinAll]

theorem components_joinAll {names : List Bytes} (base : Path) (h : ∀ name ∈ names, IsName name) :
    (base.joinAll names).components = base.components ++ names.map .name := by
  induction names generalizing base with
  | nil => simp
  | cons name rest ih =>
    rw [List.forall_mem_cons] at h
    rw [joinAll_cons, ih _ h.2, components_join base h.1]
    simp

theorem joinAll_injective {names names' : List Bytes} {base : Path}
    (h : ∀ name ∈ names, IsName name) (h' : ∀ name ∈ names', IsName name)
    (same : base.joinAll names = base.joinAll names') : names = names' := by
  have components := congrArg Path.components same
  rw [components_joinAll base h, components_joinAll base h',
    List.append_cancel_left_eq] at components
  exact List.map_injective_iff.mpr (fun _ _ => Component.name.inj) components

end FontSubset.Path
