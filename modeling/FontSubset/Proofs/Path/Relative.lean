import FontSubset.Proofs.Path.Components
/-! Paths that go down from wherever they are seen. Such a path can be joined to a base as a whole
or name by name. -/
namespace FontSubset.Path

def relative (names : List Bytes) : Path := ⟨[slash].intercalate names⟩

theorem relative_cons_cons (name next : Bytes) (rest : List Bytes) :
    relative (name :: next :: rest) = ⟨name ++ slash :: (relative (next :: rest)).bytes⟩ := by
  simp [relative]

theorem IsName.append_not_isAbsolute {name : Bytes} (h : IsName name) (more : Bytes) :
    (Path.mk (name ++ more)).isAbsolute = false := by
  have alone := h.not_isAbsolute
  unfold isAbsolute at alone ⊢
  rw [List.head?_append_of_ne_nil _ h.nonempty]
  exact alone

theorem relative_not_isAbsolute {names : List Bytes} (h : ∀ name ∈ names, IsName name) :
    (relative names).isAbsolute = false := by
  match names with
  | [] => rfl
  | [name] => simpa [relative] using (h name (by simp)).not_isAbsolute
  | name :: next :: rest =>
    rw [relative_cons_cons]
    exact (h name (by simp)).append_not_isAbsolute _

/-- What stands before a path that is joined to a base does not hang on that path. -/
theorem exists_join_eq (base : Path) :
    ∃ front, (front = [] ∨ front.getLast? = some slash) ∧
      ∀ path : Path, path.isAbsolute = false → base.join path = ⟨front ++ path.bytes⟩ := by
  by_cases bare : base.bytes = [] ∨ base.bytes.getLast? = some slash
  · exact ⟨base.bytes, bare, fun path h => by simp [join, h, bare]⟩
  · exact ⟨base.bytes ++ [slash], .inr (by simp), fun path h => by simp [join, h, bare]⟩

theorem join_name_slash {name : Bytes} {more : Path} (base : Path) (h : IsName name)
    (below : more.isAbsolute = false) :
    base.join ⟨name ++ slash :: more.bytes⟩ = (base.join ⟨name⟩).join more := by
  obtain ⟨front, -, join_eq⟩ := base.exists_join_eq
  rw [join_eq _ (h.append_not_isAbsolute _), join_eq _ h.not_isAbsolute]
  have firm : ¬ (front ++ name = [] ∨ (front ++ name).getLast? = some slash) := by
    rw [List.getLast?_append_of_ne_nil _ h.nonempty]
    rintro (empty | last)
    · exact h.nonempty (List.append_eq_nil_iff.mp empty).2
    · exact h.slashless (List.mem_of_getLast? last)
  rw [join, if_neg (by simp [below]), if_neg firm, List.append_assoc]

theorem join_relative {names : List Bytes} (base : Path) (h : ∀ name ∈ names, IsName name)
    (some : names ≠ []) : base.join (relative names) = base.joinAll names := by
  induction names generalizing base with
  | nil => exact absurd rfl some
  | cons name rest ih =>
    rw [List.forall_mem_cons] at h
    cases rest with
    | nil => simp [relative]
    | cons next rest =>
      rw [relative_cons_cons, join_name_slash base h.1 (relative_not_isAbsolute h.2), joinAll_cons]
      exact ih _ h.2 (List.cons_ne_nil _ _)

theorem qualifies_relative {names : List Bytes} (base : Path) (h : ∀ name ∈ names, IsName name)
    (some : names ≠ []) :
    Font.qualifies (relative names) = Font.qualifies (base.joinAll names) := by
  have empty : (Path.mk []).join (relative names) = relative names := by
    simp [join, relative_not_isAbsolute h]
  obtain ⟨front, name, rfl⟩ := (List.eq_nil_or_concat' names).resolve_left some
  have isName := h name (by simp)
  rw [← empty, join_relative _ h some, joinAll_concat, joinAll_concat, qualifies_join _ isName,
    qualifies_join _ isName]

end FontSubset.Path
