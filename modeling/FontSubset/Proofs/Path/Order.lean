import FontSubset.Proofs.Path.Components
/-! Laws of the order of paths. -/
namespace FontSubset

namespace Component

instance : Std.TransOrd Component :=
  inferInstanceAs (Std.TransCmp (compareLex (compareOn rank) (compareOn letters)))

instance : Std.LawfulEqOrd Component where
  eq_of_compare {a b} h := by
    change (compare a.rank b.rank).then (compare a.letters b.letters) = .eq at h
    rw [Ordering.then_eq_eq, Std.LawfulEqOrd.compare_eq_iff_eq,
      Std.LawfulEqOrd.compare_eq_iff_eq] at h
    cases a <;> cases b <;> simp_all [rank, letters]

@[simp] theorem compare_name (a b : Bytes) : compare (name a) (name b) = compare a b := by
  change (compare 3 3).then (compare a b) = _
  simp

end Component

namespace Path

theorem compare_append_left (front a b : List Component) :
    compare (front ++ a) (front ++ b) = compare a b := by
  induction front with
  | nil => rfl
  | cons component rest ih =>
    rw [List.cons_append, List.cons_append, List.compare_cons_cons, ih]
    simp

end Path

namespace Font

instance : Std.TransOrd Font :=
  inferInstanceAs (Std.TransCmp (compareOn fun font : Font => font.path.components))

end Font
end FontSubset
