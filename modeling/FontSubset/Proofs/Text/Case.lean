import FontSubset.Proofs.Text.Boundary
import FontSubset.Text.Classes
/-! Letters in either case, with blanks around them. Trimming undoes any padding, lower case takes
letters alike that differ in case alone, and neither gets in the way of the other. -/
namespace FontSubset.Text

def AreBlank (chars : List Char) : Prop := ∀ c ∈ chars, isBlank c = true

/-- The same character, or the same ASCII letter in the other case. -/
def SameLetter (c d : Char) : Prop := c = d ∨ c = d.toLower ∨ c = d.toUpper

/-! Case. -/

theorem toLower_eq_toLower_iff {c d : Char} : c.toLower = d.toLower ↔ SameLetter c d := by
  constructor
  · intro same
    by_cases upper : c.isUpper
    · have notLower := Char.not_isLower_of_isUpper upper
      have capital : c = d.toUpper :=
        calc c = c.toUpper := (Char.toUpper_eq_of_not_isLower notLower).symm
          _ = c.toLower.toUpper := (Char.toUpper_toLower_eq_toUpper c).symm
          _ = d.toUpper := by rw [same, Char.toUpper_toLower_eq_toUpper]
      exact .inr (.inr capital)
    · exact .inr (.inl ((Char.toLower_eq_of_not_isUpper upper).symm.trans same))
  · rintro (rfl | rfl | rfl)
    · rfl
    · exact Char.toLower_toLower_eq_toLower d
    · exact Char.toLower_toUpper_eq_toLower d

theorem lowercase_eq_iff {chars others : List Char} :
    lowercase chars = lowercase others ↔ List.Forall₂ SameLetter chars others := by
  unfold lowercase
  induction chars generalizing others with
  | nil => cases others <;> simp
  | cons c rest ih => cases others <;> simp [toLower_eq_toLower_iff, ih]

theorem isBlank_of_letter {c : Char} (low : 0x41 ≤ c.toNat) (high : c.toNat ≤ 0x7A) :
    isBlank c = false := by
  unfold isBlank
  simp only [Bool.or_eq_false_iff, Bool.and_eq_false_iff, decide_eq_false_iff_not,
    beq_eq_false_iff_ne]
  omega

theorem isBlank_toLower (c : Char) : isBlank c.toLower = isBlank c := by
  by_cases upper : c.isUpper
  · have bounds : 0x41 ≤ c.toNat ∧ c.toNat ≤ 0x5A := by
      simpa [Char.isUpper, UInt32.le_iff_toNat_le] using upper
    have valid : (c.toNat + 32).isValidChar := by
      unfold Nat.isValidChar
      omega
    have code : c.toLower.toNat = c.toNat + 32 := by
      rw [Char.toLower_eq_of_isUpper upper, Char.toNat_ofNat, if_pos valid]
    rw [isBlank_of_letter bounds.1 (by omega), isBlank_of_letter (by omega) (by omega)]
  · rw [Char.toLower_eq_of_not_isUpper upper]

/-! Blanks. -/

theorem trimStart_append_of_blank {blanks : List Char} (blank : AreBlank blanks)
    (chars : List Char) : trimStart (blanks ++ chars) = trimStart chars :=
  List.dropWhile_append_of_pos blank

theorem trim_padded {before after : List Char} (leading : AreBlank before)
    (trailing : AreBlank after) (chars : List Char) :
    trim (before ++ (chars ++ after)) = trim chars := by
  unfold trim
  rw [trimStart_append_of_blank leading]
  -- Blanks behind a blank text are trimmed from the front, all others from the end.
  by_cases empty : trimStart chars = []
  · have blank : AreBlank chars := List.dropWhile_eq_nil_iff.mp empty
    have none : trimStart after = [] := List.dropWhile_eq_nil_iff.mpr trailing
    rw [trimStart_append_of_blank blank, none, empty]
  · have start : trimStart (chars ++ after) = trimStart chars ++ after := by
      unfold trimStart at empty ⊢
      simp [List.dropWhile_append, empty]
    rw [start, trimEnd_append_of_blank _ trailing]

theorem exists_padding (chars : List Char) :
    ∃ before after, AreBlank before ∧ AreBlank after ∧ chars = before ++ (trim chars ++ after) := by
  refine ⟨chars.takeWhile isBlank, (trimStart chars).rtakeWhile isBlank, ?_, ?_, ?_⟩
  · exact fun c member => List.mem_takeWhile_imp member
  · exact fun c member => List.mem_rtakeWhile_imp member
  · unfold trim
    rw [trimEnd_append_blanks]
    exact List.takeWhile_append_dropWhile.symm

theorem lowercase_trim (chars : List Char) : lowercase (trim chars) = trim (lowercase chars) := by
  have sameBlanks : isBlank ∘ Char.toLower = isBlank := funext isBlank_toLower
  unfold lowercase trim trimEnd trimStart
  simp only [← List.map_reverse, List.dropWhile_map, sameBlanks]

end FontSubset.Text
