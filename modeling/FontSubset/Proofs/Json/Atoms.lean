import FontSubset.Proofs.Json.Lexing
/-! The tokens of values of no members: words, and integers of 64 bits. -/
namespace FontSubset.Json.Token

theorem lexes_null : Lexes "null".toList [null] :=
  Lexes.single ['u', 'l', 'l'] (fun _ _ => rfl) rfl

theorem lexes_bool (b : Bool) : Lexes (Value.atom (.bool b)) [bool b] := by
  cases b with
  | false => exact Lexes.single ['a', 'l', 's', 'e'] (fun _ _ => rfl) rfl
  | true => exact Lexes.single ['r', 'u', 'e'] (fun _ _ => rfl) rfl

/-! Numbers that are written as integers of 64 bits. -/

theorem accumulate_append {value sum : Nat} {c : Char} {front : List Char}
    (h : accumulate value front = (sum, []))
    (small : sum * 10 + digitValue c < UInt64.size) :
    accumulate value (front ++ [c]) = (sum * 10 + digitValue c, []) := by
  induction front generalizing value with
  | nil =>
    obtain ⟨rfl, -⟩ := Prod.mk.inj h
    rw [List.nil_append, accumulate, if_pos small, accumulate]
  | cons d rest ih =>
    rw [accumulate] at h
    split_ifs at h with fits
    · rw [List.cons_append, accumulate, if_pos fits, ih h]
    · cases h

theorem digitValue_digitChar {n : Nat} (h : n < 10) : digitValue n.digitChar = n :=
  Nat.toNat_digitChar_sub_48_of_lt_ten h

theorem accumulate_toDigits {n : Nat} (h : n < UInt64.size) :
    accumulate 0 (Nat.toDigits 10 n) = (n, []) := by
  induction n using Nat.strong_induction_on with
  | _ n ih =>
    rw [Nat.toDigits_eq_if (by decide)]
    split_ifs with one
    · rw [accumulate, digitValue_digitChar one, if_pos (by omega), accumulate]
      simp
    · have last : digitValue (n % 10).digitChar = n % 10 := digitValue_digitChar (by omega)
      rw [accumulate_append (ih (n / 10) (by omega) (by omega)) (by omega), last]
      congr 1
      omega

/-- A number does not begin with a zero unless it is one. -/
theorem head?_toDigits {n : Nat} (h : (Nat.toDigits 10 n).head? = some '0') : n = 0 := by
  induction n using Nat.strong_induction_on with
  | _ n ih =>
    rw [Nat.toDigits_eq_if (by decide)] at h
    split_ifs at h with one
    · simpa using h
    · rw [List.head?_append_of_ne_nil _ Nat.toDigits_ne_nil] at h
      have := ih (n / 10) (by omega) h
      omega

theorem Stops.not_digit {rest : List Char} (stop : Stops rest) :
    ∀ c ∈ rest.head?, c.isDigit = false := by
  cases rest with
  | nil => exact nofun
  | cons c rest =>
    rintro _ ⟨⟩
    exact stop.1

theorem digits_append {front rest : List Char} (all : ∀ c ∈ front, c.isDigit = true)
    (stop : ∀ c ∈ rest.head?, c.isDigit = false) : digits (front ++ rest) = (front, rest) := by
  have none : rest.takeWhile Char.isDigit = [] ∧ rest.dropWhile Char.isDigit = rest := by
    cases rest with
    | nil => exact ⟨rfl, rfl⟩
    | cons c rest => simp [stop c rfl]
  rw [digits, List.takeWhile_append_of_pos all, List.dropWhile_append_of_pos all, none.1, none.2,
    List.append_nil]

theorem fraction?_of_stops {rest : List Char} (stop : Stops rest) :
    fraction? rest = some (none, rest) := by
  cases rest with
  | nil => rfl
  | cons c rest =>
    unfold fraction?
    split
    · rename_i point
      cases point
      exact absurd rfl stop.2.1
    · rfl

theorem exponent?_of_stops {rest : List Char} (stop : Stops rest) :
    exponent? rest = some (none, rest) := by
  cases rest with
  | nil => rfl
  | cons c rest => simp only [exponent?, if_neg (not_or.mpr stop.2.2)]

/-- Digits are read as the number that they spell. -/
theorem unsigned?_toDigits (negative : Bool) (n : Nat) {rest : List Char} (stop : Stops rest) :
    unsigned? negative (Nat.toDigits 10 n ++ rest) =
      some (number (numberOf negative (Nat.toDigits 10 n) none none), rest) := by
  have cut := digits_append (fun _ => Nat.isDigit_of_mem_toDigits (b := 10) (n := n) (by decide)
    (by decide)) stop.not_digit
  have sound : ¬(Nat.toDigits 10 n = [] ∨
      ((Nat.toDigits 10 n).head? = some '0' ∧ (Nat.toDigits 10 n).length ≠ 1)) := by
    rintro (none | ⟨zero, long⟩)
    · exact Nat.toDigits_ne_nil none
    · rw [head?_toDigits zero] at long
      exact long rfl
  rw [unsigned?, cut]
  simp only [if_neg sound, fraction?_of_stops stop, exponent?_of_stops stop,
    Option.bind_eq_bind, Option.bind_some, Option.pure_def]

theorem numberOf_natural {n : Nat} (h : n < UInt64.size) :
    numberOf false (Nat.toDigits 10 n) none none = some (.integer n) := by
  simp [numberOf, accumulate_toDigits h]

theorem numberOf_negative {n : Nat} (positive : 0 < n) (h : n ≤ 2 ^ 63) :
    numberOf true (Nat.toDigits 10 n) none none = some (.integer (-n)) := by
  have small : n < UInt64.size := by
    rw [UInt64.size]
    omega
  have within : ¬(n = 0 ∨ Nat.pow 2 63 < n) := by
    rintro (rfl | large)
    · exact absurd positive (lt_irrefl 0)
    · exact absurd h (not_le.mpr large)
  simp [numberOf, accumulate_toDigits small, within]

theorem next?_digit {c : Char} (digit : c.isDigit) (rest : List Char) :
    next? c rest = unsigned? false (c :: rest) := by
  unfold next?
  split
  case h_12 => rw [if_pos digit]
  all_goals cases digit

theorem isSpace_digit {c : Char} (digit : c.isDigit) : isSpace c = false := by
  simp only [isSpace, Bool.or_eq_false_iff, beq_eq_false_iff_ne]
  refine ⟨⟨⟨?_, ?_⟩, ?_⟩, ?_⟩ <;> rintro rfl <;> cases digit

theorem lexes_natural {n : Nat} (h : n < UInt64.size) :
    Lexes (Nat.toDigits 10 n) [number (some (.integer n))] := by
  have all : ∀ c ∈ Nat.toDigits 10 n, c.isDigit = true :=
    fun _ => Nat.isDigit_of_mem_toDigits (by decide) (by decide)
  have read (rest : List Char) (stop : Stops rest) := unsigned?_toDigits false n stop
  rw [numberOf_natural h] at read
  cases spelled : Nat.toDigits 10 n with
  | nil => exact absurd spelled Nat.toDigits_ne_nil
  | cons c front =>
    rw [spelled] at all read
    have digit : c.isDigit := all c List.mem_cons_self
    refine Lexes.single _ (fun rest stop => ?_) (isSpace_digit digit)
    rw [next?_digit digit]
    exact read rest stop

theorem lexes_negative {n : Nat} (positive : 0 < n) (h : n ≤ 2 ^ 63) :
    Lexes ('-' :: Nat.toDigits 10 n) [number (some (.integer (-n)))] := by
  refine Lexes.single _ (fun rest stop => ?_) rfl
  rw [← numberOf_negative positive h]
  exact unsigned?_toDigits true n stop

/-- The integers that are read as integers. -/
def IsInteger (n : Int) : Prop := -2 ^ 63 ≤ n ∧ n < 2 ^ 64

theorem toList_toString_natCast (n : Nat) : (toString (n : Int)).toList = Nat.toDigits 10 n := by
  rw [← String.toList_ofList (l := Nat.toDigits 10 n), ← Nat.toString_eq_ofList_toDigits]
  rfl

theorem toList_toString_neg {n : Nat} (positive : 0 < n) :
    (toString (-n : Int)).toList = '-' :: Nat.toDigits 10 n := by
  obtain ⟨n, rfl⟩ := Nat.exists_eq_add_one_of_ne_zero positive.ne'
  rw [← String.toList_ofList (l := Nat.toDigits 10 (n + 1)), ← Nat.toString_eq_ofList_toDigits]
  exact String.toList_append

theorem lexes_integer {n : Int} (h : IsInteger n) :
    Lexes (toString n).toList [number (some (.integer n))] := by
  obtain ⟨low, high⟩ := h
  obtain ⟨n, rfl | rfl⟩ := n.eq_nat_or_neg
  · rw [toList_toString_natCast]
    refine lexes_natural ?_
    rw [UInt64.size]
    exact Int.ofNat_lt.mp high
  · obtain rfl | positive := n.eq_zero_or_pos
    · exact lexes_natural (n := 0) (by decide)
    · rw [toList_toString_neg positive]
      exact lexes_negative positive (by omega)

end FontSubset.Json.Token
