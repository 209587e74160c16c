import Mathlib
import FontSubset.Json.Token
/-! How a text that is put together is cut into tokens. Every token takes a character, so
the number of steps never ends the cutting, and a stretch is cut alike whatever follows it,
unless a number at its end could go on. -/
namespace FontSubset.Json.Token

theorem units?_length {chars rest : List Char} {units : List CodeUnit}
    (h : units? chars = some (units, rest)) : rest.length ≤ chars.length := by
  fun_induction units? chars generalizing units rest with
  | case1 => simp_all
  | case2 a b c d chars ih =>
    simp only [Option.bind_eq_bind, Option.bind_eq_some_iff, Option.pure_def] at h
    obtain ⟨n, -, ⟨inner, after⟩, further, ⟨⟩⟩ := h
    have := ih further
    simp only [List.length_cons]
    omega
  | case3 c chars _ ih =>
    simp only [Option.bind_eq_bind, Option.bind_eq_some_iff, Option.pure_def] at h
    obtain ⟨c, -, ⟨inner, after⟩, further, ⟨⟩⟩ := h
    have := ih further
    simp only [List.length_cons]
    omega
  | case4 => cases h
  | case5 c chars _ _ _ _ ih =>
    simp only [Option.bind_eq_bind, Option.bind_eq_some_iff, Option.pure_def] at h
    obtain ⟨⟨inner, after⟩, further, ⟨⟩⟩ := h
    have := ih further
    simp only [List.length_cons]
    omega
  | case6 => cases h

theorem digits_length (chars : List Char) : (digits chars).2.length ≤ chars.length :=
  (List.dropWhile_sublist _).length_le

theorem fraction?_length {chars rest : List Char} {fraction : Option (List Char)}
    (h : fraction? chars = some (fraction, rest)) : rest.length ≤ chars.length := by
  unfold fraction? at h
  split at h
  · rename_i chars
    have shorter := digits_length chars
    split at h
    rename_i ds after cut
    rw [cut] at shorter
    split_ifs at h
    cases h
    exact shorter.trans (Nat.le_succ _)
  · cases h
    exact le_rfl

theorem exponent?_length {chars rest : List Char} {exponent : Option (Bool × List Char)}
    (h : exponent? chars = some (exponent, rest)) : rest.length ≤ chars.length := by
  unfold exponent? at h
  split at h
  · rename_i c chars
    split at h
    · split at h
      rename_i minus signless sign
      have signless_le : signless.length ≤ chars.length := by split at sign <;> simp_all
      have shorter := digits_length signless
      split at h
      rename_i ds after cut
      rw [cut] at shorter
      split_ifs at h
      cases h
      exact shorter.trans (signless_le.trans (Nat.le_succ _))
    · cases h
      exact le_rfl
  · cases h
    exact le_rfl

theorem unsigned?_length {negative : Bool} {chars rest : List Char} {token : Token}
    (h : unsigned? negative chars = some (token, rest)) :
    rest.length ≤ (digits chars).2.length := by
  simp only [unsigned?, Option.bind_eq_bind, Option.pure_def] at h
  split at h
  · cases h
  · simp only [Option.bind_eq_some_iff] at h
    obtain ⟨⟨fraction, rest1⟩, h1, ⟨exponent, rest2⟩, h2, ⟨⟩⟩ := h
    exact (exponent?_length h2).trans (fraction?_length h1)

theorem word?_length {token word : Token} {letters chars rest : List Char}
    (h : word? word letters chars = some (token, rest)) : rest.length ≤ chars.length := by
  unfold word? at h
  split at h
  · cases h
    simp
  · cases h

theorem text?_length {token : Token} {chars rest : List Char}
    (h : text? chars = some (token, rest)) : rest.length ≤ chars.length := by
  obtain ⟨⟨units, rest⟩, h, ⟨⟩⟩ := Option.map_eq_some_iff.mp h
  exact units?_length h

/-- A token takes its first character and perhaps more. -/
theorem next?_length {c : Char} {chars rest : List Char} {token : Token}
    (h : next? c chars = some (token, rest)) : rest.length ≤ chars.length := by
  unfold next? at h
  split at h
  case h_12 =>
    split at h
    · rename_i digit
      have := unsigned?_length h
      rw [digits, List.dropWhile_cons_of_pos digit] at this
      exact this.trans (digits_length chars)
    · cases h
  all_goals first
    | (cases h; exact le_rfl)
    | exact text?_length h
    | exact word?_length h
    | exact (unsigned?_length h).trans (digits_length chars)

theorem scan_of_le {steps : Nat} {chars : List Char} (h : chars.length ≤ steps) :
    scan steps chars = ofChars chars := by
  -- One step more changes nothing, as a token leaves no more than stood after its first
  -- character.
  have more : ∀ steps chars, chars.length ≤ steps → scan (steps + 1) chars = scan steps chars := by
    intro steps
    induction steps with
    | zero =>
      intro chars h
      rw [List.length_eq_zero_iff.mp (Nat.le_zero.mp h)]
      rfl
    | succ steps ih =>
      intro chars h
      cases chars with
      | nil => rfl
      | cons c rest =>
        have short : rest.length ≤ steps := by simpa using h
        rw [scan, scan, ih rest short]
        cases next : next? c rest with
        | none => rfl
        | some pair => simp only [ih pair.2 ((next?_length next).trans short)]
  induction h with
  | refl => rfl
  | step le ih => rw [more _ _ le, ih]

theorem ofChars_cons (c : Char) (rest : List Char) :
    ofChars (c :: rest) =
      if isSpace c then ofChars rest
      else match next? c rest with
        | some (token, after) => token :: ofChars after
        | none => [bad] := by
  rw [ofChars, List.length_cons, scan, ← ofChars]
  cases next : next? c rest with
  | none => rfl
  | some pair => simp only [scan_of_le (next?_length next)]

/-- What stands here is no more of a number. -/
def Stops : List Char → Prop
  | [] => True
  | c :: _ => c.isDigit = false ∧ c ≠ '.' ∧ c ≠ 'e' ∧ c ≠ 'E'

instance : (chars : List Char) → Decidable (Stops chars)
  | [] => inferInstanceAs (Decidable True)
  | _ :: _ => inferInstanceAs (Decidable (_ ∧ _))

/-- A stretch is cut into these tokens whatever follows it that a number stops at. -/
def Lexes (chars : List Char) (tokens : List Token) : Prop :=
  ∀ rest, Stops rest → ofChars (chars ++ rest) = tokens ++ ofChars rest

namespace Lexes

variable {c : Char} {front back : List Char} {first : Token} {tokens more : List Token}

theorem nil : Lexes [] [] := fun _ _ => rfl

theorem append (h : Lexes front tokens) (stops : Stops [c]) (h' : Lexes (c :: back) more) :
    Lexes (front ++ c :: back) (tokens ++ more) := by
  intro rest stop
  rw [List.append_assoc, h (c :: back ++ rest) stops, h' rest stop, List.append_assoc]

theorem space (blank : isSpace c) (h : Lexes back tokens) : Lexes (c :: back) tokens := by
  intro rest stop
  rw [List.cons_append, ofChars_cons, if_pos blank, h rest stop]

theorem mark (next : ∀ rest, next? c rest = some (first, rest)) (visible : isSpace c = false)
    (h : Lexes back tokens) : Lexes (c :: back) (first :: tokens) := by
  intro rest stop
  rw [List.cons_append, ofChars_cons, if_neg (by simp [visible]), next]
  simp only [h rest stop, List.cons_append]

theorem single (others : List Char)
    (next : ∀ rest, Stops rest → next? c (others ++ rest) = some (first, rest))
    (visible : isSpace c = false) : Lexes (c :: others) [first] := by
  intro rest stop
  rw [List.cons_append, ofChars_cons, if_neg (by simp [visible]), next rest stop]
  rfl

theorem ofChars_eq (h : Lexes front tokens) : ofChars front = tokens := by
  simpa [ofChars, scan] using h [] trivial

end Lexes

end FontSubset.Json.Token
