import Wrangle.Proofs.Fragment.Lexing

/-!
# Tokens that can be written again

The names of a text are words, and its integers are within the limit of digits,
since they were read from no more characters than that.
-/

namespace Wrangle

open Text Number

/-!
# Size of numerals

An integer is bounded by the number of characters that it was read from.
-/

theorem digitValue?_lt {c : Char} {value : Nat} (h : digitValue? c = some value) : value < 10 := by
  rcases Option.map_eq_some_iff.mp h with ⟨start, hstart, rfl⟩
  have hin := List.find?_some hstart
  simp only [Bool.and_eq_true, decide_eq_true_eq] at hin
  omega

theorem pushDigit_lt {n k : Nat} (h : n < 10 ^ k) (c : Char) : pushDigit n c < 10 ^ (k + 1) := by
  have hdigit : (digitValue? c).getD 0 < 10 := by
    cases hc : digitValue? c with
    | none => decide
    | some value => exact digitValue?_lt hc
  rw [pushDigit, Nat.pow_succ]
  omega

theorem digitsValue_lt (cs : List Char) : digitsValue cs < 10 ^ cs.length := by
  have hall : forall (cs : List Char) (n k : Nat), n < 10 ^ k ->
      cs.foldl pushDigit n < 10 ^ (k + cs.length) := by
    intro cs
    induction cs with
    | nil =>
        intro n k h
        exact h
    | cons c cs ih =>
        intro n k h
        have hnext := ih _ _ (pushDigit_lt h c)
        rw [List.foldl_cons, List.length_cons, Nat.add_comm cs.length, ← Nat.add_assoc]
        exact hnext
  have hzero := hall cs 0 0 (by decide)
  rw [Nat.zero_add] at hzero
  exact hzero

theorem length_takeDigits (cs : List Char) :
    (takeDigits cs).1.length + (takeDigits cs).2.length = cs.length := by
  rw [takeDigits, ← List.length_append, List.takeWhile_append_dropWhile]

theorem length_splitSign_le (cs : List Char) : (splitSign cs).2.length <= cs.length := by
  unfold splitSign
  split
  · exact Nat.le_succ _
  · exact Nat.le_succ _
  · exact Nat.le_refl _

theorem length_takeExponent_le (cs : List Char) : (takeExponent cs).2.length <= cs.length := by
  unfold takeExponent
  split
  · rename_i c rest
    split
    · dsimp only
      split
      · exact Nat.le_refl _
      · have hsign := length_splitSign_le rest
        have hdigits := length_takeDigits (splitSign rest).2
        rw [List.length_cons]
        dsimp only
        omega
    · exact Nat.le_refl _
  · exact Nat.le_refl _

theorem digitsValue_lt_of_length {digits tail : List Char} {size : Nat}
    (h : digits.length + tail.length <= size) :
    digitsValue digits < 10 ^ (size - (takeExponent tail).2.length) := by
  have hexponent := length_takeExponent_le tail
  refine Nat.lt_of_lt_of_le (digitsValue_lt digits) (Nat.pow_le_pow_right (by decide) ?_)
  omega

theorem takeDecimal_shape (cs : List Char) :
    exists fraction tail : List Char,
      (takeDigits cs).1.length + (fraction.length + tail.length) <= cs.length ∧
      takeDecimal cs =
        if (takeDigits cs).1.isEmpty && fraction.isEmpty then none
        else
          some (⟨digitsValue ((takeDigits cs).1 ++ fraction),
            (takeExponent tail).1 - Int.ofNat fraction.length⟩, (takeExponent tail).2) := by
  have hwhole := length_takeDigits cs
  unfold takeDecimal
  dsimp only
  split
  · rename_i after hafter
    have hfraction := length_takeDigits after
    rw [hafter, List.length_cons] at hwhole
    refine ⟨_, _, ?_, rfl⟩
    split
    · rw [List.length_nil, hafter, List.length_cons]
      omega
    · dsimp only
      omega
  · refine ⟨_, _, ?_, rfl⟩
    rw [List.length_nil]
    dsimp only
    omega

theorem digits_lt_of_takeDecimal {cs rest : List Char} {numeral : DecimalNumeral}
    (h : takeDecimal cs = some (numeral, rest)) :
    numeral.digits < 10 ^ (cs.length - rest.length) := by
  rcases takeDecimal_shape cs with ⟨fraction, tail, hlength, hshape⟩
  rw [hshape] at h
  split at h
  · cases h
  · cases h
    refine digitsValue_lt_of_length ?_
    rw [List.length_append]
    omega

/-!
# Tokens of a text
-/

/-- A token that canonical text can give back: a name, or an integer within the limit. -/
def Token.IsLegible : Token -> Prop
  | identifier name =>
      IsWord name.toList ∧ Keyword.ofText? (String.ofList (lowerAscii name.toList)) = none
  | integer n => exists k : Nat, n = Int.ofNat k ∧ k < 10 ^ digitLimit
  | _ => True

theorem legible_of_takeNumber {cs : List Char} {token : Token} {size : Nat}
    (h : takeNumber cs = some (token, size)) (hlong : token.isTooLong size = false) :
    token.IsLegible := by
  unfold takeNumber at h
  split at h
  · cases h
  · rename_i numeral rest hdecimal
    dsimp only at h
    split at h
    · cases h
      trivial
    · cases h
      rw [Token.isTooLong, decide_eq_false_iff_not, Nat.not_lt] at hlong
      exact ⟨_, rfl, Nat.lt_of_lt_of_le (digits_lt_of_takeDecimal hdecimal)
        (Nat.pow_le_pow_right (by decide) hlong)⟩

theorem legible_of_takeName {c : Char} {rest : List Char} {token : Token} {size : Nat}
    (hnumber : takeNumber (c :: rest) = none) (h : takeName (c :: rest) = some (token, size)) :
    token.IsLegible := by
  unfold takeName at h
  dsimp only at h
  split at h
  · rename_i hhead
    cases h
    unfold nameToken
    split
    · trivial
    · rename_i hnone
      refine ⟨?_, by rw [String.toList_ofList]; exact hnone⟩
      rw [String.toList_ofList]
      refine ⟨hhead, fun d hd => List.all_eq_true.mp List.all_takeWhile d hd, ?_⟩
      intro hpoint
      have hdigit := (takeDecimal_eq_none_iff (not_digit_of_isNameHead hhead)).mp
        (takeDecimal_of_takeNumber hnumber) hpoint
      cases rest with
      | nil => rfl
      | cons d rest =>
          rw [List.takeWhile_cons]
          split
          · exact hdigit
          · rfl
  · cases h

theorem legible_of_takeToken {c : Char} {rest : List Char} {token : Token} {size : Nat}
    (h : takeToken c rest = .ok (token, size)) (hlong : token.isTooLong size = false) :
    token.IsLegible := by
  unfold takeToken at h
  dsimp only at h
  split at h
  · split at h
    · cases h
      unfold quotedToken
      split <;> trivial
    · cases h
  · split at h
    · cases h
      trivial
    · split at h
      · cases h
        trivial
      · split at h
        · rename_i hnumber
          cases h
          exact legible_of_takeNumber hnumber hlong
        · rename_i hnumber
          split at h
          · cases h
            trivial
          · split at h
            · rename_i hname
              cases h
              exact legible_of_takeName hnumber hname
            · cases h

theorem legible_of_tokensFrom {skip position : Nat} {cs : List Char} {ts : List Located}
    (h : tokensFrom skip position cs = .ok ts) : forall t, t ∈ ts -> t.token.IsLegible := by
  induction cs generalizing skip position ts with
  | nil =>
      rw [tokensFrom] at h
      cases h
      intro t ht
      rw [List.mem_singleton.mp ht]
      trivial
  | cons c rest ih =>
      cases skip with
      | succ skip => exact ih h
      | zero =>
          rw [tokensFrom] at h
          split at h
          · exact ih h
          · split at h
            · cases h
            · rename_i token size htoken
              split at h
              · cases h
              · rename_i hlong
                split at h
                · cases h
                · rename_i later hlater
                  cases h
                  intro t ht
                  rcases List.mem_cons.mp ht with rfl | hmem
                  · exact legible_of_takeToken htoken (Bool.eq_false_iff.mpr hlong)
                  · exact ih hlater t hmem

end Wrangle
