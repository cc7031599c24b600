import Mathlib
import Wrangle.Number.Numeral
import Wrangle.Text.CharRanges

/-!
# The digits from zero to nine

The digits that numbers are written in are decimal digits with their usual
values, and none of them is blank.
-/

namespace Wrangle
namespace Text

theorem digitValue?_of_isDigit {c : Char} (h : c.isDigit = true) :
    digitValue? c = some (c.toNat - '0'.toNat) := by
  have hrange : 0x30 <= c.toNat ∧ c.toNat <= 0x39 := Char.isDigit_iff_toNat.mp h
  have hfirst : (decide (0x30 <= c.toNat) && decide (c.toNat < 0x30 + 10)) = true := by
    simp only [Bool.and_eq_true, decide_eq_true_eq]
    omega
  have hzeros : digitZeros = 0x30 :: digitZeros.tail := rfl
  rw [digitValue?, hzeros, List.find?_cons, hfirst]
  rfl

/-- Below the second run of digits, only the first one has any. -/
theorem isDigit_eq_false {c : Char} (hlow : c.toNat < 0x660)
    (h : c.toNat < 0x30 ∨ 0x39 < c.toNat) : Text.isDigit c = false := by
  have hrest : forall start, start ∈ digitZeros -> start = 0x30 ∨ 0x660 <= start := by
    decide
  have hnone : digitValue? c = none := by
    rw [digitValue?, Option.map_eq_none_iff, List.find?_eq_none]
    intro start hstart
    simp only [Bool.and_eq_true, decide_eq_true_eq, not_and, Nat.not_lt]
    rcases hrest start hstart with rfl | hhigh
    · omega
    · omega
  rw [Text.isDigit, hnone]
  rfl

theorem isDigit_of_isDigit {c : Char} (h : c.isDigit = true) : Text.isDigit c = true := by
  rw [Text.isDigit, digitValue?_of_isDigit h]
  rfl

theorem digitsValue_eq_ofDigitChars {cs : List Char} (h : forall c, c ∈ cs -> c.isDigit = true) :
    digitsValue cs = Nat.ofDigitChars 10 cs 0 := by
  rw [digitsValue, Nat.ofDigitChars_eq_foldl]
  refine List.foldl_ext _ _ _ ?_
  intro n c hc
  rw [pushDigit, digitValue?_of_isDigit (h c hc)]
  rfl

theorem not_blank_of_isDigit {c : Char} (h : c.isDigit = true) : isBlank c = false := by
  have hrange : 0x30 <= c.toNat ∧ c.toNat <= 0x39 := Char.isDigit_iff_toNat.mp h
  rw [Bool.eq_false_iff]
  intro hblank
  rw [isBlank, CharRanges.contains, List.any_eq_true] at hblank
  rcases hblank with ⟨range, hmem, hin⟩
  have hall : forall r, r ∈ blankRanges -> r.2 < 0x30 ∨ 0x39 < r.1 := by
    decide
  simp only [Bool.and_eq_true, decide_eq_true_eq] at hin
  rcases hall range hmem with hlow | hhigh
  · omega
  · omega

end Text

/-!
# Numerals of integers

An integer is read from its own text, unless it has too many digits to be
written.  The count of its digits is a guess from the size of its binary
numeral, which is never too small.
-/

namespace Number

open Text

/-!
# The number of digits
-/

theorem two_pow_lt_ten_pow (bits : Nat) : 2 ^ bits < 10 ^ (bits * 30103 / 100000 + 1) := by
  have hbase : 2 ^ 100000 <= 10 ^ 30103 := by
    decide +kernel
  have hquotient : 30103 * bits < (bits * 30103 / 100000 + 1) * 100000 := by
    omega
  refine lt_of_pow_lt_pow_left₀ 100000 (Nat.zero_le _) ?_
  calc (2 ^ bits) ^ 100000 = (2 ^ 100000) ^ bits := pow_right_comm 2 bits 100000
    _ <= (10 ^ 30103) ^ bits := Nat.pow_le_pow_left hbase bits
    _ = 10 ^ (30103 * bits) := (pow_mul 10 30103 bits).symm
    _ < 10 ^ ((bits * 30103 / 100000 + 1) * 100000) := Nat.pow_lt_pow_right (by decide) hquotient
    _ = (10 ^ (bits * 30103 / 100000 + 1)) ^ 100000 := pow_mul 10 _ 100000

theorem lt_ten_pow_digitCount (n : Nat) : n < 10 ^ digitCount n := by
  unfold digitCount
  dsimp only
  split
  · rename_i hzero
    subst hzero
    decide
  · split
    · assumption
    · split
      · assumption
      · have hbits : n < 2 ^ (n.log2 + 1) := Nat.lt_log2_self
        have hguess := two_pow_lt_ten_pow n.log2
        rw [pow_succ] at hbits
        rw [pow_succ]
        omega

theorem length_toDigits_of_not_isTooLong {n : Int} (h : isTooLong n = false) :
    (Nat.toDigits 10 n.natAbs).length <= digitLimit := by
  rw [isTooLong, decide_eq_false_iff_not, Nat.not_lt] at h
  refine (Nat.length_toDigits_le_iff (by decide) (by decide)).mpr ?_
  exact (lt_ten_pow_digitCount n.natAbs).trans_le (Nat.pow_le_pow_right (by decide) h)

/-!
# Reading
-/

theorem digitGroups?_of_isDigit {cs : List Char} (hne : cs ≠ [])
    (hcs : forall c, c ∈ cs -> isDigit c = true) : digitGroups? cs = some cs := by
  induction cs with
  | nil => exact absurd rfl hne
  | cons c rest ih =>
      have hc := hcs c List.mem_cons_self
      have hrest : forall d, d ∈ rest -> isDigit d = true := fun d hd =>
        hcs d (List.mem_cons_of_mem c hd)
      cases rest with
      | nil => simp [digitGroups?, hc]
      | cons d rest =>
          have hd : d ≠ '_' := by
            rintro rfl
            exact absurd (hrest '_' List.mem_cons_self) (by decide)
          rw [digitGroups?, if_pos hc, ih (List.cons_ne_nil d rest) hrest]
          · rfl
          · rintro ⟨⟩
          · rintro _ ⟨rfl⟩
            exact hd rfl

theorem stripSpaces_eq_self {cs : List Char} (h : forall c, c ∈ cs -> isBlank c = false) :
    stripSpaces cs = cs := by
  have hspace : forall c, c ∈ cs -> isSpace c = false := fun c hc => by simp [isSpace, h c hc]
  have hdrop : forall ds : List Char, (forall c, c ∈ ds -> c ∈ cs) -> dropSpaces ds = ds := by
    intro ds hds
    cases ds with
    | nil => rfl
    | cons d ds =>
        exact List.dropWhile_cons_of_neg (by simp [hspace d (hds d List.mem_cons_self)])
  rw [stripSpaces, hdrop cs (fun _ hc => hc), hdrop cs.reverse (fun _ hc => List.mem_reverse.mp hc),
    List.reverse_reverse]

theorem isDigit_of_mem_toDigits {n : Nat} {c : Char} (h : c ∈ Nat.toDigits 10 n) :
    c.isDigit = true :=
  Nat.isDigit_of_mem_toDigits (by decide) (by decide) h

theorem splitSign_toDigits (n : Nat) :
    splitSign (Nat.toDigits 10 n) = (false, Nat.toDigits 10 n) := by
  have hdigits : forall c, c ∈ Nat.toDigits 10 n -> c.isDigit = true := fun c =>
    isDigit_of_mem_toDigits
  generalize Nat.toDigits 10 n = digits at hdigits
  unfold splitSign
  split
  · exact absurd (hdigits '-' List.mem_cons_self) (by decide)
  · exact absurd (hdigits '+' List.mem_cons_self) (by decide)
  · rfl

theorem readInt?_of_toDigits {s : String} {negative : Bool} {n : Nat}
    (hs : splitSign s.toList = (negative, Nat.toDigits 10 n))
    (hblank : forall c, c ∈ s.toList -> isBlank c = false)
    (hlimit : (Nat.toDigits 10 n).length <= digitLimit) :
    readInt? s = some (signed negative n) := by
  have hgroups : digitGroups? (Nat.toDigits 10 n) = some (Nat.toDigits 10 n) :=
    digitGroups?_of_isDigit Nat.toDigits_ne_nil fun c hc =>
      isDigit_of_isDigit (isDigit_of_mem_toDigits hc)
  rw [readInt?, stripSpaces_eq_self hblank, hs]
  dsimp only
  rw [hgroups]
  dsimp only
  rw [if_pos hlimit, digitsValue_eq_ofDigitChars fun c => isDigit_of_mem_toDigits,
    Nat.ofDigitChars_ten_toDigits]

theorem readInt?_toString {n : Int} (h : isTooLong n = false) :
    readInt? (toString n) = some n := by
  have hlimit := length_toDigits_of_not_isTooLong h
  have hblank : forall {m c}, c ∈ Nat.toDigits 10 m -> isBlank c = false := fun hc =>
    not_blank_of_isDigit (isDigit_of_mem_toDigits hc)
  cases n with
  | ofNat n =>
      have htext : (toString (Int.ofNat n)).toList = Nat.toDigits 10 n := Nat.toList_repr
      have hsign : splitSign (toString (Int.ofNat n)).toList = (false, Nat.toDigits 10 n) := by
        rw [htext, splitSign_toDigits]
      refine readInt?_of_toDigits hsign (fun c hc => ?_) hlimit
      rw [htext] at hc
      exact hblank hc
  | negSucc n =>
      have htext : (toString (Int.negSucc n)).toList = '-' :: Nat.toDigits 10 (n + 1) := by
        have hsigned : toString (Int.negSucc n) = "-" ++ (n + 1).repr := rfl
        rw [hsigned, String.toList_append, Nat.toList_repr]
        rfl
      have hsign : splitSign (toString (Int.negSucc n)).toList =
          (true, Nat.toDigits 10 (n + 1)) := by
        rw [htext]
        rfl
      refine readInt?_of_toDigits hsign (fun c hc => ?_) hlimit
      rw [htext, List.mem_cons] at hc
      rcases hc with rfl | hc
      · decide
      · exact hblank hc

end Number
end Wrangle
