import Wrangle.Proofs.Fragment.Printing

/-!
# Text of floats as tokens

The text of a float is read as one number, or as a name where the float is no number,
with a minus sign before it when the float is negative.
-/

namespace Wrangle
namespace Grammar

open Text Number

/-!
# Parts of numerals
-/

def AreDigits (cs : List Char) : Prop :=
  forall c, c ∈ cs -> c.isDigit = true

/-- An exponent with its mark and its sign, or none. -/
inductive IsExponent : List Char -> Prop where
  | none : IsExponent []
  | signed {sign : Char} {digits : List Char} :
      sign = '+' ∨ sign = '-' -> digits ≠ [] -> AreDigits digits ->
      IsExponent ('e' :: sign :: digits)

/-- What follows the first digits of a float: a point and digits, an exponent, or both. -/
inductive IsFraction : List Char -> Prop where
  | point {digits exponent : List Char} :
      AreDigits digits -> IsExponent exponent -> IsFraction ('.' :: (digits ++ exponent))
  | whole {exponent : List Char} : exponent ≠ [] -> IsExponent exponent -> IsFraction exponent

theorem takeDigits_append {cs rest : List Char} (hcs : AreDigits cs)
    (hrest : startsWithDigit rest = false) : takeDigits (cs ++ rest) = (cs, rest) := by
  have hall : forall c, c ∈ cs -> Text.isDigit c = true := fun c hc => isDigit_of_isDigit (hcs c hc)
  have hnone : rest.takeWhile Text.isDigit = [] ∧ rest.dropWhile Text.isDigit = rest := by
    cases rest with
    | nil => exact ⟨rfl, rfl⟩
    | cons c rest =>
        have hc : Text.isDigit c = false := hrest
        simp [hc]
  rw [takeDigits, List.takeWhile_append_of_pos hall, List.dropWhile_append_of_pos hall, hnone.1,
    hnone.2, List.append_nil]

theorem startsWithDigit_of_delimited {rest : List Char} (h : Delimited rest) :
    startsWithDigit rest = false := by
  cases rest with
  | nil => rfl
  | cons c rest => exact (delimiter_ends h).1

theorem startsWithDigit_exponent {exponent rest : List Char} (h : IsExponent exponent)
    (hrest : Delimited rest) : startsWithDigit (exponent ++ rest) = false := by
  cases h with
  | none => exact startsWithDigit_of_delimited hrest
  | signed _ _ _ => exact (by decide : Text.isDigit 'e' = false)

theorem takeExponent_append {exponent : List Char} (h : IsExponent exponent) :
    exists n, forall rest, Delimited rest -> takeExponent (exponent ++ rest) = (n, rest) := by
  cases h with
  | none => exact ⟨0, fun rest hrest => takeExponent_of_delimited hrest⟩
  | @signed sign digits hsign hne hdigits =>
      refine ⟨Number.signed (splitSign (sign :: digits)).1 (digitsValue digits), ?_⟩
      intro rest hrest
      have hsplit : splitSign (sign :: (digits ++ rest)) =
          ((splitSign (sign :: digits)).1, digits ++ rest) := by
        rcases hsign with rfl | rfl
        · rfl
        · rfl
      have htake := takeDigits_append hdigits (startsWithDigit_of_delimited hrest)
      have hempty : digits.isEmpty = false := List.isEmpty_eq_false_iff.2 hne
      show takeExponent ('e' :: sign :: (digits ++ rest)) = _
      unfold takeExponent
      dsimp only
      rw [if_pos (by decide), hsplit]
      dsimp only
      rw [htake]
      dsimp only
      rw [hempty, if_neg Bool.false_ne_true]

theorem takeDecimal_append {whole tail : List Char} (hne : whole ≠ []) (hwhole : AreDigits whole)
    (h : IsFraction tail) :
    exists numeral, forall rest, Delimited rest ->
      takeDecimal (whole ++ tail ++ rest) = some (numeral, rest) := by
  have hempty : whole.isEmpty = false := List.isEmpty_eq_false_iff.2 hne
  cases h with
  | @point digits exponent hdigits hexponent =>
      rcases takeExponent_append hexponent with ⟨n, hn⟩
      refine ⟨⟨digitsValue (whole ++ digits), n - Int.ofNat digits.length⟩, ?_⟩
      intro rest hrest
      have hfirst : takeDigits (whole ++ '.' :: (digits ++ exponent) ++ rest) =
          (whole, '.' :: (digits ++ (exponent ++ rest))) := by
        rw [List.append_assoc, List.cons_append, List.append_assoc]
        exact takeDigits_append hwhole (by decide : Text.isDigit '.' = false)
      have hsecond : takeDigits (digits ++ (exponent ++ rest)) = (digits, exponent ++ rest) :=
        takeDigits_append hdigits (startsWithDigit_exponent hexponent hrest)
      unfold takeDecimal
      rw [hfirst]
      dsimp only
      split
      · rename_i after heq
        cases heq
        rw [hsecond]
        dsimp only
        rw [hempty, Bool.false_and, if_neg Bool.false_ne_true, Bool.false_and,
          if_neg Bool.false_ne_true, hn rest hrest]
      · rename_i hpoint
        exact absurd rfl (hpoint (digits ++ (exponent ++ rest)))
  | whole _ hexponent =>
      rcases takeExponent_append hexponent with ⟨n, hn⟩
      refine ⟨⟨digitsValue (whole ++ []), n - Int.ofNat 0⟩, ?_⟩
      intro rest hrest
      have hfirst : takeDigits (whole ++ tail ++ rest) = (whole, tail ++ rest) := by
        rw [List.append_assoc]
        exact takeDigits_append hwhole (startsWithDigit_exponent hexponent hrest)
      have hpoint : forall after, tail ++ rest ≠ '.' :: after := by
        intro after heq
        cases hexponent with
        | none =>
            have hdelimited : Delimited ('.' :: after) := heq ▸ hrest
            exact (delimiter_ends hdelimited).2.2.1 rfl
        | signed _ _ _ => cases heq
      unfold takeDecimal
      rw [hfirst]
      dsimp only
      split
      · rename_i after heq
        exact absurd heq (hpoint after)
      · dsimp only
        rw [hempty, Bool.false_and, if_neg Bool.false_ne_true, hn rest hrest]
        rfl

theorem lexes_decimal {whole tail : List Char} (hne : whole ≠ []) (hwhole : AreDigits whole)
    (h : IsFraction tail) : exists x, Lexes (String.ofList (whole ++ tail)) [.decimal x] := by
  rcases takeDecimal_append hne hwhole h with ⟨numeral, hnumeral⟩
  refine ⟨numeral.toFloat false, ?_⟩
  have hmark : ((whole ++ tail).any fun c => c == '.' || c == 'e' || c == 'E') = true := by
    rw [List.any_append]
    cases h with
    | point _ _ => simp
    | whole hsome hexponent =>
        cases hexponent with
        | none => exact absurd rfl hsome
        | signed _ _ _ => simp
  have hnumber : forall rest, Delimited rest -> takeNumber (whole ++ tail ++ rest) =
      some (.decimal (numeral.toFloat false), (whole ++ tail).length) := by
    intro rest hrest
    have hsize : (whole ++ tail ++ rest).length - rest.length = (whole ++ tail).length := by
      rw [List.length_append, Nat.add_sub_cancel]
    rw [takeNumber, hnumeral rest hrest]
    dsimp only
    rw [hsize, List.take_left, hmark, if_pos rfl]
  cases whole with
  | nil => exact absurd rfl hne
  | cons c cs => exact lexes_number (hwhole c List.mem_cons_self) hnumber rfl

/-!
# Text of finite floats
-/

def IsDecimalText (text : String) : Prop :=
  exists whole tail, text.toList = whole ++ tail ∧ whole ≠ [] ∧ AreDigits whole ∧ IsFraction tail

theorem areDigits_toString (n : Nat) : AreDigits (toString n).toList := by
  intro c hc
  have hdigits : (toString n).toList = Nat.toDigits 10 n := Nat.toList_repr
  rw [hdigits] at hc
  exact Nat.isDigit_of_mem_toDigits (by decide) (by decide) hc

theorem toString_ne_nil (n : Nat) : (toString n).toList ≠ [] := by
  have hdigits : (toString n).toList = Nat.toDigits 10 n := Nat.toList_repr
  rw [hdigits]
  exact Nat.toDigits_ne_nil

theorem areDigits_zeros (n : Nat) : AreDigits (List.replicate n '0') := by
  intro c hc
  rw [List.eq_of_mem_replicate hc]
  rfl

theorem AreDigits.append {cs ds : List Char} (hcs : AreDigits cs) (hds : AreDigits ds) :
    AreDigits (cs ++ ds) := by
  intro c hc
  rcases List.mem_append.1 hc with hc | hc
  · exact hcs c hc
  · exact hds c hc

theorem isDecimalText_positional {digits : String} (hne : digits.toList ≠ [])
    (hdigits : AreDigits digits.toList) (places : Int) :
    IsDecimalText (positional digits places) := by
  unfold positional
  split
  · refine ⟨['0'], '.' :: ((List.replicate (-places).toNat '0' ++ digits.toList) ++ []), ?_,
      List.cons_ne_nil _ _, ?_, .point ((areDigits_zeros _).append hdigits) .none⟩
    · simp [String.toList_append]
    · exact areDigits_zeros 1
  · rename_i hplaces
    dsimp only
    split
    · refine ⟨digits.toList ++ List.replicate (places.toNat - digits.length) '0',
        '.' :: (['0'] ++ []), ?_, ?_, hdigits.append (areDigits_zeros _),
        .point (areDigits_zeros 1) .none⟩
      · simp [String.toList_append]
      · simp [hne]
    · refine ⟨digits.toList.take places.toNat, '.' :: (digits.toList.drop places.toNat ++ []), ?_,
        ?_, fun c hc => hdigits c (List.mem_of_mem_take hc),
        .point (fun c hc => hdigits c (List.mem_of_mem_drop hc)) .none⟩
      · simp [String.toList_append]
      · rw [Ne, List.take_eq_nil_iff]
        rintro (hzero | hnil)
        · omega
        · exact hne hnil

theorem exponentText_shape (width : Nat) (exponent : Int) :
    IsExponent (exponentText width exponent).toList := by
  have hdigits : AreDigits (zeroPadded width exponent.natAbs).toList := by
    rw [zeroPadded, String.toList_append, String.toList_ofList]
    exact (areDigits_zeros _).append (areDigits_toString _)
  have hne : (zeroPadded width exponent.natAbs).toList ≠ [] := by
    rw [zeroPadded, String.toList_append]
    exact fun h => toString_ne_nil _ (List.append_eq_nil_iff.1 h).2
  unfold exponentText
  rw [String.toList_append]
  split
  · exact .signed (.inr rfl) hne hdigits
  · exact .signed (.inl rfl) hne hdigits

theorem isDecimalText_exponential {digits : String} (hne : digits.toList ≠ [])
    (hdigits : AreDigits digits.toList) (width : Nat) (exponent : Int) :
    IsDecimalText (exponential width digits exponent) := by
  have hexponent := exponentText_shape width exponent
  unfold exponential
  split
  · rename_i hnil
    exact absurd hnil hne
  · rename_i d hd
    rw [hd] at hdigits
    refine ⟨[d], (exponentText width exponent).toList, ?_, List.cons_ne_nil _ _, hdigits,
      .whole ?_ hexponent⟩
    · rw [String.toList_append, String.toList_ofList]
    · unfold exponentText
      split <;> simp [String.toList_append]
  · rename_i d rest _ hd
    rw [hd] at hdigits
    refine ⟨[d], '.' :: (rest ++ (exponentText width exponent).toList), ?_, List.cons_ne_nil _ _,
      ?_, .point (fun c hc => hdigits c (List.mem_cons_of_mem _ hc)) hexponent⟩
    · rw [String.toList_append, String.toList_ofList]
      rfl
    · intro c hc
      rw [List.mem_singleton.1 hc]
      exact hdigits d List.mem_cons_self

theorem isDecimalText_magnitude (format : FloatFormat) (number : Scientific) :
    IsDecimalText (format.magnitude number) := by
  unfold FloatFormat.magnitude
  dsimp only
  split
  · exact isDecimalText_positional (toString_ne_nil _) (areDigits_toString _) _
  · exact isDecimalText_exponential (toString_ne_nil _) (areDigits_toString _) _ _

/-!
# Text of all floats
-/

/-- A text that is read as one token, which is a tree of its own. -/
def IsLeafText (text : String) : Prop :=
  exists token tree, leaf? token = some tree ∧ Lexes text [token] ∧ Starts text ∧
    text.toList.head? ≠ some '!'

theorem isLeafText_decimal {text : String} (h : IsDecimalText text) : IsLeafText text := by
  rcases h with ⟨whole, tail, htext, hne, hwhole, htail⟩
  rcases lexes_decimal hne hwhole htail with ⟨x, hx⟩
  rw [← htext, String.ofList_toList] at hx
  refine ⟨.decimal x, _, rfl, hx, ?_⟩
  cases whole with
  | nil => exact absurd rfl hne
  | cons c cs =>
      have hc := hwhole c List.mem_cons_self
      refine ⟨⟨c, cs ++ tail, htext, ?_, not_blank_of_isDigit hc⟩, ?_⟩
      · rintro rfl
        cases hc
      · rw [htext, List.cons_append, List.head?_cons, Ne, Option.some.injEq]
        rintro rfl
        cases hc

theorem isLeafText_word {cs : List Char} (h : IsWord cs) {tree : Node}
    (hleaf : leaf? (nameToken cs) = some tree) : IsLeafText (String.ofList cs) := by
  refine ⟨nameToken cs, tree, hleaf, lexes_word h, starts_of_word h, ?_⟩
  rw [String.toList_ofList]
  cases cs with
  | nil => cases h
  | cons c cs =>
      rw [List.head?_cons, Ne, Option.some.injEq]
      rintro rfl
      cases h.1

theorem floatText_shape (x : Float) :
    IsLeafText (floatText x) ∨ exists text, floatText x = "-" ++ text ∧ IsLeafText text := by
  have hsigned : forall (negative : Bool) {text : String}, IsLeafText text ->
      IsLeafText ((if negative then "-" else "") ++ text) ∨
        exists rest, (if negative then "-" else "") ++ text = "-" ++ rest ∧ IsLeafText rest := by
    intro negative text h
    cases negative with
    | true => exact .inr ⟨text, rfl, h⟩
    | false =>
        left
        show IsLeafText ("" ++ text)
        rw [String.empty_append]
        exact h
  have hinfinite : IsLeafText "inf" := by
    have hword : IsWord ['i', 'n', 'f'] := ⟨rfl, List.all_eq_true.1 rfl, by decide⟩
    exact isLeafText_word hword rfl
  have hzero : IsDecimalText "0.0" :=
    ⟨['0'], ['.', '0'], rfl, List.cons_ne_nil _ _, areDigits_zeros 1,
      .point (areDigits_zeros 1) .none⟩
  unfold floatText
  split
  · rename_i negative mantissa exponent _
    apply hsigned
    split
    · exact isLeafText_decimal hzero
    · exact isLeafText_decimal (isDecimalText_magnitude _ _)
  · rename_i negative _
    cases negative with
    | true => exact .inr ⟨"inf", rfl, hinfinite⟩
    | false => exact .inl hinfinite
  · have hword : IsWord ['n', 'a', 'n'] := ⟨rfl, List.all_eq_true.1 rfl, by decide⟩
    exact .inl (isLeafText_word hword rfl)

end Grammar
end Wrangle
