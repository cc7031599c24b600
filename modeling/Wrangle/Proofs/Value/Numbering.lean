import Wrangle.Proofs.Function.BareColumns
import Wrangle.Proofs.Value.Bare
import Wrangle.Proofs.Value.Origins

/-!
# Numbers of values

A single value is numbered before it is repeated, so that what is fresh in it stays one.
A firm value is changed by that in nothing but its own origin: it is an atom, or whatever
it holds has a number already.  Operators give firm values for firm values.
-/

namespace Wrangle

open Number

namespace Value

/-!
# Numbered values
-/

theorem areSettled_iff {items : List Value} :
    areSettled items = true <-> Kept (fun member => member.isSettled = true) items := by
  induction items with
  | nil => simp [areSettled]
  | cons value rest ih => simp [areSettled, ih]

theorem withNumber_ne_fresh (origin : Origin) (n : Nat) : (origin.withNumber n != .fresh) = true := by
  cases origin <;> rfl

mutual

theorem isSettled_numbered (n : Nat) : forall value : Value, (value.numbered n).isSettled = true
  | float x origin => by
      rw [numbered, isSettled]
      cases Binary.isUndefined x with
      | false => rfl
      | true => exact withNumber_ne_fresh origin n
  | decimal d origin => by
      rw [numbered, isSettled]
      cases d.isUndefined with
      | false => rfl
      | true => exact withNumber_ne_fresh origin n
  | complex re im origin => by
      rw [numbered, isSettled]
      cases Binary.isUndefined re || Binary.isUndefined im with
      | false => rfl
      | true => exact withNumber_ne_fresh origin n
  | iterator kind items stop origin => withNumber_ne_fresh origin n
  | other kind origin => withNumber_ne_fresh origin n
  | list items => by
      rw [numbered, isSettled]
      exact areSettled_allNumbered n items
  | tuple items => by
      rw [numbered, isSettled]
      exact areSettled_allNumbered n items
  | set items => by
      rw [numbered, isSettled]
      exact areSettled_allNumbered n items
  | dict entries => by
      rw [numbered, isSettled]
      exact entriesAreSettled_entriesNumbered n entries
  | missing | bool _ | int _ | str _ | date _ | datetime _ | time _ | duration _ | column _
  | range _ _ _ | function _ | sym _ | quoted _ => rfl

theorem areSettled_allNumbered (n : Nat) : forall items : List Value,
    areSettled (allNumbered n items) = true
  | [] => rfl
  | value :: rest => by
      rw [allNumbered, areSettled, isSettled_numbered, areSettled_allNumbered]
      rfl

theorem entriesAreSettled_entriesNumbered (n : Nat) : forall entries : List (Value × Value),
    entriesAreSettled (entriesNumbered n entries) = true
  | [] => rfl
  | (key, value) :: rest => by
      rw [entriesNumbered, entriesAreSettled, isSettled_numbered, isSettled_numbered,
        entriesAreSettled_entriesNumbered]
      rfl

end

theorem isSettled_settled (name : String) (sources : List Value) (value : Value) :
    (value.settled name sources).isSettled = true := by
  unfold settled
  split
  · assumption
  · exact isSettled_numbered _ value

theorem isUndefined_numbered (n : Nat) (value : Value) :
    (value.numbered n).isUndefined = value.isUndefined := by
  cases value <;> rfl

theorem kept_allNumbered {items : List Value} (n : Nat)
    (h : Kept (fun member => member.isUndefined = false) items) :
    Kept (fun member => member.isUndefined = false) (allNumbered n items) := by
  induction items generalizing n with
  | nil => exact Kept.nil
  | cons value rest ih =>
      rcases Kept.cons_iff.1 h with ⟨hvalue, hrest⟩
      rw [allNumbered]
      exact Kept.cons_iff.2 ⟨(isUndefined_numbered _ value).trans hvalue, ih _ hrest⟩

theorem membersDefined_settled {value : Value} (h : value.MembersDefined) (name : String)
    (sources : List Value) : (value.settled name sources).MembersDefined := by
  unfold settled
  split
  · exact h
  · intro items hitems
    cases value with
    | list found =>
        cases hitems
        exact kept_allNumbered _ (h found rfl)
    | tuple found =>
        cases hitems
        exact kept_allNumbered _ (h found rfl)
    | set found =>
        cases hitems
        exact kept_allNumbered _ (h found rfl)
    | column found => exact h items hitems
    | _ => cases hitems

/-!
# Firm values
-/

/-- A single value.  Where membership is asked for, its members are equal to themselves. -/
structure IsClear (asking : Prop) (value : Value) : Prop where
  bare : value.isBare = true
  members : asking -> value.MembersDefined

/-- A clear value that is an atom or holds nothing without a number. -/
structure IsFirm (asking : Prop) (value : Value) : Prop extends IsClear asking value where
  settled : value.isAtom = true ∨ value.isSettled = true

structure IsFirmMember (asking : Prop) (member : Value) : Prop where
  bare : member.isBare = true
  settled : member.isSettled = true
  defined : asking -> member.isUndefined = false

section Firm

variable {asking : Prop} {value a b : Value}

theorem isFirm_of_isAtom (h : value.isAtom = true) : value.IsFirm asking where
  bare := isBare_of_isAtom h
  members _ items hitems := by cases (members?_of_isAtom h).symm.trans hitems
  settled := Or.inl h

theorem isFirm_missing : missing.IsFirm asking where
  bare := rfl
  members _ items hitems := by cases hitems
  settled := Or.inr rfl

theorem isFirm_of_kept (hbare : value.isBare = true) {items : List Value}
    (hitems : value.members? = some items)
    (hsettled : areSettled items = true -> value.isAtom = true ∨ value.isSettled = true)
    (h : Kept (IsFirmMember asking) items) : value.IsFirm asking where
  bare := hbare
  members hasking found hfound := by
    cases hitems.symm.trans hfound
    exact fun member hmember => (h member hmember).defined hasking
  settled := hsettled (areSettled_iff.2 fun member hmember => (h member hmember).settled)

theorem isFirm_of_made (h : value.Made (IsFirmMember asking)) : value.IsFirm asking := by
  have hbare : value.isBare = true := by
    apply isBare_of_made
    exact h.mono fun member hmember => hmember.bare
  cases h with
  | atom h => exact isFirm_of_isAtom h
  | list h => exact isFirm_of_kept hbare rfl (fun hsettled => Or.inr hsettled) h
  | tuple h => exact isFirm_of_kept hbare rfl (fun hsettled => Or.inr hsettled) h
  | set h => exact isFirm_of_kept hbare rfl (fun hsettled => Or.inr hsettled) h

theorem IsFirm.firmMembers (h : value.IsFirm asking) : value.MembersAre (IsFirmMember asking) := by
  intro items hitems member hmember
  have hsettled : member.isSettled = true := by
    rcases h.settled with hatom | hsettled
    · cases (members?_of_isAtom hatom).symm.trans hitems
    · cases value with
      | list found =>
          cases hitems
          exact areSettled_iff.1 hsettled member hmember
      | tuple found =>
          cases hitems
          exact areSettled_iff.1 hsettled member hmember
      | set found =>
          cases hitems
          exact areSettled_iff.1 hsettled member hmember
      | column found => cases h.bare
      | _ => cases hitems
  exact ⟨membersAre_of_isBare h.bare items hitems member hmember, hsettled,
    fun hasking => h.members hasking items hitems member hmember⟩

theorem IsFirm.withoutOrigin_settled (h : value.IsFirm asking) (name : String)
    (sources : List Value) :
    (value.settled name sources).withoutOrigin = value.withoutOrigin := by
  unfold Value.settled
  split
  · rfl
  · rename_i hnot
    rcases h.settled with hatom | hsettled
    · cases value <;> first | rfl | cases hatom
    · exact absurd hsettled hnot

theorem IsClear.settle (h : value.IsClear asking) (name : String) (sources : List Value) :
    (value.settled name sources).IsFirm asking where
  bare := settled_bare h.bare name sources
  members hasking := membersDefined_settled (h.members hasking) name sources
  settled := Or.inr (isSettled_settled name sources value)

theorem isClear_of_made
    (h : value.Made fun member => member.isBare = true ∧ (asking -> member.isUndefined = false)) :
    value.IsClear asking where
  bare := isBare_of_made (h.mono fun _ hmember => hmember.1)
  members hasking := (h.mono fun _ hmember => hmember.2 hasking).membersAre

theorem IsClear.membersAre (h : value.IsClear asking) : value.MembersAre fun member =>
    member.isBare = true ∧ (asking -> member.isUndefined = false) :=
  fun items hitems member hmember => ⟨membersAre_of_isBare h.bare items hitems member hmember,
    fun hasking => h.members hasking items hitems member hmember⟩

theorem closed_isClear : Closed (IsClear asking) where
  missing := isFirm_missing.toIsClear
  atom h := (isFirm_of_isAtom h).toIsClear
  add ha hb := (add_made ha.membersAre hb.membersAre).weaken fun _ => isClear_of_made

theorem closed_isFirm : Closed (IsFirm asking) where
  missing := isFirm_missing
  atom := isFirm_of_isAtom
  add ha hb := (add_made ha.firmMembers hb.firmMembers).weaken fun _ => isFirm_of_made

end Firm

end Value

/-!
# Operators
-/

open Value

section Operators

variable {asking : Prop} {a b : Value}

namespace BinaryOperator

theorem applyCoerced_made {op : BinaryOperator} (hop : op.handlesMissing = false)
    (ha : a.IsFirm asking) (hb : b.IsFirm asking) :
    GivesMade (IsFirmMember asking) (op.applyCoerced a b) := by
  cases op with
  | add => exact add_made ha.firmMembers hb.firmMembers
  | subtract => exact subtract_made ha.firmMembers
  | multiply => exact multiply_made ha.firmMembers hb.firmMembers
  | divide => exact (quotient_atom a b).made
  | modulo => exact (modulo_atom a b).made
  | power => exact (power_atom a b).made
  | conjunction => cases hop
  | disjunction => cases hop
  | equal | notEqual | membership | less | lessEqual | greater | greaterEqual =>
      exact (givesAtom_map fun _ => rfl).made

theorem apply_made {op : BinaryOperator} (hop : op.handlesMissing = false)
    (ha : a.IsFirm asking) (hb : b.IsFirm asking) :
    GivesMade (IsFirmMember asking) (op.apply a b) := by
  unfold apply
  split
  · exact applyCoerced_made hop ha hb
  · have hpair := closed_isFirm.coercePair ha hb
    split
    · rename_i x y hxy
      rw [hxy] at hpair
      exact applyCoerced_made hop hpair.1 hpair.2
    · trivial

theorem apply_firm (op : BinaryOperator) (ha : a.IsFirm asking) (hb : b.IsFirm asking) :
    Ends (fun _ => True) (IsFirm asking) (op.apply a b) := by
  cases hop : op.handlesMissing with
  | false => exact (apply_made hop ha hb).weaken fun _ => isFirm_of_made
  | true =>
      cases op with
      | conjunction =>
          show IsFirm asking (a.conjunction b)
          unfold Value.conjunction
          split
          · exact isFirm_of_isAtom rfl
          · split
            · exact isFirm_missing
            · exact isFirm_of_isAtom rfl
      | disjunction =>
          show IsFirm asking (a.disjunction b)
          unfold Value.disjunction
          split
          · exact isFirm_of_isAtom rfl
          · split
            · exact isFirm_missing
            · exact isFirm_of_isAtom rfl
      | _ => cases hop

end BinaryOperator

theorem UnaryOperator.apply_atom (op : UnaryOperator) (a : Value) : GivesAtom (op.apply a) := by
  cases op with
  | negate => exact givesAtom_bind fun x => negate_atom x
  | invert => rfl

end Operators

/-!
# Copies of a value

A copy of a value is the value itself or the value with numbers; two values are the same up to
numbers when they are copies of one.
-/

namespace Value

/-!
# Numbers for settled values
-/

theorem withNumber_of_ne_fresh {origin : Origin} (h : (origin != .fresh) = true) (n : Nat) :
    origin.withNumber n = origin := by
  cases origin with
  | fresh => cases h
  | constant | numbered m => rfl

theorem origin_of_isSettled {undefined : Bool} {origin : Origin}
    (h : (!undefined || origin != .fresh) = true) (n : Nat) :
    (if undefined then origin.withNumber n else origin) = origin := by
  cases undefined with
  | false => rfl
  | true => exact withNumber_of_ne_fresh h n

mutual

theorem numbered_of_isSettled (n : Nat) : forall value : Value, value.isSettled = true ->
    value.numbered n = value
  | float x origin, h => by
      rw [isSettled] at h
      rw [numbered, origin_of_isSettled h]
  | decimal d origin, h => by
      rw [isSettled] at h
      rw [numbered, origin_of_isSettled h]
  | complex re im origin, h => by
      rw [isSettled] at h
      rw [numbered, origin_of_isSettled h]
  | iterator kind items stop origin, h => by
      rw [isSettled] at h
      rw [numbered, withNumber_of_ne_fresh h]
  | other kind origin, h => by
      rw [isSettled] at h
      rw [numbered, withNumber_of_ne_fresh h]
  | list items, h => by
      rw [isSettled] at h
      rw [numbered, allNumbered_of_areSettled n items h]
  | tuple items, h => by
      rw [isSettled] at h
      rw [numbered, allNumbered_of_areSettled n items h]
  | set items, h => by
      rw [isSettled] at h
      rw [numbered, allNumbered_of_areSettled n items h]
  | dict entries, h => by
      rw [isSettled] at h
      rw [numbered, entriesNumbered_of_entriesAreSettled n entries h]
  | missing, _ | bool _, _ | int _, _ | str _, _ | date _, _ | datetime _, _ | time _, _
  | duration _, _ | column _, _ | range _ _ _, _ | function _, _ | sym _, _ | quoted _, _ => rfl

theorem allNumbered_of_areSettled (n : Nat) : forall items : List Value,
    areSettled items = true -> allNumbered n items = items
  | [], _ => rfl
  | value :: rest, h => by
      rw [areSettled, Bool.and_eq_true] at h
      rw [allNumbered, numbered_of_isSettled _ value h.1, allNumbered_of_areSettled _ rest h.2]

theorem entriesNumbered_of_entriesAreSettled (n : Nat) : forall entries : List (Value × Value),
    entriesAreSettled entries = true -> entriesNumbered n entries = entries
  | [], _ => rfl
  | (key, value) :: rest, h => by
      rw [entriesAreSettled, Bool.and_eq_true, Bool.and_eq_true] at h
      rw [entriesNumbered, numbered_of_isSettled _ key h.1.1, numbered_of_isSettled _ value h.1.2,
        entriesNumbered_of_entriesAreSettled _ rest h.2]

end

/-!
# Copies
-/

/-- A value itself, or with what is fresh in it numbered. -/
inductive Copy (base : Value) : Value -> Prop where
  | itself : Copy base base
  | numbered (n : Nat) : Copy base (base.numbered n)

namespace Copy

variable {base value : Value}

theorem eq_of_isSettled (h : Copy base value) (hsettled : base.isSettled = true) :
    value = base := by
  cases h with
  | itself => rfl
  | numbered n => exact numbered_of_isSettled n base hsettled

theorem settled (h : Copy base value) (name : String) (sources : List Value) :
    Copy base (value.settled name sources) := by
  unfold Value.settled
  split
  · exact h
  · rename_i hnot
    cases h with
    | itself => exact numbered _
    | numbered n => exact absurd (isSettled_numbered n base) hnot

end Copy

theorem copies_allNumbered (n : Nat) (items : List Value) :
    List.Forall₂ Copy items (allNumbered n items) := by
  induction items generalizing n with
  | nil => exact List.Forall₂.nil
  | cons value rest ih => exact List.Forall₂.cons (.numbered _) (ih _)

def Twins (a b : Value) : Prop :=
  exists base, Copy base a ∧ Copy base b

theorem Twins.refl (value : Value) : Twins value value :=
  ⟨value, Copy.itself, Copy.itself⟩

/-!
# Texts of copies
-/

section Texts

variable {functions : Function -> String}

mutual

theorem fullText_numbered (n : Nat) : forall value : Value,
    fullText functions (value.numbered n) = fullText functions value
  | list items => by rw [numbered, fullText, fullText, fullTexts_allNumbered]
  | tuple items => by rw [numbered, fullText, fullText, fullTexts_allNumbered]
  | set items => by
      rw [numbered, fullText, fullText, fullTexts_allNumbered]
      cases items <;> rfl
  | dict entries => by rw [numbered, fullText, fullText, entryTexts_entriesNumbered]
  | missing | bool _ | int _ | float _ _ | complex _ _ _ | str _ | decimal _ _ | date _
  | datetime _ | time _ | duration _ | column _ | range _ _ _ | function _ | sym _ | quoted _
  | iterator _ _ _ _ | other _ _ => rfl

theorem fullTexts_allNumbered (n : Nat) : forall items : List Value,
    fullTexts functions (allNumbered n items) = fullTexts functions items
  | [] => rfl
  | value :: rest => by
      rw [allNumbered, fullTexts, fullTexts, fullText_numbered, fullTexts_allNumbered]

theorem entryTexts_entriesNumbered (n : Nat) : forall entries : List (Value × Value),
    entryTexts functions (entriesNumbered n entries) = entryTexts functions entries
  | [] => rfl
  | (key, value) :: rest => by
      rw [entriesNumbered, entryTexts, entryTexts, fullText_numbered, fullText_numbered,
        entryTexts_entriesNumbered]

end

end Texts

theorem printed_copy {base value : Value} (h : Copy base value) : value.printed = base.printed := by
  cases h with
  | itself => rfl
  | numbered n => exact fullText_numbered n base

theorem copies_mergeSort {items others : List Value} (h : List.Forall₂ Copy items others) :
    List.Forall₂ Copy (items.mergeSort fun a b => decide (a.printed <= b.printed))
      (others.mergeSort fun a b => decide (a.printed <= b.printed)) := by
  -- Both lists are columns of one list of pairs, and sorting the pairs sorts both.
  have hcopies : forall pair, pair ∈ items.zip others -> Copy pair.1 pair.2 :=
    fun pair hpair => List.forall₂_zip h hpair
  have hfirsts : (items.zip others).map Prod.fst = items :=
    List.map_fst_zip (Nat.le_of_eq h.length_eq)
  have hseconds : (items.zip others).map Prod.snd = others :=
    List.map_snd_zip (Nat.le_of_eq h.length_eq.symm)
  generalize items.zip others = pairs at hcopies hfirsts hseconds
  subst hfirsts hseconds
  let less (p q : Value × Value) : Bool := decide (p.1.printed <= q.1.printed)
  have hfirst : (pairs.mergeSort less).map Prod.fst =
      (pairs.map Prod.fst).mergeSort fun a b => decide (a.printed <= b.printed) :=
    List.map_mergeSort fun _ _ _ _ => rfl
  have hsecond : (pairs.mergeSort less).map Prod.snd =
      (pairs.map Prod.snd).mergeSort fun a b => decide (a.printed <= b.printed) := by
    apply List.map_mergeSort
    intro p hp q hq
    rw [printed_copy (hcopies p hp), printed_copy (hcopies q hq)]
  rw [← hfirst, ← hsecond, List.forall₂_map_left_iff, List.forall₂_map_right_iff,
    List.forall₂_same]
  intro pair hpair
  exact hcopies pair (List.mem_mergeSort.1 hpair)

end Value
end Wrangle
