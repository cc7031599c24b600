import Wrangle.Proofs.Value.Comparing

/-!
# Faults of sorting

Sorting fails only when the comparison of two of its items does, and it neither
adds nor changes items.
-/

namespace Wrangle

variable {alpha : Type} {keep : alpha -> Prop} {bad : Fault -> Prop}

def Kept (keep : alpha -> Prop) (items : List alpha) : Prop :=
  forall x, x ∈ items -> keep x

namespace Kept

@[simp] theorem nil : Kept keep [] := by
  intro x hx
  cases hx

@[simp] theorem cons_iff {x : alpha} {rest : List alpha} :
    Kept keep (x :: rest) <-> keep x ∧ Kept keep rest := by
  simp [Kept]

@[simp] theorem append_iff {items more : List alpha} :
    Kept keep (items ++ more) <-> Kept keep items ∧ Kept keep more := by
  constructor
  · intro h
    exact ⟨fun x hx => h x (List.mem_append_left _ hx), fun x hx => h x (List.mem_append_right _ hx)⟩
  · rintro ⟨h, hmore⟩ x hx
    rcases List.mem_append.1 hx with hx | hx
    · exact h x hx
    · exact hmore x hx

@[simp] theorem reverse_iff {items : List alpha} : Kept keep items.reverse <-> Kept keep items := by
  simp [Kept]

theorem take {items : List alpha} (h : Kept keep items) (n : Nat) : Kept keep (items.take n) :=
  fun x hx => h x (List.mem_of_mem_take hx)

theorem drop {items : List alpha} (h : Kept keep items) (n : Nat) : Kept keep (items.drop n) :=
  fun x hx => h x (List.mem_of_mem_drop hx)

theorem getElem? {items : List alpha} (h : Kept keep items) {i : Nat} {x : alpha}
    (hx : items.toArray[i]? = some x) : keep x := by
  apply h
  simp only [List.getElem?_toArray] at hx
  exact List.mem_of_getElem? hx

end Kept

/-- Comparisons of items of a kind fail in expected ways only. -/
def Compares (bad : Fault -> Prop) (keep : alpha -> Prop)
    (less : alpha -> alpha -> Except Fault Bool) : Prop :=
  forall a b, keep a -> keep b -> Ends bad (fun _ => True) (less a b)

variable {less : alpha -> alpha -> Except Fault Bool}

/-!
# Sorting by insertion
-/

theorem insertSorted_ends (hless : Compares bad keep less) {x : alpha} (hx : keep x)
    {items : List alpha} (h : Kept keep items) :
    Ends bad (Kept keep) (insertSorted less x items) := by
  induction items with
  | nil =>
      rw [insertSorted]
      exact Kept.cons_iff.2 ⟨hx, Kept.nil⟩
  | cons y rest ih =>
      rcases Kept.cons_iff.1 h with ⟨hy, hrest⟩
      have hyx := hless y x hy hx
      rw [insertSorted]
      split
      · rename_i f hf
        rw [hf] at hyx
        exact hyx
      · apply Ends.map (ih hrest)
        intro sorted hsorted
        exact Kept.cons_iff.2 ⟨hy, hsorted⟩
      · exact Kept.cons_iff.2 ⟨hx, h⟩

theorem sortWith_ends (hless : Compares bad keep less) {items : List alpha}
    (h : Kept keep items) : Ends bad (Kept keep) (sortWith less items) := by
  induction items with
  | nil => exact Kept.nil
  | cons x rest ih =>
      rcases Kept.cons_iff.1 h with ⟨hx, hrest⟩
      have hsorted := ih hrest
      rw [sortWith]
      split
      · rename_i f hf
        rw [hf] at hsorted
        exact hsorted
      · rename_i sorted hf
        rw [hf] at hsorted
        exact insertSorted_ends hless hx hsorted

theorem insertSorted_perm {x : alpha} {items sorted : List alpha}
    (h : insertSorted less x items = .ok sorted) : sorted.Perm (x :: items) := by
  induction items generalizing sorted with
  | nil =>
      cases h
      exact List.Perm.refl _
  | cons y rest ih =>
      rw [insertSorted] at h
      split at h
      · cases h
      · rcases map_eq_ok_iff.1 h with ⟨inserted, hinserted, rfl⟩
        exact ((ih hinserted).cons y).trans (List.Perm.swap x y rest)
      · cases h
        exact List.Perm.refl _

theorem sortWith_perm {items sorted : List alpha} (h : sortWith less items = .ok sorted) :
    sorted.Perm items := by
  induction items generalizing sorted with
  | nil =>
      cases h
      exact List.Perm.refl _
  | cons x rest ih =>
      rw [sortWith] at h
      split at h
      · cases h
      · rename_i tail htail
        exact (insertSorted_perm h).trans ((ih htail).cons x)

/-!
# Runs
-/

namespace Runs

theorem extend_ends (hless : Compares bad keep less) (descending : Bool) {items run : List alpha}
    {last : alpha} (hlast : keep last) (hrun : Kept keep run) (h : Kept keep items) :
    Ends bad (fun out => Kept keep out.1 ∧ Kept keep out.2)
      (extend less descending last run items) := by
  induction items generalizing last run with
  | nil => exact ⟨hrun, Kept.nil⟩
  | cons x rest ih =>
      rcases Kept.cons_iff.1 h with ⟨hx, hrest⟩
      rw [extend]
      apply Ends.bind (hless x last hx hlast)
      intro answer _
      split
      · exact ih hx (Kept.cons_iff.2 ⟨hx, hrun⟩) hrest
      · exact ⟨hrun, h⟩

theorem take_ends (hless : Compares bad keep less) {items : List alpha} (h : Kept keep items) :
    Ends bad (fun out => Kept keep out.1 ∧ Kept keep out.2) (take less items) := by
  unfold take
  split
  · rename_i x y rest
    simp only [Kept.cons_iff] at h
    rcases h with ⟨hx, hy, hrest⟩
    apply Ends.bind (hless y x hy hx)
    intro descending _
    apply Ends.bind (extend_ends hless descending hy (by simp [hx, hy]) hrest)
    intro out hout
    refine ⟨?_, hout.2⟩
    dsimp only
    split
    · exact hout.1
    · exact Kept.reverse_iff.2 hout.1
  · exact ⟨h, Kept.nil⟩

theorem placeBetween_ends (hless : Compares bad keep less) {x : alpha} (hx : keep x)
    {items : List alpha} (h : Kept keep items) (rounds : Nat) :
    forall low high : Nat,
      Ends bad (fun _ => True) (placeBetween less x items.toArray rounds low high) := by
  induction rounds with
  | zero =>
      intro low high
      trivial
  | succ rounds ih =>
      intro low high
      rw [placeBetween]
      split
      · dsimp only
        split
        · trivial
        · rename_i y hy
          apply Ends.bind (hless x y hx (h.getElem? hy))
          intro answer _
          split
          · exact ih _ _
          · exact ih _ _
      · trivial

theorem insertAll_ends (hless : Compares bad keep less) {items sorted : List alpha}
    (hsorted : Kept keep sorted) (h : Kept keep items) :
    Ends bad (Kept keep) (insertAll less sorted items) := by
  induction items generalizing sorted with
  | nil => exact hsorted
  | cons x rest ih =>
      rcases Kept.cons_iff.1 h with ⟨hx, hrest⟩
      rw [insertAll]
      apply Ends.bind (placeBetween_ends hless hx hsorted _ _ _)
      intro place _
      apply ih ?_ hrest
      simp [hx, hsorted.take place, hsorted.drop place]

/-!
# Looking ahead
-/

section Ahead

variable {test : Nat -> Except Fault Bool}

theorem stride_ends (htest : forall k, Ends bad (fun _ => True) (test k)) (limit rounds : Nat) :
    forall last step : Nat, Ends bad (fun _ => True) (stride test limit rounds last step) := by
  induction rounds with
  | zero =>
      intro last step
      trivial
  | succ rounds ih =>
      intro last step
      rw [stride]
      split
      · apply Ends.bind (htest step)
        intro answer _
        split
        · exact ih _ _
        · trivial
      · trivial

theorem firstFailure_ends (htest : forall k, Ends bad (fun _ => True) (test k)) (rounds : Nat) :
    forall low high : Nat, Ends bad (fun _ => True) (firstFailure test rounds low high) := by
  induction rounds with
  | zero =>
      intro low high
      trivial
  | succ rounds ih =>
      intro low high
      rw [firstFailure]
      split
      · apply Ends.bind (htest _)
        intro answer _
        split
        · exact ih _ _
        · exact ih _ _
      · trivial

theorem gallop_ends (htest : forall k, Ends bad (fun _ => True) (test k)) (size hint : Nat) :
    Ends bad (fun _ => True) (gallop test size hint) := by
  unfold gallop
  apply Ends.bind (htest hint)
  intro answer _
  split
  · apply Ends.bind (stride_ends (fun k => htest (hint + k)) _ _ _ _)
    intro places _
    exact firstFailure_ends htest _ _ _
  · apply Ends.bind
      (stride_ends (fun k => Ends.map (htest (hint - k)) fun _ _ => trivial) _ _ _ _)
    intro places _
    exact firstFailure_ends htest _ _ _

end Ahead

theorem countBefore_ends (hless : Compares bad keep less) {x : alpha} (hx : keep x)
    {items : List alpha} (h : Kept keep items) (hint : Nat) :
    Ends bad (fun _ => True) (countBefore less x items hint) := by
  unfold countBefore
  apply gallop_ends
  intro k
  split
  · rename_i y hy
    exact hless y x (h.getElem? hy) hx
  · trivial

theorem countUpTo_ends (hless : Compares bad keep less) {x : alpha} (hx : keep x)
    {items : List alpha} (h : Kept keep items) (hint : Nat) :
    Ends bad (fun _ => True) (countUpTo less x items hint) := by
  unfold countUpTo
  apply gallop_ends
  intro k
  split
  · rename_i y hy
    exact Ends.map (hless x y hx (h.getElem? hy)) fun _ _ => trivial
  · trivial

/-!
# Merging
-/

theorem mergeFront_ends (hless : Compares bad keep less) (rounds : Nat) (mode : Mode) (pace : Nat)
    {merged left right : List alpha} (hmerged : Kept keep merged) (hleft : Kept keep left)
    (hright : Kept keep right) :
    Ends bad (fun out => Kept keep out.1) (mergeFront less rounds mode pace merged left right) := by
  fun_induction mergeFront less rounds mode pace merged left right with
  | case1 rounds pace merged x y left z right wins losses ihRight ihLeft =>
      have ⟨hx, hy, hrest⟩ : keep x ∧ keep y ∧ Kept keep left := by simpa using hleft
      have ⟨hz, hothers⟩ : keep z ∧ Kept keep right := by simpa using hright
      apply Ends.bind (hless z x hz hx)
      intro answer _
      split
      · exact ihRight (by simp [hz, hmerged]) hleft hothers
      · exact ihLeft (by simp [hx, hmerged]) (by simp [hy, hrest]) hright
  | case2 rounds pace merged x y left z right ihAhead ihSingle =>
      have ⟨hz, hothers⟩ : keep z ∧ Kept keep right := by simpa using hright
      apply Ends.bind (countUpTo_ends hless hz hleft 0)
      intro count _
      have htaken := hleft.take count
      have hdropped := hleft.drop count
      dsimp only
      split
      · simp [Ends, hmerged, htaken, hz, hothers]
      · rename_i last hlast
        rw [hlast] at hdropped
        have hl : keep last := by simpa using hdropped
        simp [Ends, hmerged, htaken, hz, hothers, hl]
      · rename_i first left _ hfirst
        rw [hfirst] at hdropped
        have ⟨hf, hkept⟩ : keep first ∧ Kept keep left := by simpa using hdropped
        split
        · simp [Ends, hmerged, htaken, hz, hf, hkept]
        · apply Ends.bind (countBefore_ends hless hf hothers 0)
          intro others _
          have htaken' := hothers.take others
          have hdropped' := hothers.drop others
          split
          · simp [Ends, hmerged, htaken, hz, hf, hkept, htaken']
          · split
            · simp [Ends, hmerged, htaken, hz, hf, hkept, htaken', hdropped']
            · split
              · exact ihAhead count first left others _
                  (by simp [hmerged, htaken, hz, hf, htaken']) hkept hdropped'
              · exact ihSingle count first left others _
                  (by simp [hmerged, htaken, hz, hf, htaken']) hkept hdropped'
  | case3 rounds mode pace merged last right =>
      simp_all [Ends]
  | case4 rounds mode pace merged left right =>
      simp_all [Ends]

theorem mergeBack_ends (hless : Compares bad keep less) (rounds : Nat) (mode : Mode) (pace : Nat)
    {merged left right : List alpha} (hmerged : Kept keep merged) (hleft : Kept keep left)
    (hright : Kept keep right) :
    Ends bad (fun out => Kept keep out.1) (mergeBack less rounds mode pace merged left right) := by
  fun_induction mergeBack less rounds mode pace merged left right with
  | case1 rounds pace merged x left y z right wins losses ihLeft ihRight =>
      have ⟨hx, hrest⟩ : keep x ∧ Kept keep left := by simpa using hleft
      have ⟨hy, hz, hothers⟩ : keep y ∧ keep z ∧ Kept keep right := by simpa using hright
      apply Ends.bind (hless y x hy hx)
      intro answer _
      split
      · exact ihLeft (by simp [hx, hmerged]) hrest hright
      · exact ihRight (by simp [hy, hmerged]) hleft (by simp [hz, hothers])
  | case2 rounds pace merged x left y z right size ihAhead ihSingle =>
      have ⟨hy, hz, hothers⟩ : keep y ∧ keep z ∧ Kept keep right := by simpa using hright
      have hback : Kept keep (z :: right) := by simp [hz, hothers]
      apply Ends.bind (countUpTo_ends hless hy (Kept.reverse_iff.2 hleft) _)
      intro place _
      have htaken := hleft.take (size - place)
      have hdropped := hleft.drop (size - place)
      dsimp only
      split
      · simp [Ends, hmerged, htaken, hy, hz, hothers]
      · rename_i last left' hlast
        rw [hlast] at hdropped
        have ⟨hl, hkept⟩ : keep last ∧ Kept keep left' := by simpa using hdropped
        split
        · simp [Ends, hmerged, htaken, hy, hz, hl, hkept]
        · apply Ends.bind (countBefore_ends hless hl (Kept.reverse_iff.2 hback) _)
          intro place' _
          have htaken' := hback.take (right.length + 1 - place')
          have hdropped' := hback.drop (right.length + 1 - place')
          split
          · simp [Ends, hmerged, htaken, hy, hl, hkept, htaken']
          · rename_i first hfirst
            rw [hfirst] at hdropped'
            have hf : keep first := by simpa using hdropped'
            simp [Ends, hmerged, htaken, hy, hl, hkept, htaken', hf]
          · split
            · simp [Ends, hmerged, htaken, hy, hl, htaken', hdropped']
            · split
              · exact ihAhead place last left' place' _
                  (by simp [hmerged, htaken, hy, hl, htaken']) hkept hdropped'
              · exact ihSingle place last left' place' _
                  (by simp [hmerged, htaken, hy, hl, htaken']) hkept hdropped'
  | case3 rounds mode pace merged left first =>
      simp_all [Ends]
  | case4 rounds mode pace merged left right =>
      simp_all [Ends]

theorem merge_ends (hless : Compares bad keep less) (pace : Nat) {left right : List alpha}
    (hleft : Kept keep left) (hright : Kept keep right) :
    Ends bad (fun out => Kept keep out.1) (merge less pace left right) := by
  unfold merge
  split
  · exact hleft
  · rename_i y others
    have ⟨hy, _⟩ : keep y ∧ Kept keep others := by simpa using hright
    apply Ends.bind (countUpTo_ends hless hy hleft 0)
    intro start _
    have htaken := hleft.take start
    have hdropped := hleft.drop start
    dsimp only
    split
    · simp only [Ends, Kept.append_iff]
      exact ⟨htaken, hright⟩
    · rename_i x hx
      have hkx : keep x := hdropped x (List.mem_of_getLast? hx)
      apply Ends.bind (countBefore_ends hless hkx hright _)
      intro stop _
      have htaken' := hright.take stop
      have hdropped' := hright.drop stop
      have hback := Kept.reverse_iff.2 hdropped
      have hfinish : forall out : List alpha × Nat, Kept keep out.1 ->
          Ends bad (fun out => Kept keep out.1)
            (.ok (left.take start ++ out.1 ++ (y :: others).drop stop, out.2) :
              Except Fault (List alpha × Nat)) := by
        intro out hout
        simp only [Ends, Kept.append_iff]
        exact ⟨⟨htaken, hout⟩, hdropped'⟩
      split
      · rename_i y right x before heq hrev
        rw [heq] at htaken'
        rw [hrev] at hback
        have ⟨hy, hright'⟩ : keep y ∧ Kept keep right := by simpa using htaken'
        have ⟨hx, hbefore⟩ : keep x ∧ Kept keep before := by simpa using hback
        split
        · exact Ends.bind (mergeFront_ends hless _ _ _ (by simp [hy]) hdropped hright') hfinish
        · exact Ends.bind
            (mergeBack_ends hless _ _ _ (by simp [hx]) hbefore (by simp [hy, hright'])) hfinish
      · exact hfinish _ hdropped

/-!
# Sorting by runs
-/

def KeptRuns (keep : alpha -> Prop) (runs : List (Run alpha)) : Prop :=
  Kept (fun run => Kept keep run.items) runs

theorem collapse_ends (hless : Compares bad keep less) (power rounds pace : Nat)
    {runs : List (Run alpha)} (h : KeptRuns keep runs) :
    Ends bad (fun out => KeptRuns keep out.1) (collapse less power rounds pace runs) := by
  fun_induction collapse less power rounds pace runs with
  | case1 rounds pace top below rest hpower ih =>
      have ⟨htop, hbelow, hrest⟩ :
          Kept keep top.items ∧ Kept keep below.items ∧ KeptRuns keep rest := by
        simpa [KeptRuns] using h
      apply Ends.bind (merge_ends hless pace hbelow htop)
      intro out hout
      exact ih out.1 out.2 (Kept.cons_iff.2 ⟨hout, hrest⟩)
  | case2 rounds pace top below rest hpower => exact h
  | case3 rounds pace runs => exact h

theorem mergeAll_ends (hless : Compares bad keep less) (rounds pace : Nat)
    {runs : List (Run alpha)} (h : KeptRuns keep runs) :
    Ends bad (Kept keep) (mergeAll less rounds pace runs) := by
  fun_induction mergeAll less rounds pace runs with
  | case1 rounds pace top middle below rest hlength ih =>
      have ⟨htop, hmiddle, hbelow, hrest⟩ : Kept keep top.items ∧ Kept keep middle.items ∧
          Kept keep below.items ∧ KeptRuns keep rest := by
        simpa [KeptRuns] using h
      apply Ends.bind (merge_ends hless pace hbelow hmiddle)
      intro out hout
      exact ih out.1 out.2 (Kept.cons_iff.2 ⟨htop, Kept.cons_iff.2 ⟨hout, hrest⟩⟩)
  | case2 rounds pace top middle below rest hlength ih =>
      have ⟨htop, hmiddle, hrest⟩ : Kept keep top.items ∧ Kept keep middle.items ∧
          KeptRuns keep (below :: rest) := by
        simpa [KeptRuns] using h
      apply Ends.bind (merge_ends hless pace hmiddle htop)
      intro out hout
      exact ih out.1 out.2 (Kept.cons_iff.2 ⟨hout, hrest⟩)
  | case3 rounds pace top below =>
      have ⟨htop, hbelow⟩ : Kept keep top.items ∧ Kept keep below.items := by
        simpa [KeptRuns] using h
      exact Ends.map (merge_ends hless pace hbelow htop) fun _ hout => hout
  | case4 rounds pace runs =>
      intro x hx
      rcases List.mem_flatMap.1 hx with ⟨run, hrun, hx⟩
      exact h run (List.mem_reverse.1 hrun) x hx

theorem gather_ends (hless : Compares bad keep less) (size least rounds start pace : Nat)
    {runs : List (Run alpha)} {items : List alpha} (hruns : KeptRuns keep runs)
    (h : Kept keep items) :
    Ends bad (Kept keep) (gather less size least rounds start pace runs items) := by
  fun_induction gather less size least rounds start pace runs items with
  | case1 start pace runs items => exact mergeAll_ends hless _ _ hruns
  | case2 rounds start pace runs => exact mergeAll_ends hless _ _ hruns
  | case3 rounds start pace runs items hitems ih =>
      apply Ends.bind (take_ends hless h)
      rintro ⟨run, rest⟩ ⟨hrun, hrest⟩
      apply Ends.bind (insertAll_ends hless hrun (hrest.take _))
      intro longer hlonger
      have hafter := hrest.drop (least - run.length)
      have hnext : forall (others : List (Run alpha)) (pace : Nat), KeptRuns keep others ->
          Ends bad (Kept keep) (gather less size least rounds (start + longer.length) pace
            ({ start := start, items := longer, power := 0 } :: others)
            (rest.drop (least - run.length))) :=
        fun others pace hothers =>
          ih run rest longer others pace (Kept.cons_iff.2 ⟨hlonger, hothers⟩) hafter
      dsimp only
      split
      · exact hnext [] pace Kept.nil
      · rename_i top below
        apply Ends.bind (collapse_ends hless _ _ _ hruns)
        intro out hout
        split
        · exact hnext _ _ (Kept.cons_iff.2 (Kept.cons_iff.1 hout))
        · exact hnext [] _ Kept.nil

theorem sort_ends (hless : Compares bad keep less) {items : List alpha} (h : Kept keep items) :
    Ends bad (Kept keep) (sort less items) :=
  gather_ends hless _ _ _ _ _ Kept.nil h

end Runs

/-!
# Sorting by keys
-/

namespace Value

/-- Sorting by keys fails only as the comparisons of the keys of its items do. -/
theorem sortOn_ends {key : alpha -> Value}
    (h : Compares bad keep fun a b => lessThan (key a) (key b)) {items : List alpha}
    (hitems : Kept keep items) : Ends bad (Kept keep) (sortOn key items) := by
  unfold sortOn
  dsimp only
  split
  · exact sortWith_ends h hitems
  · exact Runs.sort_ends h hitems

end Value
end Wrangle
