import Wrangle.Proofs.Expr.Scalar
import Wrangle.Proofs.Function.Bare
import Wrangle.Proofs.Function.Ranks

/-!
# One value for each row

A window function makes a column of a column.  Its result is taken for one without being
counted, so it must have as many values as the column it is made of: where cells are shifted
beyond an end, where a total goes missing, and where ranks are put back to their positions.
-/

namespace Wrangle

/-- A list with some number of values. -/
def HasRows (size : Nat) (result : Value) : Prop :=
  exists items, result = .list items ∧ items.length = size

/-- A computation whose result is such a list, if it has one. -/
abbrev GivesRows {epsilon : Type} (size : Nat) (x : Except epsilon Value) : Prop :=
  Ends (fun _ => True) (HasRows size) x

/-- The value of a parameter, where all parameters have their values. -/
def Signature.valueOf? (signature : Signature) (name : String) (bound : List Value) :
    Option Value :=
  ((signature.parameters.map Parameter.name).zip bound).lookup name

/-!
# Integers
-/

namespace Value

variable {a b : Value} {m n : Int}

theorem lessEqual_of_asInt? (ha : a.asInt? = some m) (hb : b.asInt? = some n) :
    compareWith .lessEqual a b = .ok (decide (m ≤ n)) := by
  have hsimple : compareWith .lessEqual a b = compareSimple .lessEqual a b := by
    cases a <;> cases ha <;> rfl
  rw [hsimple]
  unfold compareSimple
  rw [ha, hb]
  show Except.ok (compare m n != .gt) = _
  congr 1
  rw [Bool.eq_iff_iff, decide_eq_true_iff, bne_iff_ne, compare_le_iff_le]

theorem add_of_asInt? (ha : a.asInt? = some m) (hb : b.asInt? = some n) :
    add a b = .ok (int (m + n)) := by
  unfold add pair?
  rw [ha, hb]

theorem toNumber_of_asInt? (ha : a.asInt? = some n) : a.toNumber = .ok a := by
  cases a <;> cases ha <;> rfl

end Value

namespace Window

variable {x k blank : Value} {cells : List Value} {n : Int}

/-!
# Shifts
-/

theorem filledPlaces_eq (hk : k.asInt? = some n) (size : Nat) :
    filledPlaces k size = .ok (min n.toNat size) := by
  have hless : Value.compareWith .less (.int (Int.ofNat size)) k =
      .ok (decide ((size : Int) < n)) := Value.lessThan_of_asInt? rfl hk
  rw [filledPlaces, hless, ok_bind, hk]
  by_cases h : (size : Int) < n
  · have hle : size ≤ n.toNat := by omega
    rw [if_pos (decide_eq_true h), min_eq_right hle]
  · have hle : n.toNat ≤ size := by omega
    rw [if_neg (by simpa using h), min_eq_left hle]

theorem filledPlaces_le (k : Value) (size : Nat) :
    Ends (fun _ => True) (fun places => places ≤ size) (filledPlaces k size) := by
  cases hk : k.asInt? with
  | some n =>
      rw [filledPlaces_eq hk]
      exact min_le_right _ _
  | none =>
      unfold filledPlaces
      apply (ends_any _).bind_any
      intro beyond
      split
      · exact le_rfl
      · rw [hk]
        trivial

theorem lag_rows (hx : x.iterate = .ok cells) (k blank : Value) :
    GivesRows cells.length (lag x k blank) := by
  rw [lag, hx, ok_bind]
  apply (ends_any _).bind_any
  intro unshifted
  split
  · exact ⟨cells, rfl, rfl⟩
  · apply (filledPlaces_le k cells.length).bind
    intro places hplaces
    refine ⟨_, rfl, ?_⟩
    rw [List.length_append, List.length_replicate, List.length_take]
    omega

theorem lead_rows (hx : x.iterate = .ok cells) (k blank : Value) :
    GivesRows cells.length (lead x k blank) := by
  rw [lead, hx, ok_bind]
  apply (ends_any _).bind_any
  intro unshifted
  split
  · exact ⟨cells, rfl, rfl⟩
  · split
    · refine ⟨_, rfl, ?_⟩
      rw [List.length_append, List.length_replicate, List.length_drop]
      omega
    · trivial

/-- Cells move down, and a blank is put for each that has none above; counts that are not
positive move nothing. -/
theorem lag_eq (hx : x.iterate = .ok cells) (hk : k.asInt? = some n) (blank : Value) :
    lag x k blank = .ok (.list (List.replicate (min n.toNat cells.length) blank ++
      cells.take (cells.length - n.toNat))) := by
  rw [lag, hx, ok_bind, Value.lessEqual_of_asInt? hk rfl, ok_bind]
  by_cases h : n ≤ 0
  · rw [if_pos (decide_eq_true h), Int.toNat_of_nonpos h, Nat.zero_min, Nat.sub_zero,
      List.take_length]
    rfl
  · have hplaces : cells.length - min n.toNat cells.length = cells.length - n.toNat := by
      omega
    rw [if_neg (by simpa using h), filledPlaces_eq hk, ok_bind, hplaces]

theorem lead_eq (hx : x.iterate = .ok cells) (hk : k.asInt? = some n) (blank : Value) :
    lead x k blank = .ok (.list (cells.drop n.toNat ++
      List.replicate (min n.toNat cells.length) blank)) := by
  rw [lead, hx, ok_bind, Value.lessEqual_of_asInt? hk rfl, ok_bind]
  by_cases h : n ≤ 0
  · rw [if_pos (decide_eq_true h), Int.toNat_of_nonpos h, Nat.zero_min, List.drop_zero,
      List.replicate_zero, List.append_nil]
  · rw [if_neg (by simpa using h), hk]

theorem getElem?_lagged (blank : Value) {places i : Nat} (hi : i < cells.length) :
    (List.replicate (min places cells.length) blank ++
      cells.take (cells.length - places))[i]? =
        if places ≤ i then cells[i - places]? else some blank := by
  by_cases h : places ≤ i
  · have hplaces : min places cells.length = places := by omega
    have hkept : i - places < cells.length - places := by omega
    rw [if_pos h, hplaces, List.getElem?_append_right (by rwa [List.length_replicate]),
      List.length_replicate, List.getElem?_take_of_lt hkept]
  · have hfilled : i < min places cells.length := by omega
    rw [if_neg h, List.getElem?_append_left (by rwa [List.length_replicate]),
      List.getElem?_replicate_of_lt hfilled]

theorem getElem?_led (blank : Value) {places i : Nat} (hi : i < cells.length) :
    (cells.drop places ++ List.replicate (min places cells.length) blank)[i]? =
      if i + places < cells.length then cells[i + places]? else some blank := by
  by_cases h : i + places < cells.length
  · have hkept : i < (cells.drop places).length := by
      rw [List.length_drop]
      omega
    rw [if_pos h, List.getElem?_append_left hkept, List.getElem?_drop, Nat.add_comm]
  · have hfilled : i - (cells.length - places) < min places cells.length := by omega
    have hbehind : (cells.drop places).length ≤ i := by
      rw [List.length_drop]
      omega
    rw [if_neg h, List.getElem?_append_right hbehind, List.length_drop,
      List.getElem?_replicate_of_lt hfilled]

/-!
# Running totals
-/

theorem running_rows (combine : Value -> Value -> Except Fault Value) (total : Value)
    (cells : List Value) :
    Ends (fun _ => True) (fun results => results.length = cells.length)
      (running combine total cells) := by
  induction cells generalizing total with
  | nil => rfl
  | cons cell rest ih =>
      unfold running
      split
      · exact (ih .missing).map fun _ hresults => congrArg Nat.succ hresults
      · apply (ends_any _).bind_any
        intro number
        apply (ends_any _).bind_any
        intro next
        apply (ih next).bind
        intro results hresults
        exact congrArg Nat.succ hresults

theorem totals_rows (hx : x.iterate = .ok cells)
    (combine : Value -> Value -> Except Fault Value) (total : Value) :
    GivesRows cells.length
      (x.iterate >>= fun items => (running combine total items).map .list) := by
  rw [hx, ok_bind]
  exact (running_rows combine total cells).map fun results hresults => ⟨results, rfl, hresults⟩

theorem running_missing (combine : Value -> Value -> Except Fault Value) (cells : List Value) :
    running combine .missing cells = .ok (List.replicate cells.length .missing) := by
  induction cells with
  | nil => rfl
  | cons cell rest ih =>
      have hmissing : (cell.isMissing || Value.missing.isMissing) = true := Bool.or_true _
      rw [running, if_pos hmissing, ih]
      rfl

/-- What cells of integers add to an integer; a missing cell makes the sum missing. -/
def sumFrom (m : Int) (cells : List Value) : Value :=
  Statistic.unlessMissing cells (some (m + (cells.filterMap Value.asInt?).sum))

theorem sumFrom_missing (m : Int) (cells : List Value) :
    sumFrom m (.missing :: cells) = .missing :=
  rfl

theorem sumFrom_cons {cell : Value} (hcell : cell.asInt? = some n) (m : Int)
    (cells : List Value) : sumFrom m (cell :: cells) = sumFrom (m + n) cells := by
  have hpresent : cell.isMissing = false := by
    cases cell <;> first | rfl | cases hcell
  rw [sumFrom, sumFrom, Statistic.unlessMissing, Statistic.unlessMissing, List.any_cons,
    hpresent, Bool.false_or, List.filterMap_cons_some hcell, List.sum_cons, Int.add_assoc]

/-- Integers, truth values among them, and missing values. -/
def AreIntegral (cells : List Value) : Prop :=
  forall cell, cell ∈ cells -> cell = .missing ∨ exists n, cell.asInt? = some n

theorem exists_running_add (h : AreIntegral cells) (m : Int) :
    exists sums, running Value.add (.int m) cells = .ok sums ∧
      forall i, i < cells.length -> sums[i]? = some (sumFrom m (cells.take (i + 1))) := by
  induction cells generalizing m with
  | nil => exact ⟨[], rfl, fun i hi => absurd hi (Nat.not_lt_zero i)⟩
  | cons cell rest ih =>
      rcases List.forall_mem_cons.1 h with ⟨hcell, hrest⟩
      rcases hcell with rfl | ⟨n, hn⟩
      · have hmissing : (Value.missing.isMissing || (Value.int m).isMissing) = true := rfl
        refine ⟨List.replicate (Value.missing :: rest).length .missing, ?_, ?_⟩
        · rw [running, if_pos hmissing, running_missing]
          rfl
        · intro i hi
          rw [List.getElem?_replicate_of_lt hi, List.take_succ_cons, sumFrom_missing]
      · rcases ih hrest (m + n) with ⟨sums, hsums, hplaces⟩
        have hpresent : (cell.isMissing || (Value.int m).isMissing) = false := by
          cases cell <;> first | rfl | cases hn
        refine ⟨.int (m + n) :: sums, ?_, ?_⟩
        · rw [running, hpresent, if_neg Bool.false_ne_true, Value.toNumber_of_asInt? hn, ok_bind,
            Value.add_of_asInt? rfl hn, ok_bind, hsums, ok_bind]
        · intro i hi
          rw [List.take_succ_cons, sumFrom_cons hn]
          cases i with
          | zero =>
              rw [List.getElem?_cons_zero, List.take_zero, sumFrom, List.filterMap_nil,
                List.sum_nil, Int.add_zero]
              rfl
          | succ i => rw [List.getElem?_cons_succ, hplaces i (Nat.lt_of_succ_lt_succ hi)]

/-!
# Ranks
-/

/-- Results are put to the positions of a column, whatever they are. -/
theorem ranked_rows (hx : x.iterate = .ok cells)
    (place : List (Nat × Value) -> Except Fault (List (Nat × Value))) :
    GivesRows cells.length (ranked x place) := by
  unfold ranked
  apply (ends_any _).bind_any
  intro size
  rw [hx, ok_bind]
  apply (ends_any _).bind_any
  intro found
  apply (ends_any _).bind_any
  intro order
  apply (ends_any _).bind_any
  intro results
  exact ⟨_, rfl, scatter_length cells.length results⟩

end Window

/-!
# Combined values
-/

theorem accumulated_rows (call : Caller) (f : Value) (cells : List Value) :
    Ends (fun _ => True) (fun results => results.length = cells.length)
      (accumulated call f cells) := by
  have hresults : forall (rest : List Value) (current : Value),
      Ends (fun _ => True) (fun results => results.length = rest.length)
        (accumulated.results call f current rest) := by
    intro rest
    induction rest with
    | nil => exact fun _ => rfl
    | cons cell rest ih =>
        intro current
        unfold accumulated.results
        split
        · apply (ends_any _).bind_any
          intro next
          exact (ih next).map fun _ hlength => congrArg Nat.succ hlength
        · trivial
  cases cells with
  | nil => rfl
  | cons first rest => exact (hresults rest first).map fun _ hlength => congrArg Nat.succ hlength

/-!
# Calls
-/

namespace LibraryFunction

variable {f : LibraryFunction} {x : Value} {cells bound : List Value}

theorem applyBound_rows (hf : f.isRowAligned = true)
    (hvalue : f.signature.valueOf? "x" bound = some x) (hx : x.iterate = .ok cells) :
    GivesRows cells.length (f.applyBound bound) := by
  unfold applyBound
  split
  -- what is left are the row-aligned functions, and calls with other values
  all_goals try cases hf
  · cases hvalue
    exact Window.lag_rows hx _ _
  · cases hvalue
    exact Window.lead_rows hx _ _
  · cases hvalue
    exact Window.totals_rows hx Value.add _
  · cases hvalue
    exact Window.totals_rows hx Value.multiply _
  · cases hvalue
    exact Window.ranked_rows hx _
  · cases hvalue
    exact Window.ranked_rows hx _
  · cases hvalue
    exact Window.ranked_rows hx _
  · cases hvalue
    exact Window.ranked_rows hx _
  · trivial

theorem apply_rows (host : Host) (call : Caller) (hf : f.isRowAligned = true) {values : List Value}
    {named : List (String × Value)} (hbound : f.signature.bind values named = .ok bound)
    (hvalue : f.signature.valueOf? "x" bound = some x) (hx : x.iterate = .ok cells) :
    GivesRows cells.length (f.apply host call values named) := by
  have hbind : Ends (fun _ => True) (fun found => found = bound)
      (Outcome.ofFault (f.signature.bind values named)) := by
    rw [hbound]
    exact rfl
  apply hbind.bind
  rintro _ rfl
  split
  · cases hvalue
    rw [hx]
    exact (accumulated_rows call _ cells).map fun results hlength => ⟨results, rfl, hlength⟩
  · cases hf
  · exact ends_ofFault (applyBound_rows hf hvalue hx)

variable {values : List Value} {named : List (String × Value)} {k blank : Value} {n : Int}

theorem apply_lag (host : Host) (call : Caller) (hx : x.iterate = .ok cells)
    (hk : k.asInt? = some n)
    (hbound : lag.signature.bind values named = .ok [x, k, blank]) :
    exists shifted, lag.apply host call values named = .ok (.list shifted) ∧
      forall i, i < cells.length ->
        shifted[i]? = if n.toNat ≤ i then cells[i - n.toNat]? else some blank := by
  refine ⟨_, ?_, fun i hi => Window.getElem?_lagged blank hi⟩
  rw [apply, hbound]
  exact congrArg Outcome.ofFault (Window.lag_eq hx hk blank)

theorem apply_lead (host : Host) (call : Caller) (hx : x.iterate = .ok cells)
    (hk : k.asInt? = some n)
    (hbound : lead.signature.bind values named = .ok [x, k, blank]) :
    exists shifted, lead.apply host call values named = .ok (.list shifted) ∧
      forall i, i < cells.length ->
        shifted[i]? =
          if i + n.toNat < cells.length then cells[i + n.toNat]? else some blank := by
  refine ⟨_, ?_, fun i hi => Window.getElem?_led blank hi⟩
  rw [apply, hbound]
  exact congrArg Outcome.ofFault (Window.lead_eq hx hk blank)

theorem apply_cumulativeSum (host : Host) (call : Caller) (hx : x.iterate = .ok cells)
    (hcells : Window.AreIntegral cells)
    (hbound : cumulativeSum.signature.bind values named = .ok [x]) :
    exists sums, cumulativeSum.apply host call values named = .ok (.list sums) ∧
      forall i, i < cells.length ->
        sums[i]? = some (Statistic.total.value (cells.take (i + 1))) := by
  rcases Window.exists_running_add hcells 0 with ⟨sums, hsums, hplaces⟩
  refine ⟨sums, ?_, ?_⟩
  · have hsum : Window.cumulativeSum x = .ok (.list sums) := by
      rw [Window.cumulativeSum, hx, ok_bind, hsums]
      rfl
    rw [apply, hbound]
    exact congrArg Outcome.ofFault hsum
  · intro i hi
    rw [hplaces i hi, Window.sumFrom, Int.zero_add]
    rfl

/-- A window function gives one value for each row of its column, whatever its other values are.
Shifted cells come from as many rows above or below as the count says, if there are so many, and
a running sum is the sum of the cells up to its row. -/
theorem windows_keep_rows (host : Host) (call : Caller) {x : Value} {cells : List Value}
    (hx : x.iterate = .ok cells) :
    (forall (f : LibraryFunction) values named bound result, f.isRowAligned = true ->
      f.signature.bind values named = .ok bound ->
      f.signature.valueOf? "x" bound = some x ->
      f.apply host call values named = .ok result -> HasRows cells.length result) ∧
    (forall values named k blank n, k.asInt? = some n ->
      lag.signature.bind values named = .ok [x, k, blank] ->
      exists shifted, lag.apply host call values named = .ok (.list shifted) ∧
        forall i, i < cells.length ->
          shifted[i]? = if n.toNat ≤ i then cells[i - n.toNat]? else some blank) ∧
    (forall values named k blank n, k.asInt? = some n ->
      lead.signature.bind values named = .ok [x, k, blank] ->
      exists shifted, lead.apply host call values named = .ok (.list shifted) ∧
        forall i, i < cells.length ->
          shifted[i]? =
            if i + n.toNat < cells.length then cells[i + n.toNat]? else some blank) ∧
    (forall values named, Window.AreIntegral cells ->
      cumulativeSum.signature.bind values named = .ok [x] ->
      exists sums, cumulativeSum.apply host call values named = .ok (.list sums) ∧
        forall i, i < cells.length ->
          sums[i]? = some (Statistic.total.value (cells.take (i + 1)))) := by
  refine ⟨?rows, ?lag, ?lead, ?sums⟩
  case rows =>
    intro f values named bound result hf hbound hvalue hresult
    have hrows := apply_rows host call hf hbound hvalue hx
    rw [hresult] at hrows
    exact hrows
  case lag => exact fun _ _ _ _ _ hk hbound => apply_lag host call hx hk hbound
  case lead => exact fun _ _ _ _ _ hk hbound => apply_lead host call hx hk hbound
  case sums => exact fun _ _ hcells hbound => apply_cumulativeSum host call hx hcells hbound

/-- Three cells, counts beyond and within them, and a function of two values. -/
theorem windows_keep_rows_three :
    (exists result, accumulate.apply Host.empty (Function.apply [] · · [])
        [.function (.library .coalesce), .list [.int 3, .missing, .int 1]] [] = .ok result ∧
      HasRows 3 result) ∧
    (exists shifted, lag.apply Host.empty (Function.apply [] · · [])
        [.list [.int 3, .missing, .int 1]] [("k", .int 5)] = .ok (.list shifted) ∧
      shifted[2]? = some .missing) ∧
    (exists shifted, lead.apply Host.empty (Function.apply [] · · [])
        [.list [.int 3, .missing, .int 1], .int 2, .str "none"] [] = .ok (.list shifted) ∧
      shifted[0]? = some (.int 1) ∧ shifted[1]? = some (.str "none")) ∧
    (exists sums, cumulativeSum.apply Host.empty (Function.apply [] · · [])
        [] [("x", .list [.int 3, .missing, .int 1])] = .ok (.list sums) ∧
      sums[0]? = some (.int 3) ∧ sums[2]? = some .missing) := by
  have hx : Value.iterate (.list [.int 3, .missing, .int 1]) = .ok [.int 3, .missing, .int 1] :=
    rfl
  rcases windows_keep_rows Host.empty (Function.apply [] · · []) hx with ⟨hrows, hlag, hlead, hsums⟩
  refine ⟨?accumulate, ?lag, ?lead, ?sums⟩
  case accumulate =>
    have hresult : exists result, accumulate.apply Host.empty (Function.apply [] · · [])
        [.function (.library .coalesce), .list [.int 3, .missing, .int 1]] [] = .ok result :=
      ⟨_, rfl⟩
    rcases hresult with ⟨result, hresult⟩
    exact ⟨result, hresult, hrows accumulate _ [] _ result rfl rfl rfl hresult⟩
  case lag =>
    rcases hlag [.list [.int 3, .missing, .int 1]] [("k", .int 5)] (.int 5) .missing 5 rfl rfl
      with ⟨shifted, hshifted, hcells⟩
    exact ⟨shifted, hshifted, hcells 2 (by decide)⟩
  case lead =>
    rcases hlead [.list [.int 3, .missing, .int 1], .int 2, .str "none"] [] (.int 2)
      (.str "none") 2 rfl rfl with ⟨shifted, hshifted, hcells⟩
    exact ⟨shifted, hshifted, hcells 0 (by decide), hcells 1 (by decide)⟩
  case sums =>
    have hintegral : Window.AreIntegral [.int 3, .missing, .int 1] := by
      simp [Window.AreIntegral, Value.asInt?]
    rcases hsums [] [("x", .list [.int 3, .missing, .int 1])] hintegral rfl with
      ⟨sums, hfound, hcells⟩
    exact ⟨sums, hfound, hcells 0 (by decide), hcells 2 (by decide)⟩

end LibraryFunction

end Wrangle
