import Wrangle.Proofs.Expr.ElementWise
import Wrangle.Proofs.Value.Numbering

/-!
# Clauses as nested branches

The clauses of a choice are tried one after the other.  The same value comes of branches within
branches, where the remaining clauses stand both for a condition that is false and for one that is
missing.
-/

namespace Wrangle

open Value

namespace Expr

/-- Clauses as branches within branches. -/
def nested (otherwise : Expr) : List (Expr × Expr) -> Expr
  | [] => otherwise
  | (condition, value) :: rest =>
      ifElse condition value (nested otherwise rest) (nested otherwise rest)

/-- What rows get that no clause holds for. -/
def fallbackOf (otherwise : Option Expr) : Expr :=
  otherwise.getD (literal .missing)

/-- The same value up to the numbers of what is fresh in it: column for column and row for row, or
single value for single value. -/
inductive Matches : Value -> Value -> Prop where
  | columns {cells others : List Value} (h : List.Forall₂ Twins cells others) :
      Matches (.column cells) (.column others)
  | singles {a b : Value} (ha : columnLength? a = none) (hb : columnLength? b = none)
      (h : Twins a b) : Matches a b

/-!
# Values that are picked row by row
-/

def HasColumn (values : List Value) : Prop :=
  exists items, Value.column items ∈ values

/-- A value that has in each row a copy of what is picked there; with several rows it is a column of
that many cells.  Where all that may be picked is firm, the cells are what is picked. -/
structure Shows (n : Nat) (several firm : Prop) (pick : Nat -> Value) (value : Value) : Prop where
  column : several -> exists cells, value = .column cells ∧ cells.length = n
  single : ¬several -> columnLength? value = none
  copies : forall i, (several -> i < n) -> Copy (pick i) (atRow i value)
  exact : firm -> forall i, (several -> i < n) -> atRow i value = pick i

theorem atRow_single {value : Value} (h : columnLength? value = none) (i : Nat) :
    atRow i value = value := by
  cases value with
  | column items => cases h
  | _ => rfl

theorem columnLength?_copy {base value : Value} (h : Copy base value) :
    columnLength? value = columnLength? base := by
  cases h with
  | itself => rfl
  | numbered n => cases base <;> rfl

theorem branchKind?_copy {base value : Value} (h : Copy base value) :
    branchKind? value = branchKind? base := by
  cases h with
  | itself => rfl
  | numbered n => cases base <;> rfl

namespace Shows

variable {n : Nat} {several firm : Prop} {pick : Nat -> Value} {a b value : Value}

theorem several_of_column (h : Shows n several firm pick value) {items : List Value}
    (hcolumn : value = .column items) : several ∧ items.length = n := by
  by_cases hseveral : several
  · rcases h.column hseveral with ⟨cells, hcells, hlength⟩
    cases hcolumn.symm.trans hcells
    exact ⟨hseveral, hlength⟩
  · have hsingle := h.single hseveral
    rw [hcolumn] at hsingle
    cases hsingle

theorem kinds (h : Shows n several firm pick value) {kind : String}
    (hkind : kind ∈ branchKinds value) : exists i, branchKind? (pick i) = some kind := by
  by_cases hseveral : several
  · rcases h.column hseveral with ⟨cells, rfl, hlength⟩
    rcases List.mem_filterMap.1 hkind with ⟨cell, hcell, hcellKind⟩
    rcases List.getElem_of_mem hcell with ⟨i, hi, rfl⟩
    refine ⟨i, ?_⟩
    have hcopy := h.copies i fun _ => hlength ▸ hi
    rw [← branchKind?_copy hcopy]
    simpa [atRow, hi] using hcellKind
  · have hsingle := h.single hseveral
    refine ⟨0, ?_⟩
    have hcopy := h.copies 0 fun hsome => absurd hsome hseveral
    rw [atRow_single hsingle] at hcopy
    rw [← branchKind?_copy hcopy]
    cases value with
    | column items => cases hsingle
    | _ => exact Option.mem_toList.1 hkind

theorem agree (ha : Shows n several firm pick a) (hb : Shows n several firm pick b) :
    Matches a b := by
  by_cases hseveral : several
  · rcases ha.column hseveral with ⟨cells, rfl, hcells⟩
    rcases hb.column hseveral with ⟨others, rfl, hothers⟩
    apply Matches.columns
    rw [List.forall₂_iff_get]
    refine ⟨hcells.trans hothers.symm, fun i hi hi' => ?_⟩
    have hcopy := ha.copies i fun _ => hcells ▸ hi
    have hcopy' := hb.copies i fun _ => hcells ▸ hi
    rw [atRow, List.getElem?_eq_getElem hi] at hcopy
    rw [atRow, List.getElem?_eq_getElem hi'] at hcopy'
    exact ⟨pick i, hcopy, hcopy'⟩
  · have hone := ha.single hseveral
    have hother := hb.single hseveral
    have hcopy := ha.copies 0 fun hsome => absurd hsome hseveral
    have hcopy' := hb.copies 0 fun hsome => absurd hsome hseveral
    rw [atRow_single hone] at hcopy
    rw [atRow_single hother] at hcopy'
    exact Matches.singles hone hother ⟨pick 0, hcopy, hcopy'⟩

theorem eq (ha : Shows n several firm pick a) (hb : Shows n several firm pick b) (hfirm : firm) :
    a = b := by
  by_cases hseveral : several
  · rcases ha.column hseveral with ⟨cells, rfl, hcells⟩
    rcases hb.column hseveral with ⟨others, rfl, hothers⟩
    congr 1
    apply List.ext_getElem (hcells.trans hothers.symm)
    intro i hi hi'
    have hcell := ha.exact hfirm i fun _ => hcells ▸ hi
    have hcell' := hb.exact hfirm i fun _ => hcells ▸ hi
    rw [atRow, List.getElem?_eq_getElem hi] at hcell
    rw [atRow, List.getElem?_eq_getElem hi'] at hcell'
    exact hcell.trans hcell'.symm
  · have hvalue := ha.exact hfirm 0 fun hsome => absurd hsome hseveral
    have hvalue' := hb.exact hfirm 0 fun hsome => absurd hsome hseveral
    rw [atRow_single (ha.single hseveral)] at hvalue
    rw [atRow_single (hb.single hseveral)] at hvalue'
    exact hvalue.trans hvalue'.symm

end Shows

theorem overRows_shows {n : Nat} {several firm : Prop} {pick row : Nat -> Value}
    {values : List Value} (name : String) (hseveral : HasColumn values <-> several)
    (hlengths : forall items, Value.column items ∈ values -> items.length = n)
    (hcopies : forall i, (several -> i < n) -> Copy (pick i) (row i))
    (hexact : firm -> forall i, (several -> i < n) -> row i = pick i)
    (hsame : ¬several -> forall i, pick i = pick 0)
    (hsingle : ¬several -> columnLength? (pick 0) = none)
    (hsettled : ¬several -> firm -> (pick 0).isSettled = true) :
    exists value, overRows name values (fun i => .ok (row i)) = .ok value ∧
      Shows n several firm pick value := by
  by_cases hsome : several
  · rcases hseveral.2 hsome with ⟨items, hitems⟩
    refine ⟨.column ((List.range n).map row), ?_, ?_⟩
    · rw [overRows, rowCount_of_lengths hlengths hitems, ok_bind]
      exact map_eq_ok_iff.2 ⟨_, mapM_eq_ok fun _ _ => rfl, rfl⟩
    · have hcell : forall i, i < n -> atRow i (.column ((List.range n).map row)) = row i := by
        intro i hi
        simp [atRow, hi]
      constructor
      · intro _
        exact ⟨_, rfl, by simp⟩
      · intro hnot
        exact absurd hsome hnot
      · intro i hi
        rw [hcell i (hi hsome)]
        exact hcopies i hi
      · intro hfirm i hi
        rw [hcell i (hi hsome)]
        exact hexact hfirm i hi
  · have hnone : forall items, Value.column items ∉ values :=
      fun items hitems => hsome (hseveral.1 ⟨items, hitems⟩)
    refine ⟨(row 0).settled name values, ?_, ?_⟩
    · rw [overRows, rowCount_of_single hnone]
      rfl
    · have hcopy : Copy (pick 0) ((row 0).settled name values) :=
        (hcopies 0 fun h => absurd h hsome).settled name values
      have hlength : columnLength? ((row 0).settled name values) = none :=
        (columnLength?_copy hcopy).trans (hsingle hsome)
      constructor
      · intro h
        exact absurd h hsome
      · intro _
        exact hlength
      · intro i _
        rw [atRow_single hlength, hsame hsome i]
        exact hcopy
      · intro hfirm i _
        rw [atRow_single hlength, hsame hsome i]
        exact hcopy.eq_of_isSettled (hsettled hsome hfirm)

/-!
# The value of a clause
-/

section Clauses

variable {n : Nat} {fallback : Value} {clauses : List (Value × Value)}

def branchesOf (clauses : List (Value × Value)) (fallback : Value) : List Value :=
  clauses.map Prod.snd ++ [fallback]

def operandsOf (clauses : List (Value × Value)) (fallback : Value) : List Value :=
  clauses.map Prod.fst ++ branchesOf clauses fallback

theorem branchesOf_subset (clauses : List (Value × Value)) (fallback : Value) :
    branchesOf clauses fallback ⊆ operandsOf clauses fallback :=
  List.subset_append_right _ _

theorem mem_operandsOf_cons {condition value operand : Value} :
    operand ∈ operandsOf ((condition, value) :: clauses) fallback <->
      operand ∈ [condition, value] ∨ operand ∈ operandsOf clauses fallback := by
  simp only [operandsOf, branchesOf, List.map_cons, List.cons_append, List.mem_cons,
    List.mem_append]
  tauto

theorem hasColumn_operandsOf_cons {condition value : Value} :
    HasColumn (operandsOf ((condition, value) :: clauses) fallback) <->
      HasColumn [condition, value] ∨ HasColumn (operandsOf clauses fallback) := by
  simp only [HasColumn, mem_operandsOf_cons, exists_or]

theorem columnLength?_of_not_hasColumn {values : List Value} (h : ¬HasColumn values) {value : Value}
    (hvalue : value ∈ values) : columnLength? value = none := by
  cases value with
  | column items => exact absurd ⟨items, hvalue⟩ h
  | _ => rfl

theorem firstClause_eq_atRow (i : Nat) (fallback : Value) (clauses : List (Value × Value)) :
    exists branch, branch ∈ branchesOf clauses fallback ∧
      firstClause i fallback clauses = atRow i branch := by
  induction clauses with
  | nil => exact ⟨fallback, List.mem_singleton_self _, rfl⟩
  | cons clause rest ih =>
      rw [firstClause]
      split
      · exact ⟨clause.2, List.mem_cons_self, rfl⟩
      · rcases ih with ⟨branch, hbranch, hcell⟩
        exact ⟨branch, List.mem_cons_of_mem _ hbranch, hcell⟩

theorem firstClause_single (h : ¬HasColumn (operandsOf clauses fallback)) (i : Nat) :
    firstClause i fallback clauses = firstClause 0 fallback clauses := by
  induction clauses with
  | nil =>
      have hfallback := columnLength?_of_not_hasColumn h (List.mem_singleton_self fallback)
      rw [firstClause, firstClause, atRow_single hfallback, atRow_single hfallback]
  | cons clause rest ih =>
      rcases clause with ⟨condition, value⟩
      have hcondition := columnLength?_of_not_hasColumn h
        (mem_operandsOf_cons.2 (Or.inl (List.mem_cons_self (a := condition))))
      have hvalue := columnLength?_of_not_hasColumn h
        (mem_operandsOf_cons.2
          (Or.inl (List.mem_cons_of_mem condition (List.mem_singleton_self value))))
      rw [firstClause, firstClause, atRow_single hcondition, atRow_single hcondition,
        atRow_single hvalue, atRow_single hvalue,
        ih fun hrest => h (hasColumn_operandsOf_cons.2 (Or.inr hrest))]

theorem firstClause_mem (h : ¬HasColumn (operandsOf clauses fallback)) :
    firstClause 0 fallback clauses ∈ branchesOf clauses fallback := by
  rcases firstClause_eq_atRow 0 fallback clauses with ⟨branch, hbranch, hpick⟩
  have hsingle := columnLength?_of_not_hasColumn h (branchesOf_subset _ _ hbranch)
  rwa [hpick, atRow_single hsingle]

/-- Whether all branches are firm: no single value among them has anything fresh in it. -/
def FirmBranches (clauses : List (Value × Value)) (fallback : Value) : Prop :=
  forall branch, branch ∈ branchesOf clauses fallback -> branch.isSettled = true

def Picks (n : Nat) (clauses : List (Value × Value)) (fallback value : Value) : Prop :=
  Shows n (HasColumn (operandsOf clauses fallback)) (FirmBranches clauses fallback)
    (fun i => firstClause i fallback clauses) value

theorem overRows_picks {values : List Value} {row : Nat -> Value} (name : String)
    (hsame : HasColumn values <-> HasColumn (operandsOf clauses fallback))
    (hlengths : forall items, Value.column items ∈ values -> items.length = n)
    (hcopies : forall i, (HasColumn (operandsOf clauses fallback) -> i < n) ->
      Copy (firstClause i fallback clauses) (row i))
    (hexact : FirmBranches clauses fallback -> forall i,
      (HasColumn (operandsOf clauses fallback) -> i < n) ->
        row i = firstClause i fallback clauses) :
    exists value, overRows name values (fun i => .ok (row i)) = .ok value ∧
      Picks n clauses fallback value := by
  apply overRows_shows name hsame hlengths hcopies hexact
  · intro hnone i
    exact firstClause_single hnone i
  · intro hnone
    exact columnLength?_of_not_hasColumn hnone (branchesOf_subset _ _ (firstClause_mem hnone))
  · intro hnone hfirm
    exact hfirm _ (firstClause_mem hnone)

theorem fallback_picks
    (hlengths : forall items, Value.column items ∈ operandsOf [] fallback -> items.length = n) :
    Picks n [] fallback fallback where
  column h := by
    rcases h with ⟨items, hitems⟩
    have hlength := hlengths items hitems
    cases List.mem_singleton.1 hitems
    exact ⟨items, rfl, hlength⟩
  single h := columnLength?_of_not_hasColumn h (List.mem_singleton_self fallback)
  copies _ _ := Copy.itself
  exact _ _ _ := rfl

theorem Picks.branchKinds {value : Value} (h : Picks n clauses fallback value) :
    branchKinds value ⊆ (branchesOf clauses fallback).flatMap branchKinds := by
  intro kind hkind
  rcases Shows.kinds h hkind with ⟨i, hpick⟩
  rcases firstClause_eq_atRow i fallback clauses with ⟨branch, hbranch, hcell⟩
  rw [hcell] at hpick
  exact List.mem_flatMap.2 ⟨branch, hbranch, mem_branchKinds_of_atRow hpick⟩

/-- A missing condition is not true, so that only the branch of a true one stands out. -/
theorem choose_same (i : Nat) (condition yes no : Value) :
    choose i condition yes no no =
      if (atRow i condition).isTruthy then atRow i yes else atRow i no := by
  unfold choose
  dsimp only
  split
  · rename_i hmissing
    cases hcondition : atRow i condition with
    | missing => rfl
    | _ =>
        rw [hcondition] at hmissing
        cases hmissing
  · rfl

theorem mem_choice {condition value rest operand : Value} :
    operand ∈ [condition, value, rest, rest] <-> operand ∈ [condition, value] ∨ operand = rest := by
  simp only [List.mem_cons, List.not_mem_nil, or_false, or_self, or_assoc]

theorem choose_picks {condition value rest : Value} (h : Picks n clauses fallback rest)
    (hlengths : forall items,
      Value.column items ∈ operandsOf ((condition, value) :: clauses) fallback ->
        items.length = n) :
    exists found,
      overRows "if_else" [condition, value, rest, rest]
        (fun i => .ok (choose i condition value rest rest)) = .ok found ∧
      Picks n ((condition, value) :: clauses) fallback found := by
  have hcell : forall i,
      (HasColumn (operandsOf ((condition, value) :: clauses) fallback) -> i < n) ->
      HasColumn (operandsOf clauses fallback) -> i < n :=
    fun i hi hcolumn => hi (hasColumn_operandsOf_cons.2 (Or.inr hcolumn))
  apply overRows_picks "if_else"
  · rw [hasColumn_operandsOf_cons]
    constructor
    · intro hcolumn
      rcases hcolumn with ⟨items, hitems⟩
      rcases mem_choice.1 hitems with hitems | hitems
      · exact Or.inl ⟨items, hitems⟩
      · exact Or.inr (h.several_of_column hitems.symm).1
    · intro hcolumn
      rcases hcolumn with ⟨items, hitems⟩ | hcolumn
      · exact ⟨items, mem_choice.2 (Or.inl hitems)⟩
      · rcases h.column hcolumn with ⟨cells, hcells, _⟩
        exact ⟨cells, mem_choice.2 (Or.inr hcells.symm)⟩
  · intro items hitems
    rcases mem_choice.1 hitems with hitems | hitems
    · exact hlengths items (mem_operandsOf_cons.2 (Or.inl hitems))
    · exact (h.several_of_column hitems.symm).2
  · intro i hi
    rw [choose_same, firstClause]
    split
    · exact Copy.itself
    · exact h.copies i (hcell i hi)
  · intro hfirm i hi
    rw [choose_same, firstClause]
    split
    · rfl
    · exact h.exact (fun branch hbranch => hfirm branch (List.mem_cons_of_mem _ hbranch)) i
        (hcell i hi)

end Clauses

/-!
# Nested branches
-/

section Evaluation

variable {callers : CallerFunctions} {frame : Frame} {n : Nat}

structure Gives (callers : CallerFunctions) (frame : Frame) (clause : Expr × Expr)
    (found : Value × Value) : Prop where
  condition : evaluate callers frame clause.1 = .ok found.1
  value : evaluate callers frame clause.2 = .ok found.2

theorem gives_of_evaluate {clauses : List (Expr × Expr)} {conditions results : List Value}
    (hconditions : evaluateFirsts callers frame clauses = .ok conditions)
    (hresults : evaluateSeconds callers frame clauses = .ok results) :
    exists found : List (Value × Value), found.map Prod.fst = conditions ∧
      found.map Prod.snd = results ∧ List.Forall₂ (Gives callers frame) clauses found := by
  induction clauses generalizing conditions results with
  | nil =>
      rw [evaluateFirsts] at hconditions
      rw [evaluateSeconds] at hresults
      cases hconditions
      cases hresults
      exact ⟨[], rfl, rfl, List.Forall₂.nil⟩
  | cons clause rest ih =>
      rcases clause with ⟨condition, value⟩
      rw [evaluateFirsts] at hconditions
      rw [evaluateSeconds] at hresults
      rcases bind_eq_ok_iff.1 hconditions with ⟨c, hc, hconditions⟩
      rcases bind_eq_ok_iff.1 hconditions with ⟨cs, hcs, hconditions⟩
      rcases bind_eq_ok_iff.1 hresults with ⟨v, hv, hresults⟩
      rcases bind_eq_ok_iff.1 hresults with ⟨vs, hvs, hresults⟩
      cases hconditions
      cases hresults
      rcases ih hcs hvs with ⟨found, rfl, rfl, hfound⟩
      exact ⟨(c, v) :: found, rfl, rfl, List.Forall₂.cons ⟨hc, hv⟩ hfound⟩

theorem nested_picks {label : String} {clauses : List (Expr × Expr)}
    {found : List (Value × Value)} {otherwise : Expr} {fallback : Value}
    (hclauses : List.Forall₂ (Gives callers frame) clauses found)
    (hfallback : evaluate callers frame otherwise = .ok fallback)
    (hlengths : forall items, Value.column items ∈ operandsOf found fallback -> items.length = n)
    (hkinds : checkBranches label (branchesOf found fallback) = .ok ()) :
    exists value, evaluate callers frame (nested otherwise clauses) = .ok value ∧
      Picks n found fallback value := by
  induction hclauses with
  | nil => exact ⟨fallback, hfallback, fallback_picks hlengths⟩
  | @cons clause first clauses found hclause _ ih =>
      rcases clause with ⟨condition, value⟩
      rcases first with ⟨c, v⟩
      have hbranches : (branchesOf found fallback).flatMap branchKinds ⊆
          (branchesOf ((c, v) :: found) fallback).flatMap branchKinds :=
        List.subset_append_right (branchKinds v) _
      rcases ih (fun items hitems => hlengths items (mem_operandsOf_cons.2 (Or.inr hitems)))
        (checkBranches_of_subset hbranches hkinds) with ⟨rest, hvalue, hpicks⟩
      rcases choose_picks hpicks hlengths with ⟨other, hother, hshows⟩
      refine ⟨other, ?_, hshows⟩
      have hcheck : checkBranches "if_else" [v, rest, rest] = .ok () := by
        apply checkBranches_of_subset _ hkinds
        intro kind hkind
        rcases List.mem_flatMap.1 hkind with ⟨branch, hbranch, hbranchKind⟩
        rcases List.mem_cons.1 hbranch with rfl | hbranch
        · exact List.mem_flatMap.2 ⟨branch, List.mem_cons_self, hbranchKind⟩
        · have hsame : branch = rest := by simpa using hbranch
          rw [hsame] at hbranchKind
          exact hbranches (hpicks.branchKinds hbranchKind)
      rw [nested, evaluate, hclause.condition, hclause.value, hvalue]
      simp only [ok_bind]
      rw [hcheck]
      exact hother

theorem evaluate_caseWhen (clauses : List (Expr × Expr)) (otherwise : Option Expr) :
    evaluate callers frame (caseWhen clauses otherwise) = (do
      let conditions <- evaluateFirsts callers frame clauses
      let results <- evaluateSeconds callers frame clauses
      let fallback <- evaluate callers frame (fallbackOf otherwise)
      checkBranches "case_when" (results ++ [fallback])
      overRows "case_when" (conditions ++ results ++ [fallback]) fun i =>
        .ok (firstClause i fallback (conditions.zip results))) := by
  cases otherwise with
  | none => rfl
  | some e => rfl

theorem clauses_of_evaluate {clauses : List (Expr × Expr)} {otherwise : Option Expr} {value : Value}
    (h : evaluate callers frame (caseWhen clauses otherwise) = .ok value) :
    exists found fallback,
      List.Forall₂ (Gives callers frame) clauses found ∧
      evaluate callers frame (fallbackOf otherwise) = .ok fallback ∧
      checkBranches "case_when" (branchesOf found fallback) = .ok () ∧
      overRows "case_when" (operandsOf found fallback)
        (fun i => .ok (firstClause i fallback found)) = .ok value := by
  rw [evaluate_caseWhen] at h
  rcases bind_eq_ok_iff.1 h with ⟨conditions, hconditions, h⟩
  rcases bind_eq_ok_iff.1 h with ⟨results, hresults, h⟩
  rcases bind_eq_ok_iff.1 h with ⟨fallback, hfallback, h⟩
  rcases bind_eq_ok_iff.1 h with ⟨_, hcheck, h⟩
  rcases gives_of_evaluate hconditions hresults with ⟨found, hfirsts, hseconds, hfound⟩
  rw [← List.zip_of_prod hfirsts hseconds, ← hfirsts, ← hseconds, List.append_assoc] at h
  rw [← hseconds] at hcheck
  exact ⟨found, fallback, hfound, hfallback, hcheck, h⟩

/-- Clauses give what the nested branches give, column for column and single value for single
value.  Where no single branch holds anything fresh, the two are equal. -/
theorem caseWhen_eq_nested {clauses : List (Expr × Expr)} {otherwise : Option Expr} {value : Value}
    (h : evaluate callers frame (caseWhen clauses otherwise) = .ok value) :
    exists other,
      evaluate callers frame (nested (fallbackOf otherwise) clauses) = .ok other ∧
      Matches value other ∧
      ((forall branch, branch ∈ clauses.map Prod.snd ++ [fallbackOf otherwise] ->
          forall found, evaluate callers frame branch = .ok found -> found.isSettled = true) ->
        other = value) := by
  rcases clauses_of_evaluate h with ⟨found, fallback, hclauses, hfallback, hkinds, hrows⟩
  rcases bind_eq_ok_iff.1 hrows with ⟨count, hcount, _⟩
  rcases lengths_of_rowCount hcount with ⟨n, hlengths⟩
  rcases nested_picks hclauses hfallback hlengths hkinds with ⟨other, hother, hpicks⟩
  have hcase : exists value, overRows "case_when" (operandsOf found fallback)
      (fun i => .ok (firstClause i fallback found)) = .ok value ∧ Picks n found fallback value :=
    overRows_picks "case_when" Iff.rfl hlengths (fun _ _ => Copy.itself) fun _ _ _ => rfl
  rcases hcase with ⟨same, hsame, hshows⟩
  cases hsame.symm.trans hrows
  refine ⟨other, hother, hshows.agree hpicks, fun hsettled => hpicks.eq hshows ?_⟩
  intro branch hbranch
  rcases List.mem_append.1 hbranch with hbranch | hbranch
  · rcases List.mem_map.1 hbranch with ⟨pair, hpair, rfl⟩
    rcases exists_of_forall₂ hclauses.flip hpair with ⟨clause, hclause, hgives⟩
    exact hsettled clause.2 (List.mem_append_left _ (List.mem_map_of_mem hclause)) pair.2
      hgives.value
  · cases List.mem_singleton.1 hbranch
    exact hsettled _ (List.mem_append_right _ (List.mem_singleton_self _)) _ hfallback

theorem caseWhen_eq_nested_of_missing :
    let frame : Frame := {
      columns := [("x", [.int 3, .missing, .int 0]), ("y", [.str "a", .str "b", .missing])]
      nrows := 3 }
    let clauses : List (Expr × Expr) :=
      [(column "x", column "y"), (literal (.bool true), literal (.str "none"))]
    evaluate [] frame (caseWhen clauses none) =
        .ok (.column [.str "a", .str "none", .str "none"]) ∧
      exists other,
        evaluate [] frame (nested (fallbackOf none) clauses) = .ok other ∧
        Matches (.column [.str "a", .str "none", .str "none"]) other ∧
        ((forall branch, branch ∈ clauses.map Prod.snd ++ [fallbackOf none] ->
            forall found, evaluate [] frame branch = .ok found -> found.isSettled = true) ->
          other = .column [.str "a", .str "none", .str "none"]) := by
  intro frame clauses
  have h : evaluate [] frame (caseWhen clauses none) =
      .ok (.column [.str "a", .str "none", .str "none"]) := by
    rfl
  exact ⟨h, caseWhen_eq_nested h⟩

end Evaluation

end Expr
end Wrangle
