import Wrangle.Proofs.Compile.Callables
import Wrangle.Proofs.Compile.Visibility
import Wrangle.Proofs.Verb.Stepwise

/-!
# Selections within a call

A call whose fragments ask for numbers of rows has more columns in scope than the table
has.  What a selection makes of that, among the columns that the call computes, is told
by the places that it reaches.
-/

namespace Wrangle

open Dataset
open Compile

/-!
# Added columns
-/

theorem Dataset.foldl_headerWith_eq_append (names header : List String) :
    exists more, names.foldl headerWith header = header ++ more ∧ more.Nodup ∧
      forall name, name ∈ more -> name ∈ names :=
  ⟨_, foldl_headerWith names header, eraseDups_nodup _,
    fun _ hname => (List.mem_filter.1 (List.mem_eraseDups.1 hname)).1⟩

namespace Request

variable {request : Request} {computed : List String}

theorem extendScope_columns (mode : Mode) (scope : Scope) (names : List String) :
    (extendScope mode scope names).columns = names.foldl headerWith scope.columns := by
  unfold extendScope
  split
  · show (scope.addColumns names).columns = _
    rw [Scope.addColumns_eq]
  · rw [Scope.addColumns_eq]

theorem extendScope_env (mode : Mode) (scope : Scope) (names : List String) :
    (extendScope mode scope names).env = scope.env := by
  unfold extendScope Scope.addSummaries
  split
  · exact Scope.addColumns_env names
  · exact Scope.addColumns_env names

theorem fullScope_env (request : Request) : request.fullScope.env = request.scope.env := by
  unfold fullScope
  dsimp only
  split <;> split <;> simp only [Scope.addColumn_env]

theorem env_of_fullScope (request : Request) (mode : Mode) (computed : List String) :
    (extendScope mode request.scope computed).env =
      (extendScope mode request.fullScope computed).env := by
  rw [extendScope_env, extendScope_env, fullScope_env]

theorem fullScope_columns (request : Request) :
    exists rows, request.fullScope.columns = request.scope.columns ++ rows ∧
      forall name, name ∈ rows -> isRowColumn name = true := by
  have hadd : forall (scope : Scope) (flag : Bool) (name : String), isRowColumn name = true ->
      exists rows, (if flag then scope.addColumn name else scope).columns =
          scope.columns ++ rows ∧ forall name, name ∈ rows -> isRowColumn name = true := by
    intro scope flag name hname
    unfold Scope.addColumn
    split
    · split
      · exact ⟨[], (List.append_nil _).symm, by simp⟩
      · exact ⟨[name], rfl, by simpa using hname⟩
    · exact ⟨[], (List.append_nil _).symm, by simp⟩
  rcases hadd request.scope request.mentionsCount countColumn (by decide) with
    ⟨counted, hcounted, hcount⟩
  rcases hadd (if request.mentionsCount then request.scope.addColumn countColumn else request.scope)
    request.mentionsRowNumber rowNumberColumn (by decide) with ⟨numbered, hnumbered, hnumber⟩
  refine ⟨counted ++ numbered, ?_, ?_⟩
  · rw [← List.append_assoc, ← hcounted, ← hnumbered]
    rfl
  · intro name hname
    rcases List.mem_append.1 hname with hname | hname
    · exact hcount name hname
    · exact hnumber name hname

section Scopes

variable (hheader : forall name, name ∈ request.scope.columns -> isReserved name = false)
variable (mode : Mode)

include hheader

theorem hides (hcomputed : forall name, name ∈ computed -> isRowColumn name = false) :
    Hides (extendScope mode request.fullScope computed)
      (extendScope mode request.scope computed) := by
  rcases fullScope_columns request with ⟨rows, hrows, hrow⟩
  have hfull : withoutRowColumns request.fullScope.columns = request.scope.columns := by
    rw [hrows, withoutRowColumns_append, withoutRowColumns_of_unreserved hheader,
      withoutRowColumns_eq_nil hrow, List.append_nil]
  have hnames : withoutRowColumns computed = computed :=
    withoutRowColumns_of_isClear (isClear_iff.2 hcomputed)
  unfold withoutRowColumns at hfull hnames
  refine ⟨env_of_fullScope request mode computed, ?_⟩
  rw [withoutRowColumns, extendScope_columns, extendScope_columns,
    Scope.filter_foldl_headerWith, hfull, hnames]

theorem exists_inserts (hcomputed : forall name, name ∈ computed -> isReserved name = false) :
    exists rows more, Inserts (extendScope mode request.fullScope computed)
      (extendScope mode request.scope computed) request.scope.columns rows more := by
  rcases fullScope_columns request with ⟨rows, hrows, hrow⟩
  rcases foldl_headerWith_eq_append computed (request.scope.columns ++ rows) with
    ⟨more, hmore, hdistinct, hnames⟩
  have hunreserved : forall name, name ∈ request.scope.columns ++ more ->
      isReserved name = false := by
    intro name hname
    rcases List.mem_append.1 hname with hname | hname
    · exact hheader name hname
    · exact hcomputed name (hnames name hname)
  have hwide : (extendScope mode request.fullScope computed).columns =
      request.scope.columns ++ (rows ++ more) := by
    rw [extendScope_columns, hrows, hmore, List.append_assoc]
  have hhides := hides hheader mode fun name hname => isRowColumn_of_unreserved (hcomputed name hname)
  refine ⟨rows, more, hhides.env, hwide, ?_, hrow, hunreserved, hdistinct⟩
  rw [hhides.columns, hwide, withoutRowColumns_append, withoutRowColumns_append,
    withoutRowColumns_eq_nil hrow, List.nil_append, ← withoutRowColumns_append,
    withoutRowColumns_of_unreserved hunreserved]

/-- A selection that names no column of a row function and reaches past none selects the same
columns with and without them, none of which is reserved if it was not computed.  A position or a
range that succeeds does so only if it reaches past none. -/
theorem selectNames_hidden (hcomputed : forall name, name ∈ computed -> isRowColumn name = false)
    {node : Node} (hnames : namesRowColumn node = false) :
    (isSteady (extendScope mode request.fullScope computed) node = true ->
      Alike (selectNames (extendScope mode request.fullScope computed) node)
          (selectNames (extendScope mode request.scope computed) node) ∧
        forall names, selectNames (extendScope mode request.fullScope computed) node = .ok names ->
          forall name, name ∈ names -> isReserved name = true -> name ∈ computed) ∧
      (isPlacing node = true -> (forall name, name ∈ computed -> isReserved name = false) ->
        forall names, selectNames (extendScope mode request.fullScope computed) node = .ok names ->
          (selectNames (extendScope mode request.scope computed) node = .ok names <->
            isSteady (extendScope mode request.fullScope computed) node = true)) := by
  have hhides := hides hheader mode hcomputed
  constructor
  · intro hsteady
    have halike := selectNames_alike hhides hnames hsteady
    refine ⟨halike, ?_⟩
    intro names hselected name hname hreserved
    have hgives : Gives (fun names => forall name, name ∈ names ->
        name ∈ (extendScope mode request.scope computed).columns)
        (selectNames (extendScope mode request.scope computed) node) := selectNames_inScope node
    rw [halike.eq_ok hselected] at hgives
    rcases mem_extendScope_iff.1 (hgives name hname) with hold | hnew
    · rw [hheader name hold] at hreserved
      cases hreserved
    · exact hnew
  · intro hplacing hunreserved names hselected
    rcases exists_inserts hheader mode hunreserved with ⟨rows, more, hinserts⟩
    constructor
    · exact hinserts.isSteady hplacing hselected
    · exact fun hsteady => (selectNames_alike hhides hnames hsteady).eq_ok hselected

end Scopes

/-- A request to compute the number of rows of a table with one column. -/
def counted : Request where
  data := flat ["x"] [[.int 1], [.int 2]]
  fragments := [⟨.assignment "k" (.apply countFunction []), true, false, "k = n()"⟩]
  scope := Scope.ofColumns ["x"] Registry.standard Environment.empty

theorem selectNames_hidden_counted :
    Alike
        (selectNames (extendScope .transform counted.fullScope ["k"])
          (.call "c" [.identifier "k", .literal (.int 1)] [] false))
        (selectNames (extendScope .transform counted.scope ["k"])
          (.call "c" [.identifier "k", .literal (.int 1)] [] false)) ∧
      selectNames (extendScope .transform counted.fullScope ["k"]) (.literal (.int 2)) =
        .ok [countColumn] ∧
      selectNames (extendScope .transform counted.scope ["k"]) (.literal (.int 2)) ≠
        .ok [countColumn] := by
  have hheader : forall name, name ∈ counted.scope.columns -> isReserved name = false := by decide
  have hcomputed : forall name, name ∈ ["k"] -> isRowColumn name = false := by decide
  have hselected : selectNames (extendScope .transform counted.fullScope ["k"]) (.literal (.int 2)) =
      .ok [countColumn] := by
    rw [selectNames_position (by decide)]
    rfl
  refine ⟨((selectNames_hidden hheader .transform hcomputed (by decide)).1 (by decide)).1,
    hselected, ?_⟩
  intro hsame
  have hsteady := ((selectNames_hidden hheader .transform hcomputed (by decide)).2 (by decide)
    (by decide) _ hselected).1 hsame
  exact absurd hsteady (by decide)

end Request
end Wrangle
