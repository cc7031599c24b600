import Mathlib.Data.List.Forall2
import Wrangle.Compile.Assignment
import Wrangle.Proofs.Compile.Scoping

/-!
# Compilation and reserved columns

A fragment without reserved names compiles the same whether reserved columns are in
scope or not.  Only its errors may differ, which tell what there is to choose from.
-/

namespace Wrangle

theorem mapM_cons_eq {alpha beta : Type} (f : alpha -> Outcome beta) (first : alpha)
    (rest : List alpha) :
    (first :: rest).mapM f = f first >>= fun found => (rest.mapM f).map (found :: ·) :=
  List.mapM_cons

/-!
# Outcomes that agree
-/

def Agrees (x y : Outcome alpha) : Prop :=
  x.toOption = y.toOption

namespace Agrees

variable {alpha beta : Type} {x y z : Outcome alpha}

theorem rfl : Agrees x x := Eq.refl _

theorem symm (h : Agrees x y) : Agrees y x := Eq.symm h

theorem trans (h : Agrees x y) (h' : Agrees y z) : Agrees x z := Eq.trans h h'

theorem eq_ok (h : Agrees x y) {a : alpha} (hx : x = .ok a) : y = .ok a := by
  subst hx
  cases y with
  | error failure => cases h
  | ok b =>
      cases h
      exact Eq.refl _

theorem bind {f g : alpha -> Outcome beta} (h : Agrees x y)
    (hf : forall a, x = .ok a -> Agrees (f a) (g a)) : Agrees (x >>= f) (y >>= g) := by
  cases x with
  | error failure =>
      cases y with
      | error other => exact Eq.refl _
      | ok b => cases h
  | ok a =>
      rw [h.eq_ok (Eq.refl _)]
      exact hf a (Eq.refl _)

theorem of_ok_iff (h : forall a, x = .ok a <-> y = .ok a) : Agrees x y := by
  cases x with
  | ok a => rw [(h a).1 (Eq.refl _), Agrees]
  | error failure =>
      cases y with
      | ok b => cases (h b).2 (Eq.refl _)
      | error other => exact Eq.refl none

theorem both (h : Agrees x y) :
    (exists a, x = .ok a ∧ y = .ok a) ∨
      exists failure other, x = .error failure ∧ y = .error other := by
  cases x with
  | ok a => exact .inl ⟨a, Eq.refl _, h.eq_ok (Eq.refl _)⟩
  | error failure =>
      cases y with
      | ok b => cases h
      | error other => exact .inr ⟨failure, other, Eq.refl _, Eq.refl _⟩

theorem bind_of_map {gamma delta : Type} {w : Outcome beta} {f : alpha -> gamma}
    {g : beta -> gamma} (h : Agrees (x.map f) (w.map g)) {step : alpha -> Outcome delta}
    {next : beta -> Outcome delta}
    (hstep : forall a b, x = .ok a -> w = .ok b -> f a = g b -> Agrees (step a) (next b)) :
    Agrees (x >>= step) (w >>= next) := by
  cases x with
  | error failure =>
      cases w with
      | error other => exact Eq.refl none
      | ok b => cases h
  | ok a =>
      cases w with
      | error failure => cases h
      | ok b => exact hstep a b (Eq.refl _) (Eq.refl _) (Option.some.inj h)

theorem bind_of_image {gamma : Type} {w : Outcome beta} {g : beta -> alpha}
    (h : Agrees x (w.map g)) (step : alpha -> Outcome gamma) :
    Agrees (x >>= step) (w >>= fun b => step (g b)) := by
  apply (h.bind fun _ _ => rfl).trans
  cases w with
  | error failure => exact rfl
  | ok b => exact rfl

theorem map {f : alpha -> beta} (h : Agrees x y) : Agrees (x.map f) (y.map f) := by
  cases x with
  | error failure =>
      cases y with
      | error other => exact Eq.refl _
      | ok b => cases h
  | ok a =>
      rw [h.eq_ok (Eq.refl _)]
      exact rfl

theorem inFragment (h : Agrees x y) (source : String) :
    Agrees (Outcome.inFragment source x) (Outcome.inFragment source y) := by
  cases x with
  | error failure =>
      cases y with
      | error other => exact Eq.refl _
      | ok b => cases h
  | ok a =>
      rw [h.eq_ok (Eq.refl _)]
      exact rfl

theorem sequence {xs ys : List (Outcome alpha)}
    (h : xs.map Except.toOption = ys.map Except.toOption) : Agrees (xs.mapM id) (ys.mapM id) := by
  induction xs generalizing ys with
  | nil =>
      rw [List.map_nil, eq_comm, List.map_eq_nil_iff] at h
      rw [h]
      exact rfl
  | cons x rest ih =>
      cases ys with
      | nil => cases h
      | cons y others =>
          rw [List.map_cons, List.map_cons, List.cons.injEq] at h
          rw [List.mapM_cons, List.mapM_cons]
          apply bind h.1
          intro a _
          apply bind (ih h.2)
          intro found _
          exact rfl

theorem mapM {f g : alpha -> Outcome beta} {items : List alpha}
    (h : forall a, a ∈ items -> Agrees (f a) (g a)) : Agrees (items.mapM f) (items.mapM g) := by
  induction items with
  | nil => exact rfl
  | cons a rest ih =>
      rw [List.mapM_cons, List.mapM_cons]
      apply bind (h a (List.mem_cons_self ..))
      intro b _
      apply bind (ih fun a ha => h a (List.mem_cons_of_mem _ ha))
      intro others _
      exact rfl

end Agrees

/-!
# Scopes without reserved columns
-/

def Scope.visible (scope : Scope) : Scope :=
  { scope with columns := scope.visibleColumns }

def Scope.showing (scope : Scope) (columns : List String) (count : Nat) : Scope :=
  { scope with columns := columns, sortKeys := count }

def Unreserved (nodes : List Node) : Prop :=
  forall name, .identifier name ∈ nodes -> isReserved name = false

theorem Unreserved.sub {nodes some : List Node} (h : Unreserved nodes)
    (hsome : forall node, node ∈ some -> node ∈ nodes) : Unreserved some :=
  fun name hname => h name (hsome _ hname)

namespace Scope

variable {scope : Scope} {name : String}

theorem mem_visibleColumns_iff :
    name ∈ scope.visibleColumns <-> name ∈ scope.columns ∧ isReserved name = false := by
  simp [visibleColumns]

theorem contains_visible (h : isReserved name = false) :
    scope.visible.columns.contains name = scope.columns.contains name := by
  rw [Bool.eq_iff_iff, List.contains_iff_mem, List.contains_iff_mem]
  show name ∈ scope.visibleColumns <-> _
  rw [mem_visibleColumns_iff]
  simp [h]

theorem visible_visibleColumns : scope.visible.visibleColumns = scope.visibleColumns := by
  show (scope.columns.filter _).filter _ = scope.columns.filter _
  rw [List.filter_filter]
  simp

end Scope

namespace Compile

variable {scope : Scope} {mode : Mode}

/-!
# Special forms
-/

theorem lastNamed_map {alpha beta : Type} (f : alpha -> beta) (named : List (String × alpha)) :
    lastNamed (named.map (Prod.map id f)) = (lastNamed named).map (Prod.map id f) := by
  have hfold : forall (entries kept : List (String × alpha)),
      (entries.map (Prod.map id f)).foldl (fun kept entry =>
        if kept.any fun other => other.1 == entry.1 then
          kept.map fun other => if other.1 == entry.1 then entry else other
        else kept ++ [entry]) (kept.map (Prod.map id f)) =
      (entries.foldl (fun kept entry =>
        if kept.any fun other => other.1 == entry.1 then
          kept.map fun other => if other.1 == entry.1 then entry else other
        else kept ++ [entry]) kept).map (Prod.map id f) := by
    intro entries
    induction entries with
    | nil =>
        intro kept
        rfl
    | cons entry rest ih =>
        intro kept
        rw [List.map_cons, List.foldl_cons, List.foldl_cons, ← ih]
        congr 1
        rw [List.any_map]
        show (if kept.any (fun other => other.1 == entry.1) then _ else _) = _
        split
        · rw [List.map_map, List.map_map]
          apply List.map_congr_left
          intro other _
          simp only [Function.comp_apply, Prod.map_fst, id_eq]
          split <;> rfl
        · rw [List.map_append]
          rfl
  exact hfold named []

theorem lookup_map {alpha beta : Type} (f : alpha -> beta) (named : List (String × alpha))
    (name : String) : (named.map (Prod.map id f)).lookup name = (named.lookup name).map f := by
  induction named with
  | nil => rfl
  | cons entry rest ih =>
      rcases entry with ⟨other, x⟩
      rw [List.map_cons, Prod.map_apply, List.lookup_cons, List.lookup_cons, ih]
      show (match name == other with | true => _ | false => _) = _
      cases name == other <;> rfl

theorem placeNamed_map {alpha beta : Type} (f : alpha -> beta) (label : String)
    (parameters : List String) (index : Nat) (args : List alpha) (named : List (String × alpha)) :
    placeNamed label index (args.map f) (named.map (Prod.map id f)) parameters =
      (placeNamed label index args named parameters).map
        (Prod.map (List.map f) (List.map (Prod.map id f))) := by
  induction parameters generalizing index args named with
  | nil => rfl
  | cons name rest ih =>
      rw [placeNamed, placeNamed, lookup_map]
      cases named.lookup name with
      | none => exact ih (index + 1) args named
      | some arg =>
          dsimp only [Option.map_some]
          rw [List.length_map]
          split
          · rfl
          · rw [← ih, List.map_append, List.filter_map]
            rfl

theorem choice_agrees {args others : List (Outcome Expr)}
    {named more : List (String × Outcome Expr)}
    (hargs : args.map Except.toOption = others.map Except.toOption)
    (hnamed : named.map (Prod.map id Except.toOption) = more.map (Prod.map id Except.toOption)) :
    Agrees (choice args named) (choice others more) := by
  have hplaced : (placeNamed "if_else" 0 args (lastNamed named) choiceParameters).map
        (Prod.map (List.map Except.toOption) (List.map (Prod.map id Except.toOption))) =
      (placeNamed "if_else" 0 others (lastNamed more) choiceParameters).map
        (Prod.map (List.map Except.toOption) (List.map (Prod.map id Except.toOption))) := by
    rw [← placeNamed_map, ← placeNamed_map, ← lastNamed_map, ← lastNamed_map, hargs, hnamed]
  unfold choice
  cases hfirst : placeNamed "if_else" 0 args (lastNamed named) choiceParameters with
  | error failure =>
      rw [hfirst] at hplaced
      rw [map_eq_error_iff.1 hplaced.symm]
      exact .rfl
  | ok found =>
      rw [hfirst] at hplaced
      rcases map_eq_ok_iff.1 hplaced.symm with ⟨other, hsecond, heq⟩
      rcases found with ⟨placed, rest⟩
      rcases other with ⟨placed', rest'⟩
      simp only [Prod.map_apply, Prod.mk.injEq] at heq
      have hempty : rest'.isEmpty = rest.isEmpty := by
        have hlength := congrArg List.length heq.2
        rw [List.length_map, List.length_map] at hlength
        rw [Bool.eq_iff_iff, List.isEmpty_iff_length_eq_zero, List.isEmpty_iff_length_eq_zero,
          hlength]
      rw [hsecond, ok_bind, ok_bind]
      dsimp only
      rw [hempty]
      split
      · exact .rfl
      · have hplaced : List.Forall₂ Agrees placed placed' := by
          have hmaps : List.Forall₂ Eq (placed.map Except.toOption)
              (placed'.map Except.toOption) := by
            rw [List.forall₂_eq_eq_eq, heq.1]
          rwa [List.forall₂_map_left_iff, List.forall₂_map_right_iff] at hmaps
        -- only lists of three or four arguments make a choice
        rcases hplaced with _ | ⟨hc, _ | ⟨hy, _ | ⟨hn, _ | ⟨hm, _ | _⟩⟩⟩⟩
        · exact .rfl
        · exact .rfl
        · exact .rfl
        · apply hc.bind
          intro c _
          apply hy.bind
          intro y _
          apply hn.bind
          intro n _
          exact .rfl
        · apply hc.bind
          intro c _
          apply hy.bind
          intro y _
          apply hn.bind
          intro n _
          apply hm.bind
          intro m _
          exact .rfl
        · exact .rfl

theorem sequenceNamed_agrees {named more : List (String × Outcome Expr)}
    (h : named.map (Prod.map id Except.toOption) = more.map (Prod.map id Except.toOption)) :
    Agrees (sequenceNamed named) (sequenceNamed more) := by
  induction named generalizing more with
  | nil =>
      rw [List.map_nil, eq_comm, List.map_eq_nil_iff] at h
      rw [h]
      exact .rfl
  | cons entry rest ih =>
      cases more with
      | nil => cases h
      | cons other others =>
          rcases entry with ⟨name, x⟩
          rcases other with ⟨name', y⟩
          simp only [List.map_cons, Prod.map_apply, List.cons.injEq, Prod.mk.injEq, id_eq] at h
          rcases h with ⟨⟨rfl, hxy⟩, hrest⟩
          rw [sequenceNamed, sequenceNamed]
          apply Agrees.bind hxy
          intro e _
          apply (ih hrest).bind
          intro found _
          exact .rfl

/-!
# Expressions
-/

def SeesAlike (scope : Scope) (columns : List String) (nodes : List Node) : Prop :=
  forall name, .identifier name ∈ nodes -> columns.contains name = scope.columns.contains name

theorem SeesAlike.sub {columns : List String} {nodes some : List Node}
    (h : SeesAlike scope columns nodes) (hsome : forall node, node ∈ some -> node ∈ nodes) :
    SeesAlike scope columns some :=
  fun name hname => h name (hsome _ hname)

section Columns

variable {columns : List String} {count : Nat}

theorem name?_agrees {name : String} (h : columns.contains name = scope.columns.contains name) :
    Agrees (scope.name? name) ((scope.showing columns count).name? name) := by
  unfold Scope.name?
  show Agrees _ (if columns.contains name then _ else _)
  rw [h]
  split
  · exact .rfl
  · split
    · exact .rfl
    · split
      · rename_i f hf
        have hother : (scope.showing columns count).function? name = some f := hf
        rw [hother]
        exact .rfl
      · rename_i hf
        have hother : (scope.showing columns count).function? name = none := hf
        rw [hother]
        show Agrees (if scope.registry.contains name then _ else _)
          (if scope.registry.contains name then _ else _)
        split
        · exact .rfl
        · exact Eq.refl none

mutual

theorem expr_agrees {top : Bool} :
    forall node : Node, SeesAlike scope columns node.walk ->
      Agrees (expr scope mode top node) (expr (scope.showing columns count) mode top node)
  | .identifier name, h => by
      rw [expr, expr]
      show Agrees _ (if mode == .aggregate && scope.summaries.contains name then _ else _)
      split
      · exact .rfl
      · exact name?_agrees (h name (List.mem_singleton.2 rfl))
  | .literal value, _ => by
      rw [expr, expr]
      exact .rfl
  | .vector items, h => by
      rw [expr, expr]
      apply Agrees.map
      apply Agrees.sequence
      apply exprs_agree items
      apply h.sub
      intro node hn
      rw [Node.walk]
      exact List.mem_cons_of_mem _ hn
  | .tuple items, h => by
      rw [expr, expr]
      apply Agrees.map
      apply Agrees.sequence
      apply exprs_agree items
      apply h.sub
      intro node hn
      rw [Node.walk]
      exact List.mem_cons_of_mem _ hn
  | .range start stop, h => by
      rw [Node.walk] at h
      rw [expr, expr]
      apply (expr_agrees start (h.sub fun node hn => by simp [hn])).bind
      intro first _
      apply (expr_agrees stop (h.sub fun node hn => by simp [hn])).bind
      intro last _
      exact .rfl
  | .call head args kwargs true, h => by
      rw [Node.walk] at h
      rw [expr, expr]
      apply Agrees.bind .rfl
      intro f _
      apply (Agrees.sequence (exprs_agree args (h.sub fun node hn => by simp [hn]))).bind
      intro operands _
      exact .rfl
  | .call head args kwargs false, h => by
      rw [Node.walk] at h
      have hargs : SeesAlike scope columns (Node.walkAll args) := h.sub fun node hn => by simp [hn]
      have hkwargs : SeesAlike scope columns (Node.walkNamed kwargs) :=
        h.sub fun node hn => by simp [hn]
      rw [expr, expr]
      split
      · exact .rfl
      · split
        · exact choice_agrees (exprs_agree args hargs) (namedExprs_agree kwargs hkwargs)
        · split
          · split
            · exact .rfl
            · exact (clauses_agree args hargs).map
          · split
            · exact .rfl
            · apply Agrees.bind .rfl
              intro f _
              apply (Agrees.sequence (exprs_agree args hargs)).bind
              intro values _
              apply (sequenceNamed_agrees (namedExprs_agree kwargs hkwargs)).bind
              intro named _
              exact .rfl
  | .pair left right, _ => by
      rw [expr, expr]
      exact .rfl
  | .assignment target value, _ => by
      rw [expr, expr]
      exact .rfl
  | .interpolate inner, _ => by
      rw [expr, expr]
      exact .rfl
  | .splice items, _ => by
      rw [expr, expr]
      exact .rfl
  | .foreign value, _ => by
      rw [expr, expr]
      exact .rfl

theorem exprs_agree :
    forall nodes : List Node, SeesAlike scope columns (Node.walkAll nodes) ->
      (exprs scope mode nodes).map Except.toOption =
        (exprs (scope.showing columns count) mode nodes).map Except.toOption
  | [], _ => by
      rw [exprs, exprs]
  | node :: rest, h => by
      rw [Node.walkAll] at h
      rw [exprs, exprs, List.map_cons, List.map_cons,
        exprs_agree rest (h.sub fun node hn => by simp [hn])]
      congr 1
      exact expr_agrees node (h.sub fun node hn => by simp [hn])

theorem namedExprs_agree :
    forall nodes : List (String × Node), SeesAlike scope columns (Node.walkNamed nodes) ->
      (namedExprs scope mode nodes).map (Prod.map id Except.toOption) =
        (namedExprs (scope.showing columns count) mode nodes).map (Prod.map id Except.toOption)
  | [], _ => by
      rw [namedExprs, namedExprs]
  | (name, node) :: rest, h => by
      rw [Node.walkNamed] at h
      have hnode : (expr scope mode false node).toOption =
          (expr (scope.showing columns count) mode false node).toOption :=
        expr_agrees node (h.sub fun node hn => by simp [hn])
      rw [namedExprs, namedExprs, List.map_cons, List.map_cons, Prod.map_apply, Prod.map_apply,
        hnode, namedExprs_agree rest (h.sub fun node hn => by simp [hn])]

theorem clauses_agree :
    forall nodes : List Node, SeesAlike scope columns (Node.walkAll nodes) ->
      Agrees (clauses scope mode nodes) (clauses (scope.showing columns count) mode nodes)
  | [], _ => by
      rw [clauses, clauses]
      exact .rfl
  | node :: rest, h => by
      rw [Node.walkAll] at h
      cases node with
      | pair condition value =>
          rw [Node.walk] at h
          have hvalue : Agrees (expr scope mode false value)
              (expr (scope.showing columns count) mode false value) :=
            expr_agrees value (h.sub fun node hn => by simp [hn])
          -- the clause that always holds ends the list
          by_cases htrue : condition = .literal (.bool true)
          · subst htrue
            rw [clauses, clauses]
            apply hvalue.bind
            intro otherwise _
            exact .rfl
          · rw [clauses, clauses]
            · apply (expr_agrees condition (h.sub fun node hn => by simp [hn])).bind
              intro test _
              apply hvalue.bind
              intro result _
              apply (clauses_agree rest (h.sub fun node hn => by simp [hn])).bind
              intro found _
              exact .rfl
            · exact htrue
            · exact htrue
      | _ =>
          rw [clauses, clauses]
          · exact .rfl
          all_goals nofun

end

end Columns

theorem expr_visible {top : Bool} (node : Node) (h : Unreserved node.walk) :
    Agrees (expr scope mode top node) (expr scope.visible mode top node) :=
  expr_agrees node fun name hname => Scope.contains_visible (h name hname)

/-!
# Selections by name
-/

mutual

/-- A selection that names its columns or describes their names, and names no reserved one.
Positions and ranges depend on what else is in scope. -/
def picksByName : Node -> Bool
  | .identifier name => !isReserved name
  | .literal (.str name) => !isReserved name
  | .literal (.int _) => false
  | .range _ _ => false
  | .call _ [operand] _ true => picksByName operand
  | .call head args _ false => (SelectionHelper.ofName? head).isSome || allPickByName args
  | .vector items => allPickByName items
  | .tuple items => allPickByName items
  | _ => true

def allPickByName : List Node -> Bool
  | [] => true
  | node :: rest => picksByName node && allPickByName rest

end

theorem knownColumn_visible {name : String} (h : isReserved name = false) :
    Agrees (knownColumn scope name) (knownColumn scope.visible name) := by
  unfold knownColumn
  rw [Scope.contains_visible h]
  split
  · exact .rfl
  · exact Eq.refl none

theorem helperColumns_visible (helper : SelectionHelper) (head : String) (args : List Node) :
    helperColumns scope.visible helper head args = helperColumns scope helper head args := by
  unfold helperColumns
  rw [Scope.visible_visibleColumns]
  rfl

mutual

theorem columnSets_visible :
    forall node : Node, picksByName node = true ->
      Agrees (columnSets scope node) (columnSets scope.visible node)
  | .identifier name, h => by
      rw [columnSets, columnSets]
      exact (knownColumn_visible (by simpa [picksByName] using h)).map
  | .literal value, h => by
      cases value with
      | str name =>
          rw [columnSets, columnSets]
          · exact (knownColumn_visible (by simpa [picksByName] using h)).map
          all_goals nofun
      | int n => cases h
      | _ =>
          rw [columnSets, columnSets]
          · exact .rfl
          all_goals nofun
  | .call head [operand] kwargs true, h => by
      rw [picksByName] at h
      rw [columnSets, columnSets]
      split
      · exact (columnSets_visible operand h).map
      · exact .rfl
  | .call head args kwargs false, h => by
      rw [columnSets, columnSets]
      split
      · rw [helperColumns_visible]
        exact .rfl
      · rename_i hhelper
        have hargs : allPickByName args = true := by
          rw [picksByName, hhelper] at h
          exact h
        split
        · exact columnSetsOf_visible args hargs .empty
        · exact .rfl
  | .vector items, h => by
      rw [picksByName] at h
      rw [columnSets, columnSets]
      exact columnSetsOf_visible items h .empty
  | .tuple items, h => by
      rw [picksByName] at h
      rw [columnSets, columnSets]
      exact columnSetsOf_visible items h .empty
  | .range _ _, h => by cases h
  | .call _ [] _ true, _ => .rfl
  | .call _ (_ :: _ :: _) _ true, _ => .rfl
  | .pair _ _, _ => .rfl
  | .assignment _ _, _ => .rfl
  | .interpolate _, _ => .rfl
  | .splice _, _ => .rfl
  | .foreign _, _ => .rfl

theorem columnSetsOf_visible :
    forall nodes : List Node, allPickByName nodes = true -> forall sets : ColumnSets,
      Agrees (columnSetsOf scope sets nodes) (columnSetsOf scope.visible sets nodes)
  | [], _, sets => by
      rw [columnSetsOf, columnSetsOf]
      exact .rfl
  | node :: rest, h, sets => by
      rw [allPickByName, Bool.and_eq_true] at h
      rw [columnSetsOf, columnSetsOf]
      apply (columnSets_visible node h.1).bind
      intro more _
      exact columnSetsOf_visible rest h.2 _

end

theorem selectNames_visible {node : Node} (h : picksByName node = true) :
    Agrees (selectNames scope node) (selectNames scope.visible node) := by
  unfold selectNames
  apply (columnSets_visible node h).bind
  intro sets _
  rw [Scope.visible_visibleColumns]
  exact .rfl

theorem unreserved_of_selectNames {node : Node} {columns : List String}
    (h : selectNames scope.visible node = .ok columns) {column : String}
    (hcolumn : column ∈ columns) : isReserved column = false := by
  have hvisible : forall name, name ∈ scope.visible.columns -> isReserved name = false :=
    fun _ hname => (Scope.mem_visibleColumns_iff.1 hname).2
  rcases bind_eq_ok_iff.1 h with ⟨sets, hsets, h⟩
  cases h
  have hscope : sets.InScope scope.visible := by
    have hgives : Gives (ColumnSets.InScope scope.visible) (columnSets scope.visible node) :=
      columnSets_inScope node
    rw [hsets] at hgives
    exact hgives
  have hmem := (List.mem_filter.1 hcolumn).1
  split at hmem
  · exact hvisible column (mem_visibleColumns hmem)
  · exact hvisible column (hscope.1 column hmem)

/-!
# Computed columns
-/

/-- A fragment that chooses the columns of several computations by name, if it chooses any. -/
def choosesByName : Node -> Bool
  | .call "across" args kwargs false =>
      match appendNamed args (lastNamed kwargs) acrossParameters with
      | ([columns, _], []) => picksByName columns
      | _ => true
  | _ => true

theorem across_visible {args : List Node} {kwargs : List (String × Node)}
    (h : choosesByName (.call "across" args kwargs false) = true) :
    Agrees (across scope mode args kwargs) (across scope.visible mode args kwargs) := by
  rw [choosesByName] at h
  unfold across
  split
  · rename_i columnsNode functionsNode hargs
    rw [hargs] at h
    have hselect : Agrees (selectNames scope columnsNode) (selectNames scope.visible columnsNode) :=
      selectNames_visible h
    apply hselect.bind
    intro columns hcolumns
    apply Agrees.bind .rfl
    intro functions _
    apply Agrees.mapM
    rintro ⟨column, name⟩ hpair
    have hcolumn : isReserved column = false := by
      rcases List.mem_flatMap.1 hpair with ⟨other, hother, hpair⟩
      rcases List.mem_map.1 hpair with ⟨_, _, heq⟩
      cases heq
      exact unreserved_of_selectNames (hselect.eq_ok hcolumns) hother
    have hnode : Unreserved (Node.apply name [.identifier column]).walk := by
      intro other hother
      simp [Node.apply, Node.walk, Node.walkAll, Node.walkNamed] at hother
      rw [hother]
      exact hcolumn
    apply (expr_visible _ hnode).bind
    intro e _
    exact .rfl
  · exact .rfl

theorem assigns_visible {node : Node} (h : Unreserved node.walk)
    (hacross : choosesByName node = true) :
    Agrees (assigns scope mode node) (assigns scope.visible mode node) := by
  unfold assigns
  split
  · rename_i target value
    split
    · exact .rfl
    · have hvalue : Unreserved value.walk := h.sub fun node hn => by
        rw [Node.walk]
        exact List.mem_cons_of_mem _ hn
      apply (expr_visible value hvalue).bind
      intro e _
      exact .rfl
  · exact across_visible hacross
  · apply Agrees.bind .rfl
    intro name _
    apply (expr_visible node h).bind
    intro e _
    exact .rfl

/-!
# Assignments
-/

theorem expr_of_isAcross {top : Bool} {node : Node} (h : isAcross node = true) :
    exists failure, expr scope mode top node = .error failure := by
  cases node with
  | call head args kwargs isOperator =>
      have hhead : head = "across" := by simpa [isAcross] using h
      subst hhead
      cases isOperator with
      | true =>
          have hnone : exists failure, operatorFunction "across" args.length = .error failure := by
            unfold operatorFunction
            split <;> exact ⟨_, rfl⟩
          rcases hnone with ⟨failure, hnone⟩
          rw [expr, hnone]
          exact ⟨failure, rfl⟩
      | false =>
          rw [expr]
          exact ⟨_, rfl⟩
  | _ => cases h

theorem assignment_agrees (name : String) (tree : Node) :
    Agrees (assigns scope mode (.assignment name tree))
      ((expr scope mode true tree).map fun e =>
        [{ name := name, expr := e, source := none }]) := by
  rw [assigns]
  split
  · rename_i hacross
    rcases expr_of_isAcross hacross with ⟨failure, hfailure⟩
    rw [hfailure]
    exact Eq.refl none
  · cases expr scope mode true tree <;> exact .rfl

end Compile
end Wrangle
