import Wrangle.Compile.Keys
import Wrangle.Dataset.Basic
import Wrangle.Proofs.Outcome

/-!
# Properties of compiled expressions

A property of expressions that the compilation of each kind of node keeps holds of
what a whole tree compiles to.
-/

namespace Wrangle
namespace Compile

abbrev Gives (good : alpha -> Prop) (outcome : Outcome alpha) : Prop :=
  Ends (fun _ => True) good outcome

theorem gives_any (outcome : Outcome alpha) : Gives (fun _ => True) outcome := by
  cases outcome <;> trivial

/-!
# Special forms
-/

theorem mem_putEntry {entries : List (String × alpha)} {entry other : String × alpha}
    (h : other ∈ Dataset.putEntry entries entry) : other ∈ entries ∨ other = entry := by
  unfold Dataset.putEntry at h
  split at h
  · rcases List.mem_map.1 h with ⟨old, hold, heq⟩
    split at heq
    · exact Or.inr heq.symm
    · exact Or.inl (heq ▸ hold)
  · rcases List.mem_append.1 h with h | h
    · exact Or.inl h
    · exact Or.inr (List.mem_singleton.1 h)

theorem mem_foldl_putEntry {items : List (String × alpha)} {other : String × alpha} :
    forall {entries : List (String × alpha)},
      other ∈ items.foldl Dataset.putEntry entries -> other ∈ entries ∨ other ∈ items := by
  induction items with
  | nil =>
      intro entries h
      exact Or.inl h
  | cons first rest ih =>
      intro entries h
      rcases ih h with h | h
      · rcases mem_putEntry h with h | rfl
        · exact Or.inl h
        · exact Or.inr (List.mem_cons_self ..)
      · exact Or.inr (List.mem_cons_of_mem _ h)

theorem mem_lastNamed {named : List (String × alpha)} {entry : String × alpha}
    (h : entry ∈ lastNamed named) : entry ∈ named := by
  have hfold : lastNamed named = named.foldl Dataset.putEntry [] := rfl
  rw [hfold] at h
  rcases mem_foldl_putEntry h with h | h
  · cases h
  · exact h

theorem mem_of_lookup {named : List (String × alpha)} {name : String} {x : alpha}
    (h : named.lookup name = some x) : (name, x) ∈ named := by
  rcases List.lookup_eq_some_iff.1 h with ⟨before, after, rfl, _⟩
  exact List.mem_append_right _ (List.mem_cons_self ..)

theorem placeNamed_gives {good : alpha -> Prop} {label : String} {parameters : List String}
    {index : Nat} {args : List alpha} {named : List (String × alpha)}
    (hargs : forall x, x ∈ args -> good x) (hnamed : forall x, x ∈ named -> good x.2) :
    Gives (fun out => forall x, x ∈ out.1 -> good x)
      (placeNamed label index args named parameters) := by
  induction parameters generalizing index args named with
  | nil => exact hargs
  | cons name rest ih =>
      rw [placeNamed]
      split
      · exact ih hargs hnamed
      · rename_i arg harg
        split
        · trivial
        · apply ih
          · intro x hx
            rcases List.mem_append.1 hx with hx | hx
            · exact hargs x hx
            · rw [List.mem_singleton.1 hx]
              exact hnamed _ (mem_of_lookup harg)
          · intro x hx
            exact hnamed x (List.mem_filter.1 hx).1

theorem unusable_gives {good : alpha -> Prop} (node : Node) (before after : String)
    (hint : Option String) : Gives good (unusable node before after hint : Outcome alpha) := by
  unfold unusable
  apply Ends.bind_any (gives_any _)
  intro text
  trivial

theorem sequenceNamed_gives {good : Expr -> Prop} {named : List (String × Outcome Expr)}
    (h : forall x, x ∈ named -> Gives good x.2) :
    Gives (fun out => forall e, e ∈ out -> good e.2) (sequenceNamed named) := by
  induction named with
  | nil =>
      intro e he
      cases he
  | cons entry rest ih =>
      rw [sequenceNamed]
      apply Ends.bind (h _ (List.mem_cons_self ..))
      intro e he
      apply Ends.bind (ih fun x hx => h x (List.mem_cons_of_mem _ hx))
      intro others hothers x hx
      rcases List.mem_cons.1 hx with rfl | hx
      · exact he
      · exact hothers x hx

/-!
# Trees
-/

/-- A property of expressions that compilation keeps, for trees whose nodes fit. -/
structure Builds (scope : Scope) (mode : Mode) (fits : Node -> Prop) (good : Expr -> Prop) :
    Prop where
  identifier : forall {name top}, fits (.identifier name) ->
    Gives good (expr scope mode top (.identifier name))
  literal : forall {value}, fits (.literal value) -> good (.literal value)
  missing : good (.literal .missing)
  values : forall {items es}, fits (.vector items) ∨ fits (.tuple items) ->
    (forall node, node ∈ Node.walkAll items -> fits node) ->
    (exprs scope mode items).mapM id = .ok es -> (forall e, e ∈ es -> good e) ->
    good (.values es)
  range : forall {start stop first last top}, fits (.range start stop) -> good first -> good last ->
    good (callOf scope mode top ":" .span [first, last] [])
  call : forall {head args kwargs isOperator top f es named},
    fits (.call head args kwargs isOperator) -> (forall e, e ∈ es -> good e) ->
    (forall e, e ∈ named -> good e.2) -> good (callOf scope mode top head f es named)
  rowFunction : forall {head args kwargs}, fits (.call head args kwargs false) ->
    rowFunctions.contains head = true ->
    Gives good (rowFunction mode head (args.isEmpty && kwargs.isEmpty))
  ifElse : forall {condition yes no miss}, good condition -> good yes -> good no -> good miss ->
    good (.ifElse condition yes no miss)
  caseWhen : forall {clauses otherwise},
    (forall e, e ∈ clauses -> good e.1 ∧ good e.2) -> (forall e, e ∈ otherwise -> good e) ->
    good (.caseWhen clauses otherwise)

section Builds

variable {scope : Scope} {mode : Mode} {fits : Node -> Prop} {good : Expr -> Prop}

theorem choice_gives (h : Builds scope mode fits good) {args : List (Outcome Expr)}
    {named : List (String × Outcome Expr)} (hargs : forall x, x ∈ args -> Gives good x)
    (hnamed : forall x, x ∈ named -> Gives good x.2) : Gives good (choice args named) := by
  unfold choice
  apply Ends.bind (placeNamed_gives hargs fun x hx => hnamed x (mem_lastNamed hx))
  rintro ⟨placed, rest⟩ hplaced
  dsimp only at hplaced ⊢
  split
  · trivial
  · split
    · rename_i condition yes no
      apply Ends.bind (hplaced condition (by simp))
      intro c hc
      apply Ends.bind (hplaced yes (by simp))
      intro y hy
      apply Ends.bind (hplaced no (by simp))
      intro n hn
      exact h.ifElse hc hy hn h.missing
    · rename_i condition yes no miss
      apply Ends.bind (hplaced condition (by simp))
      intro c hc
      apply Ends.bind (hplaced yes (by simp))
      intro y hy
      apply Ends.bind (hplaced no (by simp))
      intro n hn
      apply Ends.bind (hplaced miss (by simp))
      intro m hm
      exact h.ifElse hc hy hn hm
    · trivial

theorem values_gives (h : Builds scope mode fits good) {items : List Node}
    (hitems : fits (.vector items) ∨ fits (.tuple items))
    (hwalk : forall node, node ∈ Node.walkAll items -> fits node)
    (hgood : forall x, x ∈ exprs scope mode items -> Gives good x) :
    Gives good (((exprs scope mode items).mapM id).map .values) := by
  have hall : Gives (fun es => forall e, e ∈ es -> good e) ((exprs scope mode items).mapM id) :=
    Ends.mapM hgood
  cases hfound : (exprs scope mode items).mapM id with
  | error failure => trivial
  | ok es =>
      rw [hfound] at hall
      exact h.values hitems hwalk hfound hall

mutual

theorem expr_gives (h : Builds scope mode fits good) {top : Bool} :
    forall node : Node, (forall inner, inner ∈ node.walk -> fits inner) ->
      Gives good (expr scope mode top node)
  | .identifier name, hfits => h.identifier (hfits _ (by simp [Node.walk]))
  | .literal value, hfits => by
      rw [expr]
      exact h.literal (hfits _ (by simp [Node.walk]))
  | .vector items, hfits => by
      rw [Node.walk, List.forall_mem_cons] at hfits
      rw [expr]
      exact values_gives h (Or.inl hfits.1) hfits.2 (exprs_gives h items hfits.2)
  | .tuple items, hfits => by
      rw [Node.walk, List.forall_mem_cons] at hfits
      rw [expr]
      exact values_gives h (Or.inr hfits.1) hfits.2 (exprs_gives h items hfits.2)
  | .range start stop, hfits => by
      rw [Node.walk, List.forall_mem_cons, List.forall_mem_append] at hfits
      rw [expr]
      apply Ends.bind (expr_gives h start hfits.2.1)
      intro first hfirst
      apply Ends.bind (expr_gives h stop hfits.2.2)
      intro last hlast
      exact h.range hfits.1 hfirst hlast
  | .call head args kwargs true, hfits => by
      rw [Node.walk, List.forall_mem_cons, List.forall_mem_append] at hfits
      rw [expr]
      apply Ends.bind_any (gives_any _)
      intro f
      apply Ends.bind (Ends.mapM (exprs_gives h args hfits.2.1))
      intro operands hoperands
      exact h.call hfits.1 hoperands fun e he => by cases he
  | .call head args kwargs false, hfits => by
      rw [Node.walk, List.forall_mem_cons, List.forall_mem_append] at hfits
      rcases hfits with ⟨hcall, hargs, hkwargs⟩
      rw [expr]
      split
      · rename_i hhead
        exact h.rowFunction hcall hhead
      · split
        · exact choice_gives h (exprs_gives h args hargs) (namedExprs_gives h kwargs hkwargs)
        · split
          · split
            · trivial
            · exact Ends.map (clauses_gives h args hargs) fun _ hfound =>
                h.caseWhen hfound.1 hfound.2
          · split
            · trivial
            · apply Ends.bind_any (gives_any _)
              intro f
              apply Ends.bind (Ends.mapM (exprs_gives h args hargs))
              intro values hvalues
              apply Ends.bind (sequenceNamed_gives (namedExprs_gives h kwargs hkwargs))
              intro named hnamed
              exact h.call hcall hvalues hnamed
  | .pair left right, _ => by
      rw [expr]
      exact unusable_gives _ _ _ _
  | .assignment target value, _ => by
      rw [expr]
      exact unusable_gives _ _ _ _
  | .interpolate inner, _ => by
      rw [expr]
      exact unusable_gives _ _ _ _
  | .splice items, _ => by
      rw [expr]
      exact unusable_gives _ _ _ _
  | .foreign value, _ => by
      rw [expr]
      trivial

theorem exprs_gives (h : Builds scope mode fits good) :
    forall nodes : List Node, (forall node, node ∈ Node.walkAll nodes -> fits node) ->
      forall x, x ∈ exprs scope mode nodes -> Gives good x
  | [], _, x, hx => by
      rw [exprs] at hx
      cases hx
  | node :: rest, hfits, x, hx => by
      rw [Node.walkAll, List.forall_mem_append] at hfits
      rw [exprs] at hx
      rcases List.mem_cons.1 hx with rfl | hx
      · exact expr_gives h node hfits.1
      · exact exprs_gives h rest hfits.2 x hx

theorem namedExprs_gives (h : Builds scope mode fits good) :
    forall nodes : List (String × Node),
      (forall node, node ∈ Node.walkNamed nodes -> fits node) ->
      forall x, x ∈ namedExprs scope mode nodes -> Gives good x.2
  | [], _, x, hx => by
      rw [namedExprs] at hx
      cases hx
  | (name, node) :: rest, hfits, x, hx => by
      rw [Node.walkNamed, List.forall_mem_append] at hfits
      rw [namedExprs] at hx
      rcases List.mem_cons.1 hx with rfl | hx
      · exact expr_gives h node hfits.1
      · exact namedExprs_gives h rest hfits.2 x hx

theorem clauses_gives (h : Builds scope mode fits good) :
    forall nodes : List Node, (forall node, node ∈ Node.walkAll nodes -> fits node) ->
      Gives (fun found => (forall e, e ∈ found.1 -> good e.1 ∧ good e.2) ∧
        (forall e, e ∈ found.2 -> good e)) (clauses scope mode nodes)
  | [], _ => by
      rw [clauses]
      constructor
      · intro e he
        cases he
      · intro e he
        cases he
  | node :: rest, hfits => by
      rw [Node.walkAll, List.forall_mem_append] at hfits
      rcases hfits with ⟨hnode, hrest⟩
      cases node with
      | pair condition value =>
          rw [Node.walk, List.forall_mem_cons, List.forall_mem_append] at hnode
          have hvalue : Gives good (expr scope mode false value) := expr_gives h value hnode.2.2
          -- the clause that always holds ends the list
          by_cases htrue : condition = .literal (.bool true)
          · subst htrue
            rw [clauses]
            apply Ends.bind hvalue
            intro otherwise hotherwise
            constructor
            · intro e he
              cases he
            · intro e he
              rw [← Option.mem_some.1 he]
              exact hotherwise
          · rw [clauses]
            · apply Ends.bind (expr_gives h condition hnode.2.1)
              intro test htest
              apply Ends.bind hvalue
              intro result hresult
              apply Ends.bind (clauses_gives h rest hrest)
              rintro ⟨others, otherwise⟩ ⟨hothers, hotherwise⟩
              constructor
              · intro e he
                rcases List.mem_cons.1 he with rfl | he
                · exact ⟨htest, hresult⟩
                · exact hothers e he
              · exact hotherwise
            · exact htrue
      | _ => exact unusable_gives _ _ _ _

end

end Builds

end Compile

/-!
# Columns that expressions mention

Compilation looks names up among the columns in scope, so the expression that it
gives mentions no others.  The columns for the number of rows and for row numbers
are the exception: a fragment that calls for them mentions them unasked.
-/

namespace Expr

/-!
# Mentioned columns
-/

mutual

def mentions : Expr -> List String
  | column name => [name]
  | literal _ => []
  | values items => mentionsAll items
  | functionRef _ _ => []
  | broadcast _ _ args kwargs => mentionsAll args ++ mentionsNamed kwargs
  | apply _ _ args kwargs => mentionsAll args ++ mentionsNamed kwargs
  | groupSize => []
  | first inner => mentions inner
  | ifElse condition yes no miss =>
      mentions condition ++ mentions yes ++ mentions no ++ mentions miss
  | caseWhen clauses none => mentionsClauses clauses
  | caseWhen clauses (some otherwise) => mentionsClauses clauses ++ mentions otherwise

def mentionsAll : List Expr -> List String
  | [] => []
  | e :: rest => mentions e ++ mentionsAll rest

def mentionsNamed : List (String × Expr) -> List String
  | [] => []
  | (_, e) :: rest => mentions e ++ mentionsNamed rest

def mentionsClauses : List (Expr × Expr) -> List String
  | [] => []
  | (condition, value) :: rest => mentions condition ++ mentions value ++ mentionsClauses rest

end

attribute [local simp] mentions mentionsAll mentionsNamed mentionsClauses

def Within (names : List String) (e : Expr) : Prop :=
  forall name, name ∈ e.mentions -> name ∈ names

theorem mem_mentionsAll {name : String} {items : List Expr} :
    name ∈ mentionsAll items <-> exists e, e ∈ items ∧ name ∈ e.mentions := by
  induction items with
  | nil => simp [mentionsAll]
  | cons e rest ih => simp [mentionsAll, ih]

theorem mem_mentionsNamed {name : String} {items : List (String × Expr)} :
    name ∈ mentionsNamed items <-> exists e, e ∈ items ∧ name ∈ e.2.mentions := by
  induction items with
  | nil => simp [mentionsNamed]
  | cons entry rest ih => simp [mentionsNamed, ih]

theorem mem_mentionsClauses {name : String} {items : List (Expr × Expr)} :
    name ∈ mentionsClauses items <->
      exists e, e ∈ items ∧ (name ∈ e.1.mentions ∨ name ∈ e.2.mentions) := by
  induction items with
  | nil => simp [mentionsClauses]
  | cons entry rest ih => simp [mentionsClauses, ih, or_assoc]

variable {names : List String}

theorem Within.mono {more : List String} {e : Expr} (h : e.Within names)
    (hmore : forall name, name ∈ names -> name ∈ more) : e.Within more :=
  fun name hname => hmore name (h name hname)

theorem within_column {name : String} (h : name ∈ names) : (column name).Within names := by
  intro other hother
  rw [mentions, List.mem_singleton] at hother
  rw [hother]
  exact h

theorem within_first {inner : Expr} (h : inner.Within names) : (first inner).Within names := by
  intro name hname
  rw [mentions] at hname
  exact h name hname

theorem within_values {items : List Expr} (h : forall e, e ∈ items -> e.Within names) :
    (values items).Within names := by
  intro name hname
  rw [mentions, mem_mentionsAll] at hname
  rcases hname with ⟨e, he, hname⟩
  exact h e he name hname

theorem within_ifElse {condition yes no miss : Expr} (hc : condition.Within names)
    (hy : yes.Within names) (hn : no.Within names) (hm : miss.Within names) :
    (ifElse condition yes no miss).Within names := by
  intro name hname
  simp only [mentions, List.mem_append] at hname
  rcases hname with ((hname | hname) | hname) | hname
  · exact hc name hname
  · exact hy name hname
  · exact hn name hname
  · exact hm name hname

theorem within_caseWhen {clauses : List (Expr × Expr)} {otherwise : Option Expr}
    (hclauses : forall e, e ∈ clauses -> e.1.Within names ∧ e.2.Within names)
    (hotherwise : forall e, e ∈ otherwise -> e.Within names) :
    (caseWhen clauses otherwise).Within names := by
  intro name hname
  have hall : name ∈ mentionsClauses clauses -> name ∈ names := by
    intro hname
    rcases mem_mentionsClauses.1 hname with ⟨e, he, hname | hname⟩
    · exact (hclauses e he).1 name hname
    · exact (hclauses e he).2 name hname
  cases otherwise with
  | none => exact hall (by simpa [mentions] using hname)
  | some e =>
      rw [mentions, List.mem_append] at hname
      rcases hname with hname | hname
      · exact hall hname
      · exact hotherwise e rfl name hname

end Expr

namespace Compile

open Wrangle.Expr

section

variable {names : List String}

theorem callOf_within {scope : Scope} {mode : Mode} {top : Bool} {head : String} {f : Function}
    {args : List Expr} {kwargs : List (String × Expr)}
    (hargs : forall e, e ∈ args -> e.Within names)
    (hkwargs : forall e, e ∈ kwargs -> e.2.Within names) :
    (callOf scope mode top head f args kwargs).Within names := by
  intro name hname
  have hmentioned : name ∈ mentionsAll args ++ mentionsNamed kwargs := by
    unfold callOf at hname
    split at hname
    · simpa only [mentions] using hname
    · simpa only [mentions] using hname
  rcases List.mem_append.1 hmentioned with h | h
  · rcases mem_mentionsAll.1 h with ⟨e, he, hname⟩
    exact hargs e he name hname
  · rcases mem_mentionsNamed.1 h with ⟨e, he, hname⟩
    exact hkwargs e he name hname

theorem within_literal (value : Value) : (literal value).Within names := by
  intro name hname
  simp [mentions] at hname

/-!
# Trees
-/

/-- What names have to hold for the nodes of a tree: the columns in scope, and the reserved
columns that the nodes call for. -/
structure Covers (names : List String) (scope : Scope) (nodes : List Node) : Prop where
  columns : forall name, name ∈ scope.columns -> name ∈ names
  summaries : forall name, name ∈ scope.summaries -> name ∈ names
  count : forall node, node ∈ nodes -> node.isBareCall countFunction = true -> countColumn ∈ names
  rowNumber : forall node, node ∈ nodes -> node.isBareCall rowNumberFunction = true ->
    rowNumberColumn ∈ names

theorem Covers.sub {scope : Scope} {nodes some : List Node} (h : Covers names scope nodes)
    (hsome : forall node, node ∈ some -> node ∈ nodes) : Covers names scope some where
  columns := h.columns
  summaries := h.summaries
  count := fun node hnode => h.count node (hsome node hnode)
  rowNumber := fun node hnode => h.rowNumber node (hsome node hnode)

/-- What names have to hold for a single node. -/
structure CoversNode (names : List String) (scope : Scope) (node : Node) : Prop where
  column : forall name, node = .identifier name -> name ∈ scope.columns -> name ∈ names
  summary : forall name, node = .identifier name -> name ∈ scope.summaries -> name ∈ names
  count : node.isBareCall countFunction = true -> countColumn ∈ names
  rowNumber : node.isBareCall rowNumberFunction = true -> rowNumberColumn ∈ names

theorem Covers.node {scope : Scope} {nodes : List Node} (h : Covers names scope nodes)
    {node : Node} (hnode : node ∈ nodes) : CoversNode names scope node where
  column := fun name _ => h.columns name
  summary := fun name _ => h.summaries name
  count := h.count node hnode
  rowNumber := h.rowNumber node hnode

theorem name?_within {scope : Scope} {name : String} (h : name ∈ scope.columns -> name ∈ names) :
    Gives (Within names) (scope.name? name) := by
  unfold Scope.name?
  split
  · rename_i hname
    exact within_column (h (by simpa using hname))
  · split
    · trivial
    · split
      · intro other hother
        simp [mentions] at hother
      · split
        · apply Ends.map_any (gives_any _)
          intro f other hother
          simp [mentions] at hother
        · trivial

theorem rowFunction_within {scope : Scope} {mode : Mode} {head : String} {args : List Node}
    {kwargs : List (String × Node)} (h : CoversNode names scope (.call head args kwargs false))
    (hhead : rowFunctions.contains head = true) :
    Gives (Within names) (rowFunction mode head (args.isEmpty && kwargs.isEmpty)) := by
  unfold rowFunction
  split
  · trivial
  · rename_i hbare
    have hbare : args = [] ∧ kwargs = [] := by simpa using hbare
    rcases hbare with ⟨rfl, rfl⟩
    split
    · rename_i hcount
      split
      · intro name hname
        simp [mentions] at hname
      · exact within_column (h.count hcount)
    · rename_i hcount
      have hnumber : (head == rowNumberFunction) = true := by
        simp [rowFunctions] at hhead hcount ⊢
        exact hhead.resolve_left hcount
      exact within_column (h.rowNumber hnumber)

theorem builds_within (names : List String) (scope : Scope) (mode : Mode) :
    Builds scope mode (CoversNode names scope) (Within names) where
  identifier := by
    intro name top h
    rw [expr]
    split
    · rename_i hsummary
      have hname : name ∈ scope.summaries := by
        simp at hsummary
        exact hsummary.2
      exact within_first (within_column (h.summary name rfl hname))
    · exact name?_within (h.column name rfl)
  literal := fun _ => within_literal _
  missing := within_literal _
  values := fun _ _ _ hes => within_values hes
  range := by
    intro start stop first last top _ hfirst hlast
    apply callOf_within
    · intro e he
      simp at he
      rcases he with rfl | rfl
      · exact hfirst
      · exact hlast
    · intro e he
      cases he
  call := fun _ => callOf_within
  rowFunction := rowFunction_within
  ifElse := within_ifElse
  caseWhen := within_caseWhen

theorem expr_within {scope : Scope} {mode : Mode} {top : Bool} (node : Node)
    (h : Covers names scope node.walk) : Gives (Within names) (expr scope mode top node) :=
  expr_gives (builds_within names scope mode) node fun _ hinner => h.node hinner

end

end Compile
end Wrangle
