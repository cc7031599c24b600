import Mathlib.Logic.Basic
import Wrangle.Proofs.Compile.Agreement
import Wrangle.Proofs.Dataset.Shape

/-!
# Arguments of special forms and their parameters

A special form moves its keywords behind its positional arguments, in the order of its
parameters, and then counts.  Where each parameter is supplied once, each argument gets
its own role.  Where a parameter has nothing and a later one makes up the number, or where
a keyword is given twice, an argument gets the role of another.
-/

namespace Wrangle
namespace Compile

variable {alpha : Type}

/-!
# What a call supplies
-/

def givenAs (named : List (String × alpha)) (name : String) : List alpha :=
  (named.filter fun entry => entry.1 == name).map Prod.snd

/-- What a call supplies each parameter with: the argument in its place, and what is given under
one of its names. -/
def supplied (parameters : List (List String)) (args : List alpha)
    (named : List (String × alpha)) : List (List alpha) :=
  parameters.mapIdx fun place names => args[place]?.toList ++ names.flatMap (givenAs named)

/-- A call that supplies its parameters with some arguments each, and has no others. -/
structure Supplies (parameters : List (List String)) (args : List alpha)
    (named : List (String × alpha)) (roles : List (List alpha)) : Prop where
  supplied_eq : supplied parameters args named = roles
  fits : args.length ≤ parameters.length
  known : forall entry, entry ∈ named -> entry.1 ∈ parameters.flatten

theorem givenAs_of_nodup {named : List (String × alpha)} (h : (named.map Prod.fst).Nodup)
    (name : String) : givenAs named name = (named.lookup name).toList := by
  cases hname : named.lookup name with
  | none =>
      have hnone : named.filter (fun entry => entry.1 == name) = [] := by
        rw [List.filter_eq_nil_iff]
        intro entry hentry heq
        have hne := List.lookup_eq_none_iff.1 hname entry hentry
        rw [beq_iff_eq.1 heq, bne_self_eq_false] at hne
        cases hne
      rw [givenAs, hnone]
      rfl
  | some x =>
      rw [givenAs, Dataset.filter_name_of_nodup h (mem_of_lookup hname)]
      rfl

/-!
# Keywords given twice
-/

theorem foldl_putEntry_nodup (named : List (String × alpha)) {kept : List (String × alpha)}
    (h : (kept.map Prod.fst).Nodup) : ((named.foldl Dataset.putEntry kept).map Prod.fst).Nodup := by
  induction named generalizing kept with
  | nil => exact h
  | cons entry rest ih =>
      apply ih
      rw [Dataset.putEntry_names]
      exact Dataset.headerWith_nodup h entry.1

theorem lastNamed_nodup (named : List (String × alpha)) : ((lastNamed named).map Prod.fst).Nodup :=
  foldl_putEntry_nodup named List.nodup_nil

theorem foldl_putEntry_of_nodup {named kept : List (String × alpha)}
    (h : ((kept ++ named).map Prod.fst).Nodup) :
    named.foldl Dataset.putEntry kept = kept ++ named := by
  induction named generalizing kept with
  | nil => simp
  | cons entry rest ih =>
      have hput : Dataset.putEntry kept entry = kept ++ [entry] := by
        unfold Dataset.putEntry
        rw [if_neg]
        intro hany
        rcases List.any_eq_true.1 hany with ⟨old, hold, heq⟩
        rw [List.map_append, List.nodup_append] at h
        exact h.2.2 _ (List.mem_map_of_mem hold) _ (List.mem_cons_self ..) (beq_iff_eq.1 heq)
      rw [List.foldl_cons, hput, ih, List.append_assoc, List.singleton_append]
      rwa [List.append_assoc, List.singleton_append]

theorem lastNamed_of_nodup {named : List (String × alpha)} (h : (named.map Prod.fst).Nodup) :
    lastNamed named = named :=
  @foldl_putEntry_of_nodup _ named [] h

theorem Supplies.nodup {parameters : List (List String)} {args : List alpha}
    {named : List (String × alpha)} {roles : List (List alpha)}
    (h : Supplies parameters args named roles)
    (hroles : forall role, role ∈ roles -> role.length ≤ 1) : (named.map Prod.fst).Nodup := by
  rw [List.nodup_iff_count_le_one]
  intro name
  have hcount : List.count name (named.map Prod.fst) = (givenAs named name).length := by
    rw [givenAs, List.length_map, List.count, List.countP_map, List.countP_eq_length_filter]
    rfl
  rw [hcount]
  by_cases hname : name ∈ named.map Prod.fst
  · rcases List.mem_map.1 hname with ⟨entry, hentry, rfl⟩
    rcases List.mem_flatten.1 (h.known entry hentry) with ⟨names, hnames, hmem⟩
    rcases List.mem_iff_getElem.1 hnames with ⟨place, hplace, rfl⟩
    -- what is given under the name is part of what its parameter has
    rw [← h.supplied_eq] at hroles
    have hrole := hroles _ (List.mem_mapIdx.2 ⟨place, hplace, rfl⟩)
    have hpart : (givenAs named entry.1).Sublist (parameters[place].flatMap (givenAs named)) := by
      rw [List.flatMap_def]
      exact List.sublist_flatten_of_mem (List.mem_map_of_mem hmem)
    rw [List.length_append] at hrole
    have := hpart.length_le
    omega
  · rw [← hcount, List.count_eq_zero_of_not_mem hname]
    exact Nat.zero_le 1

/-!
# Keywords in the order of the parameters
-/

theorem lookup_filter_of_ne {named : List (String × alpha)} {name other : String}
    (h : name ≠ other) :
    (named.filter fun entry => entry.1 != other).lookup name = named.lookup name := by
  induction named with
  | nil => rfl
  | cons entry rest ih =>
      rw [List.filter_cons, List.lookup_cons]
      by_cases hentry : entry.1 = other
      · have hname : (name == entry.1) = false := by simpa [hentry] using h
        rw [if_neg (by simp [hentry]), ih, hname]
      · rw [if_pos (by simpa using hentry), List.lookup_cons, ih]

section Placed

variable {parameters : List String} {named : List (String × alpha)} {name : String}

theorem filterMap_lookup_filter (h : name ∉ parameters) :
    (parameters.filterMap fun other => (named.filter fun entry => entry.1 != name).lookup other) =
      parameters.filterMap fun other => named.lookup other := by
  apply List.filterMap_congr
  intro other hother
  apply lookup_filter_of_ne
  rintro rfl
  exact h hother

theorem filter_unknown_eq_nil_iff :
    named.filter (fun entry => !parameters.contains entry.1) = [] <->
      forall entry, entry ∈ named -> entry.1 ∈ parameters := by
  simp

theorem filter_unknown_cons :
    (named.filter fun entry => entry.1 != name).filter (fun entry => !parameters.contains entry.1) =
      named.filter fun entry => !(name :: parameters).contains entry.1 := by
  rw [List.filter_filter]
  apply List.filter_congr
  intro entry _
  rw [List.contains_cons, Bool.not_or, Bool.and_comm]
  rfl

theorem filter_unknown_of_lookup (h : named.lookup name = none) :
    named.filter (fun entry => !parameters.contains entry.1) =
      named.filter fun entry => !(name :: parameters).contains entry.1 := by
  apply List.filter_congr
  intro entry hentry
  have hne : (name != entry.1) = true := List.lookup_eq_none_iff.1 h entry hentry
  have hne : (entry.1 == name) = false := by
    rw [beq_eq_false_iff_ne]
    rintro heq
    simp [heq] at hne
  rw [List.contains_cons, hne, Bool.false_or]

theorem placeNamed_eq_ok_iff {label : String} {index : Nat} {args placed : List alpha}
    {rest : List (String × alpha)} (hnodup : parameters.Nodup) :
    placeNamed label index args named parameters = .ok (placed, rest) <->
      (forall name, name ∈ parameters.take (args.length - index) -> named.lookup name = none) ∧
        placed = args ++ (parameters.filterMap fun name => named.lookup name) ∧
          rest = named.filter fun entry => !parameters.contains entry.1 := by
  induction parameters generalizing index args named with
  | nil =>
      simp only [placeNamed, Except.ok.injEq, Prod.mk.injEq, List.take_nil, List.not_mem_nil,
        false_implies, implies_true, true_and, List.filterMap_nil, List.append_nil,
        List.contains_nil, Bool.not_false, List.filter_true]
      rw [eq_comm, @eq_comm _ named]
  | cons name others ih =>
      rw [List.nodup_cons] at hnodup
      rw [placeNamed, List.filterMap_cons]
      cases hname : named.lookup name with
      | none =>
          rw [ih hnodup.2, filter_unknown_of_lookup hname]
          apply and_congr_left
          intro _
          by_cases hindex : index < args.length
          · have htake : args.length - index = (args.length - (index + 1)) + 1 := by omega
            rw [htake, List.take_succ_cons, List.forall_mem_cons, and_iff_right hname]
          · rw [Nat.sub_eq_zero_of_le (by omega), Nat.sub_eq_zero_of_le (by omega)]
            simp
      | some arg =>
          dsimp only
          by_cases hindex : index < args.length
          · rw [if_pos hindex]
            have htake : args.length - index = (args.length - (index + 1)) + 1 := by omega
            rw [htake, List.take_succ_cons, List.forall_mem_cons, hname]
            constructor
            · intro hplaced
              cases hplaced
            · rintro ⟨⟨hnone, _⟩, _⟩
              cases hnone
          · have hnone : args.length - index = 0 := by omega
            have hnext : (args ++ [arg]).length - (index + 1) = 0 := by
              rw [List.length_append, List.length_singleton]
              omega
            rw [if_neg hindex, ih hnodup.2, filterMap_lookup_filter hnodup.1, filter_unknown_cons,
              hnone, hnext, List.append_assoc, List.singleton_append]
            simp

end Placed

theorem appendNamed_eq {parameters : List String} {args : List Node} {named : List (String × Node)}
    (hnodup : parameters.Nodup) :
    appendNamed args named parameters =
      (args ++ parameters.filterMap fun name => named.lookup name,
        named.filter fun entry => !parameters.contains entry.1) := by
  induction parameters generalizing args named with
  | nil => simp [appendNamed]
  | cons name others ih =>
      rw [List.nodup_cons] at hnodup
      rw [appendNamed, List.filterMap_cons]
      cases hname : named.lookup name with
      | none =>
          dsimp only
          rw [ih hnodup.2, filter_unknown_of_lookup hname]
      | some arg =>
          dsimp only
          rw [ih hnodup.2, filterMap_lookup_filter hnodup.1, filter_unknown_cons, List.append_assoc,
            List.singleton_append]

/-!
# Arguments in their places
-/

def suppliedNext (named : List (String × alpha)) : List String -> List alpha -> List (List alpha)
  | [], _ => []
  | name :: rest, [] => (named.lookup name).toList :: suppliedNext named rest []
  | name :: rest, arg :: args =>
      (arg :: (named.lookup name).toList) :: suppliedNext named rest args

section Next

variable {parameters : List String} {args : List alpha} {named : List (String × alpha)}

theorem supplied_eq_next (hnamed : (named.map Prod.fst).Nodup) :
    supplied (parameters.map fun name => [name]) args named =
      suppliedNext named parameters args := by
  induction parameters generalizing args with
  | nil => rfl
  | cons name rest ih =>
      have hgiven : [name].flatMap (givenAs named) = (named.lookup name).toList := by
        rw [List.flatMap_singleton, givenAs_of_nodup hnamed]
      rw [supplied, List.map_cons, List.mapIdx_cons, hgiven]
      cases args with
      | nil =>
          rw [suppliedNext, ← ih]
          simp [supplied]
      | cons arg others =>
          rw [suppliedNext, ← ih]
          simp [supplied]

theorem suppliedNext_single_iff :
    (forall role, role ∈ suppliedNext named parameters args -> role.length ≤ 1) <->
      forall name, name ∈ parameters.take args.length -> named.lookup name = none := by
  induction parameters generalizing args with
  | nil => simp [suppliedNext]
  | cons name rest ih =>
      have hone : (named.lookup name).toList.length ≤ 1 := by
        cases named.lookup name <;> simp
      cases args with
      | nil =>
          rw [suppliedNext, List.forall_mem_cons, ih, and_iff_right hone]
          simp
      | cons arg others =>
          rw [suppliedNext, List.forall_mem_cons, ih, List.length_cons, List.length_cons,
            List.take_succ_cons, List.forall_mem_cons]
          apply and_congr_left
          intro _
          cases named.lookup name <;> simp

theorem suppliedNext_flatten
    (h : forall name, name ∈ parameters.take args.length -> named.lookup name = none)
    (hfits : args.length ≤ parameters.length) :
    (suppliedNext named parameters args).flatten =
      args ++ parameters.filterMap fun name => named.lookup name := by
  induction parameters generalizing args with
  | nil =>
      rw [List.length_eq_zero_iff.1 (Nat.le_zero.1 hfits)]
      rfl
  | cons name rest ih =>
      cases args with
      | nil =>
          rw [suppliedNext, List.flatten_cons, ih (by simp) (Nat.zero_le _), List.filterMap_cons]
          cases named.lookup name <;> rfl
      | cons arg others =>
          rw [List.length_cons, List.take_succ_cons, List.forall_mem_cons] at h
          rw [suppliedNext, List.flatten_cons, ih h.2 (Nat.le_of_succ_le_succ hfits),
            List.filterMap_cons, h.1]
          rfl

end Next

/-!
# Choices
-/

/-- The arguments that a choice is made of, in their roles. -/
structure ChoiceRoles (alpha : Type) where
  condition : alpha
  yes : alpha
  no : alpha
  miss : Option alpha

namespace ChoiceRoles

def inOrder (roles : ChoiceRoles alpha) : List alpha :=
  [roles.condition, roles.yes, roles.no] ++ roles.miss.toList

/-- One argument for each parameter, but for the last one at most one. -/
def apart (roles : ChoiceRoles alpha) : List (List alpha) :=
  [[roles.condition], [roles.yes], [roles.no], roles.miss.toList]

theorem inOrder_length (roles : ChoiceRoles alpha) : roles.inOrder.length ≤ 4 := by
  rcases roles with ⟨condition, yes, no, _ | miss⟩
  · exact Nat.le_succ 3
  · exact Nat.le_refl 4

theorem apart_flatten (roles : ChoiceRoles alpha) : roles.apart.flatten = roles.inOrder := by
  simp [apart, inOrder]

theorem apart_single (roles : ChoiceRoles alpha) :
    forall role, role ∈ roles.apart -> role.length ≤ 1 := by
  rcases roles with ⟨condition, yes, no, miss⟩
  cases miss <;> simp [apart]

end ChoiceRoles

def malformedChoice : Outcome beta :=
  unsupported "if_else() takes a condition, a yes value, a no value and an optional missing value."
    (some "Example: if_else(age >= 18, 'adult', 'minor')")

/-- The roles that the arguments of a choice get. -/
def choiceRoles (args : List alpha) (named : List (String × alpha)) :
    Outcome (ChoiceRoles alpha) := do
  let (placed, rest) <- placeNamed "if_else" 0 args (lastNamed named) choiceParameters
  if !rest.isEmpty then malformedChoice
  else
    match placed with
    | [condition, yes, no] => .ok ⟨condition, yes, no, none⟩
    | [condition, yes, no, miss] => .ok ⟨condition, yes, no, some miss⟩
    | _ => malformedChoice

def ChoiceRoles.made (roles : ChoiceRoles (Outcome Expr)) : Outcome Expr := do
  .ok (.ifElse (<- roles.condition) (<- roles.yes) (<- roles.no)
    (<- roles.miss.getD (.ok (.literal .missing))))

theorem choice_eq (args : List (Outcome Expr)) (named : List (String × Outcome Expr)) :
    choice args named = choiceRoles args named >>= ChoiceRoles.made := by
  unfold choice choiceRoles
  cases placeNamed "if_else" 0 args (lastNamed named) choiceParameters with
  | error failure => rfl
  | ok found =>
      rcases found with ⟨placed, rest⟩
      rw [ok_bind, ok_bind]
      dsimp only
      split
      · rfl
      · rcases placed with _ | ⟨c, _ | ⟨y, _ | ⟨n, _ | ⟨m, _ | _⟩⟩⟩⟩ <;> rfl

theorem choiceRoles_eq_ok_iff_placed {args : List alpha} {named : List (String × alpha)}
    {roles : ChoiceRoles alpha} :
    choiceRoles args named = .ok roles <->
      placeNamed "if_else" 0 args (lastNamed named) choiceParameters = .ok (roles.inOrder, []) := by
  unfold choiceRoles
  cases placeNamed "if_else" 0 args (lastNamed named) choiceParameters with
  | error failure => exact ⟨nofun, nofun⟩
  | ok found =>
      rcases found with ⟨placed, rest⟩
      rcases roles with ⟨condition, yes, no, miss⟩
      rw [ok_bind]
      cases rest with
      | cons entry others => exact ⟨nofun, nofun⟩
      | nil =>
          -- only lists of three or four arguments make a choice
          rcases placed with _ | ⟨c, _ | ⟨y, _ | ⟨n, _ | ⟨m, _ | _⟩⟩⟩⟩ <;> cases miss <;>
            simp [malformedChoice, unsupported, Outcome.reject, ChoiceRoles.inOrder]

/-- The names of each parameter of a choice. -/
def choiceNames : List (List String) := choiceParameters.map fun name => [name]

theorem choiceParameters_nodup : choiceParameters.Nodup := by decide

theorem choiceRoles_eq_ok_iff {args : List alpha} {named : List (String × alpha)}
    {roles : ChoiceRoles alpha} :
    choiceRoles args named = .ok roles <->
      exists supply, Supplies choiceNames args (lastNamed named) supply ∧
        (forall role, role ∈ supply -> role.length ≤ 1) ∧ supply.flatten = roles.inOrder := by
  rw [choiceRoles_eq_ok_iff_placed, placeNamed_eq_ok_iff choiceParameters_nodup, Nat.sub_zero,
    @eq_comm _ [], filter_unknown_eq_nil_iff, ← suppliedNext_single_iff]
  have hsupplied : supplied choiceNames args (lastNamed named) =
      suppliedNext (lastNamed named) choiceParameters args :=
    supplied_eq_next (lastNamed_nodup named)
  constructor
  · rintro ⟨hsingle, hplaced, hknown⟩
    have hfits : args.length ≤ choiceParameters.length := by
      have hlength := congrArg List.length hplaced
      rw [List.length_append] at hlength
      exact Nat.le_trans (Nat.le.intro hlength.symm) roles.inOrder_length
    refine ⟨_, ⟨hsupplied, hfits, hknown⟩, hsingle, ?_⟩
    rw [suppliedNext_flatten (suppliedNext_single_iff.1 hsingle) hfits, hplaced]
  · rintro ⟨supply, ⟨rfl, hfits, hknown⟩, hsingle, hflatten⟩
    rw [hsupplied] at hsingle hflatten
    refine ⟨hsingle, ?_, hknown⟩
    rw [← hflatten, suppliedNext_flatten (suppliedNext_single_iff.1 hsingle) hfits]

/-- Arguments that get the roles of a choice although not each is supplied for its own. -/
inductive MisplacesChoice (args : List alpha) (named : List (String × alpha)) :
    ChoiceRoles alpha -> Prop
  /-- Of keywords with one name only the last one counts. -/
  | repeated {roles : ChoiceRoles alpha} : ¬ (named.map Prod.fst).Nodup ->
      Supplies choiceNames args (lastNamed named) roles.apart -> MisplacesChoice args named roles
  /-- Without a condition, the yes value is taken for it, and so on. -/
  | noCondition {yes no miss : alpha} :
      Supplies choiceNames args (lastNamed named) [[], [yes], [no], [miss]] ->
      MisplacesChoice args named ⟨yes, no, miss, none⟩
  | noYes {condition no miss : alpha} :
      Supplies choiceNames args (lastNamed named) [[condition], [], [no], [miss]] ->
      MisplacesChoice args named ⟨condition, no, miss, none⟩
  | noNo {condition yes miss : alpha} :
      Supplies choiceNames args (lastNamed named) [[condition], [yes], [], [miss]] ->
      MisplacesChoice args named ⟨condition, yes, miss, none⟩

section Choices

variable {args : List alpha} {named : List (String × alpha)} {roles : ChoiceRoles alpha}

theorem supplied_length (parameters : List (List String)) (args : List alpha)
    (named : List (String × alpha)) :
    (supplied parameters args named).length = parameters.length :=
  List.length_mapIdx

theorem supply_cases {supply : List (List alpha)} (hlength : supply.length = 4)
    (hsingle : forall role, role ∈ supply -> role.length ≤ 1)
    (hflatten : supply.flatten = roles.inOrder) :
    supply = roles.apart ∨ roles.miss = none ∧
      (supply = [[], [roles.condition], [roles.yes], [roles.no]] ∨
        supply = [[roles.condition], [], [roles.yes], [roles.no]] ∨
          supply = [[roles.condition], [roles.yes], [], [roles.no]]) := by
  rcases supply with _ | ⟨first, _ | ⟨second, _ | ⟨third, _ | ⟨fourth, _ | _⟩⟩⟩⟩
  case cons.cons.cons.cons.nil =>
    have hone : forall role, role ∈ [first, second, third, fourth] ->
        role = [] ∨ exists x, role = [x] := by
      intro role hrole
      rcases role with _ | ⟨x, _ | _⟩
      · exact .inl rfl
      · exact .inr ⟨x, rfl⟩
      · exact absurd (hsingle _ hrole) (by simp)
    rcases roles with ⟨condition, yes, no, miss⟩
    rcases hone first (by simp) with rfl | ⟨a, rfl⟩ <;>
      rcases hone second (by simp) with rfl | ⟨b, rfl⟩ <;>
        rcases hone third (by simp) with rfl | ⟨c, rfl⟩ <;>
          rcases hone fourth (by simp) with rfl | ⟨d, rfl⟩ <;>
            cases miss <;>
              simp_all [ChoiceRoles.inOrder, ChoiceRoles.apart]
  all_goals cases hlength

theorem MisplacesChoice.accepted (h : MisplacesChoice args named roles) :
    choiceRoles args named = .ok roles := by
  rw [choiceRoles_eq_ok_iff]
  cases h with
  | repeated _ h => exact ⟨_, h, roles.apart_single, roles.apart_flatten⟩
  | noCondition h => exact ⟨_, h, by simp, rfl⟩
  | noYes h => exact ⟨_, h, by simp, rfl⟩
  | noNo h => exact ⟨_, h, by simp, rfl⟩

theorem not_misplaces (h : Supplies choiceNames args named roles.apart) :
    ¬ MisplacesChoice args named roles := by
  have hnodup := h.nodup roles.apart_single
  have happart := h.supplied_eq
  rintro (⟨htwice, _⟩ | h' | h' | h')
  · exact htwice hnodup
  all_goals
    rw [lastNamed_of_nodup hnodup] at h'
    rw [h'.supplied_eq] at happart
    cases happart

theorem choiceRoles_iff :
    choiceRoles args named = .ok roles <->
      Xor (Supplies choiceNames args named roles.apart) (MisplacesChoice args named roles) := by
  constructor
  · intro h
    rcases choiceRoles_eq_ok_iff.1 h with ⟨supply, hsupply, hsingle, hflatten⟩
    have hlength : supply.length = 4 :=
      hsupply.supplied_eq ▸ supplied_length choiceNames args (lastNamed named)
    by_cases hown : Supplies choiceNames args named roles.apart
    · exact .inl ⟨hown, not_misplaces hown⟩
    · refine .inr ⟨?_, hown⟩
      rcases roles with ⟨condition, yes, no, miss⟩
      rcases supply_cases hlength hsingle hflatten with rfl | ⟨hmiss, rfl | rfl | rfl⟩
      · apply MisplacesChoice.repeated _ hsupply
        intro hnodup
        rw [lastNamed_of_nodup hnodup] at hsupply
        exact hown hsupply
      all_goals
        cases hmiss
      · exact .noCondition hsupply
      · exact .noYes hsupply
      · exact .noNo hsupply
  · rintro (⟨hown, _⟩ | ⟨hmisplaced, _⟩)
    · rw [choiceRoles_eq_ok_iff, lastNamed_of_nodup (hown.nodup roles.apart_single)]
      exact ⟨_, hown, roles.apart_single, roles.apart_flatten⟩
    · exact hmisplaced.accepted

end Choices

/-!
# Computations of several columns
-/

/-- The names of the two parameters of a computation of several columns. -/
def acrossNames : List (List String) := [[".cols", "cols"], [".fns", "fns"]]

/-- The nodes for the columns and for the functions. -/
def acrossRoles (args : List Node) (kwargs : List (String × Node)) : Outcome (Node × Node) :=
  match appendNamed args (lastNamed kwargs) acrossParameters with
  | ([columns, functions], []) => .ok (columns, functions)
  | _ =>
      unsupported "across() takes the columns and the function(s) to apply."
        (some "Example: across((a, b), (mean, median))")

/-- The assignments for columns and functions, given by the nodes in these roles. -/
def acrossOf (scope : Scope) (mode : Mode) (roles : Node × Node) : Outcome (List Assign) := do
  let columns <- selectNames scope roles.1
  let names <- (functionNodes roles.2).mapM functionName
  let pairs := columns.flatMap fun column => names.map fun name => (column, name)
  pairs.mapM fun pair => do
    let e <- expr scope mode true (.apply pair.2 [.identifier pair.1])
    .ok { name := pair.1 ++ "_" ++ pair.2, expr := e, source := none }

theorem across_eq (scope : Scope) (mode : Mode) (args : List Node) (kwargs : List (String × Node)) :
    across scope mode args kwargs = acrossRoles args kwargs >>= acrossOf scope mode := by
  unfold across acrossRoles
  generalize appendNamed args (lastNamed kwargs) acrossParameters = found
  rcases found with ⟨_ | ⟨columns, _ | ⟨functions, _ | _⟩⟩, rest⟩ <;> cases rest <;> rfl

/-- Nodes that get the roles of a computation although not each is supplied for its own. -/
inductive MisplacesAcross (args : List Node) (kwargs : List (String × Node)) :
    Node × Node -> Prop
  /-- Of keywords with one name only the last one counts. -/
  | repeated {columns functions : Node} : ¬ (kwargs.map Prod.fst).Nodup ->
      Supplies acrossNames args (lastNamed kwargs) [[columns], [functions]] ->
      MisplacesAcross args kwargs (columns, functions)
  /-- Of two arguments for the columns, the second one is taken for the functions. -/
  | noFunctions {columns more : Node} :
      Supplies acrossNames args (lastNamed kwargs) [[columns, more], []] ->
      MisplacesAcross args kwargs (columns, more)
  | noColumns {functions more : Node} :
      Supplies acrossNames args (lastNamed kwargs) [[], [functions, more]] ->
      MisplacesAcross args kwargs (functions, more)

section Across

variable {args : List Node} {kwargs : List (String × Node)} {roles : Node × Node}

theorem acrossParameters_nodup : acrossParameters.Nodup := by decide

theorem acrossRoles_eq_ok_iff_appended :
    acrossRoles args kwargs = .ok roles <->
      appendNamed args (lastNamed kwargs) acrossParameters = ([roles.1, roles.2], []) := by
  unfold acrossRoles
  generalize appendNamed args (lastNamed kwargs) acrossParameters = found
  rcases roles with ⟨x, y⟩
  rcases found with ⟨_ | ⟨columns, _ | ⟨functions, _ | _⟩⟩, rest⟩ <;> cases rest <;>
    simp [unsupported, Outcome.reject]

theorem supplied_across_flatten {entries : List (String × Node)}
    (hentries : (entries.map Prod.fst).Nodup) :
    args.length ≤ acrossNames.length ∧ (supplied acrossNames args entries).flatten =
        [roles.1, roles.2] <->
      args ++ (acrossParameters.filterMap fun name => entries.lookup name) =
        [roles.1, roles.2] := by
  have hgiven : forall name, givenAs entries name = (entries.lookup name).toList :=
    givenAs_of_nodup hentries
  have hkeywords : (acrossParameters.filterMap fun name => entries.lookup name) =
      ([".cols", "cols"].flatMap (givenAs entries)) ++
        ([".fns", "fns"].flatMap (givenAs entries)) := by
    simp only [acrossParameters, List.filterMap_cons, List.filterMap_nil, List.flatMap_cons,
      List.flatMap_nil, hgiven]
    cases entries.lookup ".cols" <;> cases entries.lookup "cols" <;>
      cases entries.lookup ".fns" <;> cases entries.lookup "fns" <;> rfl
  rw [hkeywords, supplied, acrossNames, List.mapIdx_cons, List.mapIdx_cons, List.mapIdx_nil]
  generalize [".cols", "cols"].flatMap (givenAs entries) = columns
  generalize [".fns", "fns"].flatMap (givenAs entries) = functions
  rcases args with _ | ⟨first, _ | ⟨second, _ | ⟨third, rest⟩⟩⟩
  · simp
  · simp
  · cases columns <;> cases functions <;> simp
  · simp

theorem acrossRoles_eq_ok_iff :
    acrossRoles args kwargs = .ok roles <->
      exists supply, Supplies acrossNames args (lastNamed kwargs) supply ∧
        supply.flatten = [roles.1, roles.2] := by
  rw [acrossRoles_eq_ok_iff_appended, appendNamed_eq acrossParameters_nodup, Prod.mk.injEq,
    ← supplied_across_flatten (lastNamed_nodup kwargs), filter_unknown_eq_nil_iff]
  constructor
  · rintro ⟨⟨hfits, hflatten⟩, hknown⟩
    exact ⟨_, ⟨rfl, hfits, hknown⟩, hflatten⟩
  · rintro ⟨supply, ⟨rfl, hfits, hknown⟩, hflatten⟩
    exact ⟨⟨hfits, hflatten⟩, hknown⟩

theorem MisplacesAcross.accepted (h : MisplacesAcross args kwargs roles) :
    acrossRoles args kwargs = .ok roles := by
  rw [acrossRoles_eq_ok_iff]
  cases h with
  | repeated _ h => exact ⟨_, h, rfl⟩
  | noFunctions h => exact ⟨_, h, rfl⟩
  | noColumns h => exact ⟨_, h, rfl⟩

theorem not_misplacesAcross (h : Supplies acrossNames args kwargs [[roles.1], [roles.2]]) :
    ¬ MisplacesAcross args kwargs roles := by
  have hnodup := h.nodup (by simp)
  have happart := h.supplied_eq
  rintro (⟨htwice, _⟩ | h' | h')
  · exact htwice hnodup
  all_goals
    rw [lastNamed_of_nodup hnodup] at h'
    rw [h'.supplied_eq] at happart
    cases happart

theorem acrossRoles_iff :
    acrossRoles args kwargs = .ok roles <->
      Xor (Supplies acrossNames args kwargs [[roles.1], [roles.2]])
        (MisplacesAcross args kwargs roles) := by
  constructor
  · intro h
    rcases acrossRoles_eq_ok_iff.1 h with ⟨supply, hsupply, hflatten⟩
    have hlength : supply.length = 2 :=
      hsupply.supplied_eq ▸ supplied_length acrossNames args (lastNamed kwargs)
    by_cases hown : Supplies acrossNames args kwargs [[roles.1], [roles.2]]
    · exact .inl ⟨hown, not_misplacesAcross hown⟩
    · refine .inr ⟨?_, hown⟩
      rcases roles with ⟨x, y⟩
      rcases supply with _ | ⟨first, _ | ⟨second, _ | _⟩⟩
      case cons.cons.nil =>
        have hboth : first ++ second = [x, y] := by simpa using hflatten
        -- two arguments are both for one parameter, or one for each
        rcases first with _ | ⟨a, _ | ⟨b, _ | _⟩⟩
        · cases hboth
          exact .noColumns hsupply
        · cases hboth
          apply MisplacesAcross.repeated _ hsupply
          intro hnodup
          rw [lastNamed_of_nodup hnodup] at hsupply
          exact hown hsupply
        · cases hboth
          exact .noFunctions hsupply
        · cases hboth
      all_goals cases hlength
  · rintro (⟨hown, _⟩ | ⟨hmisplaced, _⟩)
    · rw [acrossRoles_eq_ok_iff, lastNamed_of_nodup (hown.nodup (by simp))]
      exact ⟨_, hown, rfl⟩
    · exact hmisplaced.accepted

end Across

/-!
# Both forms
-/

theorem exprs_eq_map (scope : Scope) (mode : Mode) (nodes : List Node) :
    exprs scope mode nodes = nodes.map (expr scope mode false) := by
  induction nodes with
  | nil => rw [exprs, List.map_nil]
  | cons node rest ih => rw [exprs, ih, List.map_cons]

theorem namedExprs_eq_map (scope : Scope) (mode : Mode) (entries : List (String × Node)) :
    namedExprs scope mode entries = entries.map (Prod.map id (expr scope mode false)) := by
  induction entries with
  | nil => rw [namedExprs, List.map_nil]
  | cons entry rest ih =>
      rw [namedExprs, ih]
      rfl

/-- The choice that nodes in their roles compile to. -/
def ChoiceRoles.compiled (scope : Scope) (mode : Mode) (roles : ChoiceRoles Node) :
    Outcome Expr := do
  .ok (.ifElse (<- expr scope mode false roles.condition) (<- expr scope mode false roles.yes)
    (<- expr scope mode false roles.no)
    (<- roles.miss.elim (.ok (.literal .missing)) (expr scope mode false)))

theorem choiceRoles_map {beta : Type} (f : alpha -> beta) (args : List alpha)
    (named : List (String × alpha)) :
    choiceRoles (args.map f) (named.map (Prod.map id f)) =
      (choiceRoles args named).map fun roles =>
        ⟨f roles.condition, f roles.yes, f roles.no, roles.miss.map f⟩ := by
  unfold choiceRoles
  rw [lastNamed_map, placeNamed_map]
  cases placeNamed "if_else" 0 args (lastNamed named) choiceParameters with
  | error failure => rfl
  | ok found =>
      rcases found with ⟨_ | ⟨c, _ | ⟨y, _ | ⟨n, _ | ⟨m, _ | _⟩⟩⟩⟩, rest⟩ <;> cases rest <;> rfl

theorem expr_choice (scope : Scope) (mode : Mode) (top : Bool) (args : List Node)
    (kwargs : List (String × Node)) :
    expr scope mode top (.call "if_else" args kwargs false) =
      choiceRoles args kwargs >>= ChoiceRoles.compiled scope mode := by
  have hform : expr scope mode top (.call "if_else" args kwargs false) =
      choice (exprs scope mode args) (namedExprs scope mode kwargs) := by
    rw [expr]
    rfl
  rw [hform, choice_eq, exprs_eq_map, namedExprs_eq_map, choiceRoles_map]
  cases choiceRoles args kwargs with
  | error failure => rfl
  | ok roles =>
      rcases roles with ⟨c, y, n, _ | m⟩ <;> rfl

/-- An expression that the language does not have. -/
def IsUnsupported (failure : Failure) : Prop :=
  exists message hint, failure = .user (UserError.unsupported message hint)

theorem placeNamed_unsupported {label : String} {index : Nat} {args : List alpha}
    {named : List (String × alpha)} {parameters : List String} :
    Ends IsUnsupported (fun _ => True) (placeNamed label index args named parameters) := by
  induction parameters generalizing index args named with
  | nil => trivial
  | cons name rest ih =>
      rw [placeNamed]
      split
      · exact ih
      · split
        · exact ⟨_, _, rfl⟩
        · exact ih

theorem choiceRoles_unsupported (args : List alpha) (named : List (String × alpha)) :
    Ends IsUnsupported (fun _ => True) (choiceRoles args named) := by
  unfold choiceRoles
  apply Ends.bind placeNamed_unsupported
  rintro ⟨placed, rest⟩ _
  dsimp only
  split
  · exact ⟨_, _, rfl⟩
  · split
    · trivial
    · trivial
    · exact ⟨_, _, rfl⟩

theorem acrossRoles_unsupported (args : List Node) (kwargs : List (String × Node)) :
    Ends IsUnsupported (fun _ => True) (acrossRoles args kwargs) := by
  unfold acrossRoles
  split
  · trivial
  · exact ⟨_, _, rfl⟩

/-- The two special forms compile the nodes that have their roles.  The roles are those for which
each node is supplied, or nodes are misplaced; all other calls are refused. -/
theorem special_forms_bind_or_misplace (args : List Node) (kwargs : List (String × Node)) :
    (forall scope mode top, expr scope mode top (.call "if_else" args kwargs false) =
        choiceRoles args kwargs >>= ChoiceRoles.compiled scope mode) ∧
      (forall roles, choiceRoles args kwargs = .ok roles <->
        Xor (Supplies choiceNames args kwargs roles.apart) (MisplacesChoice args kwargs roles)) ∧
      Ends IsUnsupported (fun _ => True) (choiceRoles args kwargs) ∧
      (forall scope mode, assigns scope mode (.call "across" args kwargs false) =
        acrossRoles args kwargs >>= acrossOf scope mode) ∧
      (forall roles, acrossRoles args kwargs = .ok roles <->
        Xor (Supplies acrossNames args kwargs [[roles.1], [roles.2]])
          (MisplacesAcross args kwargs roles)) ∧
      Ends IsUnsupported (fun _ => True) (acrossRoles args kwargs) :=
  ⟨fun scope mode top => expr_choice scope mode top args kwargs, fun _ => choiceRoles_iff,
    choiceRoles_unsupported args kwargs, fun scope mode => across_eq scope mode args kwargs,
    fun _ => acrossRoles_iff, acrossRoles_unsupported args kwargs⟩

/-- A condition and the value where it holds. -/
def conditionAndYes : List Node := [.identifier "x", .literal (.str "a")]

/-- The value where the condition is missing. -/
def onlyMiss : List (String × Node) := [("miss", .literal (.str "b"))]

/-- The roles that the three of them get. -/
def shifted : ChoiceRoles Node :=
  ⟨.identifier "x", .literal (.str "a"), .literal (.str "b"), none⟩

/-- The value for missing conditions becomes that for conditions that do not hold, where there is
no such value. -/
theorem special_forms_misplace_miss :
    (forall scope mode top, expr scope mode top (.call "if_else" conditionAndYes onlyMiss false) =
        shifted.compiled scope mode) ∧
      ¬ Supplies choiceNames conditionAndYes onlyMiss shifted.apart := by
  have hnot : ¬ Supplies choiceNames conditionAndYes onlyMiss shifted.apart :=
    fun h => nomatch h.supplied_eq
  have hboth := special_forms_bind_or_misplace conditionAndYes onlyMiss
  have hroles := (hboth.2.1 shifted).2 (.inr ⟨.noNo ⟨rfl, by decide, by decide⟩, hnot⟩)
  refine ⟨?_, hnot⟩
  intro scope mode top
  rw [hboth.1, hroles]
  rfl

end Compile
end Wrangle
