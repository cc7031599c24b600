import Wrangle.Function.Apply
import Wrangle.Proofs.Outcome

/-!
# User errors of functions

The functions of the library and the ambient ones end with faults when they fail.
A user error that comes out of a call was raised by a function from outside: by one of
the caller, or by one of the host.
-/

namespace Wrangle

def Failure.IsFaultOr (expected : UserError -> Prop) : Failure -> Prop
  | .fault _ => True
  | .user e => expected e

theorem Failure.IsFaultOr.imp {expected more : UserError -> Prop} {failure : Failure}
    (h : failure.IsFaultOr expected) (hmore : forall e, expected e -> more e) :
    failure.IsFaultOr more := by
  cases failure with
  | fault f => trivial
  | user e => exact hmore e h

abbrev RaisesOnly (expected : UserError -> Prop) (outcome : Outcome alpha) : Prop :=
  Ends (Failure.IsFaultOr expected) (fun _ => True) outcome

def UserError.IsUnplaced (e : UserError) : Prop :=
  e.fragment = none

/-- An error that shows the text of a fragment. -/
def UserError.IsAttributed (e : UserError) : Prop :=
  exists text, e.fragment = some text ∧ text ≠ ""

theorem UserError.IsUnplaced.not_isAttributed {e : UserError} (h : e.IsUnplaced) :
    ¬ e.IsAttributed := by
  intro hshown
  rcases hshown with ⟨text, htext, _⟩
  cases htext.symm.trans h

/-- All user errors that a computation may end with name no fragment. -/
abbrev LeavesUnplaced (outcome : Outcome alpha) : Prop :=
  RaisesOnly UserError.IsUnplaced outcome

/-- A way of calling functions that ends with no user errors but the expected ones. -/
def Caller.RaisesOnly (expected : UserError -> Prop) (call : Caller) : Prop :=
  forall f values, Wrangle.RaisesOnly expected (call f values)

/-- A user error that a function from outside ends with, for some arguments. -/
def CallerFunctions.Raise (callers : CallerFunctions) (e : UserError) : Prop :=
  exists run values named, callers.Offers run ∧ run values named = .error (.user e)

/-- All user errors that a computation may end with name no fragment, or were raised by functions
of the caller. -/
abbrev RaisesUnplaced (callers : CallerFunctions) (outcome : Outcome alpha) : Prop :=
  RaisesOnly (fun e => e.IsUnplaced ∨ callers.Raise e) outcome

/-- All user errors that a computation may end with show a fragment, or were raised by functions of
the caller as errors about an empty one, or are of some other kind. -/
abbrev RaisesAttributed (callers : CallerFunctions) (other : UserError -> Prop)
    (good : alpha -> Prop) (outcome : Outcome alpha) : Prop :=
  Ends (Failure.IsFaultOr fun e =>
    e.IsAttributed ∨ (callers.Raise e ∧ e.fragment = some "") ∨ other e) good outcome

theorem raisesAttributed_mono {callers : CallerFunctions} {other more : UserError -> Prop}
    {good : alpha -> Prop} {outcome : Outcome alpha}
    (h : RaisesAttributed callers other good outcome) (hmore : forall e, other e -> more e) :
    RaisesAttributed callers more good outcome :=
  h.imp (fun _ hfailure => hfailure.imp fun e he => he.imp id (Or.imp id (hmore e)))
    fun _ hgood => hgood

theorem raisesAttributed_of {callers : CallerFunctions} {some other : UserError -> Prop}
    {good : alpha -> Prop} {outcome : Outcome alpha}
    (h : Ends (Failure.IsFaultOr some) good outcome) (hsome : forall e, some e -> other e) :
    RaisesAttributed callers other good outcome :=
  h.imp (fun _ hfailure => hfailure.imp fun e he => Or.inr (Or.inr (hsome e he)))
    fun _ hgood => hgood

section Calls

variable {expected : UserError -> Prop}

theorem raisesOnly_ofFault (x : Except Fault alpha) :
    RaisesOnly expected (Outcome.ofFault x) := by
  cases x with
  | error f => trivial
  | ok value => trivial

theorem inFragment_attributed {good : alpha -> Prop} {source : String} (hsource : source ≠ "")
    {outcome : Outcome alpha}
    (h : Ends (Failure.IsFaultOr fun e => e.IsUnplaced ∨ expected e) good outcome) :
    Ends (Failure.IsFaultOr fun e => e.IsAttributed ∨ (expected e ∧ e.fragment = some ""))
      good (Outcome.inFragment source outcome) := by
  cases outcome with
  | ok value => exact h
  | error failure =>
      cases failure with
      | fault f => trivial
      | user e =>
          rw [Outcome.inFragment_user]
          rcases hfragment : e.fragment with _ | text
          · left
            refine ⟨source, ?_, hsource⟩
            unfold UserError.withFragment
            rw [hfragment]
          · rw [UserError.withFragment_of_some hfragment]
            by_cases htext : text = ""
            · rw [htext] at hfragment
              rcases h with hnone | hexpected
              · cases hfragment.symm.trans hnone
              · exact Or.inr ⟨hexpected, hfragment⟩
            · exact Or.inl ⟨text, hfragment, htext⟩

theorem inFragment_unplaced {good : alpha -> Prop} {source : String} (hsource : source ≠ "")
    {outcome : Outcome alpha} (h : Ends (Failure.IsFaultOr UserError.IsUnplaced) good outcome) :
    Ends (Failure.IsFaultOr UserError.IsAttributed) good (Outcome.inFragment source outcome) := by
  have hends : Ends (Failure.IsFaultOr fun e => e.IsAttributed ∨ (False ∧ e.fragment = some ""))
      good (Outcome.inFragment source outcome) := by
    apply inFragment_attributed hsource
    exact h.imp (fun _ hfailure => hfailure.imp fun _ he => Or.inl he) fun _ hgood => hgood
  apply hends.imp
  · exact fun _ hfailure => hfailure.imp fun _ he => he.resolve_right fun hnone => hnone.1
  · exact fun _ hgood => hgood

variable {call : Caller} (hcall : call.RaisesOnly expected)

include hcall

/-!
# Functions that call others
-/

namespace Iteration

theorem results_raisesOnly (f : Value) (stop : Option Fault) (rows : List (List Value)) :
    RaisesOnly expected (results call f stop rows) := by
  induction rows with
  | nil => trivial
  | cons row rest ih =>
      unfold results
      dsimp only
      split
      · apply ih.bind_any
        intro others
        trivial
      · trivial
      · rename_i failure _ hanswer
        have hfailure : RaisesOnly expected (.error failure : Outcome Value) := by
          rw [← hanswer]
          split
          · exact hcall _ row
          · trivial
        exact hfailure

theorem map_raisesOnly (f : Value) (xs : List Value) : RaisesOnly expected (map call f xs) := by
  unfold map
  apply (raisesOnly_ofFault _).bind_any
  intro streams
  dsimp only
  apply (results_raisesOnly hcall f _ _).bind_any
  intro stream
  trivial

theorem filter_raisesOnly (test x : Value) : RaisesOnly expected (filter call test x) := by
  unfold filter
  apply (raisesOnly_ofFault _).bind_any
  intro stream
  dsimp only
  split
  · trivial
  · apply (results_raisesOnly hcall test _ _).bind_any
    intro answers
    trivial

end Iteration

namespace Ambient

theorem keyed_raisesOnly (key : Value) (items : List Value) :
    RaisesOnly expected (keyed call key items) := by
  unfold keyed
  split
  · trivial
  · exact Ends.mapM_any fun item _ => (hcall _ [item]).map_any fun _ => trivial
  · trivial

theorem sorted_raisesOnly (x key reverse : Value) :
    RaisesOnly expected (sorted call x key reverse) := by
  unfold sorted
  apply (raisesOnly_ofFault _).bind_any
  intro items
  apply (keyed_raisesOnly hcall key items).bind_any
  intro pairs
  split
  · trivial
  · split
    · exact (raisesOnly_ofFault _).bind_any fun _ => trivial
    · exact ((raisesOnly_ofFault _).map_any fun _ => trivial).bind_any fun _ => trivial

theorem extreme_raisesOnly (c : Comparison) (values : List Value) (named : List (String × Value)) :
    RaisesOnly expected (extreme call c values named) := by
  unfold extreme
  split
  · trivial
  · dsimp only
    have hpairs (items : List Value) :=
      keyed_raisesOnly hcall ((named.lookup "key").getD .missing) items
    split
    · trivial
    · apply (raisesOnly_ofFault _).bind_any
      intro items
      apply (hpairs items).bind_any
      intro pairs
      split
      · exact (raisesOnly_ofFault _).map_any fun _ => trivial
      · trivial
      · trivial
    · split
      · trivial
      · apply (hpairs values).bind_any
        intro pairs
        split
        · exact (raisesOnly_ofFault _).map_any fun _ => trivial
        · trivial
        · trivial

theorem apply_raisesOnly {host : Host} (hhost : forall values named,
      RaisesOnly expected (host.run name values named)) (values : List Value)
    (named : List (String × Value)) :
    RaisesOnly expected (apply host call name values named) := by
  unfold apply
  split
  · exact hhost values named
  split
  · exact extreme_raisesOnly hcall _ values named
  · exact extreme_raisesOnly hcall _ values named
  · split
    · exact raisesOnly_ofFault _
    · exact raisesOnly_ofFault _
    · trivial
  · split
    · exact Iteration.map_raisesOnly hcall _ _
    · trivial
  · split
    · exact Iteration.filter_raisesOnly hcall _ _
    · trivial
  · split
    · trivial
    · exact raisesOnly_ofFault _
  · split
    · split
      · trivial
      · trivial
    · split
      · exact hhost values named
      · apply (raisesOnly_ofFault _).bind_any
        intro bound
        split
        · trivial
        · trivial
        · split
          · exact sorted_raisesOnly hcall _ _ _
          · trivial
        · exact raisesOnly_ofFault _

end Ambient

theorem accumulated_raisesOnly (f : Value) (items : List Value) :
    RaisesOnly expected (accumulated call f items) := by
  have hresults (rest : List Value) (current : Value) :
      RaisesOnly expected (accumulated.results call f current rest) := by
    induction rest generalizing current with
    | nil => trivial
    | cons value rest ih =>
        unfold accumulated.results
        split
        · apply (hcall _ _).bind_any
          intro next
          exact (ih next).map_any fun _ => trivial
        · trivial
  cases items with
  | nil => trivial
  | cons first rest => exact (hresults rest first).map_any fun _ => trivial

theorem LibraryFunction.apply_raisesOnly (host : Host) (f : LibraryFunction)
    (values : List Value) (named : List (String × Value)) :
    RaisesOnly expected (f.apply host call values named) := by
  unfold LibraryFunction.apply
  apply (raisesOnly_ofFault _).bind_any
  intro bound
  split
  · apply (raisesOnly_ofFault _).bind_any
    intro items
    exact (accumulated_raisesOnly hcall _ items).map_any fun _ => trivial
  · exact raisesOnly_ofFault _
  · exact raisesOnly_ofFault _

end Calls

/-!
# All functions
-/

theorem CallerFunctions.Offers.raisesOnly {callers : CallerFunctions}
    {run : List Value -> List (String × Value) -> Outcome Value} (h : callers.Offers run)
    (values : List Value) (named : List (String × Value)) :
    RaisesOnly callers.Raise (run values named) := by
  cases hrun : run values named with
  | ok value => trivial
  | error failure =>
      cases failure with
      | fault f => trivial
      | user e => exact ⟨run, values, named, h, hrun⟩

namespace Function

theorem applyWithin_raisesOnly (callers : CallerFunctions) (depth : Nat) (f : Function)
    (values : List Value) (named : List (String × Value)) :
    RaisesOnly callers.Raise (f.applyWithin callers depth values named) := by
  induction depth generalizing f values named with
  | zero => trivial
  | succ depth ih =>
      have hcall : Caller.RaisesOnly callers.Raise
          fun g args => applyWithin callers depth g args [] :=
        fun g args => ih g args []
      cases f with
      | library f => exact f.apply_raisesOnly hcall callers.host values named
      | binary op => exact raisesOnly_ofFault _
      | unary op => exact raisesOnly_ofFault _
      | span => exact raisesOnly_ofFault _
      | ambient name =>
          have hhost : callers.Offers (callers.host.run name) := .inr ⟨name, rfl⟩
          exact Ambient.apply_raisesOnly hcall hhost.raisesOnly values named
      | caller name =>
          unfold applyWithin
          dsimp only
          split
          · rename_i f hf
            have hbrought : callers.Offers f.run := .inl ⟨name, f, hf, rfl⟩
            exact hbrought.raisesOnly values named
          · trivial

theorem apply_raisesOnly (callers : CallerFunctions) (f : Function) (values : List Value)
    (named : List (String × Value)) :
    RaisesOnly callers.Raise (f.apply callers values named) :=
  applyWithin_raisesOnly callers depthLimit f values named

end Function

/-!
# Calls that cannot end the program

Only functions from outside can end the program.  The functions of the library do not, and
the one among them that calls others does not where it is given one of the library.
-/

/-- A computation that does not end the program. -/
abbrev NeverExits (outcome : Outcome alpha) : Prop :=
  Ends (fun failure => failure ≠ .fault .exit) (fun _ => True) outcome

theorem ofFault_ne_exit (x : Except Fault alpha) : Outcome.ofFault x ≠ .error (.fault .exit) := by
  intro h
  cases x with
  | error f => cases h
  | ok value => cases h

theorem neverExits_ofFault (x : Except Fault alpha) : NeverExits (Outcome.ofFault x) := by
  cases x with
  | error f =>
      intro h
      cases h
  | ok value => trivial

theorem neverExits_fault (f : Fault) : NeverExits (.error (.fault f) : Outcome alpha) := by
  intro h
  cases h

def Function.isInner : Function -> Bool
  | library .accumulate => false
  | ambient _ | caller _ => false
  | _ => true

def Value.isInnerFunction : Value -> Bool
  | function f => f.isInner
  | _ => false

def Function.staysInside (f : Function) (values : List Value) (named : List (String × Value)) :
    Bool :=
  match f with
  | library .accumulate =>
      values.head?.all Value.isInnerFunction &&
        named.all fun entry => entry.1 != "fn" || entry.2.isInnerFunction
  | _ => f.isInner

theorem LibraryFunction.apply_neverExits (host : Host) (call : Caller) {f : LibraryFunction}
    (hf : f ≠ .accumulate) (values : List Value) (named : List (String × Value)) :
    NeverExits (f.apply host call values named) := by
  unfold LibraryFunction.apply
  apply (neverExits_ofFault _).bind_any
  intro bound
  split
  · exact absurd rfl hf
  · exact neverExits_ofFault _
  · exact neverExits_ofFault _

theorem accumulated_neverExits {call : Caller} {f : Value}
    (hf : forall g, f = .function g -> forall values, NeverExits (call g values))
    (items : List Value) : NeverExits (accumulated call f items) := by
  have hresults : forall (rest : List Value) (current : Value),
      NeverExits (accumulated.results call f current rest) := by
    intro rest
    induction rest with
    | nil => exact fun _ => trivial
    | cons value rest ih =>
        intro current
        unfold accumulated.results
        split
        · apply (hf _ rfl _).bind_any
          intro next
          exact (ih next).map_any fun _ => trivial
        · exact neverExits_fault _
  cases items with
  | nil => trivial
  | cons first rest => exact (hresults rest first).map_any fun _ => trivial

/-- What stands for the function of an accumulation is what the call gives first, or by its name. -/
theorem bind_accumulate {values : List Value} {named : List (String × Value)} {g x : Value}
    (h : LibraryFunction.accumulate.signature.bind values named = .ok [g, x]) :
    values.head? = some g ∨ ("fn", g) ∈ named := by
  unfold Signature.bind at h
  split at h
  · cases values with
    | nil =>
        right
        rcases map_eq_ok_iff.1 h with ⟨filled, hfilled, heq⟩
        cases heq
        have hfirst := (List.forall₂_cons.1 (mapM_eq_ok_iff.1 hfilled)).1
        unfold Parameter.fill at hfirst
        split at hfirst
        · rename_i value hvalue
          cases hfirst
          rcases List.lookup_eq_some_iff.1 hvalue with ⟨before, after, hnamed, _⟩
          rw [hnamed]
          exact List.mem_append_right _ List.mem_cons_self
        · cases hfirst
    | cons first rest =>
        left
        rcases map_eq_ok_iff.1 h with ⟨filled, _, heq⟩
        rw [List.cons_append, List.cons.injEq] at heq
        rw [List.head?_cons, heq.1]
  · cases h

theorem LibraryFunction.accumulate_neverExits (host : Host) {call : Caller} {values : List Value}
    {named : List (String × Value)}
    (h : forall g, values.head? = some (.function g) ∨ ("fn", .function g) ∈ named ->
      forall args, NeverExits (call g args)) :
    NeverExits (LibraryFunction.accumulate.apply host call values named) := by
  have hbind : Ends (fun failure => failure ≠ .fault .exit)
      (fun bound => LibraryFunction.accumulate.signature.bind values named = .ok bound)
      (Outcome.ofFault (LibraryFunction.accumulate.signature.bind values named)) := by
    cases LibraryFunction.accumulate.signature.bind values named with
    | error f =>
        intro hexit
        cases hexit
    | ok bound => rfl
  unfold LibraryFunction.apply
  apply hbind.bind
  intro bound hbound
  split
  · apply (neverExits_ofFault _).bind_any
    intro items
    refine Ends.map_any (accumulated_neverExits ?_ items) fun _ => trivial
    rintro g rfl args
    exact h g (bind_accumulate hbound) args
  · exact neverExits_ofFault _
  · exact neverExits_ofFault _

namespace Function

theorem applyWithin_neverExits (callers : CallerFunctions) (depth : Nat) {f : Function}
    (hf : f.isInner = true) (values : List Value) (named : List (String × Value)) :
    NeverExits (f.applyWithin callers depth values named) := by
  cases depth with
  | zero => exact neverExits_fault _
  | succ depth =>
      cases f with
      | library f =>
          apply LibraryFunction.apply_neverExits
          rintro rfl
          cases hf
      | binary op => exact neverExits_ofFault _
      | unary op => exact neverExits_ofFault _
      | span => exact neverExits_ofFault _
      | ambient name => cases hf
      | caller name => cases hf

/-- A call that applies functions of the library and operators only does not end the program. -/
theorem apply_neverExits (callers : CallerFunctions) {f : Function} {values : List Value}
    {named : List (String × Value)} (h : f.staysInside values named = true) :
    NeverExits (f.apply callers values named) := by
  unfold staysInside at h
  split at h
  · rw [Bool.and_eq_true, List.all_eq_true] at h
    rcases h with ⟨hfirst, hnamed⟩
    apply LibraryFunction.accumulate_neverExits
    intro g hg args
    apply applyWithin_neverExits
    rcases hg with hhead | hmem
    · rw [hhead] at hfirst
      exact hfirst
    · exact hnamed _ hmem
  · exact applyWithin_neverExits callers depthLimit h values named

end Function

end Wrangle
