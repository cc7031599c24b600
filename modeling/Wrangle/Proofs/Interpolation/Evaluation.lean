import Wrangle.Interpolation.Evaluation
import Wrangle.Proofs.Fragment.RoundTrip
import Wrangle.Proofs.Function.Raising

/-!
# Failures of evaluation

What fails in a call is reported as an error of interpolation about the fragment, unless
the function that is called ends the program.  Two operations are no calls: a sign before
a value, and a range.  A fault of theirs ends the evaluation as it is.
-/

namespace Wrangle

/-!
# How evaluation fails
-/

/-- The trees whose values the value of a tree is made from, in the order of evaluation. -/
def Node.operands : Node -> List Node
  | call _ args kwargs _ => args ++ kwargs.map Prod.snd
  | range start stop => [start, stop]
  | vector items => items
  | tuple items => items
  | interpolate inner => [inner]
  | _ => []

namespace Interpolation

attribute [local simp] evaluate

open Grammar

/-- An error of interpolation about a fragment. -/
def IsAbout (source : String) (e : UserError) : Prop :=
  exists message hint, e = .ofKind .interpolation message hint (some source)

/-- What ends the evaluation of a tree as it is: a fault of a sign or of a range, or a function
that ends the program. -/
inductive Breaks (env : Environment) (source : String) : HostFault -> Node -> Prop where
  | sign {operand a f} :
      evaluate env source operand = .ok a -> a.negate = .error f ->
        Breaks env source (.raised f) (.unary "-" operand)
  | span {start stop a b first last f} :
      evaluate env source start = .ok a -> evaluate env source stop = .ok b ->
        a.asInt? = some first -> b.asInt? = some last -> Value.spanOf first last = .error f ->
          Breaks env source (.raised f) (.range start stop)
  | exit {head args kwargs g values named} :
      args.mapM (evaluate env source) = .ok values ->
        evaluateNamed env source [] kwargs = .ok named ->
          lookup env source head = .ok (.function g) ->
            g.apply env.functions values named = .error (.fault .exit) ->
              Breaks env source .exit (.call head args kwargs false)
  | operand {f tree front part back} :
      tree.operands = front ++ part :: back ->
        (forall other, other ∈ front -> exists value, evaluate env source other = .ok value) ->
          Breaks env source f part -> Breaks env source f tree

def Guarded (env : Environment) (source : String) (tree : Node) : Failure -> Prop
  | .user e => IsAbout source e ∨ env.functions.Raise e
  | .fault f => Breaks env source f tree

/-- The evaluation of a tree ends with a value, or with one of these failures. -/
abbrev IsGuarded (env : Environment) (source : String) (tree : Node) : Prop :=
  Ends (Guarded env source tree) (fun _ => True) (evaluate env source tree)

section Evaluation

variable {env : Environment} {source : String}

theorem guarded_rejected (tree : Node) (message : String) (hint : Option String) :
    Ends (Guarded env source tree) (fun _ => True) (rejected message hint source : Outcome alpha) :=
  .inl ⟨message, hint, rfl⟩

/-!
# Lists of trees
-/

theorem evaluateAll_eq (trees : List Node) :
    evaluateAll env source trees = trees.mapM (evaluate env source) := by
  induction trees with
  | nil => rfl
  | cons tree rest ih =>
      rw [evaluateAll, List.mapM_cons, ih]
      rfl

theorem evaluateNamed_eq (named : List (String × Value)) (entries : List (String × Node)) :
    evaluateNamed env source named entries =
      ((entries.map Prod.snd).mapM (evaluate env source)).map fun values =>
        ((entries.map Prod.fst).zip values).foldl
          (fun named entry => putNamed named entry.1 entry.2) named := by
  induction entries generalizing named with
  | nil => rfl
  | cons entry rest ih =>
      rw [evaluateNamed, List.map_cons, List.map_cons, List.mapM_cons]
      cases evaluate env source entry.2 with
      | error failure => rfl
      | ok value =>
          rw [ok_bind, ok_bind, ih]
          cases (rest.map Prod.snd).mapM (evaluate env source) with
          | error failure => rfl
          | ok values => rfl

/-!
# Breaking parts
-/

theorem guarded_of_operand {tree part : Node} (front : List Node) {back : List Node}
    (hoperands : tree.operands = front ++ part :: back)
    (hfront : forall other, other ∈ front -> exists value, evaluate env source other = .ok value)
    {failure : Failure} (h : Guarded env source part failure) :
    Guarded env source tree failure := by
  cases failure with
  | user e => exact h
  | fault f => exact .operand hoperands hfront h

theorem guarded_parts (tree : Node) (front parts : List Node) {back : List Node}
    (hoperands : tree.operands = front ++ (parts ++ back))
    (hfront : forall other, other ∈ front -> exists value, evaluate env source other = .ok value)
    (hparts : forall part, part ∈ parts -> IsGuarded env source part) :
    Ends (Guarded env source tree)
      (fun values => parts.mapM (evaluate env source) = .ok values)
      (parts.mapM (evaluate env source)) := by
  apply Ends.mapM_front
  intro before part after hsplit hbefore
  apply (hparts part (hsplit ▸ by simp)).imp
  · intro failure hfailure
    have hrow : tree.operands = (front ++ before) ++ part :: (after ++ back) := by
      rw [hoperands, hsplit]
      simp
    apply guarded_of_operand _ hrow _ hfailure
    intro other hother
    rcases List.mem_append.1 hother with hother | hother
    · exact hfront other hother
    · exact hbefore other hother
  · intro _ _
    trivial

theorem guarded_call {head : String} {args : List Node} {kwargs : List (String × Node)}
    {isOperator : Bool}
    (hargs : forall arg, arg ∈ args -> IsGuarded env source arg)
    (hkwargs : forall entry, entry ∈ kwargs -> IsGuarded env source entry.2)
    (hcall : forall values named, args.mapM (evaluate env source) = .ok values ->
      evaluateNamed env source [] kwargs = .ok named ->
      Ends (Guarded env source (.call head args kwargs isOperator)) (fun _ => True)
        (callValue env source (.call head args kwargs isOperator) head isOperator values named)) :
    IsGuarded env source (.call head args kwargs isOperator) := by
  unfold IsGuarded
  rw [evaluate, evaluateAll_eq]
  apply (guarded_parts _ [] args rfl nofun hargs).bind
  intro values hvalues
  have hfront : forall arg, arg ∈ args -> exists value, evaluate env source arg = .ok value :=
    fun arg harg => exists_of_mapM_eq_ok hvalues harg
  have hnamed : forall part, part ∈ kwargs.map Prod.snd -> IsGuarded env source part := by
    intro part hpart
    rcases List.mem_map.1 hpart with ⟨entry, hentry, rfl⟩
    exact hkwargs entry hentry
  have hoperands : (Node.call head args kwargs isOperator).operands =
      args ++ (kwargs.map Prod.snd ++ []) := by
    rw [List.append_nil]
    rfl
  have hparts := guarded_parts _ args (kwargs.map Prod.snd) hoperands hfront hnamed
  have hkwargs : Ends (Guarded env source (.call head args kwargs isOperator)) (fun _ => True)
      (evaluateNamed env source [] kwargs) := by
    rw [evaluateNamed_eq]
    exact hparts.map fun _ _ => trivial
  apply hkwargs.known.bind
  intro named hnamed
  exact hcall values named hvalues hnamed

/-- Faults of a function are reported; its user errors come from functions from outside. -/
theorem guarded_reported {tree : Node} (hproper : tree.canonicalText? = .ok tree.unparse)
    {outcome : Outcome Value} (h : RaisesOnly env.functions.Raise outcome)
    (hexit : outcome = .error (.fault .exit) -> Breaks env source .exit tree) :
    Ends (Guarded env source tree) (fun _ => True) (reported tree source outcome) := by
  cases outcome with
  | ok value => trivial
  | error failure =>
      cases failure with
      | user e => exact .inr h
      | fault f =>
          cases f with
          | raised f =>
              unfold reported
              rw [hproper]
              exact guarded_rejected tree _ none
          | exit => exact hexit rfl

theorem guarded_lookup (tree : Node) (name : String) :
    Ends (Guarded env source tree) (fun _ => True) (lookup env source name) := by
  unfold lookup
  split
  · trivial
  · split
    · trivial
    · exact guarded_rejected tree _ _

theorem guarded_function {head : String} {args : List Node} {kwargs : List (String × Node)}
    (hproper : (Node.call head args kwargs false).canonicalText? =
      .ok (Node.call head args kwargs false).unparse)
    {values : List Value} {named : List (String × Value)}
    (hvalues : args.mapM (evaluate env source) = .ok values)
    (hnamed : evaluateNamed env source [] kwargs = .ok named) :
    Ends (Guarded env source (.call head args kwargs false)) (fun _ => True)
      (callValue env source (.call head args kwargs false) head false values named) := by
  unfold callValue
  rw [if_neg Bool.false_ne_true]
  apply (guarded_lookup _ head).known.bind
  intro f hlookup
  split
  · rename_i g
    exact guarded_reported hproper (Function.apply_raisesOnly env.functions g values named)
      fun happly => .exit hvalues hnamed hlookup happly
  · exact guarded_rejected _ _ none

theorem guarded_noValue {tree : Node} (hproper : tree.canonicalText? = .ok tree.unparse) :
    Ends (Guarded env source tree) (fun _ => True) (noValue source tree) := by
  unfold noValue
  rw [hproper]
  exact guarded_rejected tree _ _

theorem guarded_range {start stop : Node} (hstart : IsGuarded env source start)
    (hstop : IsGuarded env source stop) : IsGuarded env source (.range start stop) := by
  unfold IsGuarded
  rw [evaluate]
  cases ha : evaluate env source start with
  | error failure => exact guarded_of_operand [] rfl nofun (hstart.bad_of_eq ha)
  | ok a =>
      cases hb : evaluate env source stop with
      | error failure =>
          exact guarded_of_operand [start] rfl
            (List.forall_mem_singleton.2 ⟨a, ha⟩) (hstop.bad_of_eq hb)
      | ok b =>
          show Ends _ _ (rangeValues source a b)
          unfold rangeValues
          split
          · rename_i first last hfirst hlast
            cases hspan : Value.spanOf first last with
            | error f => exact .span ha hb hfirst hlast hspan
            | ok span => trivial
          · exact guarded_rejected _ _ none

theorem guarded_operator {symbol : String} {op : BinaryOperator} {a b : Node}
    (hop : BinaryOperator.ofSymbol? symbol = some op)
    (hproper : (Node.binary symbol a b).canonicalText? = .ok (Node.binary symbol a b).unparse)
    (ha : IsGuarded env source a) (hb : IsGuarded env source b) :
    IsGuarded env source (.binary symbol a b) := by
  apply guarded_call (List.forall_mem_cons.2 ⟨ha, List.forall_mem_singleton.2 hb⟩)
    (List.forall_mem_nil _)
  intro values named hvalues _
  have hlength := length_of_mapM_eq_ok hvalues
  unfold callValue
  rw [if_pos rfl]
  split
  · cases hlength
  · rw [hop]
    exact guarded_reported hproper (raisesOnly_ofFault _)
      fun hexit => absurd hexit (ofFault_ne_exit _)

theorem guarded_not {operand : Node} (h : IsGuarded env source operand) :
    IsGuarded env source (.unary "!" operand) := by
  apply guarded_call (List.forall_mem_singleton.2 h) (List.forall_mem_nil _)
  intro values named hvalues _
  rcases List.length_eq_one_iff.1 (length_of_mapM_eq_ok hvalues) with ⟨a, rfl⟩
  trivial

theorem guarded_minus {operand : Node} (h : IsGuarded env source operand) :
    IsGuarded env source (.unary "-" operand) := by
  apply guarded_call (List.forall_mem_singleton.2 h) (List.forall_mem_nil _)
  intro values named hvalues _
  rw [List.mapM_cons] at hvalues
  rcases bind_eq_ok_iff.1 hvalues with ⟨a, ha, hrest⟩
  cases hrest
  show Ends _ _ (Outcome.ofFault a.negate)
  cases hnegate : a.negate with
  | error f => exact .sign ha hnegate
  | ok value => trivial

theorem evaluate_guarded {tree : Node} (h : Parsed tree) : IsGuarded env source tree := by
  have hproper := canonicalText?_of_parsed h
  induction h with
  | @leaf t tree _ hleaf =>
      cases t with
      | identifier name =>
          cases hleaf
          exact guarded_lookup _ name
      | quotedName name =>
          cases hleaf
          exact guarded_lookup _ name
      | keyword k => cases k <;> cases hleaf <;> trivial
      | _ => cases hleaf <;> trivial
  | negativeInt _ => trivial
  | negativeFloat _ => trivial
  | joined hsign ha hb iha ihb =>
      have ha := iha (canonicalText?_of_parsed ha)
      have hb := ihb (canonicalText?_of_parsed hb)
      rcases operator_of_join hsign with rfl | rfl | ⟨symbol, op, rfl, hop⟩
      · exact guarded_noValue hproper
      · exact guarded_range ha hb
      · exact guarded_operator hop hproper ha hb
  | inverted hoperand ih => exact guarded_not (ih (canonicalText?_of_parsed hoperand))
  | negative _ hoperand ih => exact guarded_minus (ih (canonicalText?_of_parsed hoperand))
  | call _ hargs _ hkwargs ihargs ihkwargs =>
      apply guarded_call
      · exact fun arg harg => ihargs arg harg (canonicalText?_of_parsed (hargs arg harg))
      · exact fun entry hentry =>
          ihkwargs entry hentry (canonicalText?_of_parsed (hkwargs entry hentry))
      · exact fun _ _ hvalues hnamed => guarded_function hproper hvalues hnamed
  | @marked inner hinner ih =>
      unfold IsGuarded
      rw [evaluate]
      apply (ih (canonicalText?_of_parsed hinner)).imp
      · exact fun _ hfailure => guarded_of_operand [] rfl nofun hfailure
      · exact fun _ _ => trivial
  | @tuple trees htrees ih =>
      unfold IsGuarded
      rw [evaluate, evaluateAll_eq]
      have hparts := guarded_parts (.tuple trees) [] trees (List.append_nil trees).symm nofun
        fun tree htree => ih tree htree (canonicalText?_of_parsed (htrees tree htree))
      exact hparts.map fun _ _ => trivial
  | @vector trees htrees ih =>
      unfold IsGuarded
      rw [evaluate, evaluateAll_eq]
      have hparts := guarded_parts (.vector trees) [] trees (List.append_nil trees).symm nofun
        fun tree htree => ih tree htree (canonicalText?_of_parsed (htrees tree htree))
      exact hparts.map fun _ _ => trivial

end Evaluation

end Interpolation
end Wrangle
