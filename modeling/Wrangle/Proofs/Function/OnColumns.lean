import Wrangle.Function.Apply
import Wrangle.Proofs.Outcome

/-!
# Operators on whole columns

An operator that gets a column as a whole takes it for a list.  Some operators have a result
for lists: sums are joined lists, products are repeated ones, comparisons find the first
difference, and a template is filled with the list.  For all others it is a fault.
-/

namespace Wrangle

open Number

namespace Value

def isColumn : Value -> Bool
  | column _ => true
  | _ => false

variable {a b : Value}

/-- One of two values is a column. -/
def EitherColumn (a b : Value) : Prop :=
  a.isColumn = true ∨ b.isColumn = true

theorem EitherColumn.cases (h : EitherColumn a b) :
    (exists items, a = column items) ∨ exists items, b = column items := by
  rcases h with h | h
  · cases a with
    | column items => exact .inl ⟨items, rfl⟩
    | _ => cases h
  · cases b with
    | column items => exact .inr ⟨items, rfl⟩
    | _ => cases h

/-!
# Arithmetic
-/

theorem pair?_of_column (h : EitherColumn a b) : pair? a b = none := by
  rcases h.cases with ⟨items, rfl⟩ | ⟨items, rfl⟩
  · cases b <;> rfl
  · cases a <;> rfl

theorem coercePair_of_column (h : EitherColumn a b) : a.coercePair b = .ok (a, b) := by
  rcases h.cases with ⟨items, rfl⟩ | ⟨items, rfl⟩
  · simp [coercePair, looksNumeric]
  · simp [coercePair, looksNumeric]

theorem add_of_column (h : EitherColumn a b) :
    a.add b =
      match a.asList?, b.asList? with
      | some as, some bs => .ok (list (as ++ bs))
      | _, _ => .error .badType := by
  unfold add
  rw [pair?_of_column h]
  rcases h.cases with ⟨items, rfl⟩ | ⟨items, rfl⟩
  · cases b <;> rfl
  · cases a <;> rfl

theorem subtract_of_column (h : EitherColumn a b) : a.subtract b = .error .badType := by
  unfold subtract
  rw [pair?_of_column h]
  rcases h.cases with ⟨items, rfl⟩ | ⟨items, rfl⟩
  · cases b <;> rfl
  · cases a <;> rfl

theorem multiply_of_column (h : EitherColumn a b) :
    a.multiply b =
      match a.asList?, b.asInt?, a.asInt?, b.asList? with
      | some items, some times, _, _ => (Value.repeated items times).map list
      | _, _, some times, some items => (Value.repeated items times).map list
      | _, _, _, _ => .error .badType := by
  unfold multiply
  rw [pair?_of_column h]
  rcases h.cases with ⟨items, rfl⟩ | ⟨items, rfl⟩
  · cases b <;> rfl
  · cases a <;> rfl

theorem divide_of_column (h : EitherColumn a b) : a.divide b = .error .badType := by
  unfold divide
  rw [pair?_of_column h]
  rcases h.cases with ⟨items, rfl⟩ | ⟨items, rfl⟩
  · cases b <;> rfl
  · cases a <;> rfl

theorem power_of_column (h : EitherColumn a b) : a.power b = .error .badType := by
  unfold power
  rw [pair?_of_column h]

theorem modulo_of_column (h : EitherColumn a b) :
    a.modulo b =
      match a with
      | str s => (Template.fill s b).map str
      | _ => .error .badType := by
  unfold modulo
  rw [pair?_of_column h]
  rcases h.cases with ⟨items, rfl⟩ | ⟨items, rfl⟩
  · cases b <;> rfl
  · cases a <;> rfl

/-!
# Comparisons
-/

theorem equals?_of_asList? {as : List Value} (ha : a.asList? = some as) :
    a.equals? b =
      match b.asList? with
      | some bs => (list as).equals? (list bs)
      | none => .ok false := by
  cases a with
  | list items =>
      cases ha
      rw [equals?, signals, equals]
      cases b.asList? with
      | none => rfl
      | some others => simp only [equals?, signals, equals, asList?]
  | column items =>
      cases ha
      rw [equals?, signals, equals]
      cases b.asList? with
      | none => rfl
      | some others => simp only [equals?, signals, equals, asList?]
  | _ => cases ha

theorem equals?_column_of_none {items : List Value} (ha : a.asList? = none) :
    a.equals? (column items) = .ok false := by
  have hsignals : a.signals (column items) = false := by
    cases a <;>
      simp_all [signals, signalsSimple, isComparedAsNumber, extended?, isSignaling, asList?]
  have hequals : a.equals (column items) = false := by
    cases a <;> simp_all [equals, equalsSimple, numbersEqual, asInt?, extended?, asList?]
  rw [equals?, hsignals, hequals]
  rfl

theorem equals?_of_column (h : EitherColumn a b) :
    a.equals? b =
      match a.asList?, b.asList? with
      | some as, some bs => (list as).equals? (list bs)
      | _, _ => .ok false := by
  cases ha : a.asList? with
  | some as =>
      rw [equals?_of_asList? ha]
      cases b.asList? <;> rfl
  | none =>
      rcases h.cases with ⟨items, rfl⟩ | ⟨items, rfl⟩
      · cases ha
      · exact equals?_column_of_none ha

/-- The answers to the question if two values are equal, of which one is a column: lists are
compared item by item, and no other value is equal to a column. -/
inductive ComparesEqual (a b : Value) : Bool -> Prop where
  | lists {as bs : List Value} {same : Bool} :
      a.asList? = some as -> b.asList? = some bs -> (list as).equals? (list bs) = .ok same ->
      ComparesEqual a b same
  | apart : a.asList? = none ∨ b.asList? = none -> ComparesEqual a b false

theorem comparesEqual_iff (h : EitherColumn a b) {same : Bool} :
    a.equals? b = .ok same <-> ComparesEqual a b same := by
  rw [equals?_of_column h]
  constructor
  · intro hsame
    split at hsame
    · rename_i ha hb
      exact .lists ha hb hsame
    · rename_i hnone
      cases hsame
      cases ha : a.asList? with
      | none => exact .apart (.inl ha)
      | some as =>
          refine .apart (.inr (Option.eq_none_iff_forall_ne_some.2 ?_))
          exact fun bs hb => hnone as bs ha hb
  · rintro (⟨ha, hb, hsame⟩ | hnone | hnone)
    · rw [ha, hb]
      exact hsame
    · rw [hnone]
    · rw [hnone]
      cases a.asList? <;> rfl

theorem compareWith_of_column (c : Comparison) (h : EitherColumn a b) :
    compareWith c a b =
      match a.asList?, b.asList? with
      | some as, some bs => compareItems c as bs
      | _, _ => .error .badType := by
  rcases h.cases with ⟨items, rfl⟩ | ⟨items, rfl⟩
  · cases b <;> rfl
  · cases a <;> rfl

theorem membership_of_column (h : EitherColumn a b) {found : Bool} :
    a.membership b = .ok found <->
      (exists items, b.asItems? = some items ∧ a.memberOf? items = .ok found) ∨
        (b.asItems? = none ∧ (forall items, b ≠ set items) ∧ found = false) := by
  cases b with
  | list items => simp [membership, asItems?]
  | column items => simp [membership, asItems?]
  | tuple items => simp [membership, asItems?]
  | set items =>
      rcases h.cases with ⟨_, rfl⟩ | ⟨_, hb⟩
      · simp [membership, isIn, canBeSought, canBeKey, asItems?]
      · cases hb
  | _ =>
      rw [membership, equals?_of_column h]
      · simp [asList?, asItems?, eq_comm]
      all_goals exact nofun

theorem isZero?_of_column {items : List Value} : (column items).isZero? = .ok false :=
  equals?_of_column (.inl rfl)

theorem quotient_of_column (h : EitherColumn a b) {v : Value} :
    a.quotient b = .ok v <-> b.isZero? = .ok true ∧ v = ofFloat Binary.infinity := by
  unfold quotient
  rw [divide_of_column h]
  rcases h.cases with ⟨items, rfl⟩ | ⟨items, rfl⟩
  · rw [isZero?_of_column]
    cases b.isZero? with
    | error f => simp
    | ok zero => cases zero <;> simp [infinityLike, asInt?, eq_comm]
  · rw [isZero?_of_column]
    simp

end Value

namespace BinaryOperator

open Value

/-!
# Operators
-/

def isLogical : BinaryOperator -> Bool
  | conjunction | disjunction => true
  | _ => false

def comparison? : BinaryOperator -> Option Comparison
  | less => some .less
  | lessEqual => some .lessEqual
  | greater => some .greater
  | greaterEqual => some .greaterEqual
  | _ => none

/-- The results that arithmetic and comparison have for a column as a whole, beside another column
or any other value. -/
inductive OnColumns : BinaryOperator -> Value -> Value -> Value -> Prop where
  | joined {a b : Value} {as bs : List Value} :
      a.asList? = some as -> b.asList? = some bs -> OnColumns add a b (.list (as ++ bs))
  | repeated {a b : Value} {items copies : List Value} {times : Int} :
      a.asList? = some items -> b.asInt? = some times ->
      Value.repeated items times = .ok copies -> OnColumns multiply a b (.list copies)
  | repeatedAfter {a b : Value} {items copies : List Value} {times : Int} :
      a.asInt? = some times -> b.asList? = some items ->
      Value.repeated items times = .ok copies -> OnColumns multiply a b (.list copies)
  | overZero {a b : Value} :
      b.isZero? = .ok true -> OnColumns divide a b (.ofFloat Binary.infinity)
  | filled {s text : String} {b : Value} :
      Template.fill s b = .ok text -> OnColumns modulo (.str s) b (.str text)
  | equal {a b : Value} {same : Bool} :
      ComparesEqual a b same -> OnColumns equal a b (.bool same)
  | notEqual {a b : Value} {same : Bool} :
      ComparesEqual a b same -> OnColumns notEqual a b (.bool (!same))
  | among {a b : Value} {items : List Value} {found : Bool} :
      b.asItems? = some items -> a.memberOf? items = .ok found ->
      OnColumns membership a b (.bool found)
  | alone {a b : Value} :
      b.asItems? = none -> (forall items, b ≠ .set items) -> OnColumns membership a b (.bool false)
  | ordered {op : BinaryOperator} {c : Comparison} {a b : Value} {as bs : List Value}
      {holds : Bool} :
      op.comparison? = some c -> a.asList? = some as -> b.asList? = some bs ->
      compareItems c as bs = .ok holds -> OnColumns op a b (.bool holds)

variable {op : BinaryOperator} {a b v : Value}

theorem OnColumns.not_column (h : op.OnColumns a b v) : v.isColumn = false := by
  cases h <;> rfl

theorem apply_eq_applyCoerced (h : EitherColumn a b) : op.apply a b = op.applyCoerced a b := by
  unfold apply
  rw [coercePair_of_column h]
  split <;> rfl

theorem add_iff (h : EitherColumn a b) : a.add b = .ok v <-> add.OnColumns a b v := by
  rw [add_of_column h]
  constructor
  · intro hv
    split at hv
    · rename_i ha hb
      cases hv
      exact .joined ha hb
    · cases hv
  · intro hon
    cases hon with
    | joined ha hb => rw [ha, hb]
    | ordered hc => cases hc

theorem multiply_iff (h : EitherColumn a b) :
    a.multiply b = .ok v <-> multiply.OnColumns a b v := by
  rw [multiply_of_column h]
  constructor
  · intro hv
    split at hv
    · rename_i ha hb
      rcases map_eq_ok_iff.1 hv with ⟨copies, hcopies, rfl⟩
      exact .repeated ha hb hcopies
    · rename_i ha hb _
      rcases map_eq_ok_iff.1 hv with ⟨copies, hcopies, rfl⟩
      exact .repeatedAfter ha hb hcopies
    · cases hv
  · intro hon
    cases hon with
    | repeated ha hb hcopies =>
        rw [ha, hb]
        exact map_eq_ok_iff.2 ⟨_, hcopies, rfl⟩
    | repeatedAfter ha hb hcopies =>
        have hnone : a.asList? = none := by
          cases a <;> first | rfl | cases ha
        rw [hnone, ha, hb]
        exact map_eq_ok_iff.2 ⟨_, hcopies, rfl⟩
    | ordered hc => cases hc

theorem quotient_iff (h : EitherColumn a b) : a.quotient b = .ok v <-> divide.OnColumns a b v := by
  rw [quotient_of_column h]
  constructor
  · rintro ⟨hzero, rfl⟩
    exact .overZero hzero
  · intro hon
    cases hon with
    | overZero hzero => exact ⟨hzero, rfl⟩
    | ordered hc => cases hc

theorem modulo_iff (h : EitherColumn a b) : a.modulo b = .ok v <-> modulo.OnColumns a b v := by
  rw [modulo_of_column h]
  constructor
  · intro hv
    split at hv
    · rcases map_eq_ok_iff.1 hv with ⟨text, htext, rfl⟩
      exact .filled htext
    · cases hv
  · intro hon
    cases hon with
    | filled htext => exact map_eq_ok_iff.2 ⟨_, htext, rfl⟩
    | ordered hc => cases hc

theorem equal_iff (h : EitherColumn a b) :
    (a.equals? b).map .bool = .ok v <-> equal.OnColumns a b v := by
  rw [map_eq_ok_iff]
  constructor
  · rintro ⟨same, hsame, rfl⟩
    exact .equal ((comparesEqual_iff h).1 hsame)
  · intro hon
    cases hon with
    | equal hsame => exact ⟨_, (comparesEqual_iff h).2 hsame, rfl⟩
    | ordered hc => cases hc

theorem notEqual_iff (h : EitherColumn a b) :
    ((a.equals? b).map fun same => .bool (!same)) = .ok v <-> notEqual.OnColumns a b v := by
  rw [map_eq_ok_iff]
  constructor
  · rintro ⟨same, hsame, rfl⟩
    exact .notEqual ((comparesEqual_iff h).1 hsame)
  · intro hon
    cases hon with
    | notEqual hsame => exact ⟨_, (comparesEqual_iff h).2 hsame, rfl⟩
    | ordered hc => cases hc

theorem membership_iff (h : EitherColumn a b) :
    (a.membership b).map .bool = .ok v <-> membership.OnColumns a b v := by
  rw [map_eq_ok_iff]
  constructor
  · rintro ⟨found, hfound, rfl⟩
    rcases (membership_of_column h).1 hfound with ⟨items, hb, hitems⟩ | ⟨hb, hset, rfl⟩
    · exact .among hb hitems
    · exact .alone hb hset
  · intro hon
    cases hon with
    | among hb hitems => exact ⟨_, (membership_of_column h).2 (.inl ⟨_, hb, hitems⟩), rfl⟩
    | alone hb hset => exact ⟨_, (membership_of_column h).2 (.inr ⟨hb, hset, rfl⟩), rfl⟩
    | ordered hc => cases hc

theorem ordered_iff {c : Comparison} (hc : op.comparison? = some c) (h : EitherColumn a b) :
    (compareWith c a b).map .bool = .ok v <-> op.OnColumns a b v := by
  rw [compareWith_of_column c h, map_eq_ok_iff]
  constructor
  · rintro ⟨holds, hholds, rfl⟩
    split at hholds
    · rename_i ha hb
      exact .ordered hc ha hb hholds
    · cases hholds
  · intro hon
    cases hon with
    | ordered hother ha hb hholds =>
        rw [hc] at hother
        cases hother
        rw [ha, hb]
        exact ⟨_, hholds, rfl⟩
    | _ => cases hc

theorem not_onColumns (hop : op = subtract ∨ op = power) : ¬ op.OnColumns a b v := by
  rintro (_ | _ | _ | _ | _ | _ | _ | _ | _ | hc)
  all_goals rcases hop with hop | hop
  all_goals cases hop
  · cases hc
  · cases hc

theorem apply_iff_onColumns (hlogical : op.isLogical = false) (h : EitherColumn a b) :
    op.apply a b = .ok v <-> op.OnColumns a b v := by
  rw [apply_eq_applyCoerced h]
  cases op with
  | add => exact add_iff h
  | subtract =>
      refine iff_of_false ?_ (not_onColumns (.inl rfl))
      exact fun hv => by cases (subtract_of_column h).symm.trans hv
  | multiply => exact multiply_iff h
  | divide => exact quotient_iff h
  | modulo => exact modulo_iff h
  | power =>
      refine iff_of_false ?_ (not_onColumns (.inr rfl))
      exact fun hv => by cases (power_of_column h).symm.trans hv
  | equal => exact equal_iff h
  | notEqual => exact notEqual_iff h
  | less => exact ordered_iff rfl h
  | lessEqual => exact ordered_iff rfl h
  | greater => exact ordered_iff rfl h
  | greaterEqual => exact ordered_iff rfl h
  | conjunction => cases hlogical
  | disjunction => cases hlogical
  | membership => exact membership_iff h

end BinaryOperator
end Wrangle
