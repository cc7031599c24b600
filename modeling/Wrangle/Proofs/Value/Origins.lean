import Wrangle.Proofs.Value.Making

/-!
# Origins of operands

Where an undefined number comes from matters inside containers and among keys only.
Operators give the same results whatever the origins of their operands are, as long as
membership is not asked for among undefined numbers.
-/

namespace Wrangle

open Number

namespace Value

/-- A number as if a computation had just made it; all other values stay as they are. -/
def withoutOrigin : Value -> Value
  | float x _ => float x .fresh
  | complex re im _ => complex re im .fresh
  | decimal d _ => decimal d .fresh
  | value => value

def isUndefined : Value -> Bool
  | float x _ => Binary.isUndefined x
  | complex re im _ => Binary.isUndefined re || Binary.isUndefined im
  | decimal d _ => d.isUndefined
  | _ => false

section Observations

variable (a : Value)

@[simp] theorem isMissing_withoutOrigin : a.withoutOrigin.isMissing = a.isMissing := by
  cases a <;> rfl

@[simp] theorem isTruthy_withoutOrigin : a.withoutOrigin.isTruthy = a.isTruthy := by
  cases a <;> rfl

@[simp] theorem isStr_withoutOrigin : a.withoutOrigin.isStr = a.isStr := by
  cases a <;> rfl

@[simp] theorem looksNumeric_withoutOrigin : a.withoutOrigin.looksNumeric = a.looksNumeric := by
  cases a <;> rfl

@[simp] theorem canBeSought_withoutOrigin : a.withoutOrigin.canBeSought = a.canBeSought := by
  cases a <;> rfl

@[simp] theorem members?_withoutOrigin : a.withoutOrigin.members? = a.members? := by
  cases a <;> rfl

@[simp] theorem negate_withoutOrigin : a.withoutOrigin.negate = a.negate := by
  cases a <;> rfl

@[simp] theorem infinityLike_withoutOrigin : a.withoutOrigin.infinityLike = a.infinityLike := by
  cases a <;> rfl

theorem toNumber_withoutOrigin : a.withoutOrigin.toNumber = a.toNumber.map withoutOrigin := by
  cases a with
  | str s =>
      unfold withoutOrigin toNumber
      dsimp only
      split
      · rfl
      · split <;> rfl
  | _ => rfl

theorem MembersAre.congr {keep : Value -> Prop} {a b : Value} (ha : a.MembersAre keep)
    (h : a.withoutOrigin = b.withoutOrigin) : b.MembersAre keep := by
  intro items hitems
  rw [← members?_withoutOrigin, ← h, members?_withoutOrigin] at hitems
  exact ha items hitems

theorem isMissing_congr {a b : Value} (h : a.withoutOrigin = b.withoutOrigin) :
    a.isMissing = b.isMissing := by
  rw [← isMissing_withoutOrigin, h, isMissing_withoutOrigin]

end Observations

/-!
# Operations
-/

/-- An operation to which the origins of its operands make no difference. -/
structure IgnoresOrigins {alpha : Type} (f : Value -> Value -> alpha) : Prop where
  left : forall a b, f a.withoutOrigin b = f a b
  right : forall a b, f a b.withoutOrigin = f a b

theorem IgnoresOrigins.both {alpha : Type} {f : Value -> Value -> alpha} (h : IgnoresOrigins f)
    (a b : Value) : f a.withoutOrigin b.withoutOrigin = f a b := by
  rw [h.left, h.right]

/-!
Only numbers have an origin to lose, so each operation is looked at where one of its operands is a
number and the other one may be anything.
-/

theorem ignoresOrigins_add : IgnoresOrigins add where
  left a b := by cases a <;> rfl
  right a b := by cases b <;> first | rfl | cases a <;> rfl

theorem ignoresOrigins_subtract : IgnoresOrigins subtract where
  left a b := by cases a <;> rfl
  right a b := by cases b <;> first | rfl | cases a <;> rfl

theorem ignoresOrigins_multiply : IgnoresOrigins multiply where
  left a b := by cases a <;> first | rfl | cases b <;> rfl
  right a b := by cases b <;> first | rfl | cases a <;> rfl

theorem ignoresOrigins_divide : IgnoresOrigins divide where
  left a b := by cases a <;> rfl
  right a b := by cases b <;> first | rfl | cases a <;> rfl

theorem ignoresOrigins_power : IgnoresOrigins power where
  left a b := by cases a <;> rfl
  right a b := by cases b <;> rfl

theorem ignoresOrigins_conjunction : IgnoresOrigins conjunction where
  left a b := by cases a <;> rfl
  right a b := by cases b <;> rfl

theorem ignoresOrigins_disjunction : IgnoresOrigins disjunction where
  left a b := by cases a <;> rfl
  right a b := by cases b <;> rfl

theorem ignoresOrigins_equals : IgnoresOrigins equals where
  left a b := by
    cases a <;> first | rfl | cases b <;> simp only [withoutOrigin, equals] <;> rfl
  right a b := by
    cases b <;> first | rfl | cases a <;> simp only [withoutOrigin, equals, asList?] <;> rfl

theorem ignoresOrigins_signals : IgnoresOrigins signals where
  left a b := by cases a <;> rfl
  right a b := by
    cases b <;> first | rfl | cases a <;> simp only [withoutOrigin, signals, asList?] <;> rfl

theorem ignoresOrigins_equals? : IgnoresOrigins equals? where
  left a b := by
    rw [equals?, ignoresOrigins_signals.left, ignoresOrigins_equals.left]
    rfl
  right a b := by
    rw [equals?, ignoresOrigins_signals.right, ignoresOrigins_equals.right]
    rfl

theorem ignoresOrigins_compareWith (c : Comparison) : IgnoresOrigins (compareWith c) where
  left a b := by cases a <;> rfl
  right a b := by
    cases b <;> first | rfl | cases a <;> simp only [withoutOrigin, compareWith, asList?] <;> rfl

theorem ignoresOrigins_quotient : IgnoresOrigins quotient where
  left a b := by
    simp only [quotient, isZero?, ignoresOrigins_equals?.left, ignoresOrigins_divide.left,
      infinityLike_withoutOrigin]
  right a b := by
    simp only [quotient, isZero?, ignoresOrigins_equals?.left, ignoresOrigins_divide.right]

end Value

/-!
# Templates
-/

namespace Template

def single (value : Value) : Arguments :=
  { pending := [value], mapping := none }

/-- A value that is no integer is no width and no precision: as with a missing value, nothing is
taken where a star stands. -/
theorem takeCount_single {value : Value} (h : value.asInt? = none) (limit : Nat)
    (cs : List Char) : takeCount limit (single value) cs =
      (takeCount limit (single .missing) cs).map fun entry =>
        (entry.1, single value, entry.2.2) := by
  unfold takeCount
  split
  · simp only [single, Arguments.next, ok_bind, h]
    rfl
  · dsimp only
    split
    · rfl
    · rfl

theorem takePlace_single {value : Value} (h : value.asInt? = none) (cs : List Char) :
    takePlace (single value) cs =
      (takePlace (single .missing) cs).map fun entry => (entry.1, single value, entry.2.2) := by
  unfold takePlace
  split
  · rfl
  · simp only [ok_bind]
    rw [takeCount_single h, @takeCount_single .missing rfl]
    generalize takeCount (Nat.pow 2 63) (single .missing) _ = width
    cases width with
    | error f => rfl
    | ok found =>
        simp only [Except.map, ok_bind]
        split
        · rename_i rest _
          rw [takeCount_single h, @takeCount_single .missing rfl]
          generalize takeCount (Nat.pow 2 31) (single .missing) rest = precision
          cases precision with
          | error f => rfl
          | ok found =>
              simp only [Except.map, ok_bind]
              split <;> rfl
        · split <;> rfl

theorem convert_withoutOrigin (place : Place) (conversion : Char) (value : Value) :
    convert place conversion value.withoutOrigin = convert place conversion value := by
  cases value <;> rfl

theorem fillFrom_withoutOrigin {value : Value} (h : value.asInt? = none) (rounds : Nat)
    (cs : List Char) :
    fillFrom rounds (single value.withoutOrigin) cs = fillFrom rounds (single value) cs := by
  have hwithout : value.withoutOrigin.asInt? = none := by
    cases value <;> first | rfl | cases h
  induction rounds generalizing cs with
  | zero => rfl
  | succ rounds ih =>
      unfold fillFrom
      split
      · rfl
      · rw [ih]
      · rename_i rest _
        rw [takePlace_single hwithout, takePlace_single h]
        generalize takePlace (single .missing) rest = place
        cases place with
        | error f => rfl
        | ok found =>
            simp only [Except.map, ok_bind]
            split
            · rfl
            · simp only [single, Arguments.next, ok_bind]
              rw [convert_withoutOrigin]
      · rw [ih]

theorem fill_withoutOrigin (template : String) (value : Value) :
    fill template value.withoutOrigin = fill template value := by
  cases value with
  | float x origin =>
      exact congrArg (Except.map _) (@fillFrom_withoutOrigin (.float x origin) rfl ..)
  | complex re im origin =>
      exact congrArg (Except.map _) (@fillFrom_withoutOrigin (.complex re im origin) rfl ..)
  | decimal d origin =>
      exact congrArg (Except.map _) (@fillFrom_withoutOrigin (.decimal d origin) rfl ..)
  | _ => rfl

end Template

/-!
# Operators
-/

namespace Value

theorem ignoresOrigins_modulo : IgnoresOrigins modulo where
  left a b := by cases a <;> rfl
  right a b := by
    cases a with
    | str s => exact congrArg (Except.map _) (Template.fill_withoutOrigin s b)
    | _ => cases b <;> rfl

abbrev MembersDefined (value : Value) : Prop :=
  value.MembersAre fun member => member.isUndefined = false

theorem identical_withoutOrigin (a : Value) {b : Value} (h : b.isUndefined = false) :
    identical a.withoutOrigin b = identical a b := by
  cases a with
  | float x origin =>
      cases b with
      | float y origin' =>
          have hy : Binary.isUndefined y = false := h
          simp [withoutOrigin, identical, hy]
      | _ => rfl
  | complex re im origin =>
      cases b with
      | complex re' im' origin' =>
          have hb : (Binary.isUndefined re' || Binary.isUndefined im') = false := h
          simp [withoutOrigin, identical, hb]
      | _ => rfl
  | decimal d origin =>
      cases b with
      | decimal e origin' =>
          have he : e.isUndefined = false := h
          simp [withoutOrigin, identical, he]
      | _ => rfl
  | _ => rfl

theorem memberOf?_withoutOrigin (a : Value) {items : List Value}
    (h : Kept (fun member => member.isUndefined = false) items) :
    a.withoutOrigin.memberOf? items = a.memberOf? items := by
  induction items with
  | nil => rfl
  | cons b rest ih =>
      rcases Kept.cons_iff.1 h with ⟨hb, hrest⟩
      rw [memberOf?, memberOf?, same?, same?, identical_withoutOrigin a hb,
        ignoresOrigins_equals?.left, ih hrest]

theorem memberOf_withoutOrigin (a : Value) {items : List Value}
    (h : Kept (fun member => member.isUndefined = false) items) :
    a.withoutOrigin.memberOf items = a.memberOf items := by
  induction items with
  | nil => rfl
  | cons b rest ih =>
      rcases Kept.cons_iff.1 h with ⟨hb, hrest⟩
      have hrest := ih hrest
      unfold memberOf at hrest ⊢
      rw [List.any_cons, List.any_cons, same, same, identical_withoutOrigin a hb,
        ignoresOrigins_equals.left, hrest]

theorem membership_withoutOrigin (a : Value) {b : Value} (h : b.MembersDefined) :
    a.withoutOrigin.membership b.withoutOrigin = a.membership b := by
  have hleft : a.withoutOrigin.membership b = a.membership b := by
    unfold membership
    cases b with
    | list items => exact memberOf?_withoutOrigin a (h items rfl)
    | column items => exact memberOf?_withoutOrigin a (h items rfl)
    | tuple items => exact memberOf?_withoutOrigin a (h items rfl)
    | set items =>
        simp only [isIn, canBeSought_withoutOrigin, memberOf_withoutOrigin a (h items rfl)]
    | _ => exact ignoresOrigins_equals?.left a _
  have hright : a.withoutOrigin.membership b.withoutOrigin = a.withoutOrigin.membership b := by
    cases b with
    | float x origin => exact ignoresOrigins_equals?.right _ (float x origin)
    | complex re im origin => exact ignoresOrigins_equals?.right _ (complex re im origin)
    | decimal d origin => exact ignoresOrigins_equals?.right _ (decimal d origin)
    | _ => rfl
  rw [hright, hleft]

theorem coercePair_withoutOrigin (a b : Value) :
    coercePair a.withoutOrigin b.withoutOrigin =
      (coercePair a b).map fun pair => (pair.1.withoutOrigin, pair.2.withoutOrigin) := by
  simp only [coercePair, isStr_withoutOrigin, looksNumeric_withoutOrigin, toNumber_withoutOrigin]
  split
  · cases a.toNumber with
    | error f => rfl
    | ok x =>
        cases b.toNumber with
        | error f => rfl
        | ok y => rfl
  · rfl

end Value

open Value

namespace BinaryOperator

def asksMembers : BinaryOperator -> Bool
  | membership => true
  | _ => false

theorem applyCoerced_withoutOrigin (op : BinaryOperator) (a : Value) {b : Value}
    (h : op.asksMembers = true -> b.MembersDefined) :
    op.applyCoerced a.withoutOrigin b.withoutOrigin = op.applyCoerced a b := by
  cases op with
  | add => exact ignoresOrigins_add.both a b
  | subtract => exact ignoresOrigins_subtract.both a b
  | multiply => exact ignoresOrigins_multiply.both a b
  | divide => exact ignoresOrigins_quotient.both a b
  | modulo => exact ignoresOrigins_modulo.both a b
  | power => exact ignoresOrigins_power.both a b
  | equal => exact congrArg (Except.map _) (ignoresOrigins_equals?.both a b)
  | notEqual => exact congrArg (Except.map _) (ignoresOrigins_equals?.both a b)
  | less => exact congrArg (Except.map _) ((ignoresOrigins_compareWith .less).both a b)
  | lessEqual => exact congrArg (Except.map _) ((ignoresOrigins_compareWith .lessEqual).both a b)
  | greater => exact congrArg (Except.map _) ((ignoresOrigins_compareWith .greater).both a b)
  | greaterEqual =>
      exact congrArg (Except.map _) ((ignoresOrigins_compareWith .greaterEqual).both a b)
  | conjunction => exact congrArg Except.ok (ignoresOrigins_conjunction.both a b)
  | disjunction => exact congrArg Except.ok (ignoresOrigins_disjunction.both a b)
  | membership => exact congrArg (Except.map _) (membership_withoutOrigin a (h rfl))

theorem apply_withoutOrigin (op : BinaryOperator) (a : Value) {b : Value}
    (h : op.asksMembers = true -> b.MembersDefined) :
    op.apply a.withoutOrigin b.withoutOrigin = op.apply a b := by
  unfold apply
  split
  · exact op.applyCoerced_withoutOrigin a h
  · rename_i hkeeps
    have hmembers : op.asksMembers = true -> False := by
      cases op <;> simp_all [asksMembers, keepsKinds]
    rw [coercePair_withoutOrigin]
    cases coercePair a b with
    | error f => rfl
    | ok pair => exact op.applyCoerced_withoutOrigin pair.1 fun hop => (hmembers hop).elim

theorem apply_congr (op : BinaryOperator) {a a' b b' : Value}
    (ha : a.withoutOrigin = a'.withoutOrigin) (hb : b.withoutOrigin = b'.withoutOrigin)
    (h : op.asksMembers = true -> b.MembersDefined) : op.apply a b = op.apply a' b' := by
  have h' : op.asksMembers = true -> b'.MembersDefined := fun hop => (h hop).congr hb
  rw [← op.apply_withoutOrigin a h, ← op.apply_withoutOrigin a' h', ha, hb]

end BinaryOperator

theorem UnaryOperator.apply_withoutOrigin (op : UnaryOperator) (a : Value) :
    op.apply a.withoutOrigin = op.apply a := by
  cases op with
  | negate =>
      unfold apply
      rw [toNumber_withoutOrigin]
      cases a.toNumber with
      | error f => rfl
      | ok x => exact negate_withoutOrigin x
  | invert => exact congrArg (fun truth => Except.ok (Value.bool !truth)) (isTruthy_withoutOrigin a)

theorem UnaryOperator.apply_congr (op : UnaryOperator) {a b : Value}
    (h : a.withoutOrigin = b.withoutOrigin) : op.apply a = op.apply b := by
  rw [← op.apply_withoutOrigin a, h, op.apply_withoutOrigin]

end Wrangle
