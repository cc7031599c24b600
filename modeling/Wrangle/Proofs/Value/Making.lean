import Wrangle.Function.Operator
import Wrangle.Proofs.Value.Sorting

/-!
# What arithmetic makes

Arithmetic gives numbers, texts, and points and spans of time, or it puts members of
its operands into new collections.  What holds of all these therefore holds of all
results of arithmetic.
-/

namespace Wrangle

open Number

namespace Value

/-!
# Atoms and collections
-/

def isAtom : Value -> Bool
  | bool _ | int _ | float _ _ | complex _ _ _ | str _ | decimal _ _ => true
  | date _ | datetime _ | duration _ => true
  | _ => false

def members? : Value -> Option (List Value)
  | list items | column items | tuple items | set items => some items
  | _ => none

def MembersAre (keep : Value -> Prop) (value : Value) : Prop :=
  forall items, value.members? = some items -> Kept keep items

/-- An atom, or a collection of members of a kind. -/
inductive Made (keep : Value -> Prop) : Value -> Prop where
  | atom {value : Value} : value.isAtom = true -> Made keep value
  | list {items : List Value} : Kept keep items -> Made keep (list items)
  | tuple {items : List Value} : Kept keep items -> Made keep (tuple items)
  | set {items : List Value} : Kept keep items -> Made keep (set items)

/-- A computation whose result is an atom, if it has one. -/
abbrev GivesAtom {epsilon : Type} (x : Except epsilon Value) : Prop :=
  Ends (fun _ => True) (fun value => value.isAtom = true) x

/-- A computation whose result is made of members of a kind, if it has one. -/
abbrev GivesMade {epsilon : Type} (keep : Value -> Prop) (x : Except epsilon Value) : Prop :=
  Ends (fun _ => True) (Made keep) x

section Results

variable {epsilon alpha : Type} {keep : Value -> Prop}

theorem GivesAtom.made {x : Except epsilon Value} (h : GivesAtom x) : GivesMade keep x :=
  h.weaken fun _ => Made.atom

theorem Made.mono {better : Value -> Prop} {value : Value} (h : value.Made keep)
    (hkeep : forall member, keep member -> better member) : value.Made better := by
  cases h with
  | atom h => exact Made.atom h
  | list h => exact Made.list fun member hmember => hkeep member (h member hmember)
  | tuple h => exact Made.tuple fun member hmember => hkeep member (h member hmember)
  | set h => exact Made.set fun member hmember => hkeep member (h member hmember)

theorem members?_of_isAtom {value : Value} (h : value.isAtom = true) : value.members? = none := by
  cases value <;> first | rfl | cases h

theorem isMissing_of_isAtom {value : Value} (h : value.isAtom = true) :
    value.isMissing = false := by
  cases value <;> first | rfl | cases h

theorem Made.isMissing {value : Value} (h : value.Made keep) : value.isMissing = false := by
  cases h with
  | atom h => exact isMissing_of_isAtom h
  | _ => rfl

theorem Made.membersAre {value : Value} (h : value.Made keep) : value.MembersAre keep := by
  intro items hitems
  cases h with
  | atom h => cases (members?_of_isAtom h).symm.trans hitems
  | list h =>
      cases hitems
      exact h
  | tuple h =>
      cases hitems
      exact h
  | set h =>
      cases hitems
      exact h

theorem givesAtom_bind {x : Except epsilon alpha} {f : alpha -> Except epsilon Value}
    (h : forall a, GivesAtom (f a)) : GivesAtom (x >>= f) :=
  (ends_any x).bind_any h

theorem givesAtom_map {x : Except epsilon alpha} {f : alpha -> Value}
    (h : forall a, (f a).isAtom = true) : GivesAtom (x.map f) :=
  (ends_any x).map_any h

theorem MembersAre.asList? {a : Value} (h : a.MembersAre keep) {items : List Value}
    (hitems : a.asList? = some items) : Kept keep items := by
  cases a with
  | list found => exact h items hitems
  | column found => exact h items hitems
  | _ => cases hitems

end Results

/-!
# Numbers, days and spans
-/

theorem ofMoment?_atom (result : Option DateTime) : GivesAtom (ofMoment? result) := by
  cases result with
  | none => trivial
  | some t => rfl

theorem ofDay?_atom (result : Option Date) : GivesAtom (ofDay? result) := by
  cases result with
  | none => trivial
  | some d => rfl

theorem ofSpan_atom (microseconds : Int) : GivesAtom (ofSpan microseconds) := by
  unfold ofSpan
  split
  · rfl
  · trivial

theorem scaleSpan_atom (d : Duration) (q : Rat) : GivesAtom (scaleSpan d q) :=
  ofSpan_atom _

theorem divideInts_atom (m n : Int) : GivesAtom (divideInts m n) := by
  unfold divideInts
  split
  · trivial
  · split
    · rfl
    · trivial

theorem floatPower_atom (x y : Float) : GivesAtom (FloatArithmetic.power x y) := by
  unfold FloatArithmetic.power
  dsimp only
  split
  · trivial
  · split
    · exact givesAtom_map fun _ => rfl
    · split
      · trivial
      · rfl

theorem powerInts_atom (m n : Int) : GivesAtom (powerInts m n) := by
  unfold powerInts
  split
  · rfl
  · split
    · trivial
    · split
      · exact floatPower_atom _ _
      · trivial
      · trivial

theorem integerOf_atom (convert : Float -> Option Int) (x : Float) :
    GivesAtom (integerOf convert x) := by
  unfold integerOf
  split
  · rfl
  · trivial

theorem integerOfDecimal_atom (convert : Rat -> Int) (d : Decimal) :
    GivesAtom (integerOfDecimal convert d) := by
  unfold integerOfDecimal
  split
  · rfl
  · split
    · trivial
    · trivial

/-!
# Repetition
-/

theorem repeated_keeps {alpha : Type} {keep : alpha -> Prop} {items : List alpha}
    (h : Kept keep items) (times : Int) :
    Ends (fun _ => True) (Kept keep) (repeated items times) := by
  unfold repeated
  split
  · trivial
  · split
    · exact Kept.nil
    · split
      · trivial
      · intro x hx
        rcases List.mem_flatten.1 hx with ⟨copy, hcopy, hx⟩
        rw [List.eq_of_mem_replicate hcopy] at hx
        exact h x hx

theorem repeatBy_made {keep : Value -> Prop} {a : Value} (h : a.MembersAre keep) (times : Int) :
    GivesMade keep (repeatBy a times) := by
  unfold repeatBy
  split
  · exact (givesAtom_map fun _ => rfl).made
  · exact (repeated_keeps (h _ rfl) times).map fun _ => Made.tuple
  · exact (ofSpan_atom _).made
  · split
    · rename_i items hitems
      exact (repeated_keeps (h.asList? hitems) times).map fun _ => Made.list
    · trivial

/-!
# Sets
-/

def Table.Keeps (keep : Value -> Prop) (table : Table) : Prop :=
  forall entry, some entry ∈ table.places.toList -> keep entry.2

section Tables

variable {keep : Value -> Prop} {table : Table}

theorem Table.keeps_ofSize (size : Nat) : (Table.ofSize size).Keeps keep := by
  intro entry h
  rw [ofSize, Array.toList_replicate] at h
  cases List.eq_of_mem_replicate h

theorem Table.Keeps.place (h : table.Keeps keep) {member : Nat × Value} (hmember : keep member.2) :
    (table.place member).Keeps keep := by
  intro entry hentry
  unfold Table.place at hentry
  dsimp only at hentry
  rw [Array.toList_setIfInBounds] at hentry
  rcases List.mem_or_eq_of_mem_set hentry with hold | hnew
  · exact h entry hold
  · cases hnew
    exact hmember

theorem Table.Keeps.toList (h : table.Keeps keep) {entry : Nat × Value}
    (hentry : entry ∈ table.toList) : keep entry.2 := by
  rcases List.mem_filterMap.1 hentry with ⟨found, hfound, rfl⟩
  exact h entry hfound

theorem Table.Keeps.foldl {step : Table -> Nat × Value -> Table}
    (hstep : forall {table : Table}, table.Keeps keep -> forall {member : Nat × Value},
      keep member.2 -> (step table member).Keeps keep) {members : List (Nat × Value)}
    (hmembers : forall member, member ∈ members -> keep member.2) (h : table.Keeps keep) :
    (members.foldl step table).Keeps keep := by
  induction members generalizing table with
  | nil => exact h
  | cons member rest ih =>
      exact ih (fun other hother => hmembers other (List.mem_cons_of_mem _ hother))
        (hstep h (hmembers member (List.mem_cons_self ..)))

theorem Table.Keeps.insert (h : table.Keeps keep) {member : Nat × Value}
    (hmember : keep member.2) : (table.insert member).Keeps keep := by
  have hfull := h.place hmember
  unfold Table.insert
  dsimp only
  split
  · exact hfull
  · exact (keeps_ofSize _).foldl Keeps.place fun _ hentry => hfull.toList hentry

theorem kept_inPlace {items : List Value} (h : Kept keep items) : Kept keep (inPlace items) := by
  unfold inPlace
  split
  · rename_i codes _
    intro x hx
    rcases List.mem_map.1 hx with ⟨entry, hentry, rfl⟩
    refine Table.Keeps.toList
      (Table.Keeps.foldl Table.Keeps.insert ?_ (Table.keeps_ofSize 8)) hentry
    intro member hmember
    exact h member.2 (List.of_mem_zip hmember).2
  · exact h

end Tables

theorem kept_distinct {keep : Value -> Prop} {items : List Value} (h : Kept keep items) :
    Kept keep (distinct items) := by
  have hfoldl : forall (rest seen : List Value), Kept keep rest -> Kept keep seen ->
      Kept keep (rest.foldl (fun seen value =>
        if memberOf value seen then seen else seen ++ [value]) seen) := by
    intro rest
    induction rest with
    | nil => exact fun _ _ hseen => hseen
    | cons value rest ih =>
        intro seen hrest hseen
        rw [Kept.cons_iff] at hrest
        apply ih _ hrest.2
        dsimp only
        split
        · exact hseen
        · simp [hseen, hrest.1]
  exact hfoldl items [] h Kept.nil

/-!
# Arithmetic
-/

section Arithmetic

variable {keep : Value -> Prop} {a b : Value}

theorem add_made (ha : a.MembersAre keep) (hb : b.MembersAre keep) :
    GivesMade keep (add a b) := by
  unfold add
  split
  · exact Made.atom rfl
  · exact Made.atom rfl
  · exact (givesAtom_map fun _ => rfl).made
  · exact Made.atom rfl
  · trivial
  · split
    · exact Made.atom rfl
    · exact Made.tuple (Kept.append_iff.2 ⟨ha _ rfl, hb _ rfl⟩)
    · exact (ofDay?_atom _).made
    · exact (ofDay?_atom _).made
    · exact (ofMoment?_atom _).made
    · exact (ofMoment?_atom _).made
    · exact (ofSpan_atom _).made
    · split
      · rename_i has hbs
        exact Made.list (Kept.append_iff.2 ⟨ha.asList? has, hb.asList? hbs⟩)
      · trivial

theorem subtract_made (ha : a.MembersAre keep) : GivesMade keep (subtract a b) := by
  unfold subtract
  split
  · exact Made.atom rfl
  · exact Made.atom rfl
  · exact (givesAtom_map fun _ => rfl).made
  · exact Made.atom rfl
  · trivial
  · split
    · refine Made.set (kept_inPlace (kept_distinct ?_))
      exact fun x hx => ha _ rfl x (List.mem_filter.1 hx).1
    · exact Made.atom rfl
    · exact Made.atom rfl
    · exact (ofDay?_atom _).made
    · exact (ofMoment?_atom _).made
    · exact (ofSpan_atom _).made
    · trivial

theorem multiply_made (ha : a.MembersAre keep) (hb : b.MembersAre keep) :
    GivesMade keep (multiply a b) := by
  unfold multiply
  split
  · exact Made.atom rfl
  · exact Made.atom rfl
  · exact (givesAtom_map fun _ => rfl).made
  · exact Made.atom rfl
  · trivial
  · split
    · exact (givesAtom_bind fun _ => scaleSpan_atom _ _).made
    · exact (givesAtom_bind fun _ => scaleSpan_atom _ _).made
    · split
      · exact repeatBy_made hb _
      · exact repeatBy_made ha _
      · trivial

theorem divide_atom (a b : Value) : GivesAtom (divide a b) := by
  unfold divide
  split
  · exact divideInts_atom _ _
  · exact givesAtom_map fun _ => rfl
  · exact givesAtom_map fun _ => rfl
  · exact givesAtom_map fun _ => rfl
  · trivial
  · split
    · exact divideInts_atom _ _
    · apply givesAtom_bind
      intro q
      split
      · trivial
      · exact scaleSpan_atom _ _
    · split
      · split
        · trivial
        · exact scaleSpan_atom _ _
      · trivial
    · trivial

theorem modulo_atom (a b : Value) : GivesAtom (modulo a b) := by
  unfold modulo
  split
  · exact givesAtom_map fun _ => rfl
  · split
    · split
      · trivial
      · rfl
    · exact givesAtom_map fun _ => rfl
    · exact givesAtom_map fun _ => rfl
    · trivial
    · trivial
    · split
      · split
        · trivial
        · rfl
      · trivial

theorem floorDivide_atom (a b : Value) : GivesAtom (floorDivide a b) := by
  unfold floorDivide
  split
  · split
    · trivial
    · rfl
  · exact givesAtom_map fun _ => rfl
  · exact givesAtom_map fun _ => rfl
  · trivial
  · trivial
  · split
    · split
      · trivial
      · rfl
    · split
      · split
        · trivial
        · exact ofSpan_atom _
      · trivial
    · trivial

theorem power_atom (a b : Value) : GivesAtom (power a b) := by
  unfold power
  split
  · exact powerInts_atom _ _
  · exact floatPower_atom _ _
  · exact givesAtom_map fun _ => rfl
  · exact givesAtom_map fun _ => rfl
  · trivial
  · trivial

theorem negate_atom (a : Value) : GivesAtom a.negate := by
  unfold negate
  split
  · rfl
  · exact givesAtom_map fun _ => rfl
  · rfl
  · exact ofSpan_atom _
  · split
    · rfl
    · trivial

theorem magnitude_atom (a : Value) : GivesAtom a.magnitude := by
  unfold magnitude
  split
  · rfl
  · exact givesAtom_map fun _ => rfl
  · exact givesAtom_map fun _ => rfl
  · exact ofSpan_atom _
  · split
    · rfl
    · trivial

theorem floor_atom (a : Value) : GivesAtom a.floor := by
  unfold floor
  split
  · exact integerOf_atom _ _
  · exact integerOfDecimal_atom _ _
  · split
    · rfl
    · trivial

theorem ceiling_atom (a : Value) : GivesAtom a.ceiling := by
  unfold ceiling
  split
  · exact integerOf_atom _ _
  · exact integerOfDecimal_atom _ _
  · split
    · rfl
    · trivial

theorem toInteger_atom (a : Value) : GivesAtom a.toInteger := by
  unfold toInteger
  split
  · exact integerOf_atom _ _
  · exact integerOfDecimal_atom _ _
  · split
    · rfl
    · trivial
  · split
    · rfl
    · trivial

theorem toFloatValue_atom (a : Value) : GivesAtom a.toFloatValue := by
  unfold toFloatValue
  split
  · split
    · rfl
    · trivial
  · rfl
  · exact givesAtom_map fun _ => rfl

theorem infinityLike_atom (a : Value) : GivesAtom a.infinityLike := by
  unfold infinityLike
  split
  · rfl
  · split
    · exact givesAtom_map fun _ => rfl
    · rfl

theorem quotient_atom (a b : Value) : GivesAtom (quotient a b) := by
  unfold quotient
  apply givesAtom_bind
  intro zero
  split
  · apply givesAtom_bind
    intro both
    split
    · rfl
    · exact infinityLike_atom a
  · exact divide_atom a b

end Arithmetic

/-!
# Properties that sums keep
-/

/-- A property of all atoms and of missing values that sums keep. -/
structure Closed (keep : Value -> Prop) : Prop where
  missing : keep missing
  atom : forall {value : Value}, value.isAtom = true -> keep value
  add : forall {a b : Value}, keep a -> keep b -> Ends (fun _ => True) keep (add a b)

section Closed

variable {keep : Value -> Prop} {a b : Value}

theorem Closed.toNumber (h : Closed keep) (ha : keep a) :
    Ends (fun _ => True) keep a.toNumber := by
  unfold Value.toNumber
  split
  · dsimp only
    split
    · exact h.atom rfl
    · split
      · exact h.atom rfl
      · trivial
  · exact ha

theorem Closed.coercePair (h : Closed keep) (ha : keep a) (hb : keep b) :
    Ends (fun _ => True) (fun pair : Value × Value => keep pair.1 ∧ keep pair.2)
      (coercePair a b) := by
  unfold Value.coercePair
  split
  · apply (h.toNumber ha).bind
    intro x hx
    apply (h.toNumber hb).bind
    intro y hy
    exact ⟨hx, hy⟩
  · exact ⟨ha, hb⟩

theorem itemAt_keeps {items : List Value} (h : Kept keep items) (position : Int) :
    Ends (fun _ => True) keep (itemAt items position) := by
  unfold itemAt
  extract_lets index
  split
  · trivial
  · split
    · rename_i value hvalue
      exact h value (List.mem_of_getElem? hvalue)
    · trivial

end Closed

end Value
end Wrangle
