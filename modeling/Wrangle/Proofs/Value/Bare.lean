import Wrangle.Proofs.Value.Making
import Wrangle.Value.Settled

/-!
# Values without columns

A value is bare when it is no column and holds none.  Columns come from datasets only:
arithmetic on bare values, and whatever takes bare values apart or puts them together,
gives bare values.
-/

namespace Wrangle

open Number

namespace Value

/-!
# Bare values
-/

mutual

def isBare : Value -> Bool
  | column _ => false
  | list items => areBare items
  | tuple items => areBare items
  | set items => areBare items
  | dict entries => entriesAreBare entries
  | iterator _ items _ _ => areBare items
  | _ => true

def areBare : List Value -> Bool
  | [] => true
  | value :: rest => isBare value && areBare rest

def entriesAreBare : List (Value × Value) -> Bool
  | [] => true
  | (key, value) :: rest => isBare key && isBare value && entriesAreBare rest

end

abbrev AllBare (items : List Value) : Prop :=
  Kept (fun value => value.isBare = true) items

abbrev EntriesBare (entries : List (Value × Value)) : Prop :=
  Kept (fun entry => entry.1.isBare = true ∧ entry.2.isBare = true) entries

theorem areBare_iff {items : List Value} : areBare items = true <-> AllBare items := by
  induction items with
  | nil => simp [areBare]
  | cons value rest ih => simp [areBare, ih]

theorem entriesAreBare_iff {entries : List (Value × Value)} :
    entriesAreBare entries = true <-> EntriesBare entries := by
  induction entries with
  | nil => simp [entriesAreBare]
  | cons entry rest ih => simp [entriesAreBare, ih, and_assoc]

section Containers

variable {items : List Value} {entries : List (Value × Value)}

attribute [local simp] isBare

@[simp] theorem isBare_list : (list items).isBare = true <-> AllBare items := by
  rw [isBare, areBare_iff]

@[simp] theorem isBare_tuple : (tuple items).isBare = true <-> AllBare items := by
  rw [isBare, areBare_iff]

@[simp] theorem isBare_set : (set items).isBare = true <-> AllBare items := by
  rw [isBare, areBare_iff]

@[simp] theorem isBare_dict : (dict entries).isBare = true <-> EntriesBare entries := by
  rw [isBare, entriesAreBare_iff]

@[simp] theorem isBare_iterator {kind : String} {stop : Option Fault} {origin : Origin} :
    (iterator kind items stop origin).isBare = true <-> AllBare items := by
  rw [isBare, areBare_iff]

end Containers

@[simp] theorem isBare_ofFloat (x : Float) : (ofFloat x).isBare = true := rfl

/-- A computation whose result is bare, if it has one. -/
abbrev GivesBare {epsilon : Type} (x : Except epsilon Value) : Prop :=
  Ends (fun _ => True) (fun value => value.isBare = true) x

/-- A computation whose results are all bare, if it has any. -/
abbrev GivesAllBare {epsilon : Type} (x : Except epsilon (List Value)) : Prop :=
  Ends (fun _ => True) AllBare x

section Results

variable {epsilon alpha : Type}

theorem givesBare_bind {x : Except epsilon alpha} {f : alpha -> Except epsilon Value}
    (h : forall a, GivesBare (f a)) : GivesBare (x >>= f) :=
  (ends_any x).bind_any h

theorem givesBare_map {x : Except epsilon alpha} {f : alpha -> Value}
    (h : forall a, (f a).isBare = true) : GivesBare (x.map f) :=
  (ends_any x).map_any h

end Results

theorem isBare_of_isAtom {value : Value} (h : value.isAtom = true) : value.isBare = true := by
  cases value <;> first | rfl | cases h

theorem GivesAtom.bare {epsilon : Type} {x : Except epsilon Value} (h : GivesAtom x) :
    GivesBare x :=
  h.weaken fun _ => isBare_of_isAtom

theorem isBare_of_made {value : Value} (h : value.Made fun member => member.isBare = true) :
    value.isBare = true := by
  cases h with
  | atom h => exact isBare_of_isAtom h
  | list h => exact isBare_list.2 h
  | tuple h => exact isBare_tuple.2 h
  | set h => exact isBare_set.2 h

theorem membersAre_of_isBare {value : Value} (h : value.isBare = true) :
    value.MembersAre fun member => member.isBare = true := by
  intro items hitems
  cases value with
  | list found =>
      cases hitems
      exact isBare_list.1 h
  | tuple found =>
      cases hitems
      exact isBare_tuple.1 h
  | set found =>
      cases hitems
      exact isBare_set.1 h
  | column found => cases h
  | _ => cases hitems

theorem AllBare.asItems? {a : Value} (h : a.isBare = true) {items : List Value}
    (hitems : a.asItems? = some items) : AllBare items := by
  cases a with
  | list found => exact membersAre_of_isBare h items hitems
  | tuple found => exact membersAre_of_isBare h items hitems
  | column found => cases h
  | _ => cases hitems

/-!
# Arithmetic
-/

section Arithmetic

variable {a b : Value}

theorem add_bare (ha : a.isBare = true) (hb : b.isBare = true) : GivesBare (add a b) :=
  (add_made (membersAre_of_isBare ha) (membersAre_of_isBare hb)).weaken fun _ => isBare_of_made

theorem closed_isBare : Closed fun value => value.isBare = true where
  missing := rfl
  atom := isBare_of_isAtom
  add := add_bare

theorem subtract_bare (ha : a.isBare = true) : GivesBare (subtract a b) :=
  (subtract_made (membersAre_of_isBare ha)).weaken fun _ => isBare_of_made

theorem multiply_bare (ha : a.isBare = true) (hb : b.isBare = true) :
    GivesBare (multiply a b) :=
  (multiply_made (membersAre_of_isBare ha) (membersAre_of_isBare hb)).weaken fun _ => isBare_of_made

theorem conjunction_bare (a b : Value) : (conjunction a b).isBare = true := by
  unfold conjunction
  split
  · rfl
  · split
    · rfl
    · rfl

theorem disjunction_bare (a b : Value) : (disjunction a b).isBare = true := by
  unfold disjunction
  split
  · rfl
  · split
    · rfl
    · rfl

end Arithmetic

/-!
# Sequences
-/

theorem allBare_map {alpha : Type} {items : List alpha} {f : alpha -> Value}
    (h : forall a, (f a).isBare = true) : AllBare (items.map f) := by
  intro value hvalue
  rcases List.mem_map.1 hvalue with ⟨a, _, rfl⟩
  exact h a

theorem checkedRangeItems_bare (start stop step : Int) :
    GivesAllBare (checkedRangeItems start stop step) := by
  unfold checkedRangeItems
  apply (ends_any _).bind_any
  intro size
  split
  · exact allBare_map fun _ => rfl
  · trivial

section Sequences

variable {x : Value} (h : x.isBare = true)

include h

theorem iterate_bare : GivesAllBare x.iterate := by
  unfold iterate
  split
  · exact isBare_list.1 h
  · cases h
  · exact isBare_tuple.1 h
  · exact isBare_set.1 h
  · rename_i entries
    intro value hvalue
    rcases List.mem_map.1 hvalue with ⟨entry, hentry, rfl⟩
    exact (isBare_dict.1 h entry hentry).1
  · exact allBare_map fun _ => rfl
  · exact checkedRangeItems_bare _ _ _
  · exact isBare_iterator.1 h
  · trivial
  · trivial

theorem indexable_bare : GivesAllBare x.indexable := by
  unfold indexable
  split
  · exact isBare_list.1 h
  · cases h
  · exact isBare_tuple.1 h
  · exact allBare_map fun _ => rfl
  · exact checkedRangeItems_bare _ _ _
  · trivial

theorem valueAt_bare (position : Value) : GivesBare (valueAt x position) := by
  unfold valueAt
  split
  · split
    · split
      · rename_i entry hentry
        exact (isBare_dict.1 h entry (List.mem_of_find?_eq_some hentry)).2
      · trivial
    · trivial
  · have hitems := indexable_bare h
    split
    · rename_i items _ hfound _
      rw [hfound] at hitems
      exact itemAt_keeps hitems _
    · trivial
    · trivial

end Sequences

theorem toSet_bare {items : List Value} (h : AllBare items) : GivesBare (toSet items) := by
  unfold toSet differing
  split
  · exact isBare_set.2 (kept_inPlace (kept_distinct h))
  · trivial

/-!
# Numbering
-/

mutual

theorem numbered_bare (n : Nat) : forall value : Value, value.isBare = true ->
    (value.numbered n).isBare = true
  | .list items, h => by
      rw [numbered]
      exact isBare_list.2 (allNumbered_bare n items (isBare_list.1 h))
  | .tuple items, h => by
      rw [numbered]
      exact isBare_tuple.2 (allNumbered_bare n items (isBare_tuple.1 h))
  | .set items, h => by
      rw [numbered]
      exact isBare_set.2 (allNumbered_bare n items (isBare_set.1 h))
  | .dict entries, h => by
      rw [numbered]
      exact isBare_dict.2 (entriesNumbered_bare n entries (isBare_dict.1 h))
  | .iterator kind items stop origin, h => isBare_iterator.2 (isBare_iterator.1 h)
  | .column items, h => by cases h
  | .missing, _ | .bool _, _ | .int _, _ | .float _ _, _ | .complex _ _ _, _ | .str _, _
  | .decimal _ _, _ | .date _, _ | .datetime _, _ | .time _, _ | .duration _, _
  | .range _ _ _, _ | .function _, _ | .sym _, _ | .quoted _, _ | .other _ _, _ => rfl

theorem allNumbered_bare (n : Nat) : forall items : List Value, AllBare items ->
    AllBare (allNumbered n items)
  | [], _ => Kept.nil
  | value :: rest, h => by
      rcases Kept.cons_iff.1 h with ⟨hvalue, hrest⟩
      rw [allNumbered]
      exact Kept.cons_iff.2 ⟨numbered_bare _ value hvalue, allNumbered_bare _ rest hrest⟩

theorem entriesNumbered_bare (n : Nat) : forall entries : List (Value × Value),
    EntriesBare entries -> EntriesBare (entriesNumbered n entries)
  | [], _ => Kept.nil
  | (key, value) :: rest, h => by
      rcases Kept.cons_iff.1 h with ⟨⟨hkey, hvalue⟩, hrest⟩
      rw [entriesNumbered]
      exact Kept.cons_iff.2 ⟨⟨numbered_bare _ key hkey, numbered_bare _ value hvalue⟩,
        entriesNumbered_bare _ rest hrest⟩

end

theorem settled_bare {value : Value} (h : value.isBare = true) (name : String)
    (sources : List Value) : (value.settled name sources).isBare = true := by
  unfold settled
  split
  · exact h
  · exact numbered_bare _ value h

end Value
end Wrangle
