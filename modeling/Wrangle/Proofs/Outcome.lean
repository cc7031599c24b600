import Mathlib.Data.List.Forall2
import Wrangle.Outcome

/-!
# Sequences of steps

A sequence of steps that may fail succeeds just when all of its steps do.

`Ends bad good x` says how a computation may end: with a value that is good, or
with a failure that is bad in an expected way.  A sequence ends so when each of
its steps does.
-/

namespace Wrangle

theorem bind_eq_ok_iff {epsilon alpha beta : Type} {x : Except epsilon alpha}
    {f : alpha -> Except epsilon beta} {b : beta} :
    x >>= f = .ok b <-> exists a, x = .ok a ∧ f a = .ok b := by
  cases x with
  | error e =>
      constructor
      · intro h
        cases h
      · intro h
        rcases h with ⟨a, ha, _⟩
        cases ha
  | ok a =>
      constructor
      · intro h
        exact ⟨a, rfl, h⟩
      · intro h
        rcases h with ⟨a', ha, hb⟩
        cases ha
        exact hb

theorem bind_eq_error_iff {epsilon alpha beta : Type} {x : Except epsilon alpha}
    {f : alpha -> Except epsilon beta} {e : epsilon} :
    x >>= f = .error e <-> x = .error e ∨ exists a, x = .ok a ∧ f a = .error e := by
  cases x with
  | error other =>
      constructor
      · intro h
        cases h
        exact Or.inl rfl
      · rintro (h | ⟨a, ha, _⟩)
        · cases h
          rfl
        · cases ha
  | ok a =>
      constructor
      · intro h
        exact Or.inr ⟨a, rfl, h⟩
      · rintro (h | ⟨b, hb, h⟩)
        · cases h
        · cases hb
          exact h

theorem map_eq_ok_iff {epsilon alpha beta : Type} {x : Except epsilon alpha} {f : alpha -> beta}
    {b : beta} : x.map f = .ok b <-> exists a, x = .ok a ∧ f a = b := by
  cases x with
  | error e =>
      constructor
      · intro h
        cases h
      · intro h
        rcases h with ⟨a, ha, _⟩
        cases ha
  | ok a =>
      constructor
      · intro h
        exact ⟨a, rfl, Except.ok.inj h⟩
      · intro h
        rcases h with ⟨a', ha, hb⟩
        cases ha
        exact congrArg Except.ok hb

theorem map_eq_error_iff {epsilon alpha beta : Type} {x : Except epsilon alpha}
    {f : alpha -> beta} {e : epsilon} : x.map f = .error e <-> x = .error e := by
  cases x with
  | error other =>
      constructor
      · intro h
        cases h
        rfl
      · intro h
        cases h
        rfl
  | ok a =>
      constructor
      · intro h
        cases h
      · intro h
        cases h

theorem exists_of_mapM_eq_ok {epsilon alpha beta : Type} {f : alpha -> Except epsilon beta}
    {items : List alpha} {results : List beta} (h : items.mapM f = .ok results) {a : alpha}
    (ha : a ∈ items) : exists b, f a = .ok b := by
  induction items generalizing results with
  | nil => cases ha
  | cons first rest ih =>
      rw [List.mapM_cons] at h
      rcases bind_eq_ok_iff.1 h with ⟨b, hb, h⟩
      rcases bind_eq_ok_iff.1 h with ⟨others, hothers, _⟩
      rcases List.mem_cons.1 ha with rfl | ha
      · exact ⟨b, hb⟩
      · exact ih hothers ha

theorem length_of_mapM_eq_ok {epsilon alpha beta : Type} {f : alpha -> Except epsilon beta}
    {items : List alpha} {results : List beta} (h : items.mapM f = .ok results) :
    results.length = items.length := by
  induction items generalizing results with
  | nil =>
      cases h
      rfl
  | cons first rest ih =>
      rw [List.mapM_cons] at h
      rcases bind_eq_ok_iff.1 h with ⟨b, _, h⟩
      rcases bind_eq_ok_iff.1 h with ⟨others, hothers, h⟩
      cases h
      rw [List.length_cons, List.length_cons, ih hothers]

theorem forall₂_of_mapM_eq_ok {epsilon alpha beta : Type} {f : alpha -> Except epsilon beta}
    {good : beta -> alpha -> Prop} {items : List alpha} {results : List beta}
    (h : items.mapM f = .ok results)
    (hgood : forall item, item ∈ items -> forall result, f item = .ok result -> good result item) :
    List.Forall₂ good results items := by
  induction items generalizing results with
  | nil =>
      cases h
      exact List.Forall₂.nil
  | cons first rest ih =>
      rw [List.mapM_cons] at h
      rcases bind_eq_ok_iff.1 h with ⟨b, hb, h⟩
      rcases bind_eq_ok_iff.1 h with ⟨others, hothers, h⟩
      cases h
      exact List.Forall₂.cons (hgood first List.mem_cons_self b hb)
        (ih hothers fun item hitem => hgood item (List.mem_cons_of_mem _ hitem))

theorem mapM_eq_ok_iff {epsilon alpha beta : Type} {f : alpha -> Except epsilon beta}
    {items : List alpha} {results : List beta} :
    items.mapM f = .ok results <->
      List.Forall₂ (fun result item => f item = .ok result) results items := by
  constructor
  · exact fun h => forall₂_of_mapM_eq_ok h fun _ _ _ hresult => hresult
  · intro h
    induction h with
    | nil => rfl
    | @cons result item others rest hresult _ ih =>
        rw [List.mapM_cons, hresult, ih]
        rfl

theorem exists_of_forall₂ {alpha beta : Type} {relation : alpha -> beta -> Prop}
    {items : List alpha} {others : List beta} (h : List.Forall₂ relation items others) {a : alpha}
    (ha : a ∈ items) : exists b, b ∈ others ∧ relation a b := by
  induction h with
  | nil => cases ha
  | @cons first other _ _ hfirst _ ih =>
      rcases List.mem_cons.1 ha with rfl | ha
      · exact ⟨other, List.mem_cons_self, hfirst⟩
      · rcases ih ha with ⟨b, hb, hrelated⟩
        exact ⟨b, List.mem_cons_of_mem _ hb, hrelated⟩

theorem map_eq_map_of_forall₂ {alpha beta gamma : Type} {f : alpha -> gamma} {g : beta -> gamma}
    {items : List alpha} {others : List beta}
    (h : List.Forall₂ (fun a b => f a = g b) items others) : items.map f = others.map g := by
  rw [← List.forall₂_eq_eq_eq, List.forall₂_map_left_iff, List.forall₂_map_right_iff]
  exact h

theorem mapM_eq_ok {alpha beta epsilon : Type} {f : alpha -> Except epsilon beta}
    {g : alpha -> beta} {items : List alpha} (h : forall x, x ∈ items -> f x = .ok (g x)) :
    items.mapM f = .ok (items.map g) := by
  induction items with
  | nil => rfl
  | cons x rest ih =>
      rw [List.mapM_cons, h x (List.mem_cons_self ..),
        ih fun y hy => h y (List.mem_cons_of_mem _ hy)]
      rfl

theorem mapM_congr {alpha beta epsilon : Type} {f g : alpha -> Except epsilon beta}
    {items : List alpha} (h : forall x, x ∈ items -> f x = g x) : items.mapM f = items.mapM g := by
  induction items with
  | nil => rfl
  | cons x rest ih =>
      rw [List.mapM_cons, List.mapM_cons, h x List.mem_cons_self,
        ih fun y hy => h y (List.mem_cons_of_mem x hy)]

@[simp] theorem ok_bind {epsilon alpha beta : Type} (a : alpha)
    (f : alpha -> Except epsilon beta) : (Except.ok a >>= f) = f a := rfl

@[simp] theorem error_bind {epsilon alpha beta : Type} (e : epsilon)
    (f : alpha -> Except epsilon beta) : (Except.error e >>= f) = .error e := rfl

theorem inFragment_eq_ok_iff {alpha : Type} {source : String} {outcome : Outcome alpha}
    {value : alpha} : Outcome.inFragment source outcome = .ok value <-> outcome = .ok value := by
  cases outcome with
  | error failure =>
      constructor
      · intro h
        cases h
      · intro h
        cases h
  | ok found => exact Iff.rfl

theorem ofFault_eq_ok_iff {alpha : Type} {x : Except Fault alpha} {value : alpha} :
    Outcome.ofFault x = .ok value <-> x = .ok value := by
  cases x with
  | error f =>
      constructor
      · intro h
        cases h
      · intro h
        cases h
  | ok found =>
      constructor
      · intro h
        cases h
        rfl
      · intro h
        cases h
        rfl

/-!
# Where a sequence of steps fails
-/

theorem mapM_eq_error {epsilon alpha beta : Type} {f : alpha -> Except epsilon beta}
    {front back : List alpha} {item : alpha} {e : epsilon}
    (hfront : forall other, other ∈ front -> exists b, f other = .ok b) (h : f item = .error e) :
    (front ++ item :: back).mapM f = .error e := by
  induction front with
  | nil =>
      rw [List.nil_append, List.mapM_cons, h]
      rfl
  | cons first rest ih =>
      rcases List.forall_mem_cons.1 hfront with ⟨⟨b, hb⟩, hrest⟩
      rw [List.cons_append, List.mapM_cons, hb, ih hrest]
      rfl

theorem mapM_eq_error_iff {epsilon alpha beta : Type} {f : alpha -> Except epsilon beta}
    {items : List alpha} {e : epsilon} :
    items.mapM f = .error e <-> exists front item back, items = front ++ item :: back ∧
      (forall other, other ∈ front -> exists b, f other = .ok b) ∧ f item = .error e := by
  constructor
  · intro h
    induction items with
    | nil => cases h
    | cons first rest ih =>
        rw [List.mapM_cons] at h
        rcases bind_eq_error_iff.1 h with hfirst | ⟨b, hb, h⟩
        · exact ⟨[], first, rest, rfl, nofun, hfirst⟩
        · rcases bind_eq_error_iff.1 h with hrest | ⟨_, _, hnone⟩
          · rcases ih hrest with ⟨front, item, back, rfl, hfront, hitem⟩
            exact ⟨first :: front, item, back, rfl,
              List.forall_mem_cons.2 ⟨⟨b, hb⟩, hfront⟩, hitem⟩
          · cases hnone
  · rintro ⟨front, item, back, rfl, hfront, hitem⟩
    exact mapM_eq_error hfront hitem

/-- A computation ends with a good value or with an expected failure. -/
def Ends {epsilon alpha : Type} (bad : epsilon -> Prop) (good : alpha -> Prop) :
    Except epsilon alpha -> Prop
  | .ok a => good a
  | .error e => bad e

namespace Ends

variable {epsilon alpha beta : Type} {bad worse : epsilon -> Prop} {good better : alpha -> Prop}

theorem imp {x : Except epsilon alpha} (h : Ends bad good x)
    (hbad : forall e, bad e -> worse e) (hgood : forall a, good a -> better a) :
    Ends worse better x := by
  cases x with
  | error e => exact hbad e h
  | ok a => exact hgood a h

theorem weaken {x : Except epsilon alpha} (h : Ends bad good x)
    (hgood : forall a, good a -> better a) : Ends bad better x :=
  h.imp (fun _ he => he) hgood

theorem with_good {x : Except epsilon alpha} (h : Ends bad good x) (hgood : Ends worse better x) :
    Ends bad better x := by
  cases x with
  | error e => exact h
  | ok a => exact hgood

theorem known {x : Except epsilon alpha} (h : Ends bad good x) :
    Ends bad (fun a => x = .ok a) x := by
  cases x with
  | error e => exact h
  | ok a => rfl

theorem bind {x : Except epsilon alpha} {f : alpha -> Except epsilon beta} {best : beta -> Prop}
    (h : Ends bad good x) (hf : forall a, good a -> Ends bad best (f a)) :
    Ends bad best (x >>= f) := by
  cases x with
  | error e => exact h
  | ok a => exact hf a h

theorem bind_any {x : Except epsilon alpha} {f : alpha -> Except epsilon beta}
    {best : beta -> Prop} (h : Ends bad (fun _ => True) x) (hf : forall a, Ends bad best (f a)) :
    Ends bad best (x >>= f) :=
  h.bind fun a _ => hf a

theorem map {x : Except epsilon alpha} {f : alpha -> beta} {best : beta -> Prop}
    (h : Ends bad good x) (hf : forall a, good a -> best (f a)) :
    Ends bad best (x.map f) := by
  cases x with
  | error e => exact h
  | ok a => exact hf a h

theorem map_any {x : Except epsilon alpha} {f : alpha -> beta} {best : beta -> Prop}
    (h : Ends bad (fun _ => True) x) (hf : forall a, best (f a)) : Ends bad best (x.map f) :=
  h.map fun a _ => hf a

theorem mapM {f : alpha -> Except epsilon beta} {best : beta -> Prop} {items : List alpha}
    (h : forall a, a ∈ items -> Ends bad best (f a)) :
    Ends bad (fun results : List beta => forall b, b ∈ results -> best b) (items.mapM f) := by
  induction items with
  | nil =>
      intro b hb
      cases hb
  | cons a rest ih =>
      rw [List.mapM_cons]
      apply bind (h a (List.mem_cons_self ..))
      intro b hb
      apply bind (ih fun a ha => h a (List.mem_cons_of_mem _ ha))
      intro others hothers c hc
      rcases List.mem_cons.1 hc with rfl | hc
      · exact hb
      · exact hothers c hc

theorem mapM_any {f : alpha -> Except epsilon beta} {items : List alpha}
    (h : forall a, a ∈ items -> Ends bad (fun _ => True) (f a)) :
    Ends bad (fun _ => True) (items.mapM f) :=
  (mapM h).weaken fun _ _ => trivial

theorem foldlM {f : alpha -> beta -> Except epsilon alpha} {items : List beta} {start : alpha}
    (hstart : good start) (hf : forall a b, good a -> b ∈ items -> Ends bad good (f a b)) :
    Ends bad good (items.foldlM f start) := by
  induction items generalizing start with
  | nil => exact hstart
  | cons b rest ih =>
      rw [List.foldlM_cons]
      apply (hf start b hstart List.mem_cons_self).bind
      intro next hnext
      exact ih hnext fun a c ha hc => hf a c ha (List.mem_cons_of_mem b hc)

theorem exists_ok {x : Except epsilon alpha} (h : Ends (fun _ => False) good x) :
    exists a, x = .ok a ∧ good a := by
  cases x with
  | error e => exact False.elim h
  | ok a => exact ⟨a, rfl, h⟩

theorem bad_of_eq {x : Except epsilon alpha} {e : epsilon} (h : Ends bad good x)
    (hx : x = .error e) : bad e := by
  rw [hx] at h
  exact h

theorem mapM_front {f : alpha -> Except epsilon beta} {items : List alpha}
    (h : forall front item back, items = front ++ item :: back ->
      (forall other, other ∈ front -> exists b, f other = .ok b) ->
        Ends bad (fun _ => True) (f item)) :
    Ends bad (fun results => items.mapM f = .ok results) (items.mapM f) := by
  induction items with
  | nil => rfl
  | cons item rest ih =>
      have hitem := h [] item rest rfl nofun
      cases hrun : f item with
      | error e =>
          rw [hrun] at hitem
          rw [List.mapM_cons, hrun]
          exact hitem
      | ok b =>
          have hrest := ih fun front other back hsplit hfront =>
            h (item :: front) other back (congrArg _ hsplit)
              (List.forall_mem_cons.2 ⟨⟨b, hrun⟩, hfront⟩)
          rw [List.mapM_cons, hrun]
          cases hothers : rest.mapM f with
          | error e =>
              rw [hothers] at hrest
              exact hrest
          | ok others => rfl

end Ends

theorem ends_any {epsilon alpha : Type} (x : Except epsilon alpha) :
    Ends (fun _ => True) (fun _ => True) x := by
  cases x with
  | error e => trivial
  | ok a => trivial

/-!
# Outcomes of one class

Two computations may fail with different messages for the same reason.  They are alike if they have
the same result or fail with errors of one class, and they correspond if their results are related.
-/

def Failure.SameClass : Failure -> Failure -> Prop
  | .user e, .user other => e.kind = other.kind ∧ e.code = other.code
  | .fault f, .fault other => f = other
  | _, _ => False

theorem Failure.SameClass.refl (failure : Failure) : failure.SameClass failure := by
  cases failure with
  | user e => exact ⟨rfl, rfl⟩
  | fault f => exact rfl

/-!
# The same result
-/

/-- The same result, or failures of one class. -/
inductive Alike : Outcome alpha -> Outcome alpha -> Prop where
  | result (a : alpha) : Alike (.ok a) (.ok a)
  | failure {e other : Failure} (h : e.SameClass other) : Alike (.error e) (.error other)

namespace Alike

variable {alpha beta : Type} {x y : Outcome alpha}

theorem refl (x : Outcome alpha) : Alike x x := by
  cases x with
  | error e => exact .failure (Failure.SameClass.refl e)
  | ok a => exact .result a

theorem bind {f g : alpha -> Outcome beta} (h : Alike x y)
    (hf : forall a, x = .ok a -> Alike (f a) (g a)) : Alike (x >>= f) (y >>= g) := by
  cases h with
  | result a => exact hf a rfl
  | failure h => exact .failure h

theorem map {f : alpha -> beta} (h : Alike x y) : Alike (x.map f) (y.map f) := by
  cases h with
  | result a => exact .result (f a)
  | failure h => exact .failure h

theorem mapM {f g : alpha -> Outcome beta} {items : List alpha}
    (h : forall a, a ∈ items -> Alike (f a) (g a)) : Alike (items.mapM f) (items.mapM g) := by
  induction items with
  | nil => exact refl _
  | cons first rest ih =>
      rw [List.mapM_cons, List.mapM_cons]
      apply (h first List.mem_cons_self).bind
      intro b _
      apply (ih fun a ha => h a (List.mem_cons_of_mem _ ha)).bind
      intro others _
      exact refl _

theorem eq_ok (h : Alike x y) {a : alpha} (hx : x = .ok a) : y = .ok a := by
  subst hx
  cases h
  rfl

end Alike

/-!
# Related results
-/

/-- Results that are related, or failures of one class. -/
inductive Corresponds (related : alpha -> beta -> Prop) :
    Outcome alpha -> Outcome beta -> Prop where
  | results {a : alpha} {b : beta} (h : related a b) : Corresponds related (.ok a) (.ok b)
  | failures {e other : Failure} (h : e.SameClass other) :
      Corresponds related (.error e) (.error other)

namespace Corresponds

variable {alpha beta gamma delta : Type} {related : alpha -> beta -> Prop}
variable {linked : gamma -> delta -> Prop} {x : Outcome alpha} {y : Outcome beta}

theorem of_alike {related : alpha -> alpha -> Prop} {x y : Outcome alpha} (h : Alike x y)
    (hrelated : forall a, x = .ok a -> related a a) : Corresponds related x y := by
  cases h with
  | result a => exact .results (hrelated a rfl)
  | failure h => exact .failures h

theorem bind {f : alpha -> Outcome gamma} {g : beta -> Outcome delta} (h : Corresponds related x y)
    (hf : forall a b, related a b -> Corresponds linked (f a) (g b)) :
    Corresponds linked (x >>= f) (y >>= g) := by
  cases h with
  | results h => exact hf _ _ h
  | failures h => exact .failures h

theorem map {f : alpha -> gamma} {g : beta -> delta} (h : Corresponds related x y)
    (hf : forall a b, related a b -> linked (f a) (g b)) :
    Corresponds linked (x.map f) (y.map g) := by
  cases h with
  | results h => exact .results (hf _ _ h)
  | failures h => exact .failures h

theorem map_left {linked : gamma -> beta -> Prop} {f : alpha -> gamma} (h : Corresponds related x y)
    (hf : forall a b, related a b -> linked (f a) b) : Corresponds linked (x.map f) y := by
  cases h with
  | results h => exact .results (hf _ _ h)
  | failures h => exact .failures h

theorem map_right {linked : alpha -> delta -> Prop} {g : beta -> delta}
    (h : Corresponds related x y) (hg : forall a b, related a b -> linked a (g b)) :
    Corresponds linked x (y.map g) := by
  cases h with
  | results h => exact .results (hg _ _ h)
  | failures h => exact .failures h

theorem mono {other : alpha -> beta -> Prop} (h : Corresponds related x y)
    (hother : forall a b, related a b -> other a b) : Corresponds other x y := by
  cases h with
  | results h => exact .results (hother _ _ h)
  | failures h => exact .failures h

theorem with_results (h : Corresponds related x y) :
    Corresponds (fun a b => related a b ∧ x = .ok a ∧ y = .ok b) x y := by
  cases h with
  | results h => exact .results ⟨h, rfl, rfl⟩
  | failures h => exact .failures h

theorem of_map {f : alpha -> gamma} {g : beta -> delta}
    (h : Corresponds linked (x.map f) (y.map g)) :
    Corresponds (fun a b => linked (f a) (g b)) x y := by
  cases x with
  | error e =>
      cases y with
      | error other =>
          cases h with
          | failures h => exact .failures h
      | ok b => cases h
  | ok a =>
      cases y with
      | error other => cases h
      | ok b =>
          cases h with
          | results h => exact .results h

theorem mapM {f : alpha -> Outcome gamma} {g : beta -> Outcome delta} {items : List alpha}
    {others : List beta}
    (h : List.Forall₂ (fun a b => Corresponds linked (f a) (g b)) items others) :
    Corresponds (List.Forall₂ linked) (items.mapM f) (others.mapM g) := by
  induction h with
  | nil => exact .results List.Forall₂.nil
  | cons hfirst _ ih =>
      rw [List.mapM_cons, List.mapM_cons]
      apply hfirst.bind
      intro a b hab
      apply ih.bind
      intro as bs hrest
      exact .results (List.Forall₂.cons hab hrest)

end Corresponds

end Wrangle
