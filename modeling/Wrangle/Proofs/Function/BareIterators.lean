import Wrangle.Function.Conversion
import Wrangle.Function.Iteration
import Wrangle.Function.Signature
import Wrangle.Proofs.Function.BareColumns

/-!
# Iterators and parameters make no columns

Conversions give single values.  Iterators hold what comes from the values that they go
through, and parameters are filled with arguments or with bare defaults.
-/

namespace Wrangle

open Number Value

/-!
# Conversions
-/

namespace Conversion

theorem asFloat_bare (x : Value) : GivesBare (asFloat x) := by
  unfold asFloat
  split
  · rename_i s
    dsimp only
    generalize Text.strip s = text
    split
    · rfl
    · exact (toFloatValue_atom _).bare
  · exact (toFloatValue_atom _).bare

theorem asInteger_bare (x : Value) : GivesBare (asInteger x) := by
  unfold asInteger
  split
  · rename_i s
    dsimp only
    generalize Text.strip s = text
    split
    · rfl
    · split
      · exact givesBare_bind fun number => (toInteger_atom number).bare
      · exact (toInteger_atom _).bare
  · exact (floor_atom _).bare
  · exact (toInteger_atom _).bare

theorem elementary_bare (f : Float -> Float) (limit : Fault) (x : Value) :
    GivesBare (elementary f limit x) := by
  unfold elementary
  apply givesBare_bind
  intro number
  extract_lets result
  split
  · trivial
  · split
    · trivial
    · exact isBare_ofFloat _

theorem logarithmWith_bare (f : Float -> Float) (x : Value) : GivesBare (logarithmWith f x) := by
  unfold logarithmWith
  split
  · split
    · trivial
    · split
      · exact isBare_ofFloat _
      · exact isBare_ofFloat _
  · exact elementary_bare f _ x

theorem logarithm_bare (x base : Value) : GivesBare (logarithm x base) := by
  unfold logarithm
  apply givesBare_bind
  intro number
  apply (logarithmWith_bare Float.log number).bind
  intro natural hnatural
  split
  · exact hnatural
  · exact givesBare_bind fun scale => (divide_atom natural scale).bare

theorem lowercase_bare (x : Value) : GivesBare (lowercase x) := by
  unfold lowercase
  split
  · rfl
  · trivial

theorem uppercase_bare (x : Value) : GivesBare (uppercase x) := by
  unfold uppercase
  split
  · rfl
  · trivial

theorem strip_bare (x chars : Value) : GivesBare (strip x chars) := by
  unfold strip
  split
  · rfl
  · rfl
  · trivial

end Conversion

/-!
# Iterators
-/

def Caller.MakesNoColumns (call : Caller) : Prop :=
  forall g args, AllBare args -> GivesBare (call g args)

def Stream.IsBare (stream : Stream) : Prop := AllBare stream.items

namespace Stream

theorem ofValue_bare {x : Value} (h : x.isBare = true) :
    Ends (fun _ => True) IsBare (ofValue x) := by
  unfold ofValue
  split
  · exact isBare_iterator.1 h
  · exact (iterate_bare h).map fun _ hitems => hitems

theorem toIterator_bare {stream : Stream} (h : stream.IsBare) (kind : String) :
    (stream.toIterator kind).isBare = true :=
  isBare_iterator.2 h

theorem nextRow_bare {streams : List Stream} (h : Kept IsBare streams) :
    Ends (fun _ => True) (fun found => AllBare found.1 ∧ Kept IsBare found.2)
      (nextRow streams) := by
  induction streams with
  | nil => exact ⟨Kept.nil, Kept.nil⟩
  | cons stream others ih =>
      rcases Kept.cons_iff.1 h with ⟨hstream, hothers⟩
      have hitems : AllBare stream.items := hstream
      unfold nextRow
      split
      · trivial
      · rename_i value left hleft
        rw [hleft] at hitems
        rcases Kept.cons_iff.1 hitems with ⟨hvalue, hrest⟩
        apply (ih hothers).bind
        rintro ⟨values, rest⟩ ⟨hvalues, hstreams⟩
        exact ⟨Kept.cons_iff.2 ⟨hvalue, hvalues⟩, Kept.cons_iff.2 ⟨hrest, hstreams⟩⟩

theorem rows_bare (count : Nat) {streams : List Stream} (h : Kept IsBare streams) :
    Kept AllBare (rows count streams).1 := by
  induction count generalizing streams with
  | zero => exact Kept.nil
  | succ count ih =>
      have hnext := nextRow_bare h
      unfold rows
      split
      · exact Kept.nil
      · rename_i row rest hrow
        rw [hrow] at hnext
        exact Kept.cons_iff.2 ⟨hnext.1, ih hnext.2⟩

theorem rowsOf_bare {streams : List Stream} (h : Kept IsBare streams) :
    Kept AllBare (rowsOf streams).1 := by
  unfold rowsOf
  split
  · exact Kept.nil
  · exact rows_bare _ h

end Stream

namespace Iteration

theorem iterator_bare {x : Value} (h : x.isBare = true) : GivesBare (iterator x) := by
  unfold iterator
  split
  · exact h
  · exact (Stream.ofValue_bare h).map fun _ hstream => Stream.toIterator_bare hstream _

theorem next_bare {x : Value} (h : x.isBare = true) {fallback : Option Value}
    (hfallback : forall value, fallback = some value -> value.isBare = true) :
    GivesBare (next x fallback) := by
  unfold next
  split
  · exact (Kept.cons_iff.1 (isBare_iterator.1 h)).1
  · trivial
  · split
    · exact hfallback _ rfl
    · trivial
  · trivial

theorem reversed_bare {x : Value} (h : x.isBare = true) : GivesBare (reversed x) := by
  have hback : forall kind : String, GivesBare (x.iterate.map fun items =>
      (Stream.ofList items.reverse).toIterator kind) := by
    intro kind
    apply (iterate_bare h).map
    intro items hitems
    have hreversed : (Stream.ofList items.reverse).IsBare := Kept.reverse_iff.2 hitems
    exact Stream.toIterator_bare hreversed kind
  unfold reversed
  extract_lets backward
  split
  · exact hback _
  · exact hback _
  · exact hback _
  · exact hback _
  · exact hback _
  · exact hback _
  · trivial

theorem enumerate_bare {x : Value} (h : x.isBare = true) (start : Value) :
    GivesBare (enumerate x start) := by
  unfold enumerate
  apply (Stream.ofValue_bare h).bind
  intro stream hstream
  split
  · trivial
  · apply Stream.toIterator_bare
    intro pair hpair
    rcases List.mem_map.1 hpair with ⟨entry, hentry, rfl⟩
    have hvalue : entry.1.isBare = true :=
      hstream entry.1 (List.fst_mem_of_mem_zipIdx hentry)
    exact isBare_tuple.2 (Kept.cons_iff.2 ⟨rfl, Kept.cons_iff.2 ⟨hvalue, Kept.nil⟩⟩)

theorem zip_bare {xs : List Value} (h : AllBare xs) (strict : Bool) :
    GivesBare (zip xs strict) := by
  unfold zip
  apply Ends.bind (Ends.mapM fun x hx => Stream.ofValue_bare (h x hx))
  intro streams hstreams
  apply Stream.toIterator_bare
  intro row hrow
  rcases List.mem_map.1 hrow with ⟨values, hvalues, rfl⟩
  exact isBare_tuple.2 (Stream.rowsOf_bare hstreams values hvalues)

theorem results_bare {call : Caller} (hcall : call.MakesNoColumns) (f : Value)
    (stop : Option Fault) {rows : List (List Value)} (h : Kept AllBare rows) :
    Ends (fun _ => True) Stream.IsBare (results call f stop rows) := by
  induction rows with
  | nil => exact Kept.nil
  | cons row rest ih =>
      rcases Kept.cons_iff.1 h with ⟨hrow, hrest⟩
      unfold results
      cases f with
      | function g =>
          have hanswer := hcall g row hrow
          dsimp only
          split
          · rename_i value hvalue
            rw [hvalue] at hanswer
            apply (ih hrest).bind
            intro others hothers
            exact Kept.cons_iff.2 ⟨hanswer, hothers⟩
          · exact Kept.nil
          · trivial
      | _ => exact Kept.nil

theorem map_bare {call : Caller} (hcall : call.MakesNoColumns) (f : Value) {xs : List Value}
    (h : AllBare xs) : GivesBare (map call f xs) := by
  unfold map
  apply Ends.bind (ends_ofFault (Ends.mapM fun x hx => Stream.ofValue_bare (h x hx)))
  intro streams hstreams
  apply (results_bare hcall f _ (Stream.rowsOf_bare hstreams)).bind
  intro stream hstream
  exact Stream.toIterator_bare hstream _

theorem filter_bare (call : Caller) (test : Value) {x : Value} (h : x.isBare = true) :
    GivesBare (filter call test x) := by
  unfold filter
  apply Ends.bind (ends_ofFault (Stream.ofValue_bare h))
  intro stream hstream
  have hkept : forall (answers : Stream) (test : Value × Value -> Bool),
      AllBare (((stream.items.zip answers.items).filter test).map Prod.fst) := by
    intro answers test value hvalue
    rcases List.mem_map.1 hvalue with ⟨entry, hentry, rfl⟩
    exact hstream entry.1 (List.of_mem_zip (List.mem_filter.1 hentry).1).1
  dsimp only
  split
  · exact isBare_iterator.2 (hkept stream _)
  · exact givesBare_bind fun answers => isBare_iterator.2 (hkept answers _)

theorem ended_bare (stream : Stream) {value : Value} (h : value.isBare = true) :
    GivesBare (stream.ended value) := by
  unfold Stream.ended
  split
  · exact h
  · trivial

theorem anyTrue_bare (x : Value) : GivesBare (anyTrue x) := by
  unfold anyTrue
  apply givesBare_bind
  intro stream
  split
  · rfl
  · exact ended_bare stream rfl

theorem allTrue_bare (x : Value) : GivesBare (allTrue x) := by
  unfold allTrue
  apply givesBare_bind
  intro stream
  split
  · exact ended_bare stream rfl
  · rfl

theorem sum_bare {add : Value -> Value -> Except Fault Value}
    (hadd : forall {a b : Value}, a.isBare = true -> b.isBare = true -> GivesBare (add a b))
    {x start : Value} (h : x.isBare = true) (hstart : start.isBare = true) :
    GivesBare (sum add x start) := by
  unfold sum
  apply (Stream.ofValue_bare h).bind
  intro stream hstream
  split
  · trivial
  · have hsum : GivesBare (stream.items.foldlM add start) :=
      Ends.foldlM hstart fun total value htotal hvalue => hadd htotal (hstream value hvalue)
    exact hsum.bind fun total htotal => ended_bare stream htotal

end Iteration

/-!
# Signatures
-/

abbrev NamedBare (named : List (String × Value)) : Prop :=
  Kept (fun entry => entry.2.isBare = true) named

theorem NamedBare.lookup {named : List (String × Value)} (h : NamedBare named) {name : String}
    {value : Value} (hvalue : named.lookup name = some value) : value.isBare = true := by
  rcases List.lookup_eq_some_iff.1 hvalue with ⟨before, after, rfl, _⟩
  exact h (name, value) (List.mem_append_right _ (List.mem_cons_self ..))

def Signature.hasBareDefaults (signature : Signature) : Bool :=
  signature.parameters.all fun parameter => parameter.fallback.all isBare

theorem Signature.bind_bare {signature : Signature} (hdefaults : signature.hasBareDefaults = true)
    {values : List Value} (hvalues : AllBare values) {named : List (String × Value)}
    (hnamed : NamedBare named) : GivesAllBare (signature.bind values named) := by
  unfold bind
  split
  · refine Ends.map (?_ : GivesAllBare _) ?_
    · apply Ends.mapM
      intro parameter hparameter
      have hdefault := List.all_eq_true.1 hdefaults parameter (List.mem_of_mem_drop hparameter)
      unfold Parameter.fill
      split
      · rename_i value hvalue
        exact hnamed.lookup hvalue
      · split
        · rename_i value hvalue
          rw [hvalue] at hdefault
          exact hdefault
        · trivial
    · intro filled hfilled
      exact Kept.append_iff.2 ⟨hvalues, hfilled⟩
  · trivial

theorem LibraryFunction.signature_hasBareDefaults (f : LibraryFunction) :
    f.signature.hasBareDefaults = true := by
  cases f <;> rfl

end Wrangle
