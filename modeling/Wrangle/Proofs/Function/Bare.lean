import Wrangle.Function.Ambient
import Wrangle.Function.Apply
import Wrangle.Proofs.Function.BareIterators

/-!
# Functions at hand make no columns

The functions that are at hand without a library give bare values for bare values, if
what they call does.
-/

namespace Wrangle

open Number Value

theorem Ambient.signature?_hasBareDefaults {name : String} {signature : Signature}
    (h : Ambient.signature? name = some signature) : signature.hasBareDefaults = true := by
  unfold Ambient.signature? at h
  split at h
  all_goals cases h
  all_goals rfl

namespace Ambient

theorem based_bare (mark : String) (base : Nat) (x : Value) : GivesBare (based mark base x) := by
  unfold based
  split
  · rfl
  · trivial

theorem round_bare (x digits : Value) : GivesBare (round x digits) := by
  unfold round
  split
  · split
    · exact (integerOf_atom _ _).bare
    · exact (integerOfDecimal_atom _ _).bare
    · split
      · rfl
      · trivial
  · split
    · exact givesBare_map fun _ => rfl
    · split
      · exact givesBare_map fun _ => rfl
      · trivial
    · split
      · rfl
      · trivial
  · trivial

theorem powerRemainder_bare (base exponent modulus : Int) :
    GivesBare (powerRemainder base exponent modulus) := by
  unfold powerRemainder
  dsimp only
  split
  · trivial
  · generalize (if 0 <= exponent then some (base % modulus).toNat
      else inverseMod? (base % modulus).toNat modulus.natAbs) = root
    cases root with
    | none => trivial
    | some root => rfl

theorem power_bare (base exponent modulus : Value) : GivesBare (power base exponent modulus) := by
  unfold power
  split
  · exact (Value.power_atom base exponent).bare
  · split
    · exact powerRemainder_bare _ _ _
    · trivial

theorem divideWithRest_bare (a b : Value) : GivesBare (divideWithRest a b) := by
  unfold divideWithRest
  apply (floorDivide_atom a b).bare.bind
  intro quotient hquotient
  have hpair : forall {rest : Value}, rest.isBare = true ->
      (Value.tuple [quotient, rest]).isBare = true := fun hrest =>
    isBare_tuple.2 (Kept.cons_iff.2 ⟨hquotient, Kept.cons_iff.2 ⟨hrest, Kept.nil⟩⟩)
  dsimp only
  split
  · trivial
  · exact (modulo_atom a b).bare.bind fun rest hrest => hpair hrest

theorem integerInBase_bare (s : String) (base : Nat) : GivesBare (integerInBase s base) := by
  unfold integerInBase
  generalize splitSign (Text.stripSpaces s.toList) = parts
  rcases parts with ⟨negative, cs⟩
  dsimp only
  generalize (if base = 0 then markedBase cs else base) = used
  generalize withoutUnderscores? (dropMark used cs) = digits
  cases digits with
  | none => trivial
  | some digits =>
      dsimp only
      split
      · trivial
      · split
        · trivial
        · split
          · trivial
          · rfl

theorem integer_bare (x base : Value) : GivesBare (integer x base) := by
  unfold integer
  split
  · exact (toInteger_atom x).bare
  · split
    · split
      · trivial
      · split
        · exact integerInBase_bare _ _
        · trivial
    · trivial

theorem complexNumber_bare (re im : Value) : GivesBare (complexNumber re im) := by
  unfold complexNumber
  split
  · rfl
  · split
    · rfl
    · trivial
  · exact givesBare_map fun _ => rfl
  · dsimp only
    split
    · exact givesBare_bind fun z => givesBare_bind fun w => rfl
    · exact givesBare_bind fun z => givesBare_bind fun w => rfl

theorem character_bare (x : Value) : GivesBare (character x) := by
  unfold character
  split
  · split
    · rfl
    · split
      · trivial
      · trivial
  · trivial

theorem codeOf_bare (x : Value) : GivesBare (Ambient.codeOf x) := by
  unfold Ambient.codeOf
  split
  · split
    · rfl
    · trivial
  · trivial

theorem range_bare (values : List Value) : GivesBare (Ambient.range values) := by
  unfold Ambient.range
  split
  · rfl
  · rfl
  · split
    · trivial
    · rfl
  · trivial

theorem entriesOf_bare {x : Value} (h : x.isBare = true) :
    Ends (fun _ => True) EntriesBare (entriesOf x) := by
  unfold entriesOf
  split
  · exact isBare_dict.1 h
  · apply (iterate_bare h).bind
    intro items hitems
    apply Ends.mapM
    intro item hitem
    apply (iterate_bare (hitems item hitem)).bind
    intro parts hparts
    split
    · rename_i key value
      rcases Kept.cons_iff.1 hparts with ⟨hkey, hrest⟩
      split
      · exact ⟨hkey, allBare_single hrest⟩
      · trivial
    · trivial

theorem putEntry_bare {entries : List (Value × Value)} (h : EntriesBare entries)
    {entry : Value × Value} (hentry : entry.1.isBare = true ∧ entry.2.isBare = true) :
    EntriesBare (putEntry entries entry) := by
  unfold putEntry
  split
  · intro found hfound
    rcases List.mem_map.1 hfound with ⟨other, hother, rfl⟩
    split
    · exact ⟨(h other hother).1, hentry.2⟩
    · exact h other hother
  · exact Kept.append_iff.2 ⟨h, Kept.cons_iff.2 ⟨hentry, Kept.nil⟩⟩

theorem foldl_putEntry_bare {more entries : List (Value × Value)} (hmore : EntriesBare more)
    (h : EntriesBare entries) : EntriesBare (more.foldl putEntry entries) := by
  induction more generalizing entries with
  | nil => exact h
  | cons entry rest ih =>
      rcases Kept.cons_iff.1 hmore with ⟨hentry, hrest⟩
      exact ih hrest (putEntry_bare h hentry)

theorem mapping_bare {x : Value} (h : x.isBare = true) {named : List (String × Value)}
    (hnamed : NamedBare named) : GivesBare (mapping x named) := by
  unfold mapping
  apply (entriesOf_bare h).bind
  intro entries hentries
  refine isBare_dict.2 (foldl_putEntry_bare (Kept.append_iff.2 ⟨hentries, ?_⟩) Kept.nil)
  intro entry hentry
  rcases List.mem_map.1 hentry with ⟨found, hfound, rfl⟩
  exact ⟨rfl, hnamed found hfound⟩

theorem keyed_bare (call : Caller) (key : Value) {items : List Value} (h : AllBare items) :
    Ends (fun _ => True) (Kept fun pair : Value × Value => pair.2.isBare = true)
      (keyed call key items) := by
  unfold keyed
  split
  · intro pair hpair
    rcases List.mem_map.1 hpair with ⟨item, hitem, rfl⟩
    exact h item hitem
  · apply Ends.mapM
    intro item hitem
    exact (ends_any _).map fun _ _ => h item hitem
  · trivial

theorem sorted_bare (call : Caller) {x : Value} (h : x.isBare = true) (key reverse : Value) :
    GivesBare (sorted call x key reverse) := by
  unfold sorted
  apply Ends.bind (ends_ofFault (iterate_bare h))
  intro items hitems
  apply (keyed_bare call key hitems).bind
  intro pairs hpairs
  have hlist : forall {result : List (Value × Value)},
      Kept (fun pair : Value × Value => pair.2.isBare = true) result ->
        (Value.list (result.map Prod.snd)).isBare = true := by
    intro result hresult
    apply isBare_list.2
    intro value hvalue
    rcases List.mem_map.1 hvalue with ⟨pair, hpair, rfl⟩
    exact hresult pair hpair
  split
  · trivial
  · dsimp only
    split
    · apply Ends.bind (ends_ofFault (sortOn_keeps hpairs))
      exact fun result hresult => hlist hresult
    · apply Ends.bind ((ends_ofFault (sortOn_keeps (Kept.reverse_iff.2 hpairs))).map
        fun result hresult => Kept.reverse_iff.2 hresult)
      exact fun result hresult => hlist hresult

theorem bestPair_bare (c : Comparison) {best : Value × Value} (h : best.2.isBare = true)
    {pairs : List (Value × Value)}
    (hpairs : Kept (fun pair : Value × Value => pair.2.isBare = true) pairs) :
    Ends (fun _ => True) (fun pair => pair.2.isBare = true) (bestPair c best pairs) := by
  induction pairs generalizing best with
  | nil => exact h
  | cons pair rest ih =>
      rcases Kept.cons_iff.1 hpairs with ⟨hpair, hrest⟩
      unfold bestPair
      apply (ends_any _).bind_any
      intro better
      refine ih ?_ hrest
      split
      · exact hpair
      · exact h

theorem extreme_bare (call : Caller) (c : Comparison) {values : List Value} (h : AllBare values)
    {named : List (String × Value)} (hnamed : NamedBare named) :
    GivesBare (extreme call c values named) := by
  unfold extreme
  split
  · trivial
  · extract_lets fallback best
    -- The values are looked through in one way, wherever they come from.
    have hbest : forall items, AllBare items -> GivesBare (best items) := by
      intro items hitems
      apply (keyed_bare call _ hitems).bind
      intro pairs hpairs
      dsimp only [fallback]
      split
      · rcases Kept.cons_iff.1 hpairs with ⟨hfirst, hrest⟩
        exact (ends_ofFault (bestPair_bare c hfirst hrest)).map fun _ hpair => hpair
      · rename_i value hvalue
        exact hnamed.lookup hvalue
      · trivial
    rcases values with _ | ⟨x, _ | ⟨y, rest⟩⟩
    · trivial
    · exact Ends.bind (ends_ofFault (iterate_bare (allBare_single h))) hbest
    · dsimp only
      split
      · trivial
      · exact hbest _ h

section Arity

variable {f : List Value -> Except Fault Value} {values : List Value} (h : AllBare values)

include h

theorem ofOne_bare (hone : forall x, x.isBare = true -> GivesBare (f [x]))
    (hnone : f [] = .error .badType)
    (hmore : forall x y rest, f (x :: y :: rest) = .error .badType) :
    GivesBare (f values) := by
  rcases values with _ | ⟨x, _ | ⟨y, rest⟩⟩
  · rw [hnone]
    trivial
  · exact hone x (allBare_single h)
  · rw [hmore]
    trivial

theorem ofTwo_bare (htwo : forall x y, x.isBare = true -> y.isBare = true -> GivesBare (f [x, y]))
    (hnone : f [] = .error .badType) (hone : forall x, f [x] = .error .badType)
    (hmore : forall x y z rest, f (x :: y :: z :: rest) = .error .badType) :
    GivesBare (f values) := by
  rcases values with _ | ⟨x, _ | ⟨y, _ | ⟨z, rest⟩⟩⟩
  · rw [hnone]
    trivial
  · rw [hone]
    trivial
  · rcases Kept.cons_iff.1 h with ⟨hx, hy⟩
    exact htwo x y hx (allBare_single hy)
  · rw [hmore]
    trivial

end Arity

theorem hash_bare (x : Value) : GivesBare (Kind.hash x) := by
  unfold Kind.hash
  split
  · trivial
  · rfl

theorem isSubkind_bare (x kinds : Value) : GivesBare (Kind.isSubkind x kinds) := by
  unfold Kind.isSubkind
  split
  · exact givesBare_map fun _ => rfl
  · trivial

theorem next_bare {values : List Value} (h : AllBare values) :
    GivesBare (applySimple "next" values) := by
  rcases values with _ | ⟨x, _ | ⟨fallback, _ | ⟨z, rest⟩⟩⟩
  · trivial
  · show GivesBare (Iteration.next x none)
    apply Iteration.next_bare (allBare_single h)
    intro value hvalue
    cases hvalue
  · rcases Kept.cons_iff.1 h with ⟨hx, hrest⟩
    show GivesBare (Iteration.next x (some fallback))
    apply Iteration.next_bare hx
    intro value hvalue
    cases hvalue
    exact allBare_single hrest
  · trivial

theorem applySimple_bare {name : String} {signature : Signature}
    (hs : signature? name = some signature) {values : List Value} (h : AllBare values) :
    GivesBare (applySimple name values) := by
  have hset : forall x : Value, x.isBare = true -> GivesBare (x.iterate >>= Value.toSet) :=
    fun x hx => (iterate_bare hx).bind fun _ hitems => toSet_bare hitems
  unfold signature? at hs
  split at hs
  · exact ofOne_bare h (fun x _ => (magnitude_atom x).bare) rfl fun _ _ _ => rfl
  · exact ofOne_bare h (fun x _ => Iteration.allTrue_bare x) rfl fun _ _ _ => rfl
  · exact ofOne_bare h (fun x _ => Iteration.anyTrue_bare x) rfl fun _ _ _ => rfl
  · exact ofOne_bare h (fun x _ => givesBare_map fun _ => rfl) rfl fun _ _ _ => rfl
  · exact ofOne_bare h (fun x _ => based_bare _ _ x) rfl fun _ _ _ => rfl
  · exact ofOne_bare h (fun x _ => rfl) rfl fun _ _ _ => rfl
  · exact ofOne_bare h (fun x _ => character_bare x) rfl fun _ _ _ => rfl
  · exact ofOne_bare h (fun x _ => hash_bare x) rfl fun _ _ _ => rfl
  · exact ofOne_bare h (fun x _ => based_bare _ _ x) rfl fun _ _ _ => rfl
  · exact ofOne_bare h (fun x hx => Iteration.iterator_bare hx) rfl fun _ _ _ => rfl
  · exact ofOne_bare h (fun x _ => givesBare_map fun _ => rfl) rfl fun _ _ _ => rfl
  · exact ofOne_bare h (fun x _ => based_bare _ _ x) rfl fun _ _ _ => rfl
  · exact ofOne_bare h (fun x _ => codeOf_bare x) rfl fun _ _ _ => rfl
  · exact ofOne_bare h (fun x _ => givesBare_map fun _ => rfl) rfl fun _ _ _ => rfl
  · exact ofOne_bare h (fun x hx => Iteration.reversed_bare hx) rfl fun _ _ _ => rfl
  · exact ofOne_bare h (fun x _ => rfl) rfl fun _ _ _ => rfl
  · exact ofOne_bare h (fun x _ => rfl) rfl fun _ _ _ => rfl
  · exact ofOne_bare h (fun x _ => (toFloatValue_atom x).bare) rfl fun _ _ _ => rfl
  · exact ofOne_bare h (fun x hx => (iterate_bare hx).map fun _ => isBare_list.2) rfl
      fun _ _ _ => rfl
  · exact ofOne_bare h (fun x hx => (iterate_bare hx).map fun _ => isBare_tuple.2) rfl
      fun _ _ _ => rfl
  · exact ofOne_bare h hset rfl fun _ _ _ => rfl
  · exact ofOne_bare h hset rfl fun _ _ _ => rfl
  · exact ofOne_bare h (fun x _ => givesBare_map fun _ => rfl) rfl fun _ _ _ => rfl
  · exact ofTwo_bare h (fun x y _ _ => divideWithRest_bare x y) rfl (fun _ => rfl)
      fun _ _ _ _ => rfl
  · exact ofTwo_bare h (fun x y _ _ => givesBare_map fun _ => rfl) rfl (fun _ => rfl)
      fun _ _ _ _ => rfl
  · exact ofTwo_bare h (fun x y _ _ => isSubkind_bare x y) rfl (fun _ => rfl)
      fun _ _ _ _ => rfl
  · exact ofTwo_bare h (fun x y _ _ => givesBare_map fun _ => rfl) rfl (fun _ => rfl)
      fun _ _ _ _ => rfl
  · exact ofTwo_bare h (fun x y hx _ => Iteration.enumerate_bare hx y) rfl (fun _ => rfl)
      fun _ _ _ _ => rfl
  · exact ofTwo_bare h (fun x y _ _ => complexNumber_bare x y) rfl (fun _ => rfl)
      fun _ _ _ _ => rfl
  · cases values with
    | nil => rfl
    | cons x rest => trivial
  · exact ofTwo_bare h (fun x y _ _ => integer_bare x y) rfl (fun _ => rfl)
      fun _ _ _ _ => rfl
  · exact ofTwo_bare h (fun x y _ _ => round_bare x y) rfl (fun _ => rfl)
      fun _ _ _ _ => rfl
  · rcases values with _ | ⟨x, _ | ⟨y, _ | ⟨z, _ | ⟨w, rest⟩⟩⟩⟩
    · trivial
    · trivial
    · trivial
    · exact power_bare x y z
    · trivial
  · exact ofTwo_bare h (fun x y hx hy => Iteration.sum_bare add_bare hx hy) rfl (fun _ => rfl)
      fun _ _ _ _ => rfl
  · trivial
  · trivial
  · trivial
  · exact range_bare values
  · exact givesBare_map fun _ => rfl
  · exact next_bare h
  · rcases values with _ | ⟨x, _ | ⟨y, _ | ⟨z, _ | ⟨w, rest⟩⟩⟩⟩
    · trivial
    · rfl
    · rfl
    · rfl
    · trivial
  · cases hs

theorem apply_bare {host : Host} (hhost : forall values named, AllBare values ->
      NamedBare named -> GivesBare (host.run name values named))
    {call : Caller} (hcall : call.MakesNoColumns) {values : List Value} (h : AllBare values)
    {named : List (String × Value)} (hnamed : NamedBare named) :
    GivesBare (apply host call name values named) := by
  unfold apply
  split
  · exact hhost values named h hnamed
  split
  · exact extreme_bare call _ h hnamed
  · exact extreme_bare call _ h hnamed
  · split
    · exact ends_ofFault (mapping_bare rfl hnamed)
    · exact ends_ofFault (mapping_bare (allBare_single h) hnamed)
    · trivial
  · split
    · exact Iteration.map_bare hcall _ (Kept.cons_iff.1 h).2
    · trivial
  · split
    · exact Iteration.filter_bare call _ (allBare_single (Kept.cons_iff.1 h).2)
    · trivial
  · split
    · trivial
    · exact ends_ofFault (Iteration.zip_bare h _)
  · split
    · split
      · rfl
      · trivial
    · split
      · exact hhost values named h hnamed
      · rename_i signature hs
        have hdefaults := signature?_hasBareDefaults hs
        apply Ends.bind (ends_ofFault (signature.bind_bare hdefaults h hnamed))
        intro bound hbound
        split
        · trivial
        · trivial
        · split
          · exact sorted_bare call (Kept.cons_iff.1 hbound).1 _ _
          · trivial
        · exact ends_ofFault (applySimple_bare hs hbound)

end Ambient

/-!
# Functions make no columns

Given values that hold no columns, a function of the library, an operator and a function
at hand give a value that holds none, if functions of the caller do so.
-/

/-!
# The library
-/

theorem detect_bare (character? : String -> Option Char) (x pattern : Value) :
    GivesBare (detect character? x pattern) := by
  unfold detect
  split
  · apply givesBare_bind
    intro p
    split
    · rfl
    · trivial
  · trivial

namespace LibraryFunction

theorem applyBound_bare (f : LibraryFunction) {values : List Value} (h : AllBare values) :
    GivesBare (f.applyBound values) := by
  unfold applyBound
  split
  · rfl
  · exact Aggregate.coalesce_bare h
  · exact Aggregate.skipMissing_bare (allBare_single h)
  · exact Aggregate.mean_bare (allBare_single h)
  · exact Aggregate.median_bare (allBare_single h)
  · exact Aggregate.variance_bare (allBare_single h)
  · exact Aggregate.deviation_bare (allBare_single h)
  · rcases Kept.cons_iff.1 h with ⟨hx, hp⟩
    exact Aggregate.quantile_bare hx (allBare_single hp)
  · exact Aggregate.total_keeps closed_isBare (iterate_bare (allBare_single h))
  · exact Aggregate.extreme_keeps closed_isBare.missing
      (fun _ _ hfirst hrest => Aggregate.leastFrom_keeps hfirst hrest)
      (iterate_bare (allBare_single h))
  · exact Aggregate.extreme_keeps closed_isBare.missing
      (fun _ _ hfirst hrest => Aggregate.greatestFrom_keeps hfirst hrest)
      (iterate_bare (allBare_single h))
  · exact givesBare_map fun _ => rfl
  · exact Aggregate.atEnd_bare _ (allBare_single h)
  · exact Aggregate.atEnd_bare _ (allBare_single h)
  · exact Aggregate.nth_bare (Kept.cons_iff.1 h).1 _
  · exact givesBare_bind fun _ => givesBare_bind fun _ => rfl
  · exact Aggregate.combine_bare h
  · exact Aggregate.replicate_bare (Kept.cons_iff.1 h).1 _
  · rcases Kept.cons_iff.1 h with ⟨hx, hrest⟩
    exact Window.lag_bare hx (allBare_single (Kept.cons_iff.1 hrest).2)
  · rcases Kept.cons_iff.1 h with ⟨hx, hrest⟩
    exact Window.lead_bare hx (allBare_single (Kept.cons_iff.1 hrest).2)
  · exact Window.cumulativeSum_bare (allBare_single h)
  · exact Window.cumulativeProduct_bare (allBare_single h)
  · exact Window.minRank_bare _
  · exact Window.denseRank_bare _
  · exact Window.percentRank_bare _
  · exact Window.ntile_bare _ _
  · exact Conversion.asFloat_bare _
  · exact Conversion.asInteger_bare _
  · exact givesBare_map fun _ => rfl
  · rfl
  · rfl
  · rfl
  · rfl
  · exact Conversion.elementary_bare _ _ _
  · exact Conversion.elementary_bare _ _ _
  · exact Conversion.logarithm_bare _ _
  · exact Conversion.logarithmWith_bare _ _
  · exact (floor_atom _).bare
  · exact (ceiling_atom _).bare
  · exact Conversion.lowercase_bare _
  · exact Conversion.uppercase_bare _
  · exact Conversion.strip_bare _ _
  · trivial

theorem accumulated_bare {call : Caller} (hcall : call.MakesNoColumns) (f : Value)
    {items : List Value} (h : AllBare items) : GivesAllBare (accumulated call f items) := by
  have hresults : forall {rest : List Value}, AllBare rest -> forall {current : Value},
      current.isBare = true -> GivesAllBare (accumulated.results call f current rest) := by
    intro rest
    induction rest with
    | nil => exact fun _ _ _ => Kept.nil
    | cons value rest ih =>
        intro hrest current hcurrent
        rcases Kept.cons_iff.1 hrest with ⟨hvalue, hrest⟩
        unfold accumulated.results
        split
        · apply (hcall _ _ (Kept.cons_iff.2 ⟨hcurrent, Kept.cons_iff.2 ⟨hvalue, Kept.nil⟩⟩)).bind
          intro next hnext
          exact (ih hrest hnext).map fun _ hresults => Kept.cons_iff.2 ⟨hnext, hresults⟩
        · trivial
  cases items with
  | nil => exact Kept.nil
  | cons first rest =>
      rcases Kept.cons_iff.1 h with ⟨hfirst, hrest⟩
      exact (hresults hrest hfirst).map fun _ hfound => Kept.cons_iff.2 ⟨hfirst, hfound⟩

theorem apply_bare (host : Host) {call : Caller} (hcall : call.MakesNoColumns)
    (f : LibraryFunction) {values : List Value} (h : AllBare values)
    {named : List (String × Value)} (hnamed : NamedBare named) :
    GivesBare (f.apply host call values named) := by
  unfold apply
  apply Ends.bind (ends_ofFault (f.signature.bind_bare f.signature_hasBareDefaults h hnamed))
  intro bound hbound
  split
  · apply Ends.bind (ends_ofFault (iterate_bare (allBare_single (Kept.cons_iff.1 hbound).2)))
    intro items hitems
    exact (accumulated_bare hcall _ hitems).map fun _ => isBare_list.2
  · exact ends_ofFault (detect_bare _ _ _)
  · exact ends_ofFault (f.applyBound_bare hbound)

end LibraryFunction

/-!
# All functions
-/

/-- Functions from outside that give bare values for bare values. -/
def CallerFunctions.MakeNoColumns (callers : CallerFunctions) : Prop :=
  forall run, callers.Offers run -> forall values named, AllBare values ->
    NamedBare named -> GivesBare (run values named)

theorem CallerFunctions.empty_makeNoColumns : CallerFunctions.empty.MakeNoColumns := by
  rintro run (⟨name, f, hf, _⟩ | ⟨name, rfl⟩) values named _ _
  · cases hf
  · trivial

namespace Function

theorem applyBinary_bare (op : BinaryOperator) {values : List Value} (h : AllBare values)
    {named : List (String × Value)} (hnamed : NamedBare named) :
    GivesBare (applyBinary op values named) := by
  unfold applyBinary
  apply (op.signature.bind_bare rfl h hnamed).bind
  intro bound hbound
  split
  · rcases Kept.cons_iff.1 hbound with ⟨ha, hb⟩
    exact op.apply_bare ha (allBare_single hb)
  · trivial

theorem applyUnary_bare (op : UnaryOperator) (values : List Value)
    (named : List (String × Value)) : GivesBare (applyUnary op values named) := by
  unfold applyUnary
  apply givesBare_bind
  intro bound
  split
  · exact op.apply_bare _
  · trivial

theorem applySpan_bare (values : List Value) : GivesBare (applySpan values) := by
  unfold applySpan
  split
  · exact givesBare_bind fun first => givesBare_bind fun last => givesBare_bind fun span =>
      isBare_list.2 (allBare_map fun _ => rfl)
  · trivial

section Callers

variable {callers : CallerFunctions} (hcallers : callers.MakeNoColumns)

include hcallers

theorem applyWithin_bare (depth : Nat) (f : Function) {values : List Value} (h : AllBare values)
    {named : List (String × Value)} (hnamed : NamedBare named) :
    GivesBare (f.applyWithin callers depth values named) := by
  induction depth generalizing f values named with
  | zero => trivial
  | succ depth ih =>
      have hcall : Caller.MakesNoColumns fun g args => applyWithin callers depth g args [] :=
        fun g args hargs => ih g hargs Kept.nil
      cases f with
      | library f => exact f.apply_bare callers.host hcall h hnamed
      | binary op => exact ends_ofFault (applyBinary_bare op h hnamed)
      | unary op => exact ends_ofFault (applyUnary_bare op values named)
      | span => exact ends_ofFault (applySpan_bare values)
      | ambient name =>
          exact Ambient.apply_bare (hcallers _ (.inr ⟨name, rfl⟩)) hcall h hnamed
      | caller name =>
          unfold applyWithin
          dsimp only
          split
          · rename_i f hf
            exact hcallers _ (.inl ⟨name, f, hf, rfl⟩) values named h hnamed
          · trivial

theorem apply_bare (f : Function) {values : List Value} (h : AllBare values)
    {named : List (String × Value)} (hnamed : NamedBare named) :
    GivesBare (f.apply callers values named) :=
  applyWithin_bare hcallers depthLimit f h hnamed

end Callers

end Function

end Wrangle
