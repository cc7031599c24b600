import Wrangle.Proofs.Fragment.RoundTrip
import Wrangle.Proofs.Verb.Stepwise

/-!
# Chains of calls

To add columns with several fragments in one call is to add them with a call for each
fragment.  In the one call all fragments are compiled before anything is computed, and
the reserved columns are computed once; in the chain each call finds the header that
the ones before it leave, and pads and drops for itself.
-/

namespace Wrangle

open Dataset

namespace Invocation

variable {call : Invocation} {data result : Dataset}

/-!
# Steps
-/

def Shows (call : Invocation) (data : Dataset) (scope : Scope) : Prop :=
  scope.visible = Scope.ofColumns data.header call.registry call.env

theorem shows_fullScope (hdata : data.WellFormed) (fragments : List ResolvedFragment) :
    call.Shows data (call.requestOf data fragments).fullScope := by
  unfold Shows
  rw [Request.visible_fullScope]
  show { Scope.ofColumns data.header call.registry call.env with
    columns := data.header.filter fun name => !isReserved name } = _
  have hall : (data.header.filter fun name => !isReserved name) = data.header := by
    rw [List.filter_eq_self]
    intro name hname
    simp [hdata.unreserved name hname]
  rw [hall]
  rfl

def AreRegular (fragments : List ResolvedFragment) : Prop :=
  forall fragment, fragment ∈ fragments -> fragment.Tells ∧ fragment.ReadsByName

section Step

variable {fragments : List ResolvedFragment} {scope : Scope} {assigns : List Assign}

theorem assigns_of_shows (hdata : data.WellFormed) (hscope : call.Shows data scope)
    (hregular : AreRegular fragments) :
    Agrees (Request.assigns .transform (call.requestOf data fragments).fullScope fragments)
      (Request.assigns .transform scope fragments) := by
  apply Request.assigns_agrees
  · exact (shows_fullScope hdata fragments).trans hscope.symm
  · exact fun fragment hf => (hregular fragment hf).2

theorem Shows.transform (hscope : call.Shows data scope) {names : List String} {wide last : Dataset}
    {callers : CallerFunctions} (hwide : data.Pads names wide)
    (hlast : transform callers assigns wide = .ok last) :
    call.Shows (last.dropped isReserved)
      (Request.extendScope .transform scope (assigns.map Assign.name)) := by
  have hheader := hwide.header_transform hlast
  show (scope.addColumns (assigns.map Assign.name)).visible = _
  have hvisible : scope.visible = Scope.ofColumns data.header call.registry call.env := hscope
  rw [Scope.visible_addColumns, hvisible, hheader]
  rfl

theorem mutated_eq_ok (hdata : data.WellFormed) (hscope : call.Shows data scope)
    (hregular : AreRegular fragments) (h : call.mutated fragments data = .ok result) :
    exists assigns wide last, Request.assigns .transform scope fragments = .ok assigns ∧
      data.Pads (rowNames fragments) wide ∧
      transform call.env.functions assigns wide = .ok last ∧
      result = last.dropped isReserved ∧ result.WellFormed ∧
      call.Shows result (Request.extendScope .transform scope (assigns.map Assign.name)) := by
  rcases (mutated_eq_ok_iff hdata).1 h with ⟨assigns, wide, last, hassigns, hwide, hlast, rfl⟩
  have hpads := hdata.pads_rowColumns hwide
  have hlast' := (hpads.regular.transform hlast).1
  exact ⟨assigns, wide, last, (assigns_of_shows hdata hscope hregular).eq_ok hassigns, hpads, hlast,
    rfl, hlast'.wellFormed_dropped, hscope.transform hpads hlast⟩

def guarded (data : Dataset) : List String :=
  countColumn :: rowNumberColumn :: data.groups

theorem setNone_groups (h : SetNone (guarded data) assigns) : SetNone data.groups assigns :=
  fun a ha hname => h a ha (List.mem_cons_of_mem _ (List.mem_cons_of_mem _ hname))

theorem setNone_rowNames (h : SetNone (guarded data) assigns)
    (fragments : List ResolvedFragment) : SetNone (rowNames fragments) assigns := by
  intro a ha hname
  apply h a ha
  have hrow := rowNames_sub hname
  simp only [List.mem_cons, List.not_mem_nil, or_false] at hrow
  rcases hrow with hrow | hrow
  · exact hrow ▸ List.mem_cons_self ..
  · exact hrow ▸ List.mem_cons_of_mem _ (List.mem_cons_self ..)

/-- A call on its own does to a dataset what its assignments do to a padding of the dataset. -/
theorem mutated_iff (hdata : data.WellFormed) (hscope : call.Shows data scope)
    (hregular : AreRegular fragments)
    (hassigns : Request.assigns .transform scope fragments = .ok assigns)
    (hnone : SetNone (guarded data) assigns) {all : List ResolvedFragment}
    (hsub : forall fragment, fragment ∈ fragments -> fragment ∈ all) {wide : Dataset}
    (hwide : data.Pads (rowNames all) wide) :
    call.mutated fragments data = .ok result <-> exists last,
      transform call.env.functions assigns wide = .ok last ∧ result = last.dropped isReserved := by
  have hread : ReadReserved (rowNames fragments) assigns := by
    apply Request.assigns_readReserved _ (fun f hf => (hregular f hf).1)
      (fun f hf => (hregular f hf).2) (fun _ hname => hname) hassigns
    exact congrArg Scope.summaries hscope
  have hrows := rowNames_mono hsub
  have hall := setNone_rowNames hnone all
  have hown := setNone_rowNames hnone fragments
  have hkeys := setNone_groups hnone
  constructor
  · intro h
    rcases mutated_eq_ok hdata hscope hregular h with
      ⟨found, own, last, hfound, hpads, hlast, rfl, _, _⟩
    rw [hassigns] at hfound
    cases hfound
    rcases hpads.transform_eq hwide hread (fun name hname => ⟨hname, hrows name hname⟩) hkeys hown
      hall hlast with ⟨other, hother, heq⟩
    exact ⟨other, hother, heq.symm⟩
  · rintro ⟨last, hlast, rfl⟩
    have hgroups : rowNames fragments ≠ [] -> exists groups, data.partitions = .ok groups := by
      intro hsome
      rcases List.exists_mem_of_ne_nil _ hsome with ⟨name, hname⟩
      rcases hwide.columns name (hrows name hname) with ⟨groups, hgroups, _⟩
      exact ⟨groups, hgroups⟩
    have hrun : exists own, Operation.applyAll call.env.functions
        (call.requestOf data fragments).rowColumns data = .ok own := hdata.exists_rowColumns hgroups
    rcases hrun with ⟨own, hadded⟩
    rcases hwide.transform_eq (hdata.pads_rowColumns hadded) hread
      (fun name hname => ⟨hrows name hname, hname⟩) hkeys hall hown hlast with ⟨other, hother, heq⟩
    exact (mutated_eq_ok_iff hdata).2 ⟨assigns, own, other,
      (assigns_of_shows hdata hscope hregular).symm.eq_ok hassigns, hadded, hother, heq.symm⟩

end Step

/-!
# Chains of steps
-/

def chained (call : Invocation) : List (List ResolvedFragment) -> Dataset -> Outcome Dataset
  | [], data => .ok data
  | fragments :: rest, data => do
      let next <- call.mutated fragments data
      chained call rest next

section Chain

variable {scope : Scope} {parts : List (List ResolvedFragment)} {assigns : List Assign}

theorem areRegular_flatten {first : List ResolvedFragment}
    (h : AreRegular (first :: parts).flatten) : AreRegular first ∧ AreRegular parts.flatten := by
  rw [List.flatten_cons] at h
  constructor
  · exact fun fragment hf => h fragment (List.mem_append_left _ hf)
  · exact fun fragment hf => h fragment (List.mem_append_right _ hf)

theorem exists_assigns_of_chained (hdata : data.WellFormed) (hscope : call.Shows data scope)
    (hregular : AreRegular parts.flatten) (h : call.chained parts data = .ok result) :
    exists assigns, Request.assigns .transform scope parts.flatten = .ok assigns := by
  induction parts generalizing data scope with
  | nil => exact ⟨[], rfl⟩
  | cons fragments rest ih =>
      rcases areRegular_flatten hregular with ⟨hfirst, hrest⟩
      rcases bind_eq_ok_iff.1 h with ⟨next, hnext, h⟩
      rcases mutated_eq_ok hdata hscope hfirst hnext with
        ⟨first, _, _, hassigns, _, _, _, hwell, hshows⟩
      rcases ih hwell hshows hrest h with ⟨others, hothers⟩
      exact ⟨first ++ others,
        Request.assigns_append_eq_ok_iff.2 ⟨first, others, hassigns, hothers, rfl⟩⟩

theorem setNone_append {names : List String} {first second : List Assign}
    (h : SetNone names (first ++ second)) : SetNone names first ∧ SetNone names second := by
  constructor
  · exact fun a ha => h a (List.mem_append_left _ ha)
  · exact fun a ha => h a (List.mem_append_right _ ha)

theorem guarded_eq (h : data.GroupedLike result) : guarded result = guarded data := by
  rw [guarded, guarded, h.groups]

theorem exists_partitions_of_chained (hdata : data.WellFormed) (hscope : call.Shows data scope)
    (hregular : AreRegular parts.flatten)
    (hassigns : Request.assigns .transform scope parts.flatten = .ok assigns)
    (hnone : SetNone (guarded data) assigns) (hasks : rowNames parts.flatten ≠ [])
    (h : call.chained parts data = .ok result) : exists groups, data.partitions = .ok groups := by
  induction parts generalizing data scope assigns with
  | nil => exact absurd rfl hasks
  | cons fragments rest ih =>
      rcases areRegular_flatten hregular with ⟨hfirst, hrest⟩
      rcases bind_eq_ok_iff.1 h with ⟨next, hnext, h⟩
      rcases mutated_eq_ok hdata hscope hfirst hnext with
        ⟨first, wide, last, hfound, hpads, hlast, rfl, hwell, hshows⟩
      by_cases hown : rowNames fragments = []
      · rw [List.flatten_cons, Request.assigns_append_eq_ok_iff] at hassigns
        rcases hassigns with ⟨one, others, hone, hothers, rfl⟩
        rw [hfound] at hone
        cases hone
        rcases setNone_append hnone with ⟨hnone, hnone'⟩
        have hlike := (hpads.transform (setNone_groups hnone) (setNone_rowNames hnone fragments)
          hlast).2
        have hasks' : rowNames rest.flatten ≠ [] := by
          intro hnil
          apply hasks
          rw [List.eq_nil_iff_forall_not_mem]
          intro name hname
          rcases mem_rowNames_iff.1 hname with ⟨fragment, hf, hflag⟩
          rw [List.flatten_cons] at hf
          rcases List.mem_append.1 hf with hf | hf
          · have hmem := mem_rowNames_iff.2 ⟨fragment, hf, hflag⟩
            rw [hown] at hmem
            cases hmem
          · have hmem := mem_rowNames_iff.2 ⟨fragment, hf, hflag⟩
            rw [hnil] at hmem
            cases hmem
        rw [← hlike.partitions]
        exact ih hwell hshows hrest hothers (guarded_eq hlike ▸ hnone') hasks' h
      · rcases List.exists_mem_of_ne_nil _ hown with ⟨name, hname⟩
        rcases hpads.columns name hname with ⟨groups, hgroups, _⟩
        exact ⟨groups, hgroups⟩

/-- A chain does to a dataset what all assignments together do to a padding of it. -/
theorem chained_iff (hdata : data.WellFormed) (hscope : call.Shows data scope)
    (hregular : AreRegular parts.flatten)
    (hassigns : Request.assigns .transform scope parts.flatten = .ok assigns)
    (hnone : SetNone (guarded data) assigns) {all : List ResolvedFragment}
    (hsub : forall fragment, fragment ∈ parts.flatten -> fragment ∈ all) {wide : Dataset}
    (hwide : data.Pads (rowNames all) wide) :
    call.chained parts data = .ok result <-> exists last,
      transform call.env.functions assigns wide = .ok last ∧
        result = last.dropped isReserved := by
  induction parts generalizing data scope assigns wide with
  | nil =>
      cases hassigns
      constructor
      · intro h
        cases h
        exact ⟨wide, rfl, hwide.dropped.symm⟩
      · rintro ⟨last, hlast, rfl⟩
        cases hlast
        rw [hwide.dropped]
        rfl
  | cons fragments rest ih =>
      rcases areRegular_flatten hregular with ⟨hfirst, hrest⟩
      rw [List.flatten_cons, Request.assigns_append_eq_ok_iff] at hassigns
      rcases hassigns with ⟨first, others, hone, hothers, rfl⟩
      rcases setNone_append hnone with ⟨hnone, hnone'⟩
      have hstep : forall next : Dataset, call.mutated fragments data = .ok next <-> exists last,
          transform call.env.functions first wide = .ok last ∧
            next = last.dropped isReserved := fun next =>
        mutated_iff hdata hscope hfirst hone hnone
          (fun fragment hf => hsub fragment (List.mem_append_left _ hf)) hwide
      have hnext : forall {last : Dataset}, transform call.env.functions first wide = .ok last ->
          (call.chained rest (last.dropped isReserved) = .ok result <-> exists final,
            transform call.env.functions others last = .ok final ∧
              result = final.dropped isReserved) := by
        intro last hlast
        rcases hwide.transform (setNone_groups hnone) (setNone_rowNames hnone all) hlast with
          ⟨hpads, hlike⟩
        exact ih hpads.regular.wellFormed_dropped (hscope.transform hwide hlast) hrest hothers
          (guarded_eq hlike ▸ hnone')
          (fun fragment hf => hsub fragment (List.mem_append_right _ hf)) hpads
      rw [transform_append]
      constructor
      · intro h
        rcases bind_eq_ok_iff.1 h with ⟨next, hmutated, h⟩
        rcases (hstep next).1 hmutated with ⟨last, hlast, rfl⟩
        rcases (hnext hlast).1 h with ⟨final, hfinal, rfl⟩
        refine ⟨final, ?_, rfl⟩
        rw [hlast]
        exact hfinal
      · rintro ⟨final, hfinal, rfl⟩
        rcases bind_eq_ok_iff.1 hfinal with ⟨last, hlast, hfinal⟩
        rw [chained, (hstep _).2 ⟨last, hlast, rfl⟩]
        exact (hnext hlast).2 ⟨final, hfinal, rfl⟩

end Chain

/-!
# Calls with one fragment each
-/

/-- The fragments of a call without markers. -/
def fragments (call : Invocation) : Outcome (List ResolvedFragment) := do
  let sources <- Verb.fragmentsOf call.values call.named
  Interpolation.resolveAll call.env sources

theorem request_eq (call : Invocation) (data : Dataset) :
    call.request data = call.fragments.map (call.requestOf data) := by
  unfold request fragments
  cases Verb.fragmentsOf call.values call.named with
  | error failure => rfl
  | ok sources =>
      rw [ok_bind, ok_bind]
      cases Interpolation.resolveAll call.env sources with
      | error failure => rfl
      | ok found => rfl

/-- A call for each fragment of a call, in order. -/
def pieces (call : Invocation) : List Invocation :=
  (call.values.map fun value => { call with values := [value], named := [] }) ++
    call.named.map fun entry => { call with values := [], named := [entry] }

/-- Run calls one after another, each on the result of the one before. -/
def runAll (settings : Settings) : List Invocation -> Dataset -> Report Dataset
  | [], data => Report.silent (.ok data)
  | call :: rest, data => (call.run settings data).next (runAll settings rest)

theorem mapM_bind_eq_ok_iff {epsilon alpha beta gamma : Type} {f : alpha -> Except epsilon beta}
    {g : beta -> Except epsilon gamma} {items : List alpha} {results : List gamma} :
    items.mapM (fun a => f a >>= g) = .ok results <->
      exists found, items.mapM f = .ok found ∧ found.mapM g = .ok results := by
  induction items generalizing results with
  | nil =>
      constructor
      · intro h
        exact ⟨[], rfl, h⟩
      · rintro ⟨found, hfound, h⟩
        cases hfound
        exact h
  | cons a rest ih =>
      rw [List.mapM_cons, List.mapM_cons]
      constructor
      · intro h
        rcases bind_eq_ok_iff.1 h with ⟨c, hc, h⟩
        rcases bind_eq_ok_iff.1 h with ⟨others, hothers, h⟩
        cases h
        rcases bind_eq_ok_iff.1 hc with ⟨b, hb, hc⟩
        rcases ih.1 hothers with ⟨found, hfound, hg⟩
        refine ⟨b :: found, ?_, ?_⟩
        · rw [hb, hfound]
          rfl
        · rw [List.mapM_cons, hc, hg]
          rfl
      · rintro ⟨found, hfound, hg⟩
        rcases bind_eq_ok_iff.1 hfound with ⟨b, hb, hfound⟩
        rcases bind_eq_ok_iff.1 hfound with ⟨others, hothers, hfound⟩
        cases hfound
        rw [List.mapM_cons] at hg
        rcases bind_eq_ok_iff.1 hg with ⟨c, hc, hg⟩
        rcases bind_eq_ok_iff.1 hg with ⟨more, hmore, hg⟩
        cases hg
        rw [hb, ok_bind, hc, ih.2 ⟨others, hothers, hmore⟩]
        rfl

/-- Resolve one fragment. -/
def resolved (env : Environment) (fragment : Node × String) : Outcome (List ResolvedFragment) :=
  Interpolation.resolve env fragment.1 fragment.2

theorem resolveAll_single (env : Environment) (fragment : Node × String) :
    Interpolation.resolveAll env [fragment] = resolved env fragment := by
  unfold Interpolation.resolveAll resolved
  rw [List.mapM_cons]
  cases Interpolation.resolve env fragment.1 fragment.2 with
  | error failure => rfl
  | ok found => exact congrArg Except.ok (List.append_nil found)

theorem fragments_value (call : Invocation) (value : Value) :
    { call with values := [value], named := [] }.fragments =
      Verb.fragmentOf value >>= resolved call.env := by
  unfold fragments Verb.fragmentsOf
  rw [List.mapM_cons]
  cases Verb.fragmentOf value with
  | error failure => rfl
  | ok fragment => exact resolveAll_single call.env fragment

theorem fragments_named (call : Invocation) (entry : String × Value) :
    { call with values := [], named := [entry] }.fragments =
      Verb.namedFragment entry >>= resolved call.env := by
  unfold fragments Verb.fragmentsOf
  rw [List.mapM_cons]
  cases Verb.namedFragment entry with
  | error failure => rfl
  | ok fragment => exact resolveAll_single call.env fragment

theorem fragments_eq_ok_iff {found : List ResolvedFragment} :
    call.fragments = .ok found <-> exists parts, call.pieces.mapM fragments = .ok parts ∧
      found = parts.flatten := by
  have hvalues : (call.values.map fun value =>
      { call with values := [value], named := [] }).mapM fragments =
        call.values.mapM fun value => Verb.fragmentOf value >>= resolved call.env := by
    rw [List.mapM_map]
    exact congrArg (call.values.mapM ·) (funext (fragments_value call))
  have hnamed : (call.named.map fun entry =>
      { call with values := [], named := [entry] }).mapM fragments =
        call.named.mapM fun entry => Verb.namedFragment entry >>= resolved call.env := by
    rw [List.mapM_map]
    exact congrArg (call.named.mapM ·) (funext (fragments_named call))
  unfold pieces
  rw [List.mapM_append, hvalues, hnamed]
  constructor
  · intro h
    rcases bind_eq_ok_iff.1 h with ⟨sources, hsources, h⟩
    rcases bind_eq_ok_iff.1 hsources with ⟨plain, hplain, hsources⟩
    rcases bind_eq_ok_iff.1 hsources with ⟨others, hothers, hsources⟩
    cases hsources
    rcases map_eq_ok_iff.1 h with ⟨parts, hparts, rfl⟩
    rw [List.mapM_append] at hparts
    rcases bind_eq_ok_iff.1 hparts with ⟨first, hfirst, hparts⟩
    rcases bind_eq_ok_iff.1 hparts with ⟨second, hsecond, hparts⟩
    cases hparts
    have hfirst : plain.mapM (resolved call.env) = .ok first := hfirst
    have hsecond : others.mapM (resolved call.env) = .ok second := hsecond
    refine ⟨first ++ second, ?_, rfl⟩
    rw [mapM_bind_eq_ok_iff.2 ⟨plain, hplain, hfirst⟩,
      mapM_bind_eq_ok_iff.2 ⟨others, hothers, hsecond⟩]
    rfl
  · rintro ⟨parts, hparts, rfl⟩
    rcases bind_eq_ok_iff.1 hparts with ⟨first, hfirst, hparts⟩
    rcases bind_eq_ok_iff.1 hparts with ⟨second, hsecond, hparts⟩
    cases hparts
    rcases mapM_bind_eq_ok_iff.1 hfirst with ⟨plain, hplain, hfirst⟩
    rcases mapM_bind_eq_ok_iff.1 hsecond with ⟨others, hothers, hsecond⟩
    have hsources : Verb.fragmentsOf call.values call.named = .ok (plain ++ others) := by
      rw [Verb.fragmentsOf, hplain, hothers]
      rfl
    have hresolved : (plain ++ others).mapM (resolved call.env) = .ok (first ++ second) := by
      rw [List.mapM_append, hfirst, hsecond]
      rfl
    rw [fragments, hsources, ok_bind]
    exact map_eq_ok_iff.2 ⟨_, hresolved, rfl⟩

theorem request_of_fragments {found : List ResolvedFragment} (h : call.fragments = .ok found)
    (data : Dataset) :
    call.request data = .ok (call.requestOf data found) := by
  rw [request_eq, h]
  rfl

theorem run_eq_ok_iff {settings : Settings} :
    (call.run settings data).result = .ok result <-> exists found ops,
      call.fragments = .ok found ∧ call.verb.plan (call.requestOf data found) = .ok ops ∧
        Operation.applyAll call.env.functions ops data = .ok result := by
  constructor
  · intro h
    rcases operations_of_run h with ⟨request, ops, hrequest, hops, hresult⟩
    rw [request_eq] at hrequest
    rcases map_eq_ok_iff.1 hrequest with ⟨found, hfound, rfl⟩
    exact ⟨found, ops, hfound, hops, hresult⟩
  · rintro ⟨found, ops, hfound, hops, hresult⟩
    rw [run_result (operations_of_request (request_of_fragments hfound data) hops) settings,
      hresult]

/-- Where what the fragments compile to is enclosed, the dataset is padded first, and loses all
reserved columns in the end. -/
theorem run_enclosed {found : List ResolvedFragment} (hfound : call.fragments = .ok found)
    {alpha : Type} {compiled : Outcome alpha} {ops : alpha -> List Operation}
    (hplan : call.verb.plan (call.requestOf data found) =
      compiled >>= fun a => .ok ((call.requestOf data found).enclosed (ops a)))
    {settings : Settings} :
    (call.run settings data).result = .ok result <-> exists a wide last, compiled = .ok a ∧
      Operation.applyAll call.env.functions (call.requestOf data found).rowColumns data =
        .ok wide ∧
      Operation.applyAll call.env.functions (ops a) wide = .ok last ∧
      Operation.applyAll call.env.functions [.dropReserved] last = .ok result := by
  have hsteps : forall a, Operation.applyAll call.env.functions
      ((call.requestOf data found).enclosed (ops a)) data =
        Operation.applyAll call.env.functions (call.requestOf data found).rowColumns data >>=
          fun wide => Operation.applyAll call.env.functions (ops a) wide >>=
            Operation.applyAll call.env.functions [.dropReserved] := by
    intro a
    rw [Request.enclosed, List.append_assoc, Operation.applyAll_append]
    congr 1
    funext wide
    rw [Operation.applyAll_append]
  rw [run_eq_ok_iff]
  constructor
  · rintro ⟨other, steps, hother, hresult, h⟩
    rw [hfound] at hother
    cases hother
    rw [hplan] at hresult
    rcases bind_eq_ok_iff.1 hresult with ⟨a, ha, hresult⟩
    cases hresult
    rw [hsteps] at h
    rcases bind_eq_ok_iff.1 h with ⟨wide, hwide, h⟩
    rcases bind_eq_ok_iff.1 h with ⟨last, hlast, hdrop⟩
    exact ⟨a, wide, last, ha, hwide, hlast, hdrop⟩
  · rintro ⟨a, wide, last, ha, hwide, hlast, hdrop⟩
    refine ⟨found, (call.requestOf data found).enclosed (ops a), hfound, ?_, ?_⟩
    · rw [hplan, ha]
      rfl
    · rw [hsteps, hwide, ok_bind, hlast, ok_bind, hdrop]

theorem run_mutate (hverb : call.verb = .mutate) {settings : Settings} :
    (call.run settings data).result = .ok result <-> exists found, call.fragments = .ok found ∧
      call.mutated found data = .ok result := by
  rw [run_eq_ok_iff, hverb]
  constructor
  · rintro ⟨found, ops, hfound, hops, hresult⟩
    refine ⟨found, hfound, ?_⟩
    rw [mutated, show (call.requestOf data found).planMutate = .ok ops from hops]
    exact hresult
  · rintro ⟨found, hfound, h⟩
    rcases bind_eq_ok_iff.1 h with ⟨ops, hops, hresult⟩
    exact ⟨found, ops, hfound, hops, hresult⟩

theorem runAll_mutate {calls : List Invocation}
    (hcalls : forall piece, piece ∈ calls ->
      piece.verb = .mutate ∧ piece.env = call.env ∧ piece.registry = call.registry)
    {settings : Settings} :
    (runAll settings calls data).result = .ok result <-> exists parts,
      calls.mapM fragments = .ok parts ∧ call.chained parts data = .ok result := by
  induction calls generalizing data with
  | nil =>
      constructor
      · intro h
        exact ⟨[], rfl, h⟩
      · rintro ⟨parts, hparts, h⟩
        cases hparts
        exact h
  | cons piece rest ih =>
      rcases hcalls piece (List.mem_cons_self ..) with ⟨hverb, henv, hregistry⟩
      have hrest := fun {data : Dataset} =>
        @ih data fun other hother => hcalls other (List.mem_cons_of_mem _ hother)
      have hsame : forall found : List ResolvedFragment,
          piece.mutated found data = call.mutated found data := by
        intro found
        unfold mutated requestOf
        rw [henv, hregistry]
      rw [runAll, Report.next_result, List.mapM_cons]
      constructor
      · intro h
        rcases bind_eq_ok_iff.1 h with ⟨next, hnext, h⟩
        rcases (run_mutate hverb).1 hnext with ⟨found, hfound, hnext⟩
        rcases hrest.1 h with ⟨parts, hparts, h⟩
        refine ⟨found :: parts, ?_, ?_⟩
        · rw [hfound, hparts]
          rfl
        · rw [chained, ← hsame, hnext]
          exact h
      · rintro ⟨parts, hparts, h⟩
        rcases bind_eq_ok_iff.1 hparts with ⟨found, hfound, hparts⟩
        rcases bind_eq_ok_iff.1 hparts with ⟨others, hothers, hparts⟩
        cases hparts
        rcases bind_eq_ok_iff.1 h with ⟨next, hnext, h⟩
        rw [← hsame] at hnext
        rw [(run_mutate hverb).2 ⟨found, hfound, hnext⟩]
        exact hrest.2 ⟨others, hothers, h⟩

theorem mem_pieces {piece : Invocation} (h : piece ∈ call.pieces) :
    piece.verb = call.verb ∧ piece.env = call.env ∧ piece.registry = call.registry := by
  rcases List.mem_append.1 h with h | h
  · rcases List.mem_map.1 h with ⟨_, _, rfl⟩
    exact ⟨rfl, rfl, rfl⟩
  · rcases List.mem_map.1 h with ⟨_, _, rfl⟩
    exact ⟨rfl, rfl, rfl⟩

theorem fragments_tell {found : List ResolvedFragment} (h : call.fragments = .ok found)
    {fragment : ResolvedFragment} (hf : fragment ∈ found) : fragment.Tells := by
  rcases bind_eq_ok_iff.1 h with ⟨sources, _, h⟩
  have htells := Interpolation.resolveAll_tells call.env sources
  rw [h] at htells
  exact htells fragment hf

theorem setNone_of_plan (hverb : call.verb = .mutate) {names : List String}
    (hnone : forall plan, call.plan data = .ok plan -> plan.AssignsNone names)
    {found : List ResolvedFragment} (hfound : call.fragments = .ok found) {assigns : List Assign}
    (hassigns : Request.assigns .transform (call.requestOf data found).fullScope found =
      .ok assigns) : SetNone names assigns := by
  have hrequest := request_of_fragments hfound data
  have hplan : (call.requestOf data found).planMutate =
      .ok ((call.requestOf data found).enclosed (Request.transformOf assigns)) := by
    rw [Request.planMutate, show Request.assigns .transform (call.requestOf data found).fullScope
      (call.requestOf data found).fragments = .ok assigns from hassigns]
    rfl
  have hops : call.operations data =
      .ok ((call.requestOf data found).enclosed (Request.transformOf assigns)) := by
    apply operations_of_request hrequest
    rw [hverb]
    exact hplan
  have hnames := hnone _ (map_eq_ok_iff.2 ⟨_, hops, rfl⟩)
  intro a ha
  refine hnames assigns (List.mem_map_of_mem (mem_enclosed ?_)) a ha
  unfold Request.transformOf
  cases assigns with
  | nil => cases ha
  | cons first rest => exact List.mem_singleton.2 rfl

/-- To add columns with several fragments in one call is to add them with a call for each fragment,
where no fragment names a reserved column, chooses columns by position, or computes a key or one of
the columns for the number of rows and for row numbers. -/
theorem mutate_eq_chain (hverb : call.verb = .mutate) (hdata : data.WellFormed)
    (hreads : forall request, call.request data = .ok request ->
      forall fragment, fragment ∈ request.fragments -> fragment.ReadsByName)
    (hnone : forall plan, call.plan data = .ok plan ->
      plan.AssignsNone (countColumn :: rowNumberColumn :: data.groups))
    (settings : Settings) (result : Dataset) :
    (call.run settings data).result = .ok result <->
      (runAll settings call.pieces data).result = .ok result := by
  have hpieces : forall piece, piece ∈ call.pieces ->
      piece.verb = .mutate ∧ piece.env = call.env ∧ piece.registry = call.registry := by
    intro piece hpiece
    rcases mem_pieces hpiece with ⟨hsame, henv, hregistry⟩
    exact ⟨hsame.trans hverb, henv, hregistry⟩
  rw [run_mutate hverb, runAll_mutate hpieces]
  have hregular : forall {found : List ResolvedFragment}, call.fragments = .ok found ->
      AreRegular found := by
    intro found hfound fragment hf
    refine ⟨fragments_tell hfound hf, ?_⟩
    exact hreads _ (request_of_fragments hfound data) fragment hf
  have hscope : forall found, call.Shows data (call.requestOf data found).fullScope :=
    shows_fullScope hdata
  constructor
  · rintro ⟨found, hfound, h⟩
    rcases fragments_eq_ok_iff.1 hfound with ⟨parts, hparts, rfl⟩
    rcases (mutated_eq_ok_iff hdata).1 h with ⟨assigns, wide, last, hassigns, hwide, hlast, rfl⟩
    refine ⟨parts, hparts, ?_⟩
    exact (chained_iff hdata (hscope _) (hregular hfound) hassigns
      (setNone_of_plan hverb hnone hfound hassigns) (fun _ hf => hf)
      (hdata.pads_rowColumns hwide)).2 ⟨last, hlast, rfl⟩
  · rintro ⟨parts, hparts, h⟩
    have hfound : call.fragments = .ok parts.flatten := fragments_eq_ok_iff.2 ⟨parts, hparts, rfl⟩
    rcases exists_assigns_of_chained hdata (hscope parts.flatten) (hregular hfound) h with
      ⟨assigns, hassigns⟩
    have hset := setNone_of_plan hverb hnone hfound hassigns
    have hrows : exists wide, Operation.applyAll call.env.functions
        (call.requestOf data parts.flatten).rowColumns data = .ok wide := by
      apply hdata.exists_rowColumns
      intro hasks
      exact exists_partitions_of_chained hdata (hscope _) (hregular hfound) hassigns hset hasks h
    rcases hrows with ⟨wide, hwide⟩
    rcases (chained_iff hdata (hscope _) (hregular hfound) hassigns hset (fun _ hf => hf)
      (hdata.pads_rowColumns hwide)).1 h with ⟨last, hlast, rfl⟩
    exact ⟨parts.flatten, hfound, (mutated_eq_ok_iff hdata).2
      ⟨assigns, wide, last, hassigns, hwide, hlast, rfl⟩⟩

/-- A flat dataset whose one column has the shortest name that joins into a reserved one. -/
def underscored : Dataset := flat ["_"] [[.int 1], [.int 2]]

theorem underscored_wellFormed : underscored.WellFormed := by decide

theorem fragmentOf_text {text : String} {ts : List Located} {node : Node}
    (hblank : isBlankText text = false) (hts : tokenize text = .ok ts)
    (hnode : Parser.fragment true ts = .ok node) :
    Verb.fragmentOf (.str text) = .ok (node, text) := by
  rw [Verb.fragmentOf, Grammar.parse_eq_ok_iff.mpr ⟨hblank, ts, hts, hnode⟩]
  rfl

def countingFragment : ResolvedFragment where
  node := .assignment "y" (.apply "n" [])
  mentionsCount := true
  mentionsRowNumber := false
  source := "y = n()"

theorem fragmentOf_counting :
    Verb.fragmentOf (.str "y = n()") = .ok (countingFragment.node, "y = n()") := by
  have hts : tokenize "y = n()" =
      .ok [⟨.identifier "y", 0⟩, ⟨.symbol .assign, 2⟩, ⟨.identifier "n", 4⟩,
        ⟨.symbol .openParen, 5⟩, ⟨.symbol .closeParen, 6⟩, ⟨.finish, 7⟩] := rfl
  exact fragmentOf_text (by decide) hts rfl

theorem countingFragment_readsByName : countingFragment.ReadsByName := by
  constructor
  · intro name hname
    simp [countingFragment, Node.apply, Node.walk, Node.walkAll, Node.walkNamed] at hname
  · rfl

def mutateCountCopy : Invocation :=
  { copyColumn with values := [.str "y = n()"], named := [("z", .sym "y")] }

def copyFragment : ResolvedFragment where
  node := .assignment "z" (.identifier "y")
  mentionsCount := false
  mentionsRowNumber := false
  source := "z = y"

theorem mutateCountCopy_fragments :
    mutateCountCopy.fragments = .ok [countingFragment, copyFragment] := by
  unfold fragments Verb.fragmentsOf
  simp only [mutateCountCopy, List.mapM_cons, List.mapM_nil, fragmentOf_counting]
  rfl

theorem mutateCountCopy_request : mutateCountCopy.request underscored =
    .ok (mutateCountCopy.requestOf underscored [countingFragment, copyFragment]) := by
  rw [request_eq, mutateCountCopy_fragments]
  rfl

theorem mutateCountCopy_operations : mutateCountCopy.operations underscored =
    .ok [.addRowCount countColumn,
      .transform [{ name := "y", expr := .column countColumn, source := some "y = n()" },
        { name := "z", expr := .column "y", source := some "z = y" }],
      .dropReserved] :=
  operations_of_request mutateCountCopy_request rfl

/-- What one call counts and copies, a chain of two does. -/
theorem mutate_eq_chain_mutateCountCopy :
    (runAll Settings.initial mutateCountCopy.pieces underscored).result =
      .ok (flat ["_", "y", "z"] [[.int 1, .int 2, .int 2], [.int 2, .int 2, .int 2]]) := by
  refine (mutate_eq_chain rfl underscored_wellFormed ?reads ?none Settings.initial _).1 ?run
  case reads =>
    intro request h fragment hf
    rw [mutateCountCopy_request] at h
    cases h
    simp only [requestOf, List.mem_cons, List.not_mem_nil, or_false] at hf
    rcases hf with rfl | rfl
    · exact countingFragment_readsByName
    · constructor
      · intro name hname
        simp [copyFragment, Node.walk] at hname
        subst hname
        decide
      · rfl
  case none =>
    intro plan h assigns hassigns a ha
    rw [Invocation.plan, mutateCountCopy_operations] at h
    cases h
    simp [Plan.ofOperations] at hassigns
    subst hassigns
    simp only [List.mem_cons, List.not_mem_nil, or_false] at ha
    rcases ha with rfl | rfl
    · decide
    · decide
  case run => exact (run_mutate rfl).2 ⟨_, mutateCountCopy_fragments, rfl⟩

/-- The fragment that applies a function to a column, and whose result is named after both. -/
def joiningFragment : ResolvedFragment where
  node := .apply "across" [.identifier "_", .identifier "tidyverbs_n"]
  mentionsCount := false
  mentionsRowNumber := false
  source := "across(_, tidyverbs_n)"

theorem fragmentOf_joining : Verb.fragmentOf (.str "across(_, tidyverbs_n)") =
    .ok (joiningFragment.node, "across(_, tidyverbs_n)") := by
  have hts : tokenize "across(_, tidyverbs_n)" =
      .ok [⟨.identifier "across", 0⟩, ⟨.symbol .openParen, 6⟩, ⟨.identifier "_", 7⟩,
        ⟨.symbol .comma, 8⟩, ⟨.identifier "tidyverbs_n", 10⟩, ⟨.symbol .closeParen, 21⟩,
        ⟨.finish, 22⟩] := rfl
  exact fragmentOf_text (by decide) hts rfl

def mutateOverCount : Invocation :=
  { copyColumn with
    values := [.str "across(_, tidyverbs_n)", .str "y = n()"]
    named := []
    env := { values := [("tidyverbs_n", .function (.library .isMissing))], functions := [] } }

theorem mutateOverCount_fragments :
    mutateOverCount.fragments = .ok [joiningFragment, countingFragment] := by
  unfold fragments Verb.fragmentsOf
  simp only [mutateOverCount, List.mapM_cons, List.mapM_nil, fragmentOf_joining,
    fragmentOf_counting]
  rfl

theorem mutateOverCount_run : (mutateOverCount.run Settings.initial underscored).result =
    .ok (flat ["_", "y"] [[.int 1, .bool false], [.int 2, .bool false]]) :=
  (run_mutate rfl).2 ⟨_, mutateOverCount_fragments, rfl⟩

theorem mutateOverCount_chain :
    (runAll Settings.initial mutateOverCount.pieces underscored).result =
    .ok (flat ["_", "y"] [[.int 1, .int 2], [.int 2, .int 2]]) := by
  have hpieces : mutateOverCount.pieces.mapM fragments =
      .ok [[joiningFragment], [countingFragment]] := by
    show ([_, _] : List Invocation).mapM fragments = _
    rw [List.mapM_cons, List.mapM_cons, fragments_value, fragments_value, fragmentOf_joining,
      fragmentOf_counting]
    rfl
  exact (runAll_mutate fun _ => mem_pieces).2 ⟨_, hpieces, rfl⟩

/-- Where a column that a fragment computes is named like the one for the number of rows, the call
and the chain differ, though no fragment names a reserved column or assigns to a key. -/
theorem mutate_ne_chain :
    underscored.WellFormed ∧
      (forall request, mutateOverCount.request underscored = .ok request ->
        forall fragment, fragment ∈ request.fragments -> fragment.ReadsByName) ∧
      (forall plan, mutateOverCount.plan underscored = .ok plan ->
        plan.AssignsNone underscored.groups) ∧
      ¬ forall result, (mutateOverCount.run Settings.initial underscored).result = .ok result <->
        (runAll Settings.initial mutateOverCount.pieces underscored).result = .ok result := by
  refine ⟨underscored_wellFormed, ?reads, ?none, ?differ⟩
  case reads =>
    intro request h fragment hf
    rw [request_eq, mutateOverCount_fragments] at h
    cases h
    simp only [requestOf, List.mem_cons, List.not_mem_nil, or_false] at hf
    rcases hf with rfl | rfl
    · constructor
      · intro name hname
        simp [joiningFragment, Node.apply, Node.walk, Node.walkAll, Node.walkNamed] at hname
        rcases hname with rfl | rfl
        · decide
        · decide
      · rfl
    · exact countingFragment_readsByName
  case none =>
    intro plan _ assigns _ a _
    exact List.not_mem_nil
  case differ =>
    intro hsame
    have hchain := (hsame _).1 mutateOverCount_run
    rw [mutateOverCount_chain] at hchain
    cases hchain

end Invocation

end Wrangle
