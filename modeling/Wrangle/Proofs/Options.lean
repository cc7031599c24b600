import Wrangle.Options
import Wrangle.Proofs.Outcome

/-!
# Programs that change options

A program sets options, reads them and fails, within contexts that are nested to any depth.  A
step that fails breaks off every step around it, up to an attempt, which goes on in spite of it.
However the steps of a context end, its options have their former values afterwards; settings
that do not pass their checks change nothing; and every value that is ever stored is a boolean.
-/

namespace Wrangle

/-!
# Programs
-/

/-- The steps of a program. -/
inductive OptionStep where
  | set (option value : Value)
  | get (option : Value)
  | fail (failure : Failure)
  | within (settings : List (String × Value)) (body : List OptionStep)
  | attempt (body : List OptionStep)

/-- A step that was carried out: how it ended, and the options before and after it. -/
structure Episode where
  step : OptionStep
  before : Options
  ending : Outcome Value
  after : Options

/-- All that happens while steps are carried out, the steps inside of a step before itself. -/
structure Course where
  episodes : List Episode
  ending : Outcome Value
  options : Options

namespace OptionStep

def concluded (step : OptionStep) (before : Options) (inner : List Episode)
    (ending : Outcome Value) (after : Options) : Course :=
  { episodes :=
      inner ++ [{ step := step, before := before, ending := ending, after := after }]
    ending := ending
    options := after }

mutual

/-- Carry out a step. -/
def run (options : Options) : OptionStep -> Course
  | set option value =>
      match options.set option value with
      | .ok after => (set option value).concluded options [] (.ok .missing) after
      | .error failure => (set option value).concluded options [] (.error failure) options
  | get option => (get option).concluded options [] (options.get option) options
  | fail failure => (fail failure).concluded options [] (.error failure) options
  | within settings body =>
      let carryOut (inside : Options) : Course × Options :=
        let course := runAll inside body
        (course, course.options)
      match options.within settings carryOut with
      | (.error failure, after) =>
          (within settings body).concluded options [] (.error failure) after
      | (.ok course, after) =>
          (within settings body).concluded options course.episodes course.ending after
  | attempt body =>
      let course := runAll options body
      (attempt body).concluded options course.episodes (.ok .missing) course.options

/-- Carry out steps up to the first one that fails. -/
def runAll (options : Options) : List OptionStep -> Course
  | [] => { episodes := [], ending := .ok .missing, options := options }
  | step :: rest =>
      let first := run options step
      match first.ending with
      | .error _ => first
      | .ok _ =>
          let later := runAll first.options rest
          { later with episodes := first.episodes ++ later.episodes }

end

end OptionStep

/-!
# Values that are written
-/

namespace Options

variable {options : Options} {settings : List (String × Value)}

theorem lookup_written (name other : String) (value : Value) (entries : List (String × Value)) :
    (written name value entries).lookup other =
      if other = name then some value else entries.lookup other := by
  induction entries with
  | nil =>
      by_cases hother : other = name
      · simp [written, hother]
      · have hbeq : (other == name) = false := beq_eq_false_iff_ne.2 hother
        simp [written, List.lookup_cons, hother, hbeq]
  | cons entry rest ih =>
      rw [written]
      by_cases hentry : entry.1 = name
      · rw [if_pos (beq_iff_eq.2 hentry), List.lookup_cons, List.lookup_cons, hentry]
        by_cases hother : other = name
        · simp [hother]
        · have hbeq : (other == name) = false := beq_eq_false_iff_ne.2 hother
          simp only [hbeq, if_neg hother]
      · rw [if_neg (by simpa using hentry), List.lookup_cons, List.lookup_cons, ih]
        by_cases hother : other = entry.1
        · have hne : other ≠ name := by
            rw [hother]
            exact hentry
          simp [hother, hentry]
        · have hbeq : (other == entry.1) = false := beq_eq_false_iff_ne.2 hother
          simp only [hbeq]

theorem value?_write (options : Options) (name other : String) (value : Value) :
    (options.write name value).value? other =
      if other = name then some value else options.value? other :=
  lookup_written name other value options.entries

theorem value?_update {name : String} {value : Option Value}
    (hagree : forall setting, setting ∈ settings -> setting.1 = name -> some setting.2 = value)
    (hpresent : options.value? name = value ∨ name ∈ settings.map Prod.fst) :
    (options.update settings).value? name = value := by
  induction settings generalizing options with
  | nil =>
      rcases hpresent with hvalue | hnone
      · exact hvalue
      · cases hnone
  | cons setting rest ih =>
      rw [update, List.foldl_cons]
      rcases List.forall_mem_cons.1 hagree with ⟨hfirst, hrest⟩
      apply ih hrest
      rw [value?_write]
      by_cases hname : name = setting.1
      · rw [if_pos hname]
        exact Or.inl (hfirst hname.symm)
      · rw [if_neg hname]
        rcases hpresent with hvalue | hmem
        · exact Or.inl hvalue
        · rcases List.mem_cons.1 hmem with hsame | hlater
          · exact absurd hsame hname
          · exact Or.inr hlater

theorem mem_former {setting : String × Value} :
    setting ∈ options.former settings <->
      setting.1 ∈ settings.map Prod.fst ∧ options.value? setting.1 = some setting.2 := by
  rw [former, List.mem_filterMap, List.mem_map]
  constructor
  · rintro ⟨other, hother, hvalue⟩
    rcases Option.map_eq_some_iff.1 hvalue with ⟨value, hformer, rfl⟩
    exact ⟨⟨other, hother, rfl⟩, hformer⟩
  · rintro ⟨⟨other, hother, hname⟩, hvalue⟩
    refine ⟨other, hother, ?_⟩
    rw [hname, hvalue]
    rfl

theorem exists_value? {name : String} (h : name ∈ options.names) :
    exists value, options.value? name = some value := by
  cases hvalue : options.value? name with
  | some value => exact ⟨value, rfl⟩
  | none =>
      rcases List.mem_map.1 h with ⟨entry, hentry, rfl⟩
      have hother := List.lookup_eq_none_iff.1 hvalue entry hentry
      rw [bne_self_eq_false] at hother
      cases hother

theorem value?_update_former {name : String} (hset : name ∈ settings.map Prod.fst)
    (hname : name ∈ options.names) (between : Options) :
    (between.update (options.former settings)).value? name = options.value? name := by
  rcases exists_value? hname with ⟨value, hvalue⟩
  apply value?_update
  · intro setting hsetting hsame
    rw [← hsame, (mem_former.1 hsetting).2]
  · right
    exact List.mem_map.2 ⟨(name, value), mem_former.2 ⟨hset, hvalue⟩, rfl⟩

/-!
# Settings that are accepted
-/

/-- An option that exists, is not only planned, and is given a boolean. -/
structure Accepts (options : Options) (name : String) (value : Value) : Prop where
  isOption : name ∈ options.names
  available : name ∉ plannedNames
  boolean : exists b, value = .bool b

def AcceptsAll (options : Options) (settings : List (String × Value)) : Prop :=
  forall setting, setting ∈ settings -> options.Accepts setting.1 setting.2

theorem check_str (options : Options) (name : String) (value : Value) :
    (options.check (.str name) value = .ok name ∧ options.Accepts name value) ∨
      (exists message hint, options.check (.str name) value = refuse message hint) ∧
        ¬ options.Accepts name value := by
  have hsought : (!(Value.str name).canBeSought) = false := rfl
  rw [check, hsought, if_neg Bool.false_ne_true]
  dsimp only
  split
  · rename_i hplanned
    exact Or.inr ⟨⟨_, _, rfl⟩, fun h => h.available (List.contains_iff_mem.1 hplanned)⟩
  · rename_i havailable
    split
    · rename_i hunknown
      refine Or.inr ⟨⟨_, _, rfl⟩, ?_⟩
      intro h
      rw [List.contains_iff_mem.2 h.isOption] at hunknown
      cases hunknown
    · rename_i hoption
      split
      · rename_i b hb
        refine Or.inl ⟨rfl, ?_, ?_, ?_⟩
        · simpa using hoption
        · simpa using havailable
        · cases value with
          | bool b => exact ⟨b, rfl⟩
          | _ => cases hb
      · rename_i hnone
        refine Or.inr ⟨⟨_, _, rfl⟩, ?_⟩
        intro h
        rcases h.boolean with ⟨b, rfl⟩
        cases hnone

theorem check_eq_ok_iff {option value : Value} {name : String} :
    options.check option value = .ok name <-> option = .str name ∧ options.Accepts name value := by
  constructor
  · intro h
    cases option with
    | str other =>
        rcases check_str options other value with ⟨hcheck, haccepts⟩ | ⟨⟨message, hint, hcheck⟩, _⟩
        · cases hcheck.symm.trans h
          exact ⟨rfl, haccepts⟩
        · cases hcheck.symm.trans h
    | _ =>
        unfold check at h
        split at h <;> cases h
  · rintro ⟨rfl, haccepts⟩
    rcases check_str options name value with ⟨hcheck, _⟩ | ⟨_, hrefused⟩
    · exact hcheck
    · exact absurd haccepts hrefused

theorem setAll_eq_ok_iff {inside : Options} :
    options.setAll settings = .ok inside <->
      options.AcceptsAll settings ∧ inside = options.update settings := by
  rw [setAll, map_eq_ok_iff]
  constructor
  · rintro ⟨names, hnames, rfl⟩
    refine ⟨?_, rfl⟩
    intro setting hsetting
    rcases exists_of_mapM_eq_ok hnames hsetting with ⟨name, hname⟩
    rcases check_eq_ok_iff.1 hname with ⟨hsame, haccepts⟩
    cases hsame
    exact haccepts
  · rintro ⟨haccepts, rfl⟩
    have hchecked : settings.mapM (fun setting => options.check (.str setting.1) setting.2) =
        .ok (settings.map Prod.fst) :=
      mapM_eq_ok fun setting hsetting => check_eq_ok_iff.2 ⟨rfl, haccepts setting hsetting⟩
    exact ⟨_, hchecked, rfl⟩

theorem setAll_of_not_acceptsAll (h : ¬ options.AcceptsAll settings) :
    exists e, e.kind = .option ∧ options.setAll settings = .error (.user e) := by
  cases hset : options.setAll settings with
  | ok inside => exact absurd (setAll_eq_ok_iff.1 hset).1 h
  | error failure =>
      rcases mapM_eq_error_iff.1 (map_eq_error_iff.1 hset) with ⟨_, setting, _, _, _, hcheck⟩
      rcases check_str options setting.1 setting.2 with ⟨hok, _⟩ | ⟨⟨message, hint, hrefused⟩, _⟩
      · cases hok.symm.trans hcheck
      · cases hrefused.symm.trans hcheck
        exact ⟨_, rfl, rfl⟩

theorem set_of_accepts {name : String} {value : Value} (h : options.Accepts name value) :
    options.set (.str name) value = .ok (options.write name value) := by
  rw [set, check_eq_ok_iff.2 ⟨rfl, h⟩]
  rfl

theorem set_of_not_accepts {option value : Value}
    (h : forall name, option = .str name -> ¬ options.Accepts name value) :
    exists failure, options.set option value = .error failure ∧
      (option.canBeSought = true -> exists e, e.kind = .option ∧ failure = .user e) := by
  cases hset : options.set option value with
  | ok after =>
      rcases map_eq_ok_iff.1 hset with ⟨name, hcheck, _⟩
      rcases check_eq_ok_iff.1 hcheck with ⟨hname, haccepts⟩
      exact absurd haccepts (h name hname)
  | error failure =>
      refine ⟨failure, rfl, ?_⟩
      intro hsought
      have hcheck := map_eq_error_iff.1 hset
      cases option with
      | str name =>
          rcases check_str options name value with ⟨hok, _⟩ | ⟨⟨message, hint, hrefused⟩, _⟩
          · cases hok.symm.trans hcheck
          · cases hrefused.symm.trans hcheck
            exact ⟨_, rfl, rfl⟩
      | _ =>
          unfold check at hcheck
          rw [hsought] at hcheck
          cases hcheck
          exact ⟨_, rfl, rfl⟩

/-!
# Options whose values are booleans
-/

/-- The options that there are from the start, each of them with a boolean. -/
structure IsSound (options : Options) : Prop where
  names : options.names = initial.names
  booleans : forall entry, entry ∈ options.entries -> exists b, entry.2 = .bool b

theorem initial_isSound : initial.IsSound := by
  refine ⟨rfl, ?_⟩
  intro entry hentry
  rw [List.mem_singleton.1 hentry]
  exact ⟨false, rfl⟩

theorem mem_written {name : String} {value : Value} {entries : List (String × Value)}
    {entry : String × Value} (h : entry ∈ written name value entries) :
    entry = (name, value) ∨ entry ∈ entries := by
  induction entries with
  | nil => exact Or.inl (List.mem_singleton.1 h)
  | cons first rest ih =>
      rw [written] at h
      split at h
      · exact (List.mem_cons.1 h).imp_right (List.mem_cons_of_mem first)
      · rcases List.mem_cons.1 h with hfirst | hrest
        · rw [hfirst]
          exact Or.inr List.mem_cons_self
        · exact (ih hrest).imp_right (List.mem_cons_of_mem first)

theorem names_written {name : String} {value : Value} {entries : List (String × Value)}
    (h : name ∈ entries.map Prod.fst) :
    (written name value entries).map Prod.fst = entries.map Prod.fst := by
  induction entries with
  | nil => cases h
  | cons entry rest ih =>
      rw [written]
      by_cases hentry : entry.1 = name
      · rw [if_pos (beq_iff_eq.2 hentry), List.map_cons, List.map_cons, hentry]
      · rw [if_neg (by simpa using hentry), List.map_cons, List.map_cons]
        rcases List.mem_cons.1 h with hsame | hrest
        · exact absurd hsame.symm hentry
        · rw [ih hrest]

namespace IsSound

theorem write (h : options.IsSound) {name : String} {value : Value}
    (hname : name ∈ initial.names) (hvalue : exists b, value = .bool b) :
    (options.write name value).IsSound := by
  constructor
  · rw [← h.names] at hname ⊢
    exact names_written hname
  · intro entry hentry
    rcases mem_written hentry with rfl | hold
    · exact hvalue
    · exact h.booleans entry hold

theorem update (h : options.IsSound) (hsettings : forall setting, setting ∈ settings ->
      setting.1 ∈ initial.names ∧ exists b, setting.2 = .bool b) :
    (options.update settings).IsSound := by
  induction settings generalizing options with
  | nil => exact h
  | cons setting rest ih =>
      rcases List.forall_mem_cons.1 hsettings with ⟨⟨hname, hvalue⟩, hrest⟩
      exact ih (h.write hname hvalue) hrest

theorem update_accepted (h : options.IsSound) (haccepts : options.AcceptsAll settings) :
    (options.update settings).IsSound := by
  apply h.update
  intro setting hsetting
  have hsetting := haccepts setting hsetting
  exact ⟨h.names ▸ hsetting.isOption, hsetting.boolean⟩

theorem update_former (h : options.IsSound) {between : Options} (hbetween : between.IsSound) :
    (between.update (options.former settings)).IsSound := by
  apply hbetween.update
  intro setting hsetting
  have hmem : setting ∈ options.entries := by
    rcases List.lookup_eq_some_iff.1 (mem_former.1 hsetting).2 with ⟨front, back, hentries, _⟩
    rw [hentries]
    exact List.mem_append_right front List.mem_cons_self
  exact ⟨h.names ▸ List.mem_map_of_mem hmem, h.booleans _ hmem⟩

theorem set (h : options.IsSound) {option value : Value} {after : Options}
    (hset : options.set option value = .ok after) : after.IsSound := by
  rcases map_eq_ok_iff.1 hset with ⟨name, hcheck, rfl⟩
  have haccepts := (check_eq_ok_iff.1 hcheck).2
  exact h.write (h.names ▸ haccepts.isOption) haccepts.boolean

theorem get (h : options.IsSound) {option value : Value}
    (hget : options.get option = .ok value) : exists b, value = .bool b := by
  rw [Options.get] at hget
  split at hget
  · cases hget
  · split at hget
    · rename_i found hfound
      cases hget
      rcases Option.bind_eq_some_iff.1 hfound with ⟨name, _, hname⟩
      rcases List.lookup_eq_some_iff.1 hname with ⟨front, back, hentries, _⟩
      apply h.booleans (name, value)
      rw [hentries]
      exact List.mem_append_right front List.mem_cons_self
    · rcases bind_eq_ok_iff.1 hget with ⟨_, _, hnone⟩
      cases hnone

end IsSound

end Options

/-!
# Runs of programs
-/

namespace OptionStep

open Options

variable {options : Options} {settings : List (String × Value)} {body : List OptionStep}

/-- The body of a context is carried out with the settings, and the former values come back. -/
theorem run_within (h : options.AcceptsAll settings) :
    run options (.within settings body) =
      (within settings body).concluded options
        (runAll (options.update settings) body).episodes
        (runAll (options.update settings) body).ending
        ((runAll (options.update settings) body).options.update (options.former settings)) := by
  rw [run, Options.within, setAll_eq_ok_iff.2 ⟨h, rfl⟩]

theorem run_within_refused (h : ¬ options.AcceptsAll settings) :
    exists e, e.kind = .option ∧ run options (.within settings body) =
      (within settings body).concluded options [] (.error (.user e)) options := by
  rcases setAll_of_not_acceptsAll h with ⟨e, hkind, hset⟩
  refine ⟨e, hkind, ?_⟩
  rw [run, Options.within, hset]

theorem runAll_cons (options : Options) (step : OptionStep) (rest : List OptionStep) :
    (exists failure, (run options step).ending = .error failure ∧
      runAll options (step :: rest) = run options step) ∨
    exists value, (run options step).ending = .ok value ∧
      runAll options (step :: rest) =
        { runAll (run options step).options rest with
          episodes := (run options step).episodes ++
            (runAll (run options step).options rest).episodes } := by
  rw [runAll]
  cases hending : (run options step).ending with
  | error failure =>
      left
      exact ⟨failure, rfl, rfl⟩
  | ok value =>
      right
      exact ⟨value, rfl, rfl⟩

end OptionStep

/-- An episode is what carrying out its step comes to, after the steps inside of it. -/
def Episode.IsRun (episode : Episode) : Prop :=
  exists inner, episode.step.run episode.before =
    episode.step.concluded episode.before inner episode.ending episode.after

/-- The options are sound all along, and every episode is a run of its step. -/
structure Course.IsSound (course : Course) : Prop where
  options : course.options.IsSound
  episodes : forall episode, episode ∈ course.episodes ->
    episode.before.IsSound ∧ episode.after.IsSound ∧ episode.IsRun

namespace OptionStep

open Options

theorem isSound_of_concluded {options after : Options} {step : OptionStep}
    {inner : List Episode} {ending : Outcome Value}
    (hrun : run options step = step.concluded options inner ending after)
    (hbefore : options.IsSound) (hafter : after.IsSound)
    (hinner : forall episode, episode ∈ inner ->
      episode.before.IsSound ∧ episode.after.IsSound ∧ episode.IsRun) :
    (run options step).IsSound := by
  rw [hrun]
  refine ⟨hafter, ?_⟩
  intro episode hepisode
  rcases List.mem_append.1 hepisode with hmem | hlast
  · exact hinner episode hmem
  · rw [List.mem_singleton.1 hlast]
    exact ⟨hbefore, hafter, inner, hrun⟩

theorem isSound_of_single {options after : Options} {step : OptionStep} {ending : Outcome Value}
    (hrun : run options step = step.concluded options [] ending after)
    (hbefore : options.IsSound) (hafter : after.IsSound) : (run options step).IsSound :=
  isSound_of_concluded hrun hbefore hafter fun _ hnone => by cases hnone

mutual

theorem run_isSound {options : Options} (h : options.IsSound) :
    (step : OptionStep) -> (run options step).IsSound
  | .set option value => by
      cases hset : options.set option value with
      | ok after => exact isSound_of_single (by rw [run, hset]) h (h.set hset)
      | error failure => exact isSound_of_single (by rw [run, hset]) h h
  | .get option => isSound_of_single (by rw [run]) h h
  | .fail failure => isSound_of_single (by rw [run]) h h
  | .within settings body => by
      by_cases haccepts : options.AcceptsAll settings
      · have hbody := runAll_isSound (h.update_accepted haccepts) body
        exact isSound_of_concluded (run_within haccepts) h (h.update_former hbody.options)
          hbody.episodes
      · rcases run_within_refused haccepts with ⟨e, _, hrun⟩
        exact isSound_of_single hrun h h
  | .attempt body => by
      have hbody := runAll_isSound h body
      exact isSound_of_concluded (by rw [run]) h hbody.options hbody.episodes

theorem runAll_isSound {options : Options} (h : options.IsSound) :
    (steps : List OptionStep) -> (runAll options steps).IsSound
  | [] => ⟨h, fun _ hnone => by cases hnone⟩
  | step :: rest => by
      have hstep := run_isSound h step
      rcases runAll_cons options step rest with ⟨_, _, hrun⟩ | ⟨_, _, hrun⟩
      · rw [hrun]
        exact hstep
      · have hrest := runAll_isSound hstep.options rest
        rw [hrun]
        refine ⟨hrest.options, ?_⟩
        intro episode hepisode
        rcases List.mem_append.1 hepisode with hfirst | hlater
        · exact hstep.episodes episode hfirst
        · exact hrest.episodes episode hlater

end

end OptionStep

/-- What every step of a program keeps to.  An accepted context passes on how its body ends, with
its settings in force there, and its options have their former values afterwards; what is not
accepted is refused without a change, and without a step inside. -/
structure Episode.IsOrderly (episode : Episode) : Prop where
  booleans : forall entry, entry ∈ episode.before.entries ++ episode.after.entries ->
    exists b, entry.2 = .bool b
  reads : forall {option value}, episode.step = .get option -> episode.ending = .ok value ->
    exists b, value = .bool b
  sets : forall {name value}, episode.step = .set (.str name) value ->
    episode.before.Accepts name value ->
      episode.ending = .ok .missing ∧ episode.after = episode.before.write name value
  refusesToSet : forall {option value}, episode.step = .set option value ->
    (forall name, option = .str name -> ¬ episode.before.Accepts name value) ->
      episode.after = episode.before ∧ exists failure, episode.ending = .error failure ∧
        (option.canBeSought = true -> exists e, e.kind = .option ∧ failure = .user e)
  restores : forall {settings body}, episode.step = .within settings body ->
    episode.before.AcceptsAll settings ->
      episode.ending = (OptionStep.runAll (episode.before.update settings) body).ending ∧
        forall setting, setting ∈ settings ->
          episode.after.value? setting.1 = episode.before.value? setting.1
  refusesToEnter : forall {settings body}, episode.step = .within settings body ->
    ¬ episode.before.AcceptsAll settings ->
      episode.after = episode.before ∧ exists e, e.kind = .option ∧
        episode.ending = .error (.user e) ∧
        (episode.step.run episode.before).episodes = [episode]

theorem Episode.IsRun.isOrderly {episode : Episode} (h : episode.IsRun)
    (hbefore : episode.before.IsSound) (hafter : episode.after.IsSound) : episode.IsOrderly := by
  rcases episode with ⟨step, before, ending, after⟩
  dsimp only at hbefore hafter
  rcases h with ⟨inner, hrun⟩
  dsimp only at hrun
  have hending : ending = (step.run before).ending := by
    rw [hrun]
    rfl
  have hoptions : after = (step.run before).options := by
    rw [hrun]
    rfl
  constructor
  case booleans =>
    intro entry hentry
    rcases List.mem_append.1 hentry with hmem | hmem
    · exact hbefore.booleans entry hmem
    · exact hafter.booleans entry hmem
  case reads =>
    rintro option value rfl rfl
    exact hbefore.get hending.symm
  case sets =>
    rintro name value rfl haccepts
    have hset := Options.set_of_accepts haccepts
    rw [OptionStep.run, hset] at hending hoptions
    exact ⟨hending, hoptions⟩
  case refusesToSet =>
    rintro option value rfl hrefused
    rcases Options.set_of_not_accepts hrefused with ⟨failure, hset, hkind⟩
    rw [OptionStep.run, hset] at hending hoptions
    exact ⟨hoptions, failure, hending, hkind⟩
  case restores =>
    rintro settings body rfl haccepts
    rw [OptionStep.run_within haccepts] at hending hoptions
    refine ⟨hending, ?_⟩
    intro setting hsetting
    have hname := (haccepts setting hsetting).isOption
    dsimp only
    rw [hoptions]
    exact Options.value?_update_former (List.mem_map_of_mem hsetting) hname _
  case refusesToEnter =>
    rintro settings body rfl hrefused
    rcases OptionStep.run_within_refused hrefused with ⟨e, hkind, hsingle⟩
    rw [hsingle] at hending hoptions
    refine ⟨hoptions, e, hkind, hending, ?_⟩
    dsimp only
    rw [hsingle, hending, hoptions]
    rfl

/-!
# Commands as programs
-/

namespace OptionCommand

mutual

def toStep : OptionCommand -> OptionStep
  | set option value => .attempt [.set option value]
  | get option => .attempt [.get option]
  | within settings body aborts =>
      .attempt [.within settings
        (toSteps body ++ if aborts then [.fail (.fault Fault.aborted)] else [])]

def toSteps : List OptionCommand -> List OptionStep
  | [] => []
  | command :: rest => toStep command :: toSteps rest

end

theorem options_attempt (options : Options) (step : OptionStep) :
    ((OptionStep.attempt [step]).run options).options = (step.run options).options := by
  rw [OptionStep.run]
  rcases OptionStep.runAll_cons options step [] with ⟨_, _, hrun⟩ | ⟨_, _, hrun⟩
  · rw [hrun]
    rfl
  · rw [hrun]
    rfl

mutual

theorem run_toStep (options : Options) : (command : OptionCommand) ->
    (exists value, ((toStep command).run options).ending = .ok value) ∧
      ((toStep command).run options).options = (run options command).2
  | set option value => by
      refine ⟨⟨_, rfl⟩, ?_⟩
      rw [toStep, options_attempt, OptionStep.run, run]
      cases options.set option value with
      | ok after => rfl
      | error failure => rfl
  | get option => by
      refine ⟨⟨_, rfl⟩, ?_⟩
      rw [toStep, options_attempt, OptionStep.run, run]
      cases options.get option with
      | ok after => rfl
      | error failure => rfl
  | within settings body aborts => by
      refine ⟨⟨_, rfl⟩, ?_⟩
      rw [toStep, options_attempt, OptionStep.run, run, Options.within, Options.within]
      cases options.setAll settings with
      | error failure => rfl
      | ok inside =>
          have htail : forall after : Options, (OptionStep.runAll after
              (if aborts then [.fail (.fault Fault.aborted)] else [])).options = after := by
            intro after
            cases aborts <;> rfl
          have hbody := (runAll_toSteps inside _ body).trans (htail (runAll inside body).2)
          dsimp only [OptionStep.concluded]
          rw [hbody]

theorem runAll_toSteps (options : Options) (tail : List OptionStep) :
    (commands : List OptionCommand) ->
      (OptionStep.runAll options (toSteps commands ++ tail)).options =
        (OptionStep.runAll (runAll options commands).2 tail).options
  | [] => rfl
  | command :: rest => by
      rcases run_toStep options command with ⟨⟨value, hvalue⟩, hoptions⟩
      rw [toSteps, List.cons_append, OptionStep.runAll, hvalue]
      dsimp only
      rw [hoptions, runAll_toSteps _ tail rest]
      rfl

end

end OptionCommand

/-!
# All programs
-/

/-- Contexts always restore their options: in every program that starts with the initial options,
every step keeps to its order, at any depth and however it ends, and all values are booleans.
Commands are carried out like such programs. -/
theorem OptionStep.contexts_restore :
    (forall steps episode, episode ∈ (OptionStep.runAll Options.initial steps).episodes ->
      episode.IsOrderly) ∧
      (forall steps, (OptionStep.runAll Options.initial steps).options.IsSound) ∧
      forall commands, (OptionCommand.runAll Options.initial commands).2 =
        (OptionStep.runAll Options.initial (OptionCommand.toSteps commands)).options := by
  refine ⟨?_, ?_, ?_⟩
  · intro steps episode hepisode
    have hsound := OptionStep.runAll_isSound Options.initial_isSound steps
    rcases hsound.episodes episode hepisode with ⟨hbefore, hafter, hrun⟩
    exact hrun.isOrderly hbefore hafter
  · exact fun steps => (OptionStep.runAll_isSound Options.initial_isSound steps).options
  · intro commands
    have hrun := OptionCommand.runAll_toSteps Options.initial [] commands
    rw [List.append_nil] at hrun
    exact hrun.symm

/-- A failure that breaks off two contexts, the inner one entered after the option was set. -/
def brokenOff : List OptionStep := [
  .attempt [
    .within [("code", .bool true)] [
      .set (.str "code") (.bool false),
      .within [("code", .bool true)] [.fail (.fault Fault.aborted)],
      .get (.str "code")]],
  .get (.str "code")]

theorem OptionStep.contexts_restore_brokenOff :
    exists episode, episode ∈ (OptionStep.runAll Options.initial brokenOff).episodes ∧
      episode.IsOrderly ∧ episode.ending = .error (.fault Fault.aborted) ∧
      episode.before = Options.initial ∧ episode.after = Options.initial ∧
      exists body, episode.step = .within [("code", .bool true)] body := by
  have hmem := List.mem_of_getElem? (l := (OptionStep.runAll Options.initial brokenOff).episodes)
    (i := 3) rfl
  exact ⟨_, hmem, OptionStep.contexts_restore.1 _ _ hmem, rfl, rfl, rfl, _, rfl⟩

end Wrangle
