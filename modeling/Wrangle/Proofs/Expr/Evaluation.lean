import Wrangle.Expr.Evaluate
import Wrangle.Proofs.Compile.Building
import Wrangle.Proofs.Function.Raising

/-!
# Evaluation fails with user errors

On a frame that has the columns that an expression mentions, evaluation fails only
with errors for the user.  The one fault that is left is an integer in a message
with too many digits to be written.  Besides, a function from outside may end the
program.
-/

namespace Wrangle

/-- A user error, a message that cannot be written, or the end of the program where it can come. -/
def Failure.IsHarmless (exits : Prop) : Failure -> Prop
  | .user _ => True
  | .fault (.raised f) => f = .tooManyDigits
  | .fault .exit => exits

theorem Failure.IsHarmless.imp {exits more : Prop} {failure : Failure}
    (h : failure.IsHarmless exits) (hmore : exits -> more) : failure.IsHarmless more := by
  cases failure with
  | user e => trivial
  | fault f =>
      cases f with
      | raised f => exact h
      | exit => exact hmore h

theorem inFragment_harmless {exits : Prop} {good : alpha -> Prop} {source : String}
    {outcome : Outcome alpha} (h : Ends (Failure.IsHarmless exits) good outcome) :
    Ends (Failure.IsHarmless exits) good (Outcome.inFragment source outcome) := by
  cases outcome with
  | ok value => exact h
  | error failure =>
      cases failure with
      | user e => trivial
      | fault f => exact h

namespace Expr

/-!
# Calls from inside
-/

def isInnerRef : Expr -> Bool
  | functionRef _ f => f.isInner
  | _ => false

/-- Whether a call applies a function from outside, or hands on what may be one. -/
def isOutwardCall (f : Function) (args : List Expr) (kwargs : List (String × Expr)) : Bool :=
  match f with
  | .library .accumulate =>
      !(args.head?.all isInnerRef && kwargs.all fun entry => entry.1 != "fn" || entry.2.isInnerRef)
  | _ => !f.isInner

mutual

def callsOut : Expr -> Bool
  | values items => anyCallsOut items
  | broadcast _ f args kwargs =>
      isOutwardCall f args kwargs || anyCallsOut args || anyNamedCallsOut kwargs
  | apply _ f args kwargs =>
      isOutwardCall f args kwargs || anyCallsOut args || anyNamedCallsOut kwargs
  | first inner => callsOut inner
  | ifElse condition yes no miss =>
      callsOut condition || callsOut yes || callsOut no || callsOut miss
  | caseWhen clauses none => anyClauseCallsOut clauses
  | caseWhen clauses (some otherwise) => anyClauseCallsOut clauses || callsOut otherwise
  | _ => false

def anyCallsOut : List Expr -> Bool
  | [] => false
  | e :: rest => callsOut e || anyCallsOut rest

def anyNamedCallsOut : List (String × Expr) -> Bool
  | [] => false
  | (_, e) :: rest => callsOut e || anyNamedCallsOut rest

def anyClauseCallsOut : List (Expr × Expr) -> Bool
  | [] => false
  | (condition, value) :: rest =>
      callsOut condition || callsOut value || anyClauseCallsOut rest

end

section Calls

variable {callers : CallerFunctions} {frame : Frame} {f : Function} {args : List Expr}
  {kwargs : List (String × Expr)} {values : List Value} {named : List (String × Value)}

theorem staysInside_atRow (h : f.staysInside values named = true) (i : Nat) :
    f.staysInside (values.map (atRow i)) (named.map fun entry => (entry.1, atRow i entry.2)) =
      true := by
  have hrow : forall value : Value, value.isInnerFunction = true ->
      (atRow i value).isInnerFunction = true := by
    intro value hvalue
    cases value with
    | function g => exact hvalue
    | _ => cases hvalue
  unfold Function.staysInside at h ⊢
  split at h
  · rw [Bool.and_eq_true, List.all_eq_true] at h ⊢
    constructor
    · cases values with
      | nil => rfl
      | cons value rest => exact hrow value h.1
    · intro entry hentry
      rcases List.mem_map.1 hentry with ⟨original, horiginal, rfl⟩
      have hinner := h.2 original horiginal
      rw [Bool.or_eq_true] at hinner ⊢
      exact hinner.imp_right (hrow original.2)
  · exact h

theorem evaluate_isInnerFunction {e : Expr} (h : e.isInnerRef = true) {value : Value}
    (hvalue : evaluate callers frame e = .ok value) : value.isInnerFunction = true := by
  cases e with
  | functionRef name f =>
      rw [evaluate] at hvalue
      cases hvalue
      exact h
  | _ => cases h

theorem evaluateAll_head (h : args.head?.all isInnerRef = true)
    (hvalues : evaluateAll callers frame args = .ok values) :
    values.head?.all Value.isInnerFunction = true := by
  cases args with
  | nil =>
      cases hvalues
      rfl
  | cons e rest =>
      rw [evaluateAll] at hvalues
      rcases bind_eq_ok_iff.1 hvalues with ⟨value, hvalue, hrest⟩
      rcases bind_eq_ok_iff.1 hrest with ⟨others, _, heq⟩
      cases heq
      exact evaluate_isInnerFunction h hvalue

def NamesInner (name : String) (named : List (String × Value)) : Prop :=
  forall value, (name, value) ∈ named -> value.isInnerFunction = true

theorem NamesInner.putNamed {name other : String} {value : Value} (h : NamesInner name named)
    (hvalue : other = name -> value.isInnerFunction = true) :
    NamesInner name (Interpolation.putNamed named other value) := by
  intro found hfound
  unfold Interpolation.putNamed at hfound
  split at hfound
  · rcases List.mem_map.1 hfound with ⟨entry, hentry, heq⟩
    split at heq
    · cases heq
      exact hvalue rfl
    · subst heq
      exact h found hentry
  · rcases List.mem_append.1 hfound with hfound | hfound
    · exact h found hfound
    · cases List.mem_singleton.1 hfound
      exact hvalue rfl

theorem evaluateNamed_namesInner {name : String}
    (h : forall e, (name, e) ∈ kwargs -> e.isInnerRef = true) {start : List (String × Value)}
    (hstart : NamesInner name start)
    (hnamed : evaluateNamed callers frame start kwargs = .ok named) : NamesInner name named := by
  induction kwargs generalizing start with
  | nil =>
      cases hnamed
      exact hstart
  | cons entry rest ih =>
      rw [evaluateNamed] at hnamed
      rcases bind_eq_ok_iff.1 hnamed with ⟨value, hvalue, hnamed⟩
      apply ih (fun e he => h e (List.mem_cons_of_mem _ he)) (hstart.putNamed ?_) hnamed
      rintro rfl
      exact evaluate_isInnerFunction (h entry.2 List.mem_cons_self) hvalue

theorem staysInside_of_inward (h : isOutwardCall f args kwargs = false)
    (hvalues : evaluateAll callers frame args = .ok values)
    (hnamed : evaluateNamed callers frame [] kwargs = .ok named) :
    f.staysInside values named = true := by
  unfold isOutwardCall at h
  unfold Function.staysInside
  split at h
  · rw [Bool.not_eq_false', Bool.and_eq_true, List.all_eq_true] at h
    have hfn : NamesInner "fn" named :=
      evaluateNamed_namesInner (fun e he => by simpa using h.2 _ he)
        (fun _ hmem => by cases hmem) hnamed
    rw [Bool.and_eq_true, List.all_eq_true]
    refine ⟨evaluateAll_head h.1 hvalues, ?_⟩
    rintro ⟨name, value⟩ hentry
    by_cases hname : name = "fn"
    · rw [hfn value (hname ▸ hentry), Bool.or_true]
    · simp [hname]
  · simpa using h

theorem outward_of_not_staysInside (hvalues : evaluateAll callers frame args = .ok values)
    (hnamed : evaluateNamed callers frame [] kwargs = .ok named)
    (h : f.staysInside values named ≠ true) : isOutwardCall f args kwargs = true := by
  cases houtward : isOutwardCall f args kwargs with
  | true => rfl
  | false => exact absurd (staysInside_of_inward houtward hvalues hnamed) h

end Calls

/-!
# Calls
-/

theorem render?_harmless (value : Value) :
    Ends (fun f => f = .tooManyDigits) (fun _ => True) value.render? := by
  unfold Value.render?
  split
  · trivial
  · rfl

section Evaluation

variable {exits : Prop}

theorem checkedCall_harmless (callers : CallerFunctions) (name : String) {f : Function}
    {values : List Value} {named : List (String × Value)}
    (hexits : f.staysInside values named ≠ true -> exits) :
    Ends (Failure.IsHarmless exits) (fun _ => True) (checkedCall callers name f values named) := by
  unfold checkedCall
  split
  · rename_i fault _
    have hshown := Ends.mapM fun value (_ : value ∈ values) => render?_harmless value
    cases hs : values.mapM Value.render? with
    | error g =>
        rw [hs] at hshown
        exact hshown
    | ok shown => trivial
  · rename_i hfault
    cases h : f.apply callers values named with
    | ok value => trivial
    | error failure =>
        cases failure with
        | user e => trivial
        | fault g =>
            cases g with
            | raised g => exact absurd h (hfault g)
            | exit =>
                apply hexits
                intro hinside
                exact (Function.apply_neverExits callers hinside).bad_of_eq h rfl

theorem elementCall_harmless (callers : CallerFunctions) (name : String) {f : Function}
    {values : List Value} {named : List (String × Value)}
    (hexits : f.staysInside values named ≠ true -> exits) :
    Ends (Failure.IsHarmless exits) (fun _ => True) (elementCall callers name f values named) := by
  unfold elementCall
  split
  · trivial
  · exact checkedCall_harmless callers name hexits

/-!
# Rows and branches
-/

theorem rowCount_harmless (values : List Value) :
    Ends (Failure.IsHarmless exits) (fun _ => True) (rowCount values) := by
  unfold rowCount
  split <;> trivial

theorem overRows_harmless {name : String} {values : List Value} {row : Nat -> Outcome Value}
    (h : forall i, Ends (Failure.IsHarmless exits) (fun _ => True) (row i)) :
    Ends (Failure.IsHarmless exits) (fun _ => True) (overRows name values row) := by
  unfold overRows
  apply Ends.bind (rowCount_harmless values)
  intro count _
  split
  · exact Ends.map (h 0) fun _ _ => trivial
  · exact Ends.map (Ends.mapM fun i _ => h i) fun _ _ => trivial

theorem checkBranches_harmless (label : String) (branches : List Value) :
    Ends (Failure.IsHarmless exits) (fun _ => True) (checkBranches label branches) := by
  unfold checkBranches
  dsimp only
  split <;> trivial

/-!
# Expressions
-/

theorem column?_harmless {frame : Frame} {name : String}
    (h : name ∈ frame.columns.map Prod.fst) :
    Ends (Failure.IsHarmless exits) (fun _ => True) (frame.column? name) := by
  unfold Frame.column?
  split
  · trivial
  · rename_i hnone
    rcases List.mem_map.1 h with ⟨column, hcolumn, rfl⟩
    rw [List.lookup_eq_none_iff] at hnone
    have hne := hnone column hcolumn
    simp at hne

mutual

/-- Where the columns that it mentions are there, an expression fails with user errors only, unless
a call from it ends the program. -/
theorem evaluate_harmless (callers : CallerFunctions) (frame : Frame) :
    forall e : Expr, e.Within (frame.columns.map Prod.fst) -> (e.callsOut = true -> exits) ->
      Ends (Failure.IsHarmless exits) (fun _ => True) (evaluate callers frame e)
  | column name, h, _ => by
      rw [evaluate]
      exact column?_harmless (h name (by simp [mentions]))
  | literal value, _, _ => trivial
  | values items, h, hexits => by
      rw [Within, mentions] at h
      rw [callsOut] at hexits
      rw [evaluate]
      exact Ends.map (evaluateAll_harmless callers frame items h hexits) fun _ _ => trivial
  | functionRef name f, _, _ => trivial
  | broadcast name f args kwargs, h, hexits => by
      rw [Within, mentions] at h
      simp only [callsOut, Bool.or_eq_true] at hexits
      rw [evaluate]
      apply Ends.bind (evaluateAll_harmless callers frame args (fun name hname =>
        h name (List.mem_append_left _ hname)) fun hout => hexits (.inl (.inr hout))).known
      intro values hvalues
      apply Ends.bind (evaluateNamed_harmless callers frame kwargs (fun name hname =>
        h name (List.mem_append_right _ hname)) (fun hout => hexits (.inr hout)) []).known
      intro named hnamed
      apply overRows_harmless
      intro i
      apply elementCall_harmless
      intro hstays
      apply hexits (.inl (.inl (outward_of_not_staysInside hvalues hnamed _)))
      exact fun hinside => hstays (staysInside_atRow hinside i)
  | apply name f args kwargs, h, hexits => by
      rw [Within, mentions] at h
      simp only [callsOut, Bool.or_eq_true] at hexits
      rw [evaluate]
      apply Ends.bind (evaluateAll_harmless callers frame args (fun name hname =>
        h name (List.mem_append_left _ hname)) fun hout => hexits (.inl (.inr hout))).known
      intro values hvalues
      apply Ends.bind (evaluateNamed_harmless callers frame kwargs (fun name hname =>
        h name (List.mem_append_right _ hname)) (fun hout => hexits (.inr hout)) []).known
      intro named hnamed
      refine Ends.bind_any (checkedCall_harmless callers name ?_) fun _ => trivial
      exact fun hstays => hexits (.inl (.inl (outward_of_not_staysInside hvalues hnamed hstays)))
  | groupSize, _, _ => trivial
  | first inner, h, hexits => by
      rw [Within, mentions] at h
      rw [callsOut] at hexits
      rw [evaluate]
      exact Ends.map (evaluate_harmless callers frame inner h hexits) fun _ _ => trivial
  | ifElse condition yes no miss, h, hexits => by
      rw [Within, mentions] at h
      rw [callsOut] at hexits
      rw [evaluate]
      apply Ends.bind (evaluate_harmless callers frame condition (fun name hname =>
        h name (by simp [hname])) fun hout => hexits (by simp [hout]))
      intro c _
      apply Ends.bind (evaluate_harmless callers frame yes (fun name hname =>
        h name (by simp [hname])) fun hout => hexits (by simp [hout]))
      intro y _
      apply Ends.bind (evaluate_harmless callers frame no (fun name hname =>
        h name (by simp [hname])) fun hout => hexits (by simp [hout]))
      intro n _
      apply Ends.bind (evaluate_harmless callers frame miss (fun name hname =>
        h name (by simp [hname])) fun hout => hexits (by simp [hout]))
      intro m _
      apply Ends.bind (checkBranches_harmless "if_else" [y, n, m])
      intro _ _
      exact overRows_harmless fun i => trivial
  | caseWhen clauses none, h, hexits => by
      rw [Within, mentions] at h
      rw [callsOut] at hexits
      rw [evaluate]
      apply Ends.bind (evaluateFirsts_harmless callers frame clauses h hexits)
      intro conditions _
      apply Ends.bind (evaluateSeconds_harmless callers frame clauses h hexits)
      intro results _
      apply Ends.bind (checkBranches_harmless "case_when" _)
      intro _ _
      exact overRows_harmless fun i => trivial
  | caseWhen clauses (some otherwise), h, hexits => by
      rw [Within, mentions] at h
      rw [callsOut] at hexits
      have hclauses : forall name, name ∈ mentionsClauses clauses -> name ∈ _ :=
        fun name hname => h name (List.mem_append_left _ hname)
      have hout : anyClauseCallsOut clauses = true -> exits := fun hout => hexits (by simp [hout])
      rw [evaluate]
      apply Ends.bind (evaluateFirsts_harmless callers frame clauses hclauses hout)
      intro conditions _
      apply Ends.bind (evaluateSeconds_harmless callers frame clauses hclauses hout)
      intro results _
      apply Ends.bind (evaluate_harmless callers frame otherwise (fun name hname =>
        h name (List.mem_append_right _ hname)) fun hout => hexits (by simp [hout]))
      intro fallback _
      apply Ends.bind (checkBranches_harmless "case_when" _)
      intro _ _
      exact overRows_harmless fun i => trivial

theorem evaluateAll_harmless (callers : CallerFunctions) (frame : Frame) :
    forall items : List Expr,
      (forall name, name ∈ mentionsAll items -> name ∈ frame.columns.map Prod.fst) ->
      (anyCallsOut items = true -> exits) ->
      Ends (Failure.IsHarmless exits) (fun _ => True) (evaluateAll callers frame items)
  | [], _, _ => trivial
  | e :: rest, h, hexits => by
      rw [mentionsAll] at h
      rw [anyCallsOut] at hexits
      rw [evaluateAll]
      apply Ends.bind (evaluate_harmless callers frame e (fun name hname =>
        h name (List.mem_append_left _ hname)) fun hout => hexits (by simp [hout]))
      intro value _
      apply Ends.bind (evaluateAll_harmless callers frame rest (fun name hname =>
        h name (List.mem_append_right _ hname)) fun hout => hexits (by simp [hout]))
      intro others _
      trivial

theorem evaluateNamed_harmless (callers : CallerFunctions) (frame : Frame) :
    forall items : List (String × Expr),
      (forall name, name ∈ mentionsNamed items -> name ∈ frame.columns.map Prod.fst) ->
      (anyNamedCallsOut items = true -> exits) ->
      forall named : List (String × Value),
        Ends (Failure.IsHarmless exits) (fun _ => True) (evaluateNamed callers frame named items)
  | [], _, _, _ => trivial
  | (name, e) :: rest, h, hexits, named => by
      rw [mentionsNamed] at h
      rw [anyNamedCallsOut] at hexits
      rw [evaluateNamed]
      apply Ends.bind (evaluate_harmless callers frame e (fun name hname =>
        h name (List.mem_append_left _ hname)) fun hout => hexits (by simp [hout]))
      intro value _
      exact evaluateNamed_harmless callers frame rest
        (fun name hname => h name (List.mem_append_right _ hname))
        (fun hout => hexits (by simp [hout])) _

theorem evaluateFirsts_harmless (callers : CallerFunctions) (frame : Frame) :
    forall items : List (Expr × Expr),
      (forall name, name ∈ mentionsClauses items -> name ∈ frame.columns.map Prod.fst) ->
      (anyClauseCallsOut items = true -> exits) ->
      Ends (Failure.IsHarmless exits) (fun _ => True) (evaluateFirsts callers frame items)
  | [], _, _ => trivial
  | (e, other) :: rest, h, hexits => by
      rw [mentionsClauses] at h
      rw [anyClauseCallsOut] at hexits
      rw [evaluateFirsts]
      apply Ends.bind (evaluate_harmless callers frame e (fun name hname =>
        h name (by simp [hname])) fun hout => hexits (by simp [hout]))
      intro value _
      apply Ends.bind (evaluateFirsts_harmless callers frame rest (fun name hname =>
        h name (by simp [hname])) fun hout => hexits (by simp [hout]))
      intro others _
      trivial

theorem evaluateSeconds_harmless (callers : CallerFunctions) (frame : Frame) :
    forall items : List (Expr × Expr),
      (forall name, name ∈ mentionsClauses items -> name ∈ frame.columns.map Prod.fst) ->
      (anyClauseCallsOut items = true -> exits) ->
      Ends (Failure.IsHarmless exits) (fun _ => True) (evaluateSeconds callers frame items)
  | [], _, _ => trivial
  | (other, e) :: rest, h, hexits => by
      rw [mentionsClauses] at h
      rw [anyClauseCallsOut] at hexits
      rw [evaluateSeconds]
      apply Ends.bind (evaluate_harmless callers frame e (fun name hname =>
        h name (by simp [hname])) fun hout => hexits (by simp [hout]))
      intro value _
      apply Ends.bind (evaluateSeconds_harmless callers frame rest (fun name hname =>
        h name (by simp [hname])) fun hout => hexits (by simp [hout]))
      intro others _
      trivial

end

end Evaluation

end Expr

/-!
# Evaluation reads what is mentioned

An expression has the same outcome on two frames of equally many rows that have the
same columns under the names that it mentions.
-/

structure Frame.SameOn (names : List String) (left right : Frame) : Prop where
  nrows : left.nrows = right.nrows
  columns : forall name, name ∈ names -> left.column? name = right.column? name

theorem Frame.SameOn.sub {names some : List String} {left right : Frame}
    (h : left.SameOn names right) (hsome : forall name, name ∈ some -> name ∈ names) :
    left.SameOn some right where
  nrows := h.nrows
  columns := fun name hname => h.columns name (hsome name hname)

namespace Expr

variable {callers : CallerFunctions} {left right : Frame}

mutual

theorem evaluate_congr :
    forall e : Expr, left.SameOn e.mentions right ->
      evaluate callers left e = evaluate callers right e
  | column name, h => by
      rw [evaluate, evaluate]
      exact h.columns name (by simp [mentions])
  | literal value, _ => by
      rw [evaluate, evaluate]
  | values items, h => by
      rw [mentions] at h
      rw [evaluate, evaluate, evaluateAll_congr items h]
  | functionRef name f, _ => by
      rw [evaluate, evaluate]
  | broadcast name f args kwargs, h => by
      rw [mentions] at h
      rw [evaluate, evaluate, evaluateAll_congr args (h.sub fun name hn => by simp [hn]),
        evaluateNamed_congr kwargs (h.sub fun name hn => by simp [hn])]
  | apply name f args kwargs, h => by
      rw [mentions] at h
      rw [evaluate, evaluate, evaluateAll_congr args (h.sub fun name hn => by simp [hn]),
        evaluateNamed_congr kwargs (h.sub fun name hn => by simp [hn])]
  | groupSize, h => by
      rw [evaluate, evaluate, h.nrows]
  | first inner, h => by
      rw [mentions] at h
      rw [evaluate, evaluate, evaluate_congr inner h]
  | ifElse condition yes no miss, h => by
      rw [mentions] at h
      rw [evaluate, evaluate, evaluate_congr condition (h.sub fun name hn => by simp [hn]),
        evaluate_congr yes (h.sub fun name hn => by simp [hn]),
        evaluate_congr no (h.sub fun name hn => by simp [hn]),
        evaluate_congr miss (h.sub fun name hn => by simp [hn])]
  | caseWhen clauses none, h => by
      rw [mentions] at h
      rw [evaluate, evaluate, evaluateFirsts_congr clauses h, evaluateSeconds_congr clauses h]
  | caseWhen clauses (some otherwise), h => by
      rw [mentions] at h
      have hclauses : left.SameOn (mentionsClauses clauses) right :=
        h.sub fun name hn => by simp [hn]
      rw [evaluate, evaluate, evaluateFirsts_congr clauses hclauses,
        evaluateSeconds_congr clauses hclauses]
      dsimp only
      rw [evaluate_congr otherwise (h.sub fun name hn => by simp [hn])]

theorem evaluateAll_congr :
    forall items : List Expr, left.SameOn (mentionsAll items) right ->
      evaluateAll callers left items = evaluateAll callers right items
  | [], _ => by
      rw [evaluateAll, evaluateAll]
  | e :: rest, h => by
      rw [mentionsAll] at h
      rw [evaluateAll, evaluateAll, evaluate_congr e (h.sub fun name hn => by simp [hn]),
        evaluateAll_congr rest (h.sub fun name hn => by simp [hn])]

theorem evaluateNamed_congr :
    forall items : List (String × Expr), left.SameOn (mentionsNamed items) right ->
      forall named : List (String × Value),
        evaluateNamed callers left named items = evaluateNamed callers right named items
  | [], _, named => by
      rw [evaluateNamed, evaluateNamed]
  | (name, e) :: rest, h, named => by
      rw [mentionsNamed] at h
      rw [evaluateNamed, evaluateNamed, evaluate_congr e (h.sub fun name hn => by simp [hn])]
      congr 1
      funext value
      exact evaluateNamed_congr rest (h.sub fun name hn => by simp [hn]) _

theorem evaluateFirsts_congr :
    forall items : List (Expr × Expr), left.SameOn (mentionsClauses items) right ->
      evaluateFirsts callers left items = evaluateFirsts callers right items
  | [], _ => by
      rw [evaluateFirsts, evaluateFirsts]
  | (e, other) :: rest, h => by
      rw [mentionsClauses] at h
      rw [evaluateFirsts, evaluateFirsts, evaluate_congr e (h.sub fun name hn => by simp [hn]),
        evaluateFirsts_congr rest (h.sub fun name hn => by simp [hn])]

theorem evaluateSeconds_congr :
    forall items : List (Expr × Expr), left.SameOn (mentionsClauses items) right ->
      evaluateSeconds callers left items = evaluateSeconds callers right items
  | [], _ => by
      rw [evaluateSeconds, evaluateSeconds]
  | (other, e) :: rest, h => by
      rw [mentionsClauses] at h
      rw [evaluateSeconds, evaluateSeconds, evaluate_congr e (h.sub fun name hn => by simp [hn]),
        evaluateSeconds_congr rest (h.sub fun name hn => by simp [hn])]

end

end Expr

/-!
# User errors of expressions

An expression does not know the fragment that it comes from.  When its evaluation
fails, the user error names no fragment, or a function of the caller has raised it.
-/

namespace Expr

variable {callers : CallerFunctions}

/-!
# Calls
-/

theorem checkedCall_raises (name : String) (f : Function) (values : List Value)
    (named : List (String × Value)) :
    RaisesUnplaced callers (checkedCall callers name f values named) := by
  have happly : RaisesOnly callers.Raise (f.apply callers values named) :=
    f.apply_raisesOnly callers values named
  unfold checkedCall
  split
  · apply (raisesOnly_ofFault _).bind_any
    intro shown
    exact Or.inl rfl
  · exact happly.imp (fun _ hfailure => hfailure.imp fun _ he => Or.inr he) fun _ _ => trivial

theorem elementCall_raises (name : String) (f : Function) (values : List Value)
    (named : List (String × Value)) :
    RaisesUnplaced callers (elementCall callers name f values named) := by
  unfold elementCall
  split
  · trivial
  · exact checkedCall_raises name f values named

/-!
# Rows and branches
-/

theorem rowCount_raises (values : List Value) : RaisesUnplaced callers (rowCount values) := by
  unfold rowCount
  split
  · trivial
  · trivial
  · exact Or.inl rfl

theorem overRows_raises {name : String} {values : List Value} {row : Nat -> Outcome Value}
    (h : forall i, RaisesUnplaced callers (row i)) :
    RaisesUnplaced callers (overRows name values row) := by
  unfold overRows
  apply (rowCount_raises values).bind_any
  intro count
  split
  · exact (h 0).map_any fun _ => trivial
  · exact (Ends.mapM_any fun i _ => h i).map_any fun _ => trivial

theorem checkBranches_raises (label : String) (branches : List Value) :
    RaisesUnplaced callers (checkBranches label branches) := by
  unfold checkBranches
  dsimp only
  split
  · exact Or.inl rfl
  · trivial

/-!
# Expressions
-/

theorem column?_raises (frame : Frame) (name : String) :
    RaisesUnplaced callers (frame.column? name) := by
  unfold Frame.column?
  split <;> trivial

mutual

/-- User errors of an expression name no fragment unless a function of the caller does. -/
theorem evaluate_raises (frame : Frame) :
    forall e : Expr, RaisesUnplaced callers (evaluate callers frame e)
  | column name => by
      rw [evaluate]
      exact column?_raises frame name
  | literal value => trivial
  | values items => by
      rw [evaluate]
      exact (evaluateAll_raises frame items).map_any fun _ => trivial
  | functionRef name f => trivial
  | broadcast name f args kwargs => by
      rw [evaluate]
      apply (evaluateAll_raises frame args).bind_any
      intro values
      apply (evaluateNamed_raises frame kwargs []).bind_any
      intro named
      exact overRows_raises fun i => elementCall_raises name f _ _
  | apply name f args kwargs => by
      rw [evaluate]
      apply (evaluateAll_raises frame args).bind_any
      intro values
      apply (evaluateNamed_raises frame kwargs []).bind_any
      intro named
      exact (checkedCall_raises name f values named).bind_any fun _ => trivial
  | groupSize => trivial
  | first inner => by
      rw [evaluate]
      exact (evaluate_raises frame inner).map_any fun _ => trivial
  | ifElse condition yes no miss => by
      rw [evaluate]
      apply (evaluate_raises frame condition).bind_any
      intro c
      apply (evaluate_raises frame yes).bind_any
      intro y
      apply (evaluate_raises frame no).bind_any
      intro n
      apply (evaluate_raises frame miss).bind_any
      intro m
      apply (checkBranches_raises "if_else" [y, n, m]).bind_any
      intro checked
      exact overRows_raises fun i => trivial
  | caseWhen clauses none => by
      rw [evaluate]
      apply (evaluateFirsts_raises frame clauses).bind_any
      intro conditions
      apply (evaluateSeconds_raises frame clauses).bind_any
      intro results
      apply (checkBranches_raises "case_when" _).bind_any
      intro checked
      exact overRows_raises fun i => trivial
  | caseWhen clauses (some otherwise) => by
      rw [evaluate]
      apply (evaluateFirsts_raises frame clauses).bind_any
      intro conditions
      apply (evaluateSeconds_raises frame clauses).bind_any
      intro results
      apply (evaluate_raises frame otherwise).bind_any
      intro fallback
      apply (checkBranches_raises "case_when" _).bind_any
      intro checked
      exact overRows_raises fun i => trivial

theorem evaluateAll_raises (frame : Frame) :
    forall items : List Expr, RaisesUnplaced callers (evaluateAll callers frame items)
  | [] => trivial
  | e :: rest => by
      rw [evaluateAll]
      apply (evaluate_raises frame e).bind_any
      intro value
      exact (evaluateAll_raises frame rest).bind_any fun _ => trivial

theorem evaluateNamed_raises (frame : Frame) :
    forall (items : List (String × Expr)) (named : List (String × Value)),
      RaisesUnplaced callers (evaluateNamed callers frame named items)
  | [], _ => trivial
  | (name, e) :: rest, named => by
      rw [evaluateNamed]
      apply (evaluate_raises frame e).bind_any
      intro value
      exact evaluateNamed_raises frame rest _

theorem evaluateFirsts_raises (frame : Frame) :
    forall items : List (Expr × Expr), RaisesUnplaced callers (evaluateFirsts callers frame items)
  | [] => trivial
  | (e, other) :: rest => by
      rw [evaluateFirsts]
      apply (evaluate_raises frame e).bind_any
      intro value
      exact (evaluateFirsts_raises frame rest).bind_any fun _ => trivial

theorem evaluateSeconds_raises (frame : Frame) :
    forall items : List (Expr × Expr), RaisesUnplaced callers (evaluateSeconds callers frame items)
  | [] => trivial
  | (other, e) :: rest => by
      rw [evaluateSeconds]
      apply (evaluate_raises frame e).bind_any
      intro value
      exact (evaluateSeconds_raises frame rest).bind_any fun _ => trivial

end

end Expr
end Wrangle
