import Wrangle.Compile.Expression
import Wrangle.Proofs.Dataset.Columns
import Wrangle.Proofs.Expr.ElementWise
import Wrangle.Proofs.Function.Statistics

/-!
# Scalar expressions

A scalar expression is built with operators from literals, the number of rows and
reduced columns.  It has one value for a dataset, and this value comes out of two
expressions of which one applies all operators row by row and the other one applies
the outermost operator once.  Only the operators that are applied row by row pass
over missing operands.
-/

namespace Wrangle

open Dataset Value Interpolation

inductive Scalar where
  | literal (value : Value)
  | size
  | reduced (reducer : Reducer) (column : String)
  | unary (op : UnaryOperator) (operand : Scalar)
  | binary (op : BinaryOperator) (left right : Scalar)
  | span (start stop : Scalar)

/-!
# Symbols
-/

def UnaryOperator.symbol : UnaryOperator -> String
  | negate => "-"
  | invert => "!"

def BinaryOperator.symbol : BinaryOperator -> String
  | add => "+"
  | subtract => "-"
  | multiply => "*"
  | divide => "/"
  | modulo => "%"
  | power => "^"
  | equal => "=="
  | notEqual => "!="
  | less => "<"
  | lessEqual => "<="
  | greater => ">"
  | greaterEqual => ">="
  | conjunction => "&"
  | disjunction => "|"
  | membership => "in"

theorem UnaryOperator.ofSymbol?_symbol (op : UnaryOperator) : ofSymbol? op.symbol = some op := by
  cases op <;> rfl

theorem BinaryOperator.ofSymbol?_symbol (op : BinaryOperator) :
    ofSymbol? op.symbol = some op := by
  cases op <;> rfl

/-!
# Operators that pass over missing operands
-/

def UnaryOperator.combine (op : UnaryOperator) (a : Value) : Except Fault Value :=
  if a.isMissing then .ok .missing else op.apply a

def BinaryOperator.combine (op : BinaryOperator) (a b : Value) : Except Fault Value :=
  if !op.handlesMissing && (a.isMissing || b.isMissing) then .ok .missing else op.apply a b

section Combine

variable {asking : Prop} {a a' b b' : Value}

theorem UnaryOperator.combine_congr (op : UnaryOperator)
    (h : a.withoutOrigin = a'.withoutOrigin) : op.combine a = op.combine a' := by
  rw [combine, combine, isMissing_congr h, op.apply_congr h]

theorem BinaryOperator.combine_congr (op : BinaryOperator)
    (ha : a.withoutOrigin = a'.withoutOrigin) (hb : b.withoutOrigin = b'.withoutOrigin)
    (h : op.asksMembers = true -> b.MembersDefined) : op.combine a b = op.combine a' b' := by
  rw [combine, combine, isMissing_congr ha, isMissing_congr hb, op.apply_congr ha hb h]

theorem UnaryOperator.combine_firm (op : UnaryOperator) (a : Value) :
    Ends (fun _ => True) (IsFirm asking) (op.combine a) := by
  unfold combine
  split
  · exact isFirm_missing
  · exact (op.apply_atom a).weaken fun _ => isFirm_of_isAtom

theorem BinaryOperator.combine_firm (op : BinaryOperator) (ha : a.IsFirm asking)
    (hb : b.IsFirm asking) : Ends (fun _ => True) (IsFirm asking) (op.combine a b) := by
  unfold combine
  split
  · exact isFirm_missing
  · exact op.apply_firm ha hb

end Combine

/-!
# Expressions and values
-/

namespace Scalar

/-- An operator that is applied row by row, unless it is the outermost one of a summary. -/
def operation (mode : Mode) (top : Bool) (symbol : String) (f : Function) (args : List Expr) :
    Expr :=
  if mode == .aggregate && top then .apply symbol f args [] else .broadcast symbol f args []

/-- What a scalar compiles to. -/
def expr (mode : Mode) (top : Bool) : Scalar -> Expr
  | literal value => .literal value
  | size => if mode == .aggregate then .groupSize else .column countColumn
  | reduced reducer name =>
      .apply reducer.name (.library reducer.function) [.column name] []
  | unary op a => operation mode top op.symbol (.unary op) [expr mode false a]
  | binary op a b =>
      operation mode top op.symbol (.binary op) [expr mode false a, expr mode false b]
  | span a b => .apply ":" .span [expr mode false a, expr mode false b] []

/-- The value that a scalar has for a dataset; a missing operand makes it missing. -/
def value (data : Dataset) : Scalar -> Except Fault Value
  | literal value => .ok value
  | size => .ok (.int (Int.ofNat data.nrows))
  | reduced reducer name =>
      let cells := data.firstColumn name
      (reducer.value cells).map (Value.settled reducer.name [.column cells])
  | unary op a => do
      let x <- value data a
      op.combine x
  | binary op a b => do
      let x <- value data a
      let y <- value data b
      op.combine x y
  | span a b => do
      let x <- value data a
      let y <- value data b
      Function.applySpan [x, y]

/-- A scalar whose literals can be written and whose columns are there. -/
def Fits (data : Dataset) : Scalar -> Prop
  | literal value => isScalar value = true
  | size => True
  | reduced _ name => name ∈ data.header
  | unary _ a => Fits data a
  | binary _ a b => Fits data a ∧ Fits data b
  | span a b => Fits data a ∧ Fits data b

def counts : Scalar -> Bool
  | literal _ => false
  | size => true
  | reduced _ _ => false
  | unary _ a => counts a
  | binary _ a b => counts a || counts b
  | span a b => counts a || counts b

def asksMembers : Scalar -> Bool
  | literal _ => false
  | size => false
  | reduced _ _ => false
  | unary _ a => asksMembers a
  | binary op a b => op.asksMembers || asksMembers a || asksMembers b
  | span a b => asksMembers a || asksMembers b

def HasOperands (data : Dataset) : Scalar -> Prop
  | unary _ a => value data a ≠ .ok .missing
  | binary op a b =>
      op.handlesMissing = true ∨ (value data a ≠ .ok .missing ∧ value data b ≠ .ok .missing)
  | _ => True

end Scalar

/-!
# Calls
-/

namespace Expr

variable {callers : CallerFunctions} {frame : Frame}

theorem checkedCall_eq_ok_iff {name : String} {f : Function} {values : List Value}
    {named : List (String × Value)} {value : Value} :
    checkedCall callers name f values named = .ok value <->
      f.apply callers values named = .ok value := by
  unfold checkedCall
  split
  · rename_i fault hfault
    rw [hfault]
    constructor
    · intro h
      rcases bind_eq_ok_iff.1 h with ⟨shown, _, h⟩
      cases h
    · intro h
      cases h
  · rfl

theorem elementCall_unary {op : UnaryOperator} {a value : Value} :
    elementCall callers op.symbol (.unary op) [a] [] = .ok value <-> op.combine a = .ok value := by
  have hmissing : ([a].any isMissing || ([] : List (String × Value)).any
      fun entry => entry.2.isMissing) = a.isMissing := by
    simp
  rw [elementCall, hmissing, UnaryOperator.combine]
  show (if a.isMissing = true then _ else _) = _ <-> _
  split
  · constructor <;> exact fun h => by cases h; rfl
  · rw [checkedCall_eq_ok_iff]
    exact ofFault_eq_ok_iff

theorem elementCall_binary {op : BinaryOperator} {a b value : Value} :
    elementCall callers op.symbol (.binary op) [a, b] [] = .ok value <->
      op.combine a b = .ok value := by
  have hmissing : ([a, b].any isMissing || ([] : List (String × Value)).any
      fun entry => entry.2.isMissing) = (a.isMissing || b.isMissing) := by
    simp
  rw [elementCall, hmissing, BinaryOperator.combine]
  show (if (!op.handlesMissing && (a.isMissing || b.isMissing)) = true then _ else _) = _ <-> _
  split
  · constructor <;> exact fun h => by cases h; rfl
  · rw [checkedCall_eq_ok_iff]
    exact ofFault_eq_ok_iff

end Expr

/-!
# Rows that are alike
-/

namespace Value

/-- A result of evaluation that stands for a value, up to the origin of an undefined number: the
value itself, or a column that repeats it. -/
def Renders (asking : Prop) (n : Nat) (value result : Value) : Prop :=
  exists w, w.IsFirm asking ∧ w.withoutOrigin = value.withoutOrigin ∧
    (result = w ∨ result = .column (List.replicate n w))

def Repeats (n : Nat) (w result : Value) : Prop :=
  w.isBare = true ∧ (result = w ∨ result = .column (List.replicate n w))

variable {asking : Prop} {n : Nat} {w result : Value}

theorem Repeats.fits (h : Repeats n w result) : result.Fits n := by
  rcases h with ⟨hbare, rfl | rfl⟩
  · exact Or.inr hbare
  · exact Or.inl ⟨_, rfl, List.length_replicate⟩

theorem Repeats.atRow (h : Repeats n w result) {i : Nat} (hi : i < n) :
    Expr.atRow i result = w := by
  rcases h with ⟨hbare, rfl | rfl⟩
  · exact Expr.atRow_bare hbare i
  · rw [Expr.atRow, List.getElem?_replicate, if_pos hi]
    rfl

theorem renders_self (h : w.IsFirm asking) : Renders asking n w w :=
  ⟨w, h, rfl, Or.inl rfl⟩

theorem renders_column (h : w.IsFirm asking) : Renders asking n w (.column (List.replicate n w)) :=
  ⟨w, h, rfl, Or.inr rfl⟩

theorem renders_settled (h : w.IsFirm asking) (name : String) (sources : List Value) :
    Renders asking n w (w.settled name sources) :=
  ⟨_, h.settle name sources, h.withoutOrigin_settled name sources, Or.inl rfl⟩

theorem renders_repeated (h : w.IsFirm asking) (single : Bool) (name : String)
    (sources : List Value) : Renders asking n w
      (if single then w.settled name sources else .column (List.replicate n w)) := by
  split
  · exact renders_settled h name sources
  · exact ⟨w, h, rfl, Or.inr rfl⟩

end Value

namespace Expr

variable {callers : CallerFunctions} {frame : Frame} {n : Nat}

theorem mapM_range_const {row : Nat -> Outcome Value} {x : Outcome Value} (hn : 0 < n)
    (h : forall i, i < n -> row i = x) :
    (List.range n).mapM row = x.map (List.replicate n) := by
  cases x with
  | error failure =>
      rcases Nat.exists_eq_succ_of_ne_zero (Nat.ne_of_gt hn) with ⟨m, rfl⟩
      rw [List.range_succ_eq_map, List.mapM_cons, h 0 hn]
      rfl
  | ok w =>
      have hall : (List.range n).mapM row = .ok ((List.range n).map fun _ => w) :=
        mapM_eq_ok fun i hi => h i (List.mem_range.1 hi)
      rw [hall, List.map_const', List.length_range]
      rfl

theorem overRows_const {name : String} {values : List Value} {row : Nat -> Outcome Value}
    {x : Outcome Value} (hn : 0 < n) (hfits : forall value, value ∈ values -> value.Fits n)
    (h : forall i, i < n -> row i = x) :
    overRows name values row = x.map fun w =>
      if areBare values then w.settled name values else .column (List.replicate n w) := by
  rcases allBare_or_column hfits with hbare | ⟨items, hitems⟩
  · rw [areBare_iff.2 hbare, overRows, rowCount_of_bare hbare, ok_bind, h 0 hn]
    rfl
  · have hnot : ¬areBare values = true := fun hbare => by cases areBare_iff.1 hbare _ hitems
    rw [overRows, rowCount_of_column hfits hitems, ok_bind]
    simp only [mapM_range_const hn h, if_neg hnot]
    cases x with
    | error failure => rfl
    | ok w => rfl

theorem evaluate_broadcast {name : String} {f : Function} {args : List Expr}
    {values ws : List Value} (hargs : evaluateAll callers frame args = .ok values) (hn : 0 < n)
    (h : List.Forall₂ (Repeats n) ws values) :
    evaluate callers frame (.broadcast name f args []) =
      (elementCall callers name f ws []).map fun w =>
        if areBare values then w.settled name values else .column (List.replicate n w) := by
  have hfits : forall value, value ∈ values -> value.Fits n := by
    intro value hvalue
    clear hargs
    induction h with
    | nil => cases hvalue
    | cons hfirst _ ih =>
        rcases List.mem_cons.1 hvalue with rfl | hvalue
        · exact hfirst.fits
        · exact ih hvalue
  have hrows : forall i, i < n -> values.map (atRow i) = ws := by
    intro i hi
    clear hargs hfits
    induction h with
    | nil => rfl
    | cons hfirst _ ih => rw [List.map_cons, hfirst.atRow hi, ih]
  rw [evaluate, hargs, ok_bind, evaluateNamed, ok_bind]
  simp only [List.map_nil, List.append_nil]
  apply overRows_const hn hfits
  intro i hi
  rw [hrows i hi]

theorem evaluate_apply {name : String} {f : Function} {args : List Expr} {values : List Value}
    (hargs : evaluateAll callers frame args = .ok values)
    (haligned : f.isRowAligned callers = false) {result : Value} :
    evaluate callers frame (.apply name f args []) = .ok result <->
      exists w, f.apply callers values [] = .ok w ∧ w.settled name values = result := by
  have hsettled : forall w, columnOrSettled false name values w = w.settled name values := by
    intro w
    cases w <;> rfl
  rw [evaluate, hargs, ok_bind, evaluateNamed, ok_bind, haligned]
  simp only [List.map_nil, List.append_nil, hsettled, bind_eq_ok_iff, checkedCall_eq_ok_iff,
    Except.ok.injEq]

theorem evaluateAll_single {e : Expr} {values : List Value} :
    evaluateAll callers frame [e] = .ok values <->
      exists a, evaluate callers frame e = .ok a ∧ values = [a] := by
  rw [evaluateAll, bind_eq_ok_iff]
  constructor
  · rintro ⟨a, ha, h⟩
    cases h
    exact ⟨a, ha, rfl⟩
  · rintro ⟨a, ha, rfl⟩
    exact ⟨a, ha, rfl⟩

theorem evaluateAll_pair {e e' : Expr} {values : List Value} :
    evaluateAll callers frame [e, e'] = .ok values <->
      exists a b, evaluate callers frame e = .ok a ∧ evaluate callers frame e' = .ok b ∧
        values = [a, b] := by
  rw [evaluateAll, bind_eq_ok_iff]
  simp only [bind_eq_ok_iff, evaluateAll_single, Except.ok.injEq]
  constructor
  · rintro ⟨a, ha, _, ⟨b, hb, rfl⟩, rfl⟩
    exact ⟨a, b, ha, hb, rfl⟩
  · rintro ⟨a, b, ha, hb, rfl⟩
    exact ⟨a, ha, [b], ⟨b, hb, rfl⟩, rfl⟩

end Expr

/-!
# The value of a scalar
-/

structure Frame.IsWhole (frame : Frame) (data : Dataset) : Prop where
  nrows : frame.nrows = data.nrows
  columns : forall name, name ∈ data.header ->
    frame.columns.lookup name = some (data.firstColumn name)

theorem Value.isFirm_of_isScalar {asking : Prop} {value : Value} (h : isScalar value = true) :
    value.IsFirm asking := by
  cases value with
  | missing => exact isFirm_missing
  | time t => exact ⟨⟨rfl, fun _ _ hitems => by cases hitems⟩, Or.inr rfl⟩
  | _ => first | exact isFirm_of_isAtom rfl | cases h

namespace Scalar

open Wrangle.Expr

variable {callers : CallerFunctions} {frame : Frame} {data : Dataset} {asking : Prop}

theorem evaluate_reduced (hframe : frame.IsWhole data) {reducer : Reducer} {name : String}
    (hname : name ∈ data.header) (mode : Mode) (top : Bool) {result : Value} :
    ((reduced reducer name).expr mode top).evaluate callers frame = .ok result <->
      (reduced reducer name).value data = .ok result := by
  have hcolumn : evaluateAll callers frame [.column name] =
      .ok [.column (data.firstColumn name)] := by
    rw [evaluateAll_single]
    refine ⟨_, ?_, rfl⟩
    rw [Expr.evaluate, Frame.column?, hframe.columns name hname]
  have haligned : (Function.library reducer.function).isRowAligned callers = false :=
    reducer.isRowAligned_function
  rw [expr, evaluate_apply hcolumn haligned, reducer.apply_eq, value, map_eq_ok_iff]
  simp only [ofFault_eq_ok_iff]

theorem firm_of_value_reduced {reducer : Reducer} {name : String}
    (hcells : Kept (IsClear asking) (data.firstColumn name)) {v : Value}
    (h : (reduced reducer name).value data = .ok v) : v.IsFirm asking := by
  rcases map_eq_ok_iff.1 h with ⟨found, hfound, rfl⟩
  have hclear := reducer.value_clear hcells
  rw [hfound] at hclear
  exact hclear.settle _ _

theorem spanBound_congr {a b : Value} (h : a.withoutOrigin = b.withoutOrigin) :
    Function.spanBound a = Function.spanBound b := by
  have hwithout : forall v : Value, Function.spanBound v.withoutOrigin = Function.spanBound v := by
    intro v
    cases v <;> rfl
  rw [← hwithout a, h, hwithout b]

theorem spanBound_of_renders {n : Nat} {v result : Value} (hn : 0 < n)
    (h : Renders asking n v result) {m : Int} (hbound : Function.spanBound result = .ok m) :
    Function.spanBound v = .ok m := by
  rcases h with ⟨w, hfirm, hsame, rfl | rfl⟩
  · rw [← spanBound_congr hsame, hbound]
  · rcases Nat.exists_eq_succ_of_ne_zero (Nat.ne_of_gt hn) with ⟨k, rfl⟩
    rw [← spanBound_congr hsame]
    cases w with
    | list items => cases hbound
    | column items => cases hfirm.bare
    | _ => exact hbound

theorem applySpan_of_renders {n : Nat} {va vb a b : Value} (hn : 0 < n) (ha : Renders asking n va a)
    (hb : Renders asking n vb b) {w : Value} (h : Function.applySpan [a, b] = .ok w) :
    Function.applySpan [va, vb] = .ok w := by
  rcases bind_eq_ok_iff.1 h with ⟨start, hstart, h⟩
  rcases bind_eq_ok_iff.1 h with ⟨stop, hstop, h⟩
  unfold Function.applySpan
  dsimp only
  rw [spanBound_of_renders hn ha hstart, ok_bind, spanBound_of_renders hn hb hstop]
  exact h

theorem applySpan_congr {a a' b b' : Value} (ha : a.withoutOrigin = a'.withoutOrigin)
    (hb : b.withoutOrigin = b'.withoutOrigin) :
    Function.applySpan [a, b] = Function.applySpan [a', b'] := by
  unfold Function.applySpan
  dsimp only
  rw [spanBound_congr ha, spanBound_congr hb]

theorem applySpan_firm (a b : Value) :
    Ends (fun _ => True) (IsFirm asking) (Function.applySpan [a, b]) := by
  apply (ends_any _).bind_any
  intro start
  apply (ends_any _).bind_any
  intro stop
  apply (ends_any _).bind_any
  intro numbers
  refine isFirm_of_made (Made.list ?_)
  intro member hmember
  rcases List.mem_map.1 hmember with ⟨n, _, rfl⟩
  exact ⟨rfl, rfl, fun _ => rfl⟩

/-- A scalar that fits a dataset and asks for members only where it may. -/
structure Suits (e : Scalar) (data : Dataset) (asking : Prop) : Prop where
  fits : e.Fits data
  asks : e.asksMembers = true -> asking

section Parts

variable {op : BinaryOperator} {a b : Scalar}

theorem Suits.of_binary (h : (binary op a b).Suits data asking) :
    (op.asksMembers = true -> asking) ∧ a.Suits data asking ∧ b.Suits data asking := by
  have hasks := h.asks
  rw [asksMembers, Bool.or_eq_true, Bool.or_eq_true] at hasks
  exact ⟨fun hop => hasks (Or.inl (Or.inl hop)),
    ⟨h.fits.1, fun ha => hasks (Or.inl (Or.inr ha))⟩, ⟨h.fits.2, fun hb => hasks (Or.inr hb)⟩⟩

theorem Suits.of_span (h : (span a b).Suits data asking) :
    a.Suits data asking ∧ b.Suits data asking := by
  have hasks := h.asks
  rw [asksMembers, Bool.or_eq_true] at hasks
  exact ⟨⟨h.fits.1, fun ha => hasks (Or.inl ha)⟩, ⟨h.fits.2, fun hb => hasks (Or.inr hb)⟩⟩

end Parts

theorem value_of_evaluate (hframe : frame.IsWhole data) (hrows : 0 < data.nrows)
    (hcells : forall name, Kept (IsClear asking) (data.firstColumn name)) {e : Scalar}
    (hsuits : e.Suits data asking)
    (hcounts : e.counts = true -> frame.columns.lookup countColumn =
      some (List.replicate data.nrows (.int (Int.ofNat data.nrows))))
    {top : Bool} {result : Value}
    (h : (e.expr .transform top).evaluate callers frame = .ok result) :
    exists v, e.value data = .ok v ∧ Renders asking data.nrows v result := by
  induction e generalizing top result with
  | literal value =>
      cases h
      exact ⟨value, rfl, renders_self (isFirm_of_isScalar hsuits.fits)⟩
  | size =>
      have hcolumn : frame.column? countColumn = .ok result := h
      rw [Frame.column?, hcounts rfl] at hcolumn
      cases hcolumn
      exact ⟨_, rfl, renders_column (isFirm_of_isAtom rfl)⟩
  | reduced reducer name =>
      have hvalue := (evaluate_reduced hframe hsuits.fits .transform top).1 h
      exact ⟨result, hvalue, renders_self (firm_of_value_reduced (hcells name) hvalue)⟩
  | unary op a ih =>
      have hcall : Expr.evaluate callers frame
          (.broadcast op.symbol (.unary op) [a.expr .transform false] []) = .ok result := h
      rcases bind_eq_ok_iff.1 hcall with ⟨values, hargs, _⟩
      rcases evaluateAll_single.1 hargs with ⟨found, hfound, rfl⟩
      rcases ih ⟨hsuits.fits, hsuits.asks⟩ hcounts hfound with
        ⟨va, hva, wa, hfirm, hsame, hrenders⟩
      rw [evaluate_broadcast hargs hrows (.cons ⟨hfirm.bare, hrenders⟩ .nil)] at hcall
      rcases map_eq_ok_iff.1 hcall with ⟨w, hw, rfl⟩
      rw [elementCall_unary] at hw
      have hresult : Ends _ (IsFirm asking) (op.combine wa) := op.combine_firm wa
      rw [hw] at hresult
      refine ⟨w, ?_, renders_repeated hresult _ _ _⟩
      rw [value, hva, ok_bind, ← op.combine_congr hsame, hw]
  | binary op a b iha ihb =>
      have hcall : Expr.evaluate callers frame (.broadcast op.symbol (.binary op)
          [a.expr .transform false, b.expr .transform false] []) = .ok result := h
      rcases hsuits.of_binary with ⟨hop, hsuitsa, hsuitsb⟩
      rw [counts, Bool.or_eq_true] at hcounts
      rcases bind_eq_ok_iff.1 hcall with ⟨values, hargs, _⟩
      rcases evaluateAll_pair.1 hargs with ⟨found, found', hfound, hfound', rfl⟩
      rcases iha hsuitsa (fun ha => hcounts (Or.inl ha)) hfound with
        ⟨va, hva, wa, hfirma, hsamea, hrendersa⟩
      rcases ihb hsuitsb (fun hb => hcounts (Or.inr hb)) hfound' with
        ⟨vb, hvb, wb, hfirmb, hsameb, hrendersb⟩
      rw [evaluate_broadcast hargs hrows
        (.cons ⟨hfirma.bare, hrendersa⟩ (.cons ⟨hfirmb.bare, hrendersb⟩ .nil))] at hcall
      rcases map_eq_ok_iff.1 hcall with ⟨w, hw, rfl⟩
      rw [elementCall_binary] at hw
      have hresult := op.combine_firm hfirma hfirmb
      rw [hw] at hresult
      refine ⟨w, ?_, renders_repeated hresult _ _ _⟩
      rw [value, hva, hvb, ok_bind, ok_bind,
        ← op.combine_congr hsamea hsameb fun hasks => hfirmb.members (hop hasks), hw]
  | span a b iha ihb =>
      have hcall : Expr.evaluate callers frame (.apply ":" .span
          [a.expr .transform false, b.expr .transform false] []) = .ok result := h
      rcases hsuits.of_span with ⟨hsuitsa, hsuitsb⟩
      rw [counts, Bool.or_eq_true] at hcounts
      rcases bind_eq_ok_iff.1 hcall with ⟨values, hargs, _⟩
      rcases evaluateAll_pair.1 hargs with ⟨found, found', hfound, hfound', rfl⟩
      rcases iha hsuitsa (fun ha => hcounts (Or.inl ha)) hfound with ⟨va, hva, hrendersa⟩
      rcases ihb hsuitsb (fun hb => hcounts (Or.inr hb)) hfound' with ⟨vb, hvb, hrendersb⟩
      rw [evaluate_apply hargs rfl] at hcall
      rcases hcall with ⟨w, hw, rfl⟩
      have hspan : Function.applySpan [found, found'] = .ok w := ofFault_eq_ok_iff.1 hw
      have hresult : Ends _ (IsFirm asking) (Function.applySpan [found, found']) :=
        applySpan_firm found found'
      rw [hspan] at hresult
      refine ⟨w, ?_, renders_settled hresult _ _⟩
      rw [value, hva, hvb, ok_bind, ok_bind, applySpan_of_renders hrows hrendersa hrendersb hspan]

/-- A result of evaluation that is a value, up to the origin of an undefined number. -/
def Gives (asking : Prop) (v : Value) (outcome : Outcome Value) : Prop :=
  exists w, outcome = .ok w ∧ w.IsFirm asking ∧ w.withoutOrigin = v.withoutOrigin

theorem evaluate_of_value (hframe : frame.IsWhole data)
    (hcells : forall name, Kept (IsClear asking) (data.firstColumn name)) {e : Scalar}
    (hsuits : e.Suits data asking) {v : Value} (h : e.value data = .ok v) :
    Gives asking v ((e.expr .aggregate false).evaluate callers frame) := by
  induction e generalizing v with
  | literal value =>
      cases h
      exact ⟨value, rfl, isFirm_of_isScalar hsuits.fits, rfl⟩
  | size =>
      cases h
      refine ⟨_, ?_, isFirm_of_isAtom rfl, rfl⟩
      show Expr.evaluate callers frame .groupSize = _
      rw [Expr.evaluate, hframe.nrows]
  | reduced reducer name =>
      exact ⟨v, (evaluate_reduced hframe hsuits.fits .aggregate false).2 h,
        firm_of_value_reduced (hcells name) h, rfl⟩
  | unary op a ih =>
      rcases bind_eq_ok_iff.1 h with ⟨va, hva, hv⟩
      rcases ih ⟨hsuits.fits, hsuits.asks⟩ hva with ⟨wa, hwa, hfirm, hsame⟩
      have hresult : Ends _ (IsFirm asking) (op.combine va) := op.combine_firm va
      rw [hv] at hresult
      refine ⟨v.settled op.symbol [wa], ?_, hresult.settle _ _, hresult.withoutOrigin_settled _ _⟩
      show Expr.evaluate callers frame
        (.broadcast op.symbol (.unary op) [a.expr .aggregate false] []) = _
      rw [evaluate_broadcast (evaluateAll_single.2 ⟨wa, hwa, rfl⟩) Nat.one_pos
        (.cons ⟨hfirm.bare, Or.inl rfl⟩ .nil), map_eq_ok_iff]
      refine ⟨v, elementCall_unary.2 ?_, if_pos (areBare_iff.2 ?_)⟩
      · rw [op.combine_congr hsame, hv]
      · simpa using hfirm.bare
  | binary op a b iha ihb =>
      rcases hsuits.of_binary with ⟨hop, hsuitsa, hsuitsb⟩
      rcases bind_eq_ok_iff.1 h with ⟨va, hva, h⟩
      rcases bind_eq_ok_iff.1 h with ⟨vb, hvb, hv⟩
      rcases iha hsuitsa hva with ⟨wa, hwa, hfirma, hsamea⟩
      rcases ihb hsuitsb hvb with ⟨wb, hwb, hfirmb, hsameb⟩
      have hcombine : op.combine wa wb = .ok v := by
        rw [op.combine_congr hsamea hsameb fun hasks => hfirmb.members (hop hasks), hv]
      have hresult := op.combine_firm hfirma hfirmb
      rw [hcombine] at hresult
      refine ⟨v.settled op.symbol [wa, wb], ?_, hresult.settle _ _,
        hresult.withoutOrigin_settled _ _⟩
      show Expr.evaluate callers frame (.broadcast op.symbol (.binary op)
        [a.expr .aggregate false, b.expr .aggregate false] []) = _
      rw [evaluate_broadcast (evaluateAll_pair.2 ⟨wa, wb, hwa, hwb, rfl⟩) Nat.one_pos
        (.cons ⟨hfirma.bare, Or.inl rfl⟩ (.cons ⟨hfirmb.bare, Or.inl rfl⟩ .nil)), map_eq_ok_iff]
      refine ⟨v, elementCall_binary.2 hcombine, if_pos (areBare_iff.2 ?_)⟩
      simpa using ⟨hfirma.bare, hfirmb.bare⟩
  | span a b iha ihb =>
      rcases hsuits.of_span with ⟨hsuitsa, hsuitsb⟩
      rcases bind_eq_ok_iff.1 h with ⟨va, hva, h⟩
      rcases bind_eq_ok_iff.1 h with ⟨vb, hvb, hv⟩
      rcases iha hsuitsa hva with ⟨wa, hwa, hfirma, hsamea⟩
      rcases ihb hsuitsb hvb with ⟨wb, hwb, hfirmb, hsameb⟩
      have hspan : Function.applySpan [wa, wb] = .ok v := by
        rw [applySpan_congr hsamea hsameb, hv]
      have hresult : Ends _ (IsFirm asking) (Function.applySpan [wa, wb]) := applySpan_firm wa wb
      rw [hspan] at hresult
      refine ⟨v.settled ":" [wa, wb], ?_, hresult.settle _ _, hresult.withoutOrigin_settled _ _⟩
      exact (evaluate_apply (evaluateAll_pair.2 ⟨wa, wb, hwa, hwb, rfl⟩) rfl).2
        ⟨v, ofFault_eq_ok_iff.2 hspan, rfl⟩

theorem gives_iff_of_apply {name : String} {values : List Value} {outcome : Outcome Value}
    {applied : Except Fault Value} {v : Value}
    (houtcome : forall result, outcome = .ok result <->
      exists w, applied = .ok w ∧ w.settled name values = result)
    (hfirm : Ends (fun _ => True) (IsFirm asking) applied) :
    Ends (fun _ => True) (IsFirm asking) outcome ∧
      (Gives asking v outcome <->
        exists w, applied = .ok w ∧ w.withoutOrigin = v.withoutOrigin) := by
  constructor
  · cases hresult : outcome with
    | error failure => trivial
    | ok result =>
        rcases (houtcome result).1 hresult with ⟨w, hw, rfl⟩
        rw [hw] at hfirm
        exact hfirm.settle name values
  · constructor
    · rintro ⟨result, hresult, _, hsame⟩
      rcases (houtcome result).1 hresult with ⟨w, hw, rfl⟩
      rw [hw] at hfirm
      exact ⟨w, hw, (hfirm.withoutOrigin_settled name values).symm.trans hsame⟩
    · rintro ⟨w, hw, hsame⟩
      rw [hw] at hfirm
      exact ⟨_, (houtcome _).2 ⟨w, hw, rfl⟩, hfirm.settle name values,
        (hfirm.withoutOrigin_settled name values).trans hsame⟩

/-- To apply a function that never gives a missing value is to pass over missing operands exactly
where there are none. -/
theorem applied_iff {applied : Except Fault Value} {passes : Bool} {v : Value}
    (hv : (if passes then .ok .missing else applied) = .ok v)
    (hpresent : passes = true -> Ends (fun _ => True) (fun w => w.isMissing = false) applied) :
    (exists w, applied = .ok w ∧ w.withoutOrigin = v.withoutOrigin) <-> passes = false := by
  cases passes with
  | false => exact iff_of_true ⟨v, hv, rfl⟩ rfl
  | true =>
      cases hv
      refine iff_of_false ?_ fun hnever => by cases hnever
      rintro ⟨w, hw, hsame⟩
      have hw' := hpresent rfl
      rw [hw] at hw'
      cases (isMissing_congr hsame).symm.trans hw'

theorem value_ne_missing_iff {e : Scalar} {v : Value} (h : e.value data = .ok v) :
    e.value data ≠ .ok .missing <-> v.isMissing = false := by
  rw [h]
  cases v <;> simp [isMissing]

theorem hasOperands_binary_iff {op : BinaryOperator} {a b : Scalar} {va vb : Value}
    (ha : a.value data = .ok va) (hb : b.value data = .ok vb) :
    (binary op a b).HasOperands data <->
      (!op.handlesMissing && (va.isMissing || vb.isMissing)) = false := by
  rw [HasOperands, value_ne_missing_iff ha, value_ne_missing_iff hb]
  cases op.handlesMissing <;> simp

theorem value_eq_missing {e : Scalar} {v : Value} (h : e.value data = .ok v)
    (hnone : ¬e.HasOperands data) : v = .missing := by
  cases e with
  | unary op a =>
      have ha : a.value data = .ok .missing := Classical.not_not.1 hnone
      rw [value, ha] at h
      exact (Except.ok.inj h).symm
  | binary op a b =>
      rcases bind_eq_ok_iff.1 h with ⟨va, hva, h⟩
      rcases bind_eq_ok_iff.1 h with ⟨vb, hvb, hv⟩
      rw [hasOperands_binary_iff hva hvb, Bool.not_eq_false] at hnone
      rw [BinaryOperator.combine, if_pos hnone] at hv
      exact (Except.ok.inj hv).symm
  | _ => exact absurd trivial hnone

/-- The outermost operator of a summary is applied to missing operands as well: what it makes of
them is not missing. -/
theorem evaluate_outermost (hframe : frame.IsWhole data)
    (hcells : forall name, Kept (IsClear asking) (data.firstColumn name)) {e : Scalar}
    (hsuits : e.Suits data asking) {v : Value} (h : e.value data = .ok v) :
    Ends (fun _ => True) (IsFirm asking) ((e.expr .aggregate true).evaluate callers frame) ∧
      (Gives asking v ((e.expr .aggregate true).evaluate callers frame) <->
        e.HasOperands data) := by
  have hinner : Gives asking v ((e.expr .aggregate false).evaluate callers frame) ->
      Ends (fun _ => True) (IsFirm asking) ((e.expr .aggregate false).evaluate callers frame) ∧
        (Gives asking v ((e.expr .aggregate false).evaluate callers frame) <-> True) := by
    intro hgives
    refine ⟨?_, iff_true_intro hgives⟩
    rcases hgives with ⟨w, hw, hfirm, _⟩
    rw [hw]
    exact hfirm
  cases e with
  | literal value => exact hinner (evaluate_of_value hframe hcells hsuits h)
  | size => exact hinner (evaluate_of_value hframe hcells hsuits h)
  | reduced reducer name => exact hinner (evaluate_of_value hframe hcells hsuits h)
  | span a b => exact hinner (evaluate_of_value hframe hcells hsuits h)
  | unary op a =>
      have hsuitsa : a.Suits data asking := ⟨hsuits.fits, hsuits.asks⟩
      rcases bind_eq_ok_iff.1 h with ⟨va, hva, hv⟩
      rcases @evaluate_of_value callers _ _ _ hframe hcells _ hsuitsa _ hva with
        ⟨wa, hwa, _, hsame⟩
      have hpresent : GivesAtom (op.apply va) := op.apply_atom va
      have hoperands : (unary op a).HasOperands data <-> va.isMissing = false :=
        value_ne_missing_iff hva
      rw [hoperands, ← applied_iff hv fun _ => hpresent.weaken fun _ => isMissing_of_isAtom]
      apply gives_iff_of_apply
      · intro result
        show Expr.evaluate callers frame
          (.apply op.symbol (.unary op) [a.expr .aggregate false] []) = _ <-> _
        rw [evaluate_apply (evaluateAll_single.2 ⟨wa, hwa, rfl⟩) rfl, ← op.apply_congr hsame]
        exact exists_congr fun w => and_congr_left' ofFault_eq_ok_iff
      · exact hpresent.weaken fun _ => isFirm_of_isAtom
  | binary op a b =>
      rcases hsuits.of_binary with ⟨hop, hsuitsa, hsuitsb⟩
      rcases bind_eq_ok_iff.1 h with ⟨va, hva, h⟩
      rcases bind_eq_ok_iff.1 h with ⟨vb, hvb, hv⟩
      rcases @evaluate_of_value callers _ _ _ hframe hcells _ hsuitsa _ hva with
        ⟨wa, hwa, hfirma, hsamea⟩
      rcases @evaluate_of_value callers _ _ _ hframe hcells _ hsuitsb _ hvb with
        ⟨wb, hwb, hfirmb, hsameb⟩
      have happly : op.apply wa wb = op.apply va vb :=
        op.apply_congr hsamea hsameb fun hasks => hfirmb.members (hop hasks)
      have hpresent : (!op.handlesMissing && (va.isMissing || vb.isMissing)) = true ->
          Ends (fun _ => True) (fun w => w.isMissing = false) (op.apply va vb) := by
        intro hpasses
        rw [← happly]
        refine (BinaryOperator.apply_made ?_ hfirma hfirmb).weaken fun _ => Made.isMissing
        simpa using (Bool.and_eq_true_iff.1 hpasses).1
      rw [hasOperands_binary_iff hva hvb, ← applied_iff hv hpresent]
      apply gives_iff_of_apply
      · intro result
        show Expr.evaluate callers frame (.apply op.symbol (.binary op)
          [a.expr .aggregate false, b.expr .aggregate false] []) = _ <-> _
        rw [evaluate_apply (evaluateAll_pair.2 ⟨wa, wb, hwa, hwb, rfl⟩) rfl, ← happly]
        exact exists_congr fun w => and_congr_left' ofFault_eq_ok_iff
      · rw [← happly]
        exact op.apply_firm hfirma hfirmb

end Scalar
end Wrangle
