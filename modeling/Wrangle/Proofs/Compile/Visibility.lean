import Wrangle.Proofs.Outcome
import Wrangle.Proofs.Compile.Agreement

/-!
# Selections and the columns of row functions

The columns that stand for the functions of rows are kept in the table while a fragment
is compiled.  A selection that does not name one of them selects the same columns with
and without them, unless it counts columns or goes from one column to another past them.
-/

namespace Wrangle

/-!
# Columns of row functions
-/

/-- The columns that the functions of rows stand for. -/
def isRowColumn (name : String) : Bool :=
  name == countColumn || name == rowNumberColumn

theorem isReserved_of_isRowColumn {name : String} (h : isRowColumn name = true) :
    isReserved name = true := by
  rcases Bool.or_eq_true_iff.1 h with h | h
  · rw [beq_iff_eq.1 h]
    decide
  · rw [beq_iff_eq.1 h]
    decide

theorem isRowColumn_of_unreserved {name : String} (h : isReserved name = false) :
    isRowColumn name = false := by
  rw [← Bool.not_eq_true]
  intro hrow
  rw [isReserved_of_isRowColumn hrow] at h
  cases h

def withoutRowColumns (columns : List String) : List String :=
  columns.filter fun name => !isRowColumn name

def isClear (columns : List String) : Bool :=
  !columns.any isRowColumn

theorem isClear_iff {columns : List String} :
    isClear columns = true <-> forall name, name ∈ columns -> isRowColumn name = false := by
  simp [isClear]

theorem withoutRowColumns_of_isClear {columns : List String} (h : isClear columns = true) :
    withoutRowColumns columns = columns := by
  unfold withoutRowColumns
  rw [List.filter_eq_self]
  intro name hname
  rw [isClear_iff.1 h name hname]
  rfl

theorem withoutRowColumns_of_unreserved {columns : List String}
    (h : forall name, name ∈ columns -> isReserved name = false) :
    withoutRowColumns columns = columns :=
  withoutRowColumns_of_isClear
    (isClear_iff.2 fun name hname => isRowColumn_of_unreserved (h name hname))

theorem withoutRowColumns_eq_nil {columns : List String}
    (h : forall name, name ∈ columns -> isRowColumn name = true) :
    withoutRowColumns columns = [] := by
  unfold withoutRowColumns
  rw [List.filter_eq_nil_iff]
  intro name hname
  rw [h name hname]
  simp

theorem withoutRowColumns_append (columns more : List String) :
    withoutRowColumns (columns ++ more) = withoutRowColumns columns ++ withoutRowColumns more :=
  List.filter_append ..

theorem withoutRowColumns_split (columns : List String) (n : Nat) :
    withoutRowColumns columns =
      withoutRowColumns (columns.take n) ++ withoutRowColumns (columns.drop n) := by
  rw [← withoutRowColumns_append, List.take_append_drop]

theorem mem_withoutRowColumns_iff {columns : List String} {name : String} :
    name ∈ withoutRowColumns columns <-> name ∈ columns ∧ isRowColumn name = false := by
  simp [withoutRowColumns]

theorem take_withoutRowColumns {columns : List String} {n : Nat}
    (h : isClear (columns.take n) = true) :
    (withoutRowColumns columns).take n = columns.take n := by
  rw [withoutRowColumns_split columns n, withoutRowColumns_of_isClear h]
  rcases Nat.le_total n columns.length with hn | hn
  · rw [List.take_append_of_le_length (by rw [List.length_take]; omega), List.take_take,
      Nat.min_self]
  · rw [List.drop_eq_nil_of_le hn, List.take_of_length_le hn]
    exact (List.take_of_length_le (by simpa [withoutRowColumns] using hn)).trans (by
      simp [withoutRowColumns])

theorem drop_withoutRowColumns (columns : List String) (n : Nat) :
    (withoutRowColumns columns).drop (withoutRowColumns (columns.take n)).length =
      withoutRowColumns (columns.drop n) := by
  rw [withoutRowColumns_split columns n]
  exact List.drop_left

theorem idxOf_withoutRowColumns (columns : List String) {name : String}
    (h : isRowColumn name = false) :
    (withoutRowColumns columns).idxOf name =
      (withoutRowColumns (columns.take (columns.idxOf name))).length := by
  induction columns with
  | nil => rfl
  | cons first rest ih =>
      by_cases hfirst : first = name
      · subst hfirst
        rw [List.idxOf_cons_self, withoutRowColumns, List.filter_cons_of_pos (by simp [h]),
          List.idxOf_cons_self]
        rfl
      · rw [List.idxOf_cons_ne _ hfirst, List.take_succ_cons, withoutRowColumns, withoutRowColumns,
          List.filter_cons, List.filter_cons]
        split
        · rw [List.idxOf_cons_ne _ hfirst, List.length_cons]
          exact congrArg Nat.succ ih
        · exact ih

theorem stretch_withoutRowColumns {columns : List String} {low high : Nat} (hle : low ≤ high)
    (hhigh : high < columns.length)
    (hclear : isClear ((columns.drop low).take (high - low + 1)) = true) :
    (withoutRowColumns (columns.take high)).length =
        (withoutRowColumns (columns.take low)).length + (high - low) ∧
      ((withoutRowColumns columns).drop (withoutRowColumns (columns.take low)).length).take
          (high - low + 1) = (columns.drop low).take (high - low + 1) := by
  have hshort : isClear ((columns.drop low).take (high - low)) = true := by
    rw [isClear_iff] at hclear ⊢
    intro name hname
    exact hclear name (List.take_subset_take_left _ (Nat.le_succ _) hname)
  constructor
  · have hsplit : columns.take high = columns.take low ++ (columns.drop low).take (high - low) := by
      rw [← List.take_add, Nat.add_sub_cancel' hle]
    rw [hsplit, withoutRowColumns_append, withoutRowColumns_of_isClear hshort, List.length_append,
      List.length_take, List.length_drop]
    omega
  · rw [drop_withoutRowColumns, take_withoutRowColumns hclear]

namespace Compile

variable {wide narrow : Scope}

/-!
# Columns between columns
-/

theorem mem_of_columnAtPosition {scope : Scope} {n : Int} {name : String}
    (h : columnAtPosition scope n = .ok name) : name ∈ scope.columns := by
  have hgives : Gives (fun name => name ∈ scope.columns) (columnAtPosition scope n) :=
    columnAtPosition_inScope n
  rw [h] at hgives
  exact hgives

theorem mem_of_columnOf {scope : Scope} {node : Node} {name : String}
    (h : columnOf scope node = .ok name) : name ∈ scope.columns := by
  have hgives : Gives (fun name => name ∈ scope.columns) (columnOf scope node) :=
    columnOf_inScope node
  rw [h] at hgives
  exact hgives

theorem columnsBetween_withoutRowColumns {columns : List String} {first last : String}
    (hfirst : first ∈ columns) (hlast : last ∈ columns) (hnamed : isRowColumn first = false)
    (hnamed' : isRowColumn last = false)
    (hclear : isClear (columnsBetween columns first last) = true) :
    columnsBetween (withoutRowColumns columns) first last = columnsBetween columns first last := by
  have hlow := idxOf_withoutRowColumns columns hnamed
  have hhigh := idxOf_withoutRowColumns columns hnamed'
  unfold columnsBetween at hclear ⊢
  dsimp only at hclear ⊢
  rw [hlow, hhigh]
  by_cases hle : columns.idxOf first ≤ columns.idxOf last
  · rw [if_pos hle] at hclear ⊢
    have hstretch := stretch_withoutRowColumns hle (List.idxOf_lt_length_of_mem hlast) hclear
    rw [hstretch.1, if_pos (Nat.le_add_right ..), Nat.add_sub_cancel_left]
    exact hstretch.2
  · rw [if_neg hle] at hclear ⊢
    have hclear : isClear ((columns.drop (columns.idxOf last)).take
        (columns.idxOf first - columns.idxOf last + 1)) = true := by
      rw [isClear_iff] at hclear ⊢
      exact fun name hname => hclear name (List.mem_reverse.2 hname)
    have hstretch := stretch_withoutRowColumns (Nat.le_of_not_le hle)
      (List.idxOf_lt_length_of_mem hfirst) hclear
    rw [hstretch.1, if_neg (by omega), Nat.add_sub_cancel_left]
    exact congrArg List.reverse hstretch.2

/-!
# Selections that stay
-/

mutual

/-- Whether a selection names the column of a row function; what a helper looks for is no name. -/
def namesRowColumn : Node -> Bool
  | .identifier name => isRowColumn name
  | .literal (.str name) => isRowColumn name
  | .range start stop => namesRowColumn start || namesRowColumn stop
  | .call _ [operand] _ true => namesRowColumn operand
  | .call head args _ false => !(SelectionHelper.ofName? head).isSome && anyNamesRowColumn args
  | .vector items => anyNamesRowColumn items
  | .tuple items => anyNamesRowColumn items
  | _ => false

def anyNamesRowColumn : List Node -> Bool
  | [] => false
  | node :: rest => namesRowColumn node || anyNamesRowColumn rest

end

def isSteadyPosition (columns : List String) (n : Int) : Bool :=
  columns.length < n || isClear (columns.take n.toNat)

/-- An end of a range that is the same column with and without the columns of row functions. -/
def isSteadyEnd (columns : List String) : Node -> Bool
  | .literal (.int n) => isSteadyPosition columns n
  | _ => true

/-- A range without the columns of row functions in it, if there is such a range. -/
def isSteadyRange (scope : Scope) (start stop : Node) : Bool :=
  isSteadyEnd scope.columns start && isSteadyEnd scope.columns stop &&
    match columnOf scope start, columnOf scope stop with
    | .ok first, .ok last => isClear (columnsBetween scope.columns first last)
    | _, _ => true

mutual

/-- A selection with no position and no range that reaches past the columns of row functions. -/
def isSteady (scope : Scope) : Node -> Bool
  | .literal (.int n) => isSteadyPosition scope.columns (if n < 0 then -n else n)
  | .range start stop => isSteadyRange scope start stop
  | .call _ [operand] _ true => isSteady scope operand
  | .call head args _ false =>
      (SelectionHelper.ofName? head).isSome || !listHeads.contains head || areSteady scope args
  | .vector items => areSteady scope items
  | .tuple items => areSteady scope items
  | _ => true

def areSteady (scope : Scope) : List Node -> Bool
  | [] => true
  | node :: rest => isSteady scope node && areSteady scope rest

end

mutual

theorem isSteady_of_picksByName (scope : Scope) :
    forall node : Node, picksByName node = true -> isSteady scope node = true
  | .identifier _, _ => by rw [isSteady] <;> nofun
  | .literal value, h => by
      cases value with
      | int n => cases h
      | _ => rw [isSteady] <;> nofun
  | .range _ _, h => by cases h
  | .call _ [operand] _ true, h => by
      rw [picksByName] at h
      rw [isSteady]
      exact isSteady_of_picksByName scope operand h
  | .call head args _ false, h => by
      rw [picksByName, Bool.or_eq_true] at h
      rw [isSteady, Bool.or_eq_true, Bool.or_eq_true]
      rcases h with hhelper | hargs
      · exact Or.inl (Or.inl hhelper)
      · exact Or.inr (areSteady_of_allPickByName scope args hargs)
  | .vector items, h => by
      rw [picksByName] at h
      rw [isSteady]
      exact areSteady_of_allPickByName scope items h
  | .tuple items, h => by
      rw [picksByName] at h
      rw [isSteady]
      exact areSteady_of_allPickByName scope items h
  | .call _ [] _ true, _ => by rw [isSteady] <;> nofun
  | .call _ (_ :: _ :: _) _ true, _ => by rw [isSteady] <;> nofun
  | .pair _ _, _ => by rw [isSteady] <;> nofun
  | .assignment _ _, _ => by rw [isSteady] <;> nofun
  | .interpolate _, _ => by rw [isSteady] <;> nofun
  | .splice _, _ => by rw [isSteady] <;> nofun
  | .foreign _, _ => by rw [isSteady] <;> nofun

theorem areSteady_of_allPickByName (scope : Scope) :
    forall nodes : List Node, allPickByName nodes = true -> areSteady scope nodes = true
  | [], _ => by rw [areSteady]
  | node :: rest, h => by
      rw [allPickByName, Bool.and_eq_true] at h
      rw [areSteady, isSteady_of_picksByName scope node h.1,
        areSteady_of_allPickByName scope rest h.2]
      rfl

end

/-- Two scopes of which one has what is left of the columns of the other. -/
structure Hides (wide narrow : Scope) : Prop where
  env : narrow.env = wide.env
  columns : narrow.columns = withoutRowColumns wide.columns

namespace Hides

theorem contains_eq (h : Hides wide narrow) {name : String} (hname : isRowColumn name = false) :
    narrow.columns.contains name = wide.columns.contains name := by
  rw [Bool.eq_iff_iff, List.contains_iff_mem, List.contains_iff_mem, h.columns,
    mem_withoutRowColumns_iff]
  simp [hname]

theorem visibleColumns_eq (h : Hides wide narrow) :
    narrow.visibleColumns = wide.visibleColumns := by
  show narrow.columns.filter _ = wide.columns.filter _
  rw [h.columns, withoutRowColumns, List.filter_filter]
  apply List.filter_congr
  intro name _
  cases hname : isReserved name with
  | true => rfl
  | false =>
      rw [isRowColumn_of_unreserved hname]
      rfl

theorem knownColumn_alike (h : Hides wide narrow) {name : String}
    (hname : isRowColumn name = false) :
    Alike (knownColumn wide name) (knownColumn narrow name) := by
  unfold knownColumn
  rw [h.contains_eq hname]
  split
  · exact .refl _
  · exact .failure ⟨rfl, rfl⟩

theorem noColumnAt_alike (n : Int) (range other : String) :
    Alike (noColumnAt n range : Outcome String) (noColumnAt n other) := by
  apply (Alike.refl (Outcome.ofFault (Value.int n).render?)).bind
  intro text _
  exact .failure ⟨rfl, rfl⟩

theorem columnAtPosition_alike (h : Hides wide narrow) {n : Int}
    (hsteady : isSteadyPosition wide.columns n = true) :
    Alike (columnAtPosition wide n) (columnAtPosition narrow n) := by
  have hsame : (if 1 <= n then narrow.columns[(n - 1).toNat]? else none) =
      if 1 <= n then wide.columns[(n - 1).toNat]? else none := by
    split
    · rename_i hn
      rw [isSteadyPosition, Bool.or_eq_true, decide_eq_true_iff] at hsteady
      rcases hsteady with hbeyond | hclear
      · have hlength : narrow.columns.length ≤ wide.columns.length := by
          rw [h.columns]
          exact List.length_filter_le ..
        rw [List.getElem?_eq_none (by omega), List.getElem?_eq_none (by omega)]
      · have htake := take_withoutRowColumns hclear
        rw [← h.columns] at htake
        have hlt : (n - 1).toNat < n.toNat := by omega
        rw [← List.getElem?_take_of_lt hlt, htake, List.getElem?_take_of_lt hlt]
    · rfl
  unfold columnAtPosition
  dsimp only
  rw [hsame]
  split
  · exact .refl _
  · exact noColumnAt_alike n _ _

theorem columnOf_alike (h : Hides wide narrow) {node : Node}
    (hnames : namesRowColumn node = false) (hsteady : isSteadyEnd wide.columns node = true) :
    Alike (columnOf wide node) (columnOf narrow node) := by
  unfold columnOf
  split
  · exact h.knownColumn_alike hnames
  · exact h.knownColumn_alike hnames
  · exact h.columnAtPosition_alike hsteady
  · exact .refl _

theorem columnOf_unhidden (h : Hides wide narrow) {node : Node} {name : String}
    (hname : columnOf narrow node = .ok name) : isRowColumn name = false := by
  have hmem := mem_of_columnOf hname
  rw [h.columns, mem_withoutRowColumns_iff] at hmem
  exact hmem.2

theorem range_alike (h : Hides wide narrow) {start stop : Node}
    (hnames : namesRowColumn (.range start stop) = false)
    (hsteady : isSteadyRange wide start stop = true) :
    Alike (columnSets wide (.range start stop)) (columnSets narrow (.range start stop)) := by
  rw [namesRowColumn, Bool.or_eq_false_iff] at hnames
  rw [isSteadyRange, Bool.and_eq_true, Bool.and_eq_true] at hsteady
  rcases hsteady with ⟨⟨hstart, hstop⟩, hbetween⟩
  have hfirst := h.columnOf_alike hnames.1 hstart
  have hlast := h.columnOf_alike hnames.2 hstop
  rw [columnSets, columnSets]
  apply hfirst.bind
  intro first hfound
  apply hlast.bind
  intro last hfound'
  rw [hfound, hfound'] at hbetween
  rw [h.columns, columnsBetween_withoutRowColumns (mem_of_columnOf hfound)
    (mem_of_columnOf hfound') (h.columnOf_unhidden (hfirst.eq_ok hfound))
    (h.columnOf_unhidden (hlast.eq_ok hfound')) hbetween]
  exact .refl _

end Hides

/-!
# Selections with and without columns of row functions
-/

mutual

theorem columnSets_alike (h : Hides wide narrow) :
    forall node : Node, namesRowColumn node = false -> isSteady wide node = true ->
      Alike (columnSets wide node) (columnSets narrow node)
  | .identifier name, hnames, _ => by
      rw [columnSets, columnSets]
      exact (h.columnOf_alike hnames rfl).map
  | .literal value, hnames, hsteady => by
      cases value with
      | int n =>
          rw [isSteady] at hsteady
          rw [columnSets, columnSets]
          split
          · rename_i hn
            rw [if_pos hn] at hsteady
            exact (h.columnAtPosition_alike hsteady).map
          · rename_i hn
            rw [if_neg hn] at hsteady
            exact (h.columnAtPosition_alike hsteady).map
      | _ =>
          rw [columnSets, columnSets]
          · exact (h.columnOf_alike hnames rfl).map
          all_goals nofun
  | .range start stop, hnames, hsteady => by
      rw [isSteady] at hsteady
      exact h.range_alike hnames hsteady
  | .call head [operand] kwargs true, hnames, hsteady => by
      rw [namesRowColumn] at hnames
      rw [isSteady] at hsteady
      rw [columnSets, columnSets]
      split
      · exact (columnSets_alike h operand hnames hsteady).map
      · exact .refl _
  | .call head args kwargs false, hnames, hsteady => by
      rw [namesRowColumn] at hnames
      rw [isSteady] at hsteady
      rw [columnSets, columnSets]
      cases hhelper : SelectionHelper.ofName? head with
      | some helper =>
          dsimp only
          rw [helperColumns, helperColumns, h.visibleColumns_eq, h.env]
          exact .refl _
      | none =>
          dsimp only
          rw [hhelper] at hnames hsteady
          split
          · rename_i hlist
            rw [hlist] at hsteady
            exact columnSetsOf_alike h args hnames hsteady .empty
          · exact .refl _
  | .vector items, hnames, hsteady => by
      rw [namesRowColumn] at hnames
      rw [isSteady] at hsteady
      rw [columnSets, columnSets]
      exact columnSetsOf_alike h items hnames hsteady .empty
  | .tuple items, hnames, hsteady => by
      rw [namesRowColumn] at hnames
      rw [isSteady] at hsteady
      rw [columnSets, columnSets]
      exact columnSetsOf_alike h items hnames hsteady .empty
  | .call _ [] _ true, _, _ => .refl _
  | .call _ (_ :: _ :: _) _ true, _, _ => .refl _
  | .pair _ _, _, _ => .refl _
  | .assignment _ _, _, _ => .refl _
  | .interpolate _, _, _ => .refl _
  | .splice _, _, _ => .refl _
  | .foreign _, _, _ => .refl _

theorem columnSetsOf_alike (h : Hides wide narrow) :
    forall nodes : List Node, anyNamesRowColumn nodes = false -> areSteady wide nodes = true ->
      forall sets : ColumnSets,
        Alike (columnSetsOf wide sets nodes) (columnSetsOf narrow sets nodes)
  | [], _, _, sets => by
      rw [columnSetsOf, columnSetsOf]
      exact .refl _
  | node :: rest, hnames, hsteady, sets => by
      rw [anyNamesRowColumn, Bool.or_eq_false_iff] at hnames
      rw [areSteady, Bool.and_eq_true] at hsteady
      rw [columnSetsOf, columnSetsOf]
      apply (columnSets_alike h node hnames.1 hsteady.1).bind
      intro more _
      exact columnSetsOf_alike h rest hnames.2 hsteady.2 _

end

/-- A selection that reaches past no column of a row function does not depend on such columns. -/
theorem selectNames_alike (h : Hides wide narrow) {node : Node}
    (hnames : namesRowColumn node = false) (hsteady : isSteady wide node = true) :
    Alike (selectNames wide node) (selectNames narrow node) := by
  unfold selectNames
  apply (columnSets_alike h node hnames hsteady).bind
  intro sets _
  rw [h.visibleColumns_eq]
  exact .refl _

/-!
# Selections that do not stay
-/

theorem ends_of_stretch {columns : List String} {low high : Nat} (hle : low ≤ high)
    (hhigh : high < columns.length) :
    ((columns.drop low).take (high - low + 1)).head? = columns[low]? ∧
      ((columns.drop low).take (high - low + 1)).getLast? = columns[high]? := by
  constructor
  · rw [List.head?_take, if_neg (Nat.succ_ne_zero _), List.head?_drop]
  · rw [List.getLast?_take, if_neg (Nat.succ_ne_zero _), Nat.add_sub_cancel, List.getElem?_drop,
      Nat.add_sub_cancel' hle, List.getElem?_eq_getElem hhigh]
    rfl

theorem ends_columnsBetween {columns : List String} {first last : String}
    (hfirst : first ∈ columns) (hlast : last ∈ columns) :
    (columnsBetween columns first last).head? = some first ∧
      (columnsBetween columns first last).getLast? = some last := by
  have hfirst' : columns[columns.idxOf first]? = some first := List.getElem?_idxOf hfirst
  have hlast' : columns[columns.idxOf last]? = some last := List.getElem?_idxOf hlast
  unfold columnsBetween
  dsimp only
  split
  · rename_i hle
    rw [← hfirst', ← hlast']
    exact ends_of_stretch hle (List.idxOf_lt_length_of_mem hlast)
  · rename_i hle
    have hends := ends_of_stretch (Nat.le_of_not_le hle) (List.idxOf_lt_length_of_mem hfirst)
    rw [List.head?_reverse, List.getLast?_reverse, ← hfirst', ← hlast']
    exact ⟨hends.2, hends.1⟩

/-- Scopes with columns that are added at once: those of row functions come between the columns of
the table and others that were computed. -/
structure Inserts (wide narrow : Scope) (header rows more : List String) : Prop where
  env : narrow.env = wide.env
  wide : wide.columns = header ++ (rows ++ more)
  narrow : narrow.columns = header ++ more
  rows : forall name, name ∈ rows -> isRowColumn name = true
  unreserved : forall name, name ∈ header ++ more -> isReserved name = false
  distinct : more.Nodup

/-- A selection by the place of columns in the table. -/
def isPlacing : Node -> Bool
  | .literal (.int _) => true
  | .range _ _ => true
  | _ => false

namespace Inserts

variable {header rows more : List String}

theorem isClear (h : Inserts wide narrow header rows more) :
    isClear (header ++ more) = true :=
  isClear_iff.2 fun name hname => isRowColumn_of_unreserved (h.unreserved name hname)

theorem isSteadyPosition (h : Inserts wide narrow header rows more) {n : Int} {name : String}
    (hwide : columnAtPosition wide n = .ok name) (hnarrow : columnAtPosition narrow n = .ok name) :
    isSteadyPosition wide.columns n = true := by
  have hfound : forall {scope : Scope}, columnAtPosition scope n = .ok name ->
      1 ≤ n ∧ scope.columns[(n - 1).toNat]? = some name := by
    intro scope hscope
    unfold columnAtPosition at hscope
    dsimp only at hscope
    by_cases hn : 1 ≤ n
    · rw [if_pos hn] at hscope
      refine ⟨hn, ?_⟩
      split at hscope
      · rename_i found hget
        cases hscope
        exact hget
      · exact absurd hscope noColumnAt_ne_ok
    · rw [if_neg hn] at hscope
      exact absurd hscope noColumnAt_ne_ok
  rcases hfound hwide with ⟨hn, hget⟩
  rcases hfound hnarrow with ⟨_, hget'⟩
  rw [h.wide] at hget
  rw [h.narrow] at hget'
  rw [Compile.isSteadyPosition, Bool.or_eq_true, h.wide]
  right
  have hclear := isClear_iff.1 h.isClear
  rw [isClear_iff]
  rcases Nat.lt_or_ge (n - 1).toNat header.length with hbefore | hafter
  · intro other hother
    rw [List.take_append_of_le_length (by omega)] at hother
    exact hclear other (List.mem_append_left _ (List.mem_of_mem_take hother))
  · rw [List.getElem?_append_right hafter] at hget hget'
    have hunhidden := hclear name (List.mem_append_right _ (List.mem_of_getElem? hget'))
    rcases Nat.lt_or_ge ((n - 1).toNat - header.length) rows.length with hrow | hmore
    · rw [List.getElem?_append_left hrow] at hget
      rw [h.rows name (List.mem_of_getElem? hget)] at hunhidden
      cases hunhidden
    · rw [List.getElem?_append_right hmore] at hget
      -- the same column is found at one place only, so nothing came before it
      have hplace := (List.getElem?_inj (List.getElem?_eq_some_iff.1 hget').1 h.distinct).1
        (hget'.trans hget.symm)
      have hrows : rows = [] := List.eq_nil_of_length_eq_zero (by omega)
      intro other hother
      rw [hrows, List.nil_append] at hother
      exact hclear other (List.mem_of_mem_take hother)

theorem isSteadyEnd (h : Inserts wide narrow header rows more) {node : Node} {name : String}
    (hwide : columnOf wide node = .ok name) (hnarrow : columnOf narrow node = .ok name) :
    isSteadyEnd wide.columns node = true := by
  unfold Compile.isSteadyEnd
  split
  · exact h.isSteadyPosition hwide hnarrow
  · rfl

theorem hides (h : Inserts wide narrow header rows more) : Hides wide narrow := by
  have hkept := withoutRowColumns_of_unreserved h.unreserved
  rw [withoutRowColumns_append] at hkept
  refine ⟨h.env, ?_⟩
  rw [h.wide, h.narrow, withoutRowColumns_append, withoutRowColumns_append,
    withoutRowColumns_eq_nil h.rows, List.nil_append, hkept]

end Inserts

/-!
# Selections by place
-/

theorem selectNames_only {scope : Scope} {node : Node} {x : Outcome (List String)}
    (h : columnSets scope node = x.map .only) : selectNames scope node = x := by
  unfold selectNames
  rw [h]
  cases x with
  | error failure => rfl
  | ok names =>
      show Except.ok (names.filter fun name => !([] : List String).contains name) = _
      simp

theorem selectNames_position {scope : Scope} {n : Int} (hn : ¬ n < 0) :
    selectNames scope (.literal (.int n)) = (columnAtPosition scope n).map fun name => [name] := by
  apply selectNames_only
  rw [columnSets, if_neg hn]
  cases columnAtPosition scope n <;> rfl

theorem selectNames_range {scope : Scope} (start stop : Node) :
    selectNames scope (.range start stop) = columnOf scope start >>= fun first =>
      (columnOf scope stop).map fun last => columnsBetween scope.columns first last := by
  apply selectNames_only
  rw [columnSets]
  cases columnOf scope start with
  | error failure => rfl
  | ok first => cases columnOf scope stop <;> rfl

theorem selectNames_without {scope : Scope} {n : Int} (hn : n < 0) :
    selectNames scope (.literal (.int n)) = (columnAtPosition scope (-n)).map fun name =>
      scope.visibleColumns.filter fun other => !([name].contains other) := by
  unfold selectNames
  rw [columnSets, if_pos hn]
  cases columnAtPosition scope (-n) <;> rfl

namespace Inserts

variable {header rows more names : List String}

theorem isSteady_position (h : Inserts wide narrow header rows more) {n : Int}
    (hwide : selectNames wide (.literal (.int n)) = .ok names)
    (hnarrow : selectNames narrow (.literal (.int n)) = .ok names) :
    isSteady wide (.literal (.int n)) = true := by
  rw [isSteady]
  by_cases hn : n < 0
  · rw [selectNames_without hn] at hwide hnarrow
    rcases map_eq_ok_iff.1 hwide with ⟨name, hname, rfl⟩
    rcases map_eq_ok_iff.1 hnarrow with ⟨other, hother, hsame⟩
    -- the column that is left out in one scope is left out in the other one, too
    have hmem := mem_of_columnAtPosition hother
    have hvisible : other ∈ narrow.visibleColumns := by
      rw [Scope.mem_visibleColumns_iff]
      rw [h.narrow] at hmem
      exact ⟨h.narrow ▸ hmem, h.unreserved other hmem⟩
    rw [h.hides.visibleColumns_eq] at hsame hvisible
    have hout : other ∉ wide.visibleColumns.filter fun found => !([name].contains found) := by
      rw [← hsame]
      simp
    have heq : other = name := by
      by_contra hne
      exact hout (List.mem_filter.2 ⟨hvisible, by simpa using hne⟩)
    rw [if_pos hn]
    exact h.isSteadyPosition hname (heq ▸ hother)
  · rw [selectNames_position hn] at hwide hnarrow
    rcases map_eq_ok_iff.1 hwide with ⟨name, hname, rfl⟩
    rcases map_eq_ok_iff.1 hnarrow with ⟨other, hother, hsame⟩
    rw [if_neg hn]
    exact h.isSteadyPosition hname ((List.cons.inj hsame).1 ▸ hother)

theorem isSteady_range (h : Inserts wide narrow header rows more) {start stop : Node}
    (hwide : selectNames wide (.range start stop) = .ok names)
    (hnarrow : selectNames narrow (.range start stop) = .ok names) :
    isSteady wide (.range start stop) = true := by
  have hparts : forall {scope : Scope}, selectNames scope (.range start stop) = .ok names ->
      exists first last, columnOf scope start = .ok first ∧ columnOf scope stop = .ok last ∧
        columnsBetween scope.columns first last = names ∧ names.head? = some first ∧
        names.getLast? = some last := by
    intro scope hscope
    rw [selectNames_range] at hscope
    rcases bind_eq_ok_iff.1 hscope with ⟨first, hfirst, hscope⟩
    rcases map_eq_ok_iff.1 hscope with ⟨last, hlast, rfl⟩
    have hends := ends_columnsBetween (mem_of_columnOf hfirst) (mem_of_columnOf hlast)
    exact ⟨first, last, hfirst, hlast, rfl, hends.1, hends.2⟩
  rcases hparts hwide with ⟨first, last, hfirst, hlast, hnames, hhead, hend⟩
  rcases hparts hnarrow with ⟨first', last', hfirst', hlast', hnames', hhead', hend'⟩
  have hsame : first' = first := Option.some.inj (hhead'.symm.trans hhead)
  have hsame' : last' = last := Option.some.inj (hend'.symm.trans hend)
  subst hsame hsame'
  rw [isSteady, isSteadyRange, h.isSteadyEnd hfirst hfirst', h.isSteadyEnd hlast hlast', hfirst,
    hlast]
  show Wrangle.isClear (columnsBetween wide.columns first' last') = true
  rw [hnames, ← hnames', isClear_iff]
  intro name hname
  have hmem := mem_columnsBetween hname
  rw [h.hides.columns, mem_withoutRowColumns_iff] at hmem
  exact hmem.2

/-- A position or a range that selects the same columns in both scopes reaches past no column of a
row function. -/
theorem isSteady (h : Inserts wide narrow header rows more) {node : Node}
    (hplacing : isPlacing node = true) (hwide : selectNames wide node = .ok names)
    (hnarrow : selectNames narrow node = .ok names) : isSteady wide node = true := by
  cases node with
  | literal value =>
      cases value with
      | int n => exact h.isSteady_position hwide hnarrow
      | _ => cases hplacing
  | range start stop => exact h.isSteady_range hwide hnarrow
  | _ => cases hplacing

end Inserts

end Compile

end Wrangle
