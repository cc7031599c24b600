import Wrangle.Proofs.Compile.Agreement
import Wrangle.Proofs.Dataset.Lookup
import Wrangle.Proofs.Verb.Safety

/-!
# Tables with reserved columns

A table may be padded with the columns for the number of rows and for row numbers.
Assignments to other columns do the same to all paddings of a table that have the
reserved columns that the assignments mention.
-/

namespace Wrangle
namespace Dataset

def rowColumn (name : String) (groups : List Partition) (nrows : Nat) : List Value :=
  if name == countColumn then groupSizes groups nrows else rowNumbers groups nrows

theorem rowColumn_length (name : String) (groups : List Partition) (nrows : Nat) :
    (rowColumn name groups nrows).length = nrows := by
  unfold rowColumn
  split
  · exact scattered_length ..
  · exact scattered_length ..

/-- A table that has some reserved columns beside the columns of another one. -/
structure Pads (names : List String) (data wide : Dataset) : Prop where
  regular : wide.IsRegular
  dropped : wide.dropped isReserved = data
  reserved : forall name, name ∈ names -> isReserved name = true
  columns : forall name, name ∈ names -> exists groups, data.partitions = .ok groups ∧
    wide.columns.lookup name = some (rowColumn name groups data.nrows)

variable {callers : CallerFunctions} {names more : List String} {data wide other : Dataset}

theorem IsRegular.pads (h : data.IsRegular)
    (hheader : forall name, name ∈ data.header -> isReserved name = false) : data.Pads [] data where
  regular := h
  dropped := dropped_of_none hheader
  reserved := fun _ hname => nomatch hname
  columns := fun _ hname => nomatch hname

/-- A dataset with the same groups, by the same keys. -/
structure GroupedLike (data next : Dataset) : Prop where
  groups : next.groups = data.groups
  partitions : next.partitions = data.partitions

namespace Pads

theorem nrows (h : data.Pads names wide) : wide.nrows = data.nrows := by
  rw [← h.dropped, dropped_nrows]

theorem groups (h : data.Pads names wide) : wide.groups = data.groups := by
  rw [← h.dropped, dropped_groups]

theorem partitions (h : data.Pads names wide) : wide.partitions = data.partitions := by
  rw [← h.dropped, h.regular.partitions_dropped h.regular.unreserved]

theorem lookup (h : data.Pads names wide) {name : String} (hname : isReserved name = false) :
    wide.columns.lookup name = data.columns.lookup name := by
  rw [← h.dropped, h.regular.lookup_dropped h.regular.unreserved hname]

theorem mem_header (h : data.Pads names wide) {name : String} (hname : name ∈ names) :
    name ∈ wide.header := by
  rcases h.columns name hname with ⟨groups, _, hlookup⟩
  by_contra hnone
  rw [h.regular.lookup_columns, if_neg hnone] at hlookup
  cases hlookup

theorem lookup_eq (h : data.Pads names wide) (hmore : data.Pads more other) {name : String}
    (hname : isReserved name = false ∨ (name ∈ names ∧ name ∈ more)) :
    wide.columns.lookup name = other.columns.lookup name := by
  rcases hname with hname | ⟨hin, hin'⟩
  · rw [h.lookup hname, hmore.lookup hname]
  · rcases h.columns name hin with ⟨groups, hgroups, hcolumn⟩
    rcases hmore.columns name hin' with ⟨groups', hgroups', hcolumn'⟩
    rw [hgroups] at hgroups'
    cases hgroups'
    rw [hcolumn, hcolumn']

theorem add (h : data.Pads names wide) {name : String} (hname : isReserved name = true)
    {groups : List Partition} (hgroups : data.partitions = .ok groups) :
    data.Pads (names ++ [name]) (wide.setColumn name (rowColumn name groups wide.nrows)) := by
  have hlength := rowColumn_length name groups wide.nrows
  constructor
  · exact h.regular.setColumn _ _
  · rw [dropped_setColumn h.regular.width hname hlength, h.dropped]
  · intro found hfound
    rcases List.mem_append.1 hfound with hfound | hfound
    · exact h.reserved found hfound
    · rw [List.mem_singleton.1 hfound]
      exact hname
  · intro found hfound
    rw [h.regular.lookup_setColumn hlength, h.nrows]
    by_cases heq : found = name
    · subst heq
      exact ⟨groups, hgroups, if_pos rfl⟩
    · rw [if_neg heq]
      apply h.columns found
      rcases List.mem_append.1 hfound with hfound | hfound
      · exact hfound
      · exact absurd (List.mem_singleton.1 hfound) heq

theorem groupedLike_setColumn (h : data.Pads names wide) {name : String}
    (hkeys : name ∉ data.groups) {values : List Value} (hvalues : values.length = data.nrows) :
    data.GroupedLike ((wide.setColumn name values).dropped isReserved) := by
  have hlength : values.length = wide.nrows := by
    rw [h.nrows, hvalues]
  have hregular := h.regular.setColumn name values
  constructor
  · rw [dropped_groups, setColumn_groups, h.groups]
  · rw [hregular.partitions_dropped hregular.unreserved,
      h.regular.partitions_setColumn (h.groups ▸ hkeys) hlength, h.partitions]

theorem setColumn (h : data.Pads names wide) {name : String} (hkeys : name ∉ data.groups)
    (hnames : name ∉ names) {values : List Value} (hvalues : values.length = data.nrows) :
    ((wide.setColumn name values).dropped isReserved).Pads names (wide.setColumn name values) := by
  have hlength : values.length = wide.nrows := by
    rw [h.nrows, hvalues]
  have hregular := h.regular.setColumn name values
  have hpartitions := (h.groupedLike_setColumn hkeys hvalues).partitions
  constructor
  · exact hregular
  · rfl
  · exact h.reserved
  · intro found hfound
    rw [hpartitions, dropped_nrows, setColumn_nrows wide name values hlength, h.nrows,
      h.regular.lookup_setColumn hlength, if_neg]
    · exact h.columns found hfound
    · rintro rfl
      exact hnames hfound

theorem dropped_setColumn_eq (h : data.Pads names wide) (hmore : data.Pads more other)
    (name : String) {values : List Value} (hvalues : values.length = data.nrows) :
    (wide.setColumn name values).dropped isReserved =
      (other.setColumn name values).dropped isReserved := by
  have hwide : values.length = wide.nrows := by
    rw [h.nrows, hvalues]
  have hother : values.length = other.nrows := by
    rw [hmore.nrows, hvalues]
  cases hname : isReserved name with
  | true =>
      rw [dropped_setColumn h.regular.width hname hwide,
        dropped_setColumn hmore.regular.width hname hother, h.dropped, hmore.dropped]
  | false =>
      rw [h.regular.dropped_setColumn_of_kept h.regular.unreserved hname hwide,
        hmore.regular.dropped_setColumn_of_kept hmore.regular.unreserved hname hother, h.dropped,
        hmore.dropped]

end Pads

/-!
# Assignments
-/

def SetNone (names : List String) (assigns : List Assign) : Prop :=
  forall a, a ∈ assigns -> a.name ∉ names

def ReadReserved (names : List String) (assigns : List Assign) : Prop :=
  forall a, a ∈ assigns -> forall name, name ∈ a.expr.mentions ->
    isReserved name = false ∨ name ∈ names

theorem SetNone.tail {names : List String} {assign : Assign} {rest : List Assign}
    (h : SetNone names (assign :: rest)) : SetNone names rest :=
  fun a ha => h a (List.mem_cons_of_mem _ ha)

theorem Pads.transform (h : data.Pads names wide) {assigns : List Assign}
    (hkeys : SetNone data.groups assigns) (hnames : SetNone names assigns) {result : Dataset}
    (hresult : transform callers assigns wide = .ok result) :
    (result.dropped isReserved).Pads names result ∧
      data.GroupedLike (result.dropped isReserved) := by
  induction assigns generalizing data wide with
  | nil =>
      cases hresult
      rw [h.dropped]
      exact ⟨h, rfl, rfl⟩
  | cons assign rest ih =>
      have hfirst : assign ∈ assign :: rest := List.mem_cons_self ..
      rcases bind_eq_ok_iff.1 hresult with ⟨values, hvalues, hresult⟩
      have hlength : values.length = data.nrows := by
        rw [← h.nrows]
        exact computed_length hvalues
      have hlike := h.groupedLike_setColumn (hkeys assign hfirst) hlength
      have hset := h.setColumn (hkeys assign hfirst) (hnames assign hfirst) hlength
      rcases ih hset (hlike.groups ▸ hkeys.tail) hnames.tail hresult with ⟨hpads, hgrouped⟩
      exact ⟨hpads, hgrouped.groups.trans hlike.groups,
        hgrouped.partitions.trans hlike.partitions⟩

/-- Assignments do the same to two paddings of a table that have the reserved columns that they
read. -/
theorem Pads.transform_eq (h : data.Pads names wide) (hmore : data.Pads more other)
    {assigns : List Assign} {read : List String} (hread : ReadReserved read assigns)
    (hsub : forall name, name ∈ read -> name ∈ names ∧ name ∈ more)
    (hkeys : SetNone data.groups assigns) (hnames : SetNone names assigns)
    (hothers : SetNone more assigns) {result : Dataset}
    (hresult : Dataset.transform callers assigns wide = .ok result) :
    exists found, Dataset.transform callers assigns other = .ok found ∧
      found.dropped isReserved = result.dropped isReserved := by
  induction assigns generalizing data wide other with
  | nil =>
      cases hresult
      exact ⟨other, rfl, hmore.dropped.trans h.dropped.symm⟩
  | cons assign rest ih =>
      have hfirst : assign ∈ assign :: rest := List.mem_cons_self ..
      rcases bind_eq_ok_iff.1 hresult with ⟨values, hvalues, hresult⟩
      have hsame : wide.computed callers assign = other.computed callers assign := by
        apply computed_congr
        · rw [h.partitions, hmore.partitions]
        · rw [h.nrows, hmore.nrows]
        · intro name hname
          exact h.lookup_eq hmore ((hread assign hfirst name hname).imp id (hsub name))
      have hlength : values.length = data.nrows := by
        rw [← h.nrows]
        exact computed_length hvalues
      have hlike := h.groupedLike_setColumn (hkeys assign hfirst) hlength
      have hset := h.setColumn (hkeys assign hfirst) (hnames assign hfirst) hlength
      have hset' := hmore.setColumn (hkeys assign hfirst) (hothers assign hfirst) hlength
      rw [← h.dropped_setColumn_eq hmore assign.name hlength] at hset'
      rcases ih hset hset' (fun a ha => hread a (List.mem_cons_of_mem _ ha))
          (hlike.groups ▸ hkeys.tail) hnames.tail hothers.tail hresult with ⟨found, hfound, heq⟩
      refine ⟨found, ?_, heq⟩
      rw [Dataset.transform, ← hsame, hvalues]
      exact hfound

end Dataset

/-!
# Columns set one after another

Assignments that read none of the columns that they set may be computed on the table as it
is, all of them, and set afterwards.  What such columns are called shows in the header only:
the rows are the same under any fresh names, and without the columns it is the table again.
-/

namespace Dataset

def setColumns (data : Dataset) (entries : List (String × List Value)) : Dataset :=
  entries.foldl (fun data entry => data.setColumn entry.1 entry.2) data

/-- Columns with a value for each row. -/
def Fits (data : Dataset) (entries : List (String × List Value)) : Prop :=
  forall entry, entry ∈ entries -> entry.2.length = data.nrows

def AreFresh (data : Dataset) (names : List String) : Prop :=
  names.Nodup ∧ forall name, name ∈ names -> name ∉ data.header

variable {callers : CallerFunctions} {data : Dataset} {entries others : List (String × List Value)}

theorem setColumns_cons (data : Dataset) (name : String) (values : List Value)
    (entries : List (String × List Value)) :
    data.setColumns ((name, values) :: entries) = (data.setColumn name values).setColumns entries :=
  rfl

theorem setColumns_groups (data : Dataset) (entries : List (String × List Value)) :
    (data.setColumns entries).groups = data.groups := by
  induction entries generalizing data with
  | nil => rfl
  | cons entry entries ih =>
      rw [setColumns_cons, ih, setColumn_groups]

theorem Fits.tail {name : String} {values : List Value}
    (h : data.Fits ((name, values) :: entries)) : (data.setColumn name values).Fits entries := by
  intro entry hentry
  rw [setColumn_nrows data name values (h _ List.mem_cons_self)]
  exact h entry (List.mem_cons_of_mem _ hentry)

/-!
# Header and rows
-/

theorem setColumn_of_fresh {name : String} (h : name ∉ data.header) (values : List Value) :
    data.setColumn name values =
      { data with
        header := data.header ++ [name]
        rows := List.zipWith (fun row value => insertCell data.width value row)
          data.rows values } := by
  rw [setColumn, if_neg]
  rwa [List.contains_iff_mem]

theorem AreFresh.tail {name : String} {names : List String} {values : List Value}
    (h : data.AreFresh (name :: names)) : (data.setColumn name values).AreFresh names := by
  rcases h with ⟨hdistinct, hnew⟩
  rcases List.nodup_cons.1 hdistinct with ⟨hname, hnames⟩
  refine ⟨hnames, ?_⟩
  intro other hother
  rw [setColumn_header, mem_headerWith_iff]
  rintro (hheader | rfl)
  · exact hnew other (List.mem_cons_of_mem _ hother) hheader
  · exact hname hother

theorem setColumns_header (h : data.AreFresh (entries.map Prod.fst)) :
    (data.setColumns entries).header = data.header ++ entries.map Prod.fst := by
  induction entries generalizing data with
  | nil => exact (List.append_nil _).symm
  | cons entry entries ih =>
      rcases entry with ⟨name, values⟩
      rw [setColumns_cons, ih h.tail, setColumn_of_fresh (h.2 name List.mem_cons_self),
        List.append_assoc]
      rfl

/-- The rows with some columns are the same whatever fresh names these have. -/
theorem setColumns_rows_eq {left right : Dataset} (hrows : left.rows = right.rows)
    (hwidth : left.width = right.width) (hleft : left.AreFresh (entries.map Prod.fst))
    (hright : right.AreFresh (others.map Prod.fst))
    (hcolumns : entries.map Prod.snd = others.map Prod.snd) :
    (left.setColumns entries).rows = (right.setColumns others).rows := by
  induction entries generalizing left right others with
  | nil =>
      rw [List.map_nil, eq_comm, List.map_eq_nil_iff] at hcolumns
      rw [hcolumns]
      exact hrows
  | cons entry entries ih =>
      rcases List.map_eq_cons_iff.1 hcolumns.symm with ⟨other, others, rfl, hvalues, hrest⟩
      rcases entry with ⟨name, values⟩
      rcases other with ⟨name', values'⟩
      dsimp only at hvalues
      subst hvalues
      rw [setColumns_cons, setColumns_cons]
      apply ih _ _ hleft.tail hright.tail hrest.symm
      · rw [setColumn_of_fresh (hleft.2 name List.mem_cons_self),
          setColumn_of_fresh (hright.2 name' List.mem_cons_self), hrows, hwidth]
      · rw [setColumn_of_fresh (hleft.2 name List.mem_cons_self),
          setColumn_of_fresh (hright.2 name' List.mem_cons_self)]
        simpa [width] using hwidth

theorem idxOf_of_mem_zip {header names more : List String} {name other : String}
    (hnames : (header ++ names).Nodup) (hmore : (header ++ more).Nodup)
    (h : (name, other) ∈ names.zip more) :
    (header ++ names).idxOf name = (header ++ more).idxOf other := by
  rcases List.mem_iff_getElem.1 h with ⟨i, hi, hpair⟩
  rw [List.length_zip] at hi
  rw [List.getElem_zip, Prod.mk.injEq] at hpair
  have hplace : forall {list : List String}, (header ++ list).Nodup -> forall hlt : i < list.length,
      (header ++ list).idxOf list[i] = header.length + i := by
    intro list hlist hlt
    have hfresh : list[i] ∉ header := fun hmem =>
      (List.nodup_append.1 hlist).2.2 _ hmem _ (List.getElem_mem hlt) rfl
    rw [List.idxOf_append_of_notMem hfresh, hlist.of_append_right.idxOf_getElem i hlt]
  rw [← hpair.1, ← hpair.2, hplace hnames (by omega), hplace hmore (by omega)]

/-!
# Dropping the columns again
-/

section Dropped

variable {test : String -> Bool}

theorem dropped_setColumns (hwidth : data.HasWidth) (hfits : data.Fits entries)
    (h : forall entry, entry ∈ entries -> test entry.1 = true) :
    (data.setColumns entries).dropped test = data.dropped test := by
  induction entries generalizing data with
  | nil => rfl
  | cons entry entries ih =>
      rcases entry with ⟨name, values⟩
      rcases List.forall_mem_cons.1 h with ⟨hname, hrest⟩
      rw [setColumns_cons, ih (setColumn_hasWidth hwidth name values) hfits.tail hrest,
        dropped_setColumn hwidth hname (hfits _ List.mem_cons_self)]

theorem IsRegular.dropped_setColumns_of_kept (hdata : data.IsRegular)
    (hkeys : forall key, key ∈ data.groups -> test key = false) (hfits : data.Fits entries)
    (h : forall entry, entry ∈ entries -> test entry.1 = false) :
    (data.setColumns entries).dropped test = (data.dropped test).setColumns entries := by
  induction entries generalizing data with
  | nil => rfl
  | cons entry entries ih =>
      rcases entry with ⟨name, values⟩
      rcases List.forall_mem_cons.1 h with ⟨hname, hrest⟩
      have hset : forall key, key ∈ (data.setColumn name values).groups -> test key = false := by
        rwa [setColumn_groups]
      rw [setColumns_cons, ih (hdata.setColumn name values) hset hfits.tail hrest,
        hdata.dropped_setColumn_of_kept hkeys hname (hfits _ List.mem_cons_self)]
      rfl

end Dropped

theorem IsRegular.setColumns (h : data.IsRegular) (entries : List (String × List Value)) :
    (data.setColumns entries).IsRegular := by
  induction entries generalizing data with
  | nil => exact h
  | cons entry entries ih => exact ih (h.setColumn entry.1 entry.2)

/-!
# Computing the columns
-/

def valuesOf (callers : CallerFunctions) (data : Dataset) (e : Expr) : Outcome (List Value) :=
  data.computed callers { name := "", expr := e, source := none }

theorem inFragment_agrees {alpha : Type} (source : String) (outcome : Outcome alpha) :
    Agrees (Outcome.inFragment source outcome) outcome := by
  cases outcome with
  | error failure => cases failure <;> exact Eq.refl none
  | ok value => exact .rfl

theorem spread_agrees (name other : String) (size : Nat) (value : Value) :
    Agrees (spread name size value) (spread other size value) := by
  unfold spread
  split
  · split
    · exact .rfl
    · exact Eq.refl none
  · exact .rfl

theorem groupValues_agrees (columns : List (String × List Value)) {assign another : Assign}
    (h : assign.expr = another.expr) (rows : List Nat) :
    Agrees (groupValues callers columns assign rows)
      (groupValues callers columns another rows) := by
  apply (inFragment_agrees _ _).trans
  apply Agrees.trans _ (inFragment_agrees _ _).symm
  rw [h]
  exact Agrees.rfl.bind fun value _ => spread_agrees _ _ rows.length value

theorem placedValues_agrees (columns : List (String × List Value)) {assign another : Assign}
    (h : assign.expr = another.expr) (groups : List Partition) :
    Agrees (placedValues callers columns assign groups)
      (placedValues callers columns another groups) := by
  induction groups with
  | nil => exact .rfl
  | cons group rest ih =>
      rw [placedValues, placedValues]
      apply (groupValues_agrees columns h group.rows).bind
      intro values _
      apply ih.bind
      intro others _
      exact .rfl

theorem computed_agrees (assign : Assign) :
    Agrees (data.computed callers assign) (data.valuesOf callers assign.expr) := by
  have hplaced : forall groups, Agrees (placedValues callers data.columns assign groups)
      (placedValues callers data.columns { name := "", expr := assign.expr, source := none }
        groups) := by
    intro groups
    apply placedValues_agrees
    rfl
  unfold valuesOf computed
  cases data.partitions with
  | error fault => exact Eq.refl none
  | ok groups => exact (hplaced groups).bind fun placed _ => .rfl

theorem IsRegular.valuesOf_setColumn (h : data.IsRegular) {name : String} {values : List Value}
    (hvalues : values.length = data.nrows) (hkeys : name ∉ data.groups) {e : Expr}
    (hname : name ∉ e.mentions) :
    (data.setColumn name values).valuesOf callers e = data.valuesOf callers e := by
  apply computed_congr (h.partitions_setColumn hkeys hvalues)
    (setColumn_nrows data name values hvalues)
  intro other hother
  rw [h.lookup_setColumn hvalues, if_neg]
  rintro rfl
  exact hname hother

def AreIndependent (assigns : List Assign) : Prop :=
  forall a, a ∈ assigns -> forall b, b ∈ assigns -> b.name ∉ a.expr.mentions

def AreSequential (assigns : List Assign) : Prop :=
  assigns.Pairwise fun before after => before.name ∉ after.expr.mentions

theorem AreIndependent.areSequential {assigns : List Assign} (h : AreIndependent assigns) :
    AreSequential assigns :=
  List.pairwise_of_forall_mem_list fun before hbefore after hafter => h after hafter before hbefore

theorem transform_agrees (hdata : data.IsRegular) {assigns : List Assign}
    (hapart : AreSequential assigns) (hkeys : SetNone data.groups assigns) :
    Agrees (transform callers assigns data)
      (((assigns.map Assign.expr).mapM (data.valuesOf callers)).map fun columns =>
        data.setColumns ((assigns.map Assign.name).zip columns)) := by
  induction assigns generalizing data with
  | nil => exact .rfl
  | cons assign rest ih =>
      rcases List.forall_mem_cons.1 hkeys with ⟨hkey, hrestKeys⟩
      rcases List.pairwise_cons.1 hapart with ⟨hfirst, hrestApart⟩
      rw [transform, List.map_cons, List.map_cons, mapM_cons_eq]
      rcases (computed_agrees assign).both with
        ⟨values, hvalues, hvaluesOf⟩ | ⟨_, _, hvalues, hvaluesOf⟩
      · have hlength : values.length = data.nrows := computed_length hvalues
        have hrest := ih (hdata.setColumn assign.name values) hrestApart (fun a ha => by
          rw [setColumn_groups]
          exact hrestKeys a ha)
        -- what is set by now is mentioned by none of the others
        have hsame : (rest.map Assign.expr).mapM
              ((data.setColumn assign.name values).valuesOf callers) =
            (rest.map Assign.expr).mapM (data.valuesOf callers) := by
          apply mapM_congr
          intro e he
          rcases List.mem_map.1 he with ⟨a, ha, rfl⟩
          exact hdata.valuesOf_setColumn hlength hkey (hfirst a ha)
        rw [hsame] at hrest
        rw [hvalues, hvaluesOf]
        apply hrest.trans
        cases (rest.map Assign.expr).mapM (data.valuesOf callers) with
        | error failure => exact .rfl
        | ok columns => exact .rfl
      · rw [hvalues, hvaluesOf]
        exact Eq.refl none

theorem valuesOf_length (e : Expr) :
    Compile.Gives (fun values => values.length = data.nrows) (data.valuesOf callers e) := by
  cases hvalues : data.valuesOf callers e with
  | error failure => trivial
  | ok values => exact computed_length hvalues

theorem length_of_mem_mapM {es : List Expr} {columns : List (List Value)}
    (h : es.mapM (data.valuesOf callers) = .ok columns) {column : List Value}
    (hcolumn : column ∈ columns) : column.length = data.nrows := by
  have hgives : Compile.Gives (fun columns => forall column, column ∈ columns ->
      column.length = data.nrows) (es.mapM (data.valuesOf callers)) :=
    Ends.mapM fun e _ => valuesOf_length e
  rw [h] at hgives
  exact hgives column hcolumn

end Dataset
end Wrangle
