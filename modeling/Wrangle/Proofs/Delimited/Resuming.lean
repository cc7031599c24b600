import Wrangle.Delimited.Reader
import Wrangle.Delimited.Writer
import Wrangle.Proofs.Outcome

/-!
# Reading on from the middle of a record

A text is cut into lines before it is read.  In a dialect that doubles quotes
and escapes nothing, the cuts can be forgotten: reading on from any progress is
a matter of single characters, also where a quoted field has line ends in it.
-/

namespace Wrangle
namespace Delimited

/-!
# Dialects that can hold every text
-/

/-- Quotes are doubled, nothing is escaped, and no character has two meanings. -/
structure Dialect.IsFaithful (dialect : Dialect) (mark : Char) : Prop where
  quote : dialect.quote = some mark
  escape : dialect.escape = none
  doubles : dialect.doublesQuotes = true
  keepsBlanks : dialect.skipsBlanks = false
  quoting : dialect.quoting = .whereNeeded ∨ dialect.quoting = .always
  delimiter_ne_mark : dialect.delimiter ≠ mark
  delimiter_isBreak : isBreak (some dialect.delimiter) = false
  mark_isBreak : isBreak (some mark) = false
  terminator : dialect.terminator = "\r\n" ∨ dialect.terminator = "\n"

namespace Dialect

theorem isFaithful_commas : commas.IsFaithful '\x22' := by
  constructor <;> decide

theorem isFaithful_tabs : tabs.IsFaithful '\x22' := by
  constructor <;> decide

namespace IsFaithful

variable {dialect : Dialect} {mark : Char}

theorem quoting_ne_never (h : dialect.IsFaithful mark) : dialect.quoting ≠ .never := by
  rcases h.quoting with hq | hq
  · rw [hq]
    decide
  · rw [hq]
    decide

theorem quoting_ne_exceptNumbers (h : dialect.IsFaithful mark) :
    dialect.quoting ≠ .exceptNumbers := by
  rcases h.quoting with hq | hq
  · rw [hq]
    decide
  · rw [hq]
    decide

theorem opensQuotes_eq (h : dialect.IsFaithful mark) (c : Char) :
    opensQuotes dialect c = (c == mark) := by
  simp [opensQuotes, h.quote, h.quoting_ne_never]

theorem opensQuotes_delimiter (h : dialect.IsFaithful mark) :
    opensQuotes dialect dialect.delimiter = false := by
  simp [h.opensQuotes_eq, h.delimiter_ne_mark]

end IsFaithful
end Dialect

/-!
# Lines and characters
-/

/-- What is read of a text that goes on where some progress has been made. -/
def resume (dialect : Dialect) (progress : Progress) (text : List Char) :
    Except Fault (List (List Value)) :=
  readLines dialect progress (linesOf text)

theorem read_eq_resume (dialect : Dialect) (text : String) :
    read dialect text = resume dialect Progress.start text.toList :=
  rfl

attribute [local simp] linesFrom

theorem linesFrom_eq_cons {text : List Char} (h : text ≠ []) :
    exists line others, forall kept,
      linesFrom kept text = (kept.reverse ++ line) :: others := by
  induction text with
  | nil => exact absurd rfl h
  | cons c rest ih =>
      by_cases hpair : c = '\r' ∧ rest.head? = some '\n'
      · rcases hpair with ⟨rfl, hhead⟩
        rcases List.head?_eq_some_iff.mp hhead with ⟨others, rfl⟩
        exact ⟨['\r', '\n'], linesFrom [] others, fun kept => by simp [linesFrom]⟩
      · have hstep : forall kept, linesFrom kept (c :: rest) =
            if c == '\r' || c == '\n' then (c :: kept).reverse :: linesFrom [] rest
            else linesFrom (c :: kept) rest := by
          intro kept
          rw [linesFrom]
          intro others hc hrest
          exact hpair ⟨hc, by rw [hrest]; rfl⟩
        by_cases hbreak : (c == '\r' || c == '\n') = true
        · exact ⟨[c], linesFrom [] rest, fun kept => by simp [hstep, hbreak]⟩
        · cases rest with
          | nil => exact ⟨[c], [], fun kept => by simp [hstep, hbreak, linesFrom]⟩
          | cons d others =>
              rcases ih (List.cons_ne_nil d others) with ⟨line, more, hline⟩
              exact ⟨c :: line, more, fun kept => by simp [hstep, hbreak, hline]⟩

theorem isBreak_some (c : Char) : isBreak (some c) = (c == '\r' || c == '\n') := by
  simp [isBreak]

theorem readLine_cons (dialect : Dialect) (progress : Progress) (c : Char) (line : List Char) :
    readLine dialect progress (c :: line) =
      step dialect progress (some c) >>= fun next => readLine dialect next line :=
  rfl

theorem resume_cons (dialect : Dialect) (progress : Progress) {c : Char} {rest : List Char}
    (hc : isBreak (some c) = false) (h : rest ≠ []) :
    resume dialect progress (c :: rest) =
      step dialect progress (some c) >>= fun next => resume dialect next rest := by
  rw [isBreak_some] at hc
  rcases linesFrom_eq_cons h with ⟨line, others, hline⟩
  have hcut : linesOf (c :: rest) = (c :: line) :: others := by
    unfold linesOf
    rw [linesFrom]
    · simp [hc, hline]
    · intro _ hr _
      simp [hr] at hc
  have hrest : linesOf rest = line :: others := hline []
  unfold resume
  rw [hcut, hrest, readLines, readLine_cons]
  cases step dialect progress (some c) with
  | error e => rfl
  | ok next => rfl

theorem resume_line {dialect : Dialect} {progress next : Progress} {line text rest : List Char}
    (hcut : linesOf text = line :: linesOf rest) (h : readLine dialect progress line = .ok next) :
    resume dialect progress text =
      if next.place == .recordStart then
        (resume dialect Progress.start rest).map fun others => next.record :: others
      else resume dialect next rest := by
  unfold resume
  rw [hcut, readLines, h, ok_bind]
  split
  · cases readLines dialect Progress.start (linesOf rest) with
    | error e => rfl
    | ok others => rfl
  · rfl

theorem linesOf_pair (rest : List Char) :
    linesOf ('\r' :: '\n' :: rest) = ['\r', '\n'] :: linesOf rest := by
  simp [linesOf, linesFrom]

theorem linesOf_feed (rest : List Char) : linesOf ('\n' :: rest) = ['\n'] :: linesOf rest := by
  simp [linesOf, linesFrom]

theorem linesOf_break {c : Char} {rest : List Char} (hc : isBreak (some c) = true)
    (h : c = '\r' -> rest.head? ≠ some '\n') : linesOf (c :: rest) = [c] :: linesOf rest := by
  rw [isBreak_some] at hc
  unfold linesOf
  rw [linesFrom]
  · simp [hc]
  · intro others hr hrest
    exact h hr (by rw [hrest]; rfl)

/-!
# Quoted fields
-/

/-- Progress in a field that is not read as a number. -/
def Progress.within (place : Place) (field : List Char) (fields : List Value) : Progress :=
  { place := place, field := field, isNumber := false, fields := fields }

section Places

variable (dialect : Dialect) (field : List Char) (fields : List Value) (c : Char)

theorem step_within_recordStart :
    step dialect (Progress.within .recordStart field fields) (some c) =
      if isBreak (some c) then .ok (Progress.within .lineEnd field fields)
      else readStart dialect (Progress.within .recordStart field fields) c :=
  rfl

theorem step_within_fieldStart :
    step dialect (Progress.within .fieldStart field fields) (some c) =
      if isBreak (some c) then (Progress.within .fieldStart field fields).save .lineEnd
      else readStart dialect (Progress.within .fieldStart field fields) c :=
  rfl

theorem step_within_inField :
    step dialect (Progress.within .inField field fields) (some c) =
      if isBreak (some c) then (Progress.within .inField field fields).save .lineEnd
      else readPlain dialect (Progress.within .inField field fields) c :=
  rfl

theorem step_within_inQuotes :
    step dialect (Progress.within .inQuotes field fields) (some c) =
      .ok (readQuoted dialect (Progress.within .inQuotes field fields) c) :=
  rfl

theorem step_within_afterQuote :
    step dialect (Progress.within .afterQuote field fields) (some c) =
      if opensQuotes dialect c || c == dialect.delimiter || !isBreak (some c) then
        readAfterQuote dialect (Progress.within .afterQuote field fields) c
      else (Progress.within .afterQuote field fields).save .lineEnd :=
  rfl

end Places

section Faithful

variable {dialect : Dialect} {mark : Char}

theorem step_inQuotes (h : dialect.IsFaithful mark) {c : Char} (hc : c ≠ mark)
    (field : List Char) (fields : List Value) :
    step dialect (Progress.within .inQuotes field fields) (some c) =
      .ok (Progress.within .inQuotes (c :: field) fields) := by
  rw [step_within_inQuotes]
  simp [readQuoted, Progress.within, Progress.add, h.escape, h.opensQuotes_eq, hc]

theorem step_mark (h : dialect.IsFaithful mark) (field : List Char) (fields : List Value) :
    step dialect (Progress.within .inQuotes field fields) (some mark) =
      .ok (Progress.within .afterQuote field fields) := by
  rw [step_within_inQuotes]
  simp [readQuoted, Progress.within, Progress.move, h.escape, h.opensQuotes_eq, h.doubles]

theorem step_secondMark (h : dialect.IsFaithful mark) (field : List Char)
    (fields : List Value) :
    step dialect (Progress.within .afterQuote field fields) (some mark) =
      .ok (Progress.within .inQuotes (mark :: field) fields) := by
  rw [step_within_afterQuote]
  simp [readAfterQuote, Progress.within, Progress.add, h.opensQuotes_eq]

theorem resume_inQuotes (h : dialect.IsFaithful mark) {c : Char} (hc : c ≠ mark)
    (field : List Char) (fields : List Value) {rest : List Char} (hrest : rest ≠ []) :
    resume dialect (Progress.within .inQuotes field fields) (c :: rest) =
      resume dialect (Progress.within .inQuotes (c :: field) fields) rest := by
  by_cases hbreak : isBreak (some c) = true
  · by_cases hpair : c = '\r' ∧ rest.head? = some '\n'
    · -- the pair is one line end, and both of its characters are read in one line
      rcases hpair with ⟨rfl, hhead⟩
      rcases List.head?_eq_some_iff.mp hhead with ⟨others, rfl⟩
      have hfeed : '\n' ≠ mark := by
        rintro rfl
        exact absurd h.mark_isBreak (by decide)
      have hboth : readLine dialect (Progress.within .inQuotes field fields) ['\r', '\n'] =
          .ok (Progress.within .inQuotes ('\n' :: '\r' :: field) fields) := by
        rw [readLine_cons, step_inQuotes h hc, ok_bind, readLine_cons,
          step_inQuotes h hfeed]
        rfl
      have hone : readLine dialect (Progress.within .inQuotes ('\r' :: field) fields) ['\n'] =
          .ok (Progress.within .inQuotes ('\n' :: '\r' :: field) fields) := by
        rw [readLine_cons, step_inQuotes h hfeed]
        rfl
      rw [resume_line (linesOf_pair others) hboth, resume_line (linesOf_feed others) hone]
    · have hcut : linesOf (c :: rest) = [c] :: linesOf rest :=
        linesOf_break hbreak fun hr hhead => hpair ⟨hr, hhead⟩
      have hone : readLine dialect (Progress.within .inQuotes field fields) [c] =
          .ok (Progress.within .inQuotes (c :: field) fields) := by
        rw [readLine_cons, step_inQuotes h hc]
        rfl
      rw [resume_line hcut hone]
      rfl
  · rw [resume_cons _ _ (Bool.eq_false_iff.mpr hbreak) hrest, step_inQuotes h hc]
    rfl

def doubled (mark : Char) (field : List Char) : List Char :=
  field.flatMap fun c => if c == mark then [mark, mark] else [c]

theorem doubled_cons_mark (mark : Char) (field : List Char) :
    doubled mark (mark :: field) = mark :: mark :: doubled mark field := by
  simp [doubled]

theorem doubled_cons {mark c : Char} (hc : c ≠ mark) (field : List Char) :
    doubled mark (c :: field) = c :: doubled mark field := by
  simp [doubled, hc]

theorem doubled_eq_self {mark : Char} {field : List Char} (h : mark ∉ field) :
    doubled mark field = field := by
  induction field with
  | nil => rfl
  | cons c rest ih =>
      rw [List.mem_cons, not_or] at h
      rw [doubled_cons (Ne.symm h.1), ih h.2]

theorem resume_doubled (h : dialect.IsFaithful mark) (content : List Char) (field : List Char)
    (fields : List Value) (rest : List Char) :
    resume dialect (Progress.within .inQuotes field fields)
        (doubled mark content ++ mark :: rest) =
      resume dialect (Progress.within .inQuotes (content.reverse ++ field) fields)
        (mark :: rest) := by
  induction content generalizing field with
  | nil => rfl
  | cons c content ih =>
      have hmore : doubled mark content ++ mark :: rest ≠ [] := by simp
      have hreverse : (c :: content).reverse ++ field = content.reverse ++ c :: field := by simp
      rw [hreverse]
      by_cases hc : c = mark
      · subst hc
        rw [doubled_cons_mark, List.cons_append, List.cons_append,
          resume_cons _ _ h.mark_isBreak (List.cons_ne_nil _ _), step_mark h, ok_bind,
          resume_cons _ _ h.mark_isBreak hmore, step_secondMark h, ok_bind]
        exact ih (c :: field)
      · rw [doubled_cons hc, List.cons_append, resume_inQuotes h hc field fields hmore]
        exact ih (c :: field)

/-!
# Fields without quotes
-/

structure IsOrdinary (dialect : Dialect) (mark c : Char) : Prop where
  ne_mark : c ≠ mark
  ne_delimiter : c ≠ dialect.delimiter
  isBreak : isBreak (some c) = false

def IsFieldStart (place : Place) : Prop :=
  place = .recordStart ∨ place = .fieldStart

theorem step_ordinary (h : dialect.IsFaithful mark) {c : Char} (hc : IsOrdinary dialect mark c)
    {place : Place} (hplace : IsFieldStart place ∨ place = .inField) (field : List Char)
    (fields : List Value) :
    step dialect (Progress.within place field fields) (some c) =
      .ok (Progress.within .inField (c :: field) fields) := by
  rcases hplace with (rfl | rfl) | rfl
  · rw [step_within_recordStart]
    simp [hc.isBreak, readStart, h.opensQuotes_eq, hc.ne_mark,
      h.escape, h.keepsBlanks, hc.ne_delimiter, h.quoting_ne_exceptNumbers, Progress.within,
      Progress.add]
  · rw [step_within_fieldStart]
    simp [hc.isBreak, readStart, h.opensQuotes_eq, hc.ne_mark,
      h.escape, h.keepsBlanks, hc.ne_delimiter, h.quoting_ne_exceptNumbers, Progress.within,
      Progress.add]
  · rw [step_within_inField]
    simp [hc.isBreak, readPlain, h.escape, hc.ne_delimiter, Progress.within, Progress.add]

theorem resume_inField (h : dialect.IsFaithful mark) {content : List Char}
    (hcontent : forall c, c ∈ content -> IsOrdinary dialect mark c) (field : List Char)
    (fields : List Value) {rest : List Char} (hrest : rest ≠ []) :
    resume dialect (Progress.within .inField field fields) (content ++ rest) =
      resume dialect (Progress.within .inField (content.reverse ++ field) fields) rest := by
  induction content generalizing field with
  | nil => rfl
  | cons c content ih =>
      have hc := hcontent c List.mem_cons_self
      rw [List.cons_append, resume_cons _ _ hc.isBreak (by simp [hrest]),
        step_ordinary h hc (.inr rfl), ok_bind,
        ih (fun d hd => hcontent d (List.mem_cons_of_mem c hd))]
      simp

/-!
# The end of a field
-/

def IsFieldEnd (place : Place) : Prop :=
  place = .fieldStart ∨ place = .inField ∨ place = .afterQuote

theorem save_within {field : List Char} (hlimit : field.length <= Progress.fieldLimit)
    (place next : Place) (fields : List Value) :
    (Progress.within place field fields).save next =
      .ok (Progress.within next [] (.str (String.ofList field.reverse) :: fields)) := by
  have hnot : ¬ Progress.fieldLimit < field.length := Nat.not_lt.mpr hlimit
  simp [Progress.save, Progress.within, hnot]

theorem resume_delimiter (h : dialect.IsFaithful mark) {place : Place}
    (hplace : place = .recordStart ∨ IsFieldEnd place) {field : List Char}
    (hlimit : field.length <= Progress.fieldLimit) (fields : List Value) {rest : List Char}
    (hrest : rest ≠ []) :
    resume dialect (Progress.within place field fields) (dialect.delimiter :: rest) =
      resume dialect
        (Progress.within .fieldStart [] (.str (String.ofList field.reverse) :: fields)) rest := by
  have hstep : step dialect (Progress.within place field fields) (some dialect.delimiter) =
      (Progress.within place field fields).save .fieldStart := by
    rcases hplace with rfl | rfl | rfl | rfl
    · rw [step_within_recordStart]
      simp [h.delimiter_isBreak, readStart, h.opensQuotes_delimiter, h.escape, h.keepsBlanks]
    · rw [step_within_fieldStart]
      simp [h.delimiter_isBreak, readStart, h.opensQuotes_delimiter, h.escape, h.keepsBlanks]
    · rw [step_within_inField]
      simp [h.delimiter_isBreak, readPlain, h.escape]
    · rw [step_within_afterQuote]
      simp [readAfterQuote, h.opensQuotes_delimiter]
  rw [resume_cons _ _ h.delimiter_isBreak hrest, hstep, save_within hlimit, ok_bind]

theorem step_fieldEnd (h : dialect.IsFaithful mark) {c : Char} (hc : isBreak (some c) = true)
    {place : Place} (hplace : IsFieldEnd place) {field : List Char}
    (hlimit : field.length <= Progress.fieldLimit) (fields : List Value) :
    step dialect (Progress.within place field fields) (some c) =
      .ok (Progress.within .lineEnd [] (.str (String.ofList field.reverse) :: fields)) := by
  have hmark : c ≠ mark := by
    rintro rfl
    exact absurd hc (by simp [h.mark_isBreak])
  have hdelimiter : c ≠ dialect.delimiter := by
    rintro rfl
    exact absurd hc (by simp [h.delimiter_isBreak])
  have hstep : step dialect (Progress.within place field fields) (some c) =
      (Progress.within place field fields).save .lineEnd := by
    rcases hplace with rfl | rfl | rfl
    · rw [step_within_fieldStart]
      simp [hc]
    · rw [step_within_inField]
      simp [hc]
    · rw [step_within_afterQuote]
      simp [hc, h.opensQuotes_eq, hmark, hdelimiter]
  rw [hstep, save_within hlimit]

theorem resume_terminator (h : dialect.IsFaithful mark) {progress : Progress}
    {fields : List Value}
    (hstep : forall c, isBreak (some c) = true ->
      step dialect progress (some c) = .ok (Progress.within .lineEnd [] fields))
    (rest : List Char) :
    resume dialect progress (dialect.terminator.toList ++ rest) =
      (resume dialect Progress.start rest).map fun others => fields.reverse :: others := by
  rcases h.terminator with hends | hends
  · have hline : readLine dialect progress ['\r', '\n'] =
        .ok (Progress.within .recordStart [] fields) := by
      rw [readLine_cons, hstep '\r' rfl]
      rfl
    rw [hends, show "\r\n".toList ++ rest = '\r' :: '\n' :: rest from rfl,
      resume_line (linesOf_pair rest) hline]
    rfl
  · have hline : readLine dialect progress ['\n'] =
        .ok (Progress.within .recordStart [] fields) := by
      rw [readLine_cons, hstep '\n' rfl]
      rfl
    rw [hends, show "\n".toList ++ rest = '\n' :: rest from rfl,
      resume_line (linesOf_feed rest) hline]
    rfl

end Faithful
end Delimited
end Wrangle
