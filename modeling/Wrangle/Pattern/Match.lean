import Wrangle.Pattern.Basic

/-!
# Matching

A pattern is matched at a place by trying its possibilities in order; each of
them hands the place it has come to on to what follows, and the next one is
tried when that fails.
-/

namespace Wrangle
namespace Pattern

/-- A place in a text, and the groups that have been matched on the way to it. -/
structure Place where
  position : Nat
  groups : List (Nat × Nat × Nat)

abbrev Next := Place -> Option Place

abbrev Matcher := Place -> Next -> Option Place

def Place.span? (place : Place) (index : Nat) : Option (Nat × Nat) :=
  place.groups.lookup index

def Place.withGroup (place : Place) (index start : Nat) : Place :=
  { place with groups := (index, start, place.position) :: place.groups.filter (·.1 != index) }

def Place.moved (place : Place) (count : Nat) : Place :=
  { place with position := place.position + count }

/-!
# Places
-/

def wordAt (plain : Bool) (text : Array Char) (position : Nat) : Bool :=
  (text[position]?).any fun c => CharClass.word.contains plain c

def anchorHolds (text : Array Char) (position : Nat) : Anchor -> Bool
  | .textStart => position == 0
  | .textEnd => position == text.size
  | .lastLineEnd =>
      position == text.size || (position + 1 == text.size && text[position]? == some '\n')
  | .lineStart => position == 0 || text[position - 1]? == some '\n'
  | .lineEnd => position == text.size || text[position]? == some '\n'
  | .wordEdge plain negated =>
      !text.isEmpty &&
        ((wordAt plain text position !=
          (decide (0 < position) && wordAt plain text (position - 1))) != negated)

def repeatsAt (style : MatchStyle) (text : Array Char) (start count position : Nat) : Bool :=
  (List.range count).all fun i =>
    match text[start + i]?, text[position + i]? with
    | some c, some d =>
        if style.ignoreCase then
          lowerCode style.plain c.toNat == lowerCode style.plain d.toNat
        else c == d
    | _, _ => false

/-!
# Repetitions

A repetition that took no character is not repeated once the least number of
repetitions is reached.
-/

def mayRepeat (most : Option Nat) (count : Nat) (last : Option Nat) (place : Place) : Bool :=
  most.all (fun n => decide (count < n)) && last != some place.position

def repeatGreedy (step : Matcher) (least : Nat) (most : Option Nat) :
    Nat -> Nat -> Option Nat -> Matcher
  | 0, _, _, place, next => next place
  | rounds + 1, count, last, place, next =>
      if count < least then
        step place fun after => repeatGreedy step least most rounds (count + 1) last after next
      else
        let again :=
          if mayRepeat most count last place then
            step place fun after =>
              repeatGreedy step least most rounds (count + 1) (some place.position) after next
          else none
        again.orElse fun _ => next place

def repeatReluctant (step : Matcher) (least : Nat) (most : Option Nat) :
    Nat -> Nat -> Option Nat -> Matcher
  | 0, _, _, place, next => next place
  | rounds + 1, count, last, place, next =>
      if count < least then
        step place fun after => repeatReluctant step least most rounds (count + 1) last after next
      else
        (next place).orElse fun _ =>
          if mayRepeat most count last place then
            step place fun after =>
              repeatReluctant step least most rounds (count + 1) (some place.position) after next
          else none

def repeatPossessive (step : Matcher) (least : Nat) (most : Option Nat) :
    Nat -> Nat -> Option Nat -> Place -> Option Place
  | 0, _, _, place => some place
  | rounds + 1, count, last, place =>
      if count < least then
        (step place some).bind (repeatPossessive step least most rounds (count + 1) last)
      else if mayRepeat most count last place then
        match step place some with
        | some after =>
            repeatPossessive step least most rounds (count + 1) (some place.position) after
        | none => some place
      else some place

/-!
# Patterns
-/

def takeChar (text : Array Char) (test : Char -> Bool) : Matcher := fun place next =>
  match text[place.position]? with
  | some c => if test c then next (place.moved 1) else none
  | none => none

def run (text : Array Char) : Pattern -> Matcher
  | empty => fun place next => next place
  | anyChar newline => takeChar text fun c => newline || c != '\n'
  | oneOf style set => takeChar text (set.contains style)
  | anchor condition => fun place next =>
      if anchorHolds text place.position condition then next place else none
  | sequence first second => fun place next =>
      run text first place fun after => run text second after next
  | choice first second => fun place next =>
      (run text first place next).orElse fun _ => run text second place next
  | repetition least most greed body => fun place next =>
      let rounds := text.size + least + 2
      match greed with
      | .greedy => repeatGreedy (run text body) least most rounds 0 none place next
      | .reluctant => repeatReluctant (run text body) least most rounds 0 none place next
      | .possessive =>
          (repeatPossessive (run text body) least most rounds 0 none place).bind next
  | group index body => fun place next =>
      run text body place fun after => next (after.withGroup index place.position)
  | reference style index _ _ => fun place next =>
      match place.span? index with
      | some (start, stop) =>
          if repeatsAt style text start (stop - start) place.position then
            next (place.moved (stop - start))
          else none
      | none => none
  | flagged body => run text body
  | lookAhead negated body => fun place next =>
      match run text body place some with
      | some after =>
          if negated then none else next { place with groups := after.groups }
      | none => if negated then next place else none
  | lookBehind negated width body => fun place next =>
      let found :=
        if place.position < width then none
        else run text body { place with position := place.position - width } some
      match found with
      | some after =>
          if negated then none else next { place with groups := after.groups }
      | none => if negated then next place else none
  | atomic body => fun place next => (run text body place some).bind next
  | conditional index whenSet otherwise => fun place next =>
      if (place.span? index).isSome then run text whenSet place next
      else
        match otherwise with
        | some body => run text body place next
        | none => next place

def occursIn (p : Pattern) (s : String) : Bool :=
  let text := s.toList.toArray
  (List.range (text.size + 1)).any fun start =>
    (run text p { position := start, groups := [] } some).isSome

end Pattern
end Wrangle
