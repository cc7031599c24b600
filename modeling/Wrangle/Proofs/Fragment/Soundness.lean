import Wrangle.Proofs.Fragment.Grammar

/-!
# Soundness of the parser

Whatever a reader takes from the front of a sequence of tokens derives the tree
that it returns.  The proof goes by induction on the depth of the descent; for
each reader it follows the reader's own case distinctions.
-/

namespace Wrangle
namespace Grammar

open Wrangle.Parser

/-!
# What was taken
-/

def Takes (good : List Token -> Prop) (ts rest : List Located) : Prop :=
  exists front, ts = front ++ rest ∧ good (front.map Located.token)

/-- The tokens before the rest derive a phrase. -/
abbrev Reads (phrase : Phrase) : List Located -> List Located -> Prop :=
  Takes fun front => Derives front phrase

namespace Takes

variable {good : List Token -> Prop} {ts mid rest : List Located}

theorem afterToken {token : Token} (ht : (next ts).token = token) (hne : token ≠ .finish)
    (h : Takes (fun front => good (token :: front)) ts.tail rest) : Takes good ts rest := by
  rcases h with ⟨front, hfront, hgood⟩
  rcases eq_cons_of_next_token ht hne with ⟨t, htok, hts⟩
  rw [hfront] at hts
  refine ⟨t :: front, by rw [hts]; simp, ?_⟩
  rw [List.map_cons, htok]
  exact hgood

theorem afterSymbol {s : Symbol} (hs : isSymbol s ts = true)
    (h : Takes (fun front => good (.symbol s :: front)) ts.tail rest) : Takes good ts rest := by
  exact afterToken (isSymbol_iff.mp hs) (by intro hf; cases hf) h

theorem around {first : List Token -> Prop} {token : Token} (h : Takes first ts mid)
    (ht : (next mid).token = token) (hne : token ≠ .finish)
    (hm : Takes (fun back => forall front, first front -> good (front ++ token :: back))
      mid.tail rest) : Takes good ts rest := by
  rcases h with ⟨front, rfl, hfront⟩
  rcases hm with ⟨back, hback, hgood⟩
  rcases eq_cons_of_next_token ht hne with ⟨t, htok, hmid⟩
  rw [hback] at hmid
  refine ⟨front ++ t :: back, by rw [hmid]; simp, ?_⟩
  rw [List.map_append, List.map_cons, htok]
  exact hgood _ hfront

theorem imp {first : List Token -> Prop} (h : Takes first ts rest)
    (himp : forall front, first front -> good front) : Takes good ts rest := by
  rcases h with ⟨front, hts, hfront⟩
  exact ⟨front, hts, himp _ hfront⟩

theorem nil (h : good []) : Takes good ts ts :=
  ⟨[], rfl, h⟩

theorem beforeSymbol {first : List Token -> Prop} {s : Symbol} (h : Takes first ts mid)
    (hs : (next mid).token = .symbol s)
    (himp : forall front, first front -> good (front ++ [.symbol s])) :
    Takes good ts mid.tail := by
  exact h.around hs (by intro hf; cases hf) (nil himp)

theorem token {token : Token} (ht : (next ts).token = token) (hne : token ≠ .finish)
    (h : good [token]) : Takes good ts ts.tail := by
  exact afterToken ht hne (nil h)

end Takes

theorem next_of_expect {s : Symbol} {ts : List Located} {r : Read Unit}
    (h : expect s ts = .ok r) : (next ts).token = .symbol s ∧ r.2 = ts.tail := by
  unfold expect at h
  dsimp only at h
  split at h
  · rename_i found hfound
    split at h
    · rename_i heq
      cases h
      exact ⟨heq ▸ hfound, rfl⟩
    · cases h
  · cases h

theorem derives_negated {ts : List Token} {tree : Node} (h : Derives ts (.node .signed tree)) :
    Derives (.symbol .minus :: ts) (.node .signed (negated tree)) := by
  unfold negated
  split
  · exact .negativeInt h
  · exact .negativeFloat h
  · rename_i hint hfloat
    refine .negative ?_ h
    unfold isNumber
    split
    · exact absurd rfl (hint _)
    · exact absurd rfl (hfloat _ _)
    · rfl

/-!
# Soundness at a depth
-/

/-- All readers of a depth take what derives their trees. -/
structure SoundAt (depth : Nat) : Prop where
  node : forall {level : Level} {ts r}, level.read depth ts = .ok r ->
    Reads (.node level r.1) ts r.2
  chain : forall {level : Level} {left start ts r}, level.isChain = true ->
    Reads (.node level left) start ts -> level.resume depth left ts = .ok r ->
    Reads (.node level r.1) start r.2
  items : forall {closer ts r}, Parser.items depth closer ts = .ok r ->
    Reads (.items r.1) ts r.2
  arguments : forall {ts r}, Parser.arguments depth ts = .ok r ->
    Reads (.arguments r.1.1 r.1.2) ts r.2
  named : forall {ts r}, Parser.namedArguments depth ts = .ok r ->
    Reads (.named r.1) ts r.2

theorem soundAt_zero : SoundAt 0 where
  node := by
    intro level ts r h
    cases level <;> cases h
  chain := by
    intro level left start ts r hc _ h
    cases level with
    | disjunction => cases h
    | conjunction => cases h
    | sum => cases h
    | product => cases h
    | _ => cases hc
  items := by
    intro closer ts r h
    cases h
  arguments := by
    intro ts r h
    cases h
  named := by
    intro ts r h
    cases h

section Step

variable {depth : Nat} (ih : SoundAt depth)

include ih

theorem clause_sound {ts : List Located} {r : Read Node}
    (h : Parser.expression depth ts = .ok r) : Reads (.node .clause r.1) ts r.2 := by
  have hread : Level.clause.read depth ts = .ok r := h
  exact ih.node hread

theorem joined_sound {level : Level} {build : Node -> Node -> Node} {left : Node}
    {start ts : List Located} {right : Read Node}
    (hs : Reads (.node level.left left) start ts) (hjoin : level.join (next ts).token = some build)
    (hr : level.right.read depth ts.tail = .ok right) :
    Reads (.node level (build left right.1)) start right.2 := by
  have hsign := join_eq_some_iff.mp hjoin
  refine hs.around rfl ?_ ((ih.node hr).imp ?_)
  · intro hf
    rw [hf] at hsign
    cases hsign
  · intro back hback front hfront
    exact .joined hsign hfront hback

theorem once_sound {level : Level} {left : Node} {start ts : List Located} {r : Read Node}
    (hn : level.next? = some level.left) (hs : Reads (.node level.left left) start ts)
    (h : level.once depth left ts = .ok r) : Reads (.node level r.1) start r.2 := by
  unfold Level.once at h
  split at h
  · rename_i build hjoin
    rcases bind_eq_ok_iff.mp h with ⟨right, hr, hok⟩
    cases hok
    exact joined_sound ih hs hjoin hr
  · cases h
    exact hs.imp fun _ => .tighter hn

theorem chain_sound {level : Level} {left : Node} {start ts : List Located} {r : Read Node}
    (hc : level.isChain = true) (hs : Reads (.node level left) start ts)
    (h : level.resume (depth + 1) left ts = .ok r) : Reads (.node level r.1) start r.2 := by
  rw [Level.resume_chain hc] at h
  split at h
  · rename_i build hjoin
    rcases bind_eq_ok_iff.mp h with ⟨right, hr, hmore⟩
    have hleft : Reads (.node level.left left) start ts := by
      rw [Level.left_eq_of_chain hc]
      exact hs
    exact ih.chain hc (joined_sound ih hleft hjoin hr) hmore
  · cases h
    exact hs

theorem joining_sound {level : Level} {ts : List Located} {r : Read Node}
    (hj : level.isJoining = true) (h : level.read (depth + 1) ts = .ok r) :
    Reads (.node level r.1) ts r.2 := by
  cases hc : level.isChain with
  | true =>
      have hn := Level.next?_of_chain hc
      rw [Level.read_joining hj hn] at h
      rcases bind_eq_ok_iff.mp h with ⟨first, hfirst, hmore⟩
      have hstart : Reads (.node level first.1) ts first.2 :=
        (ih.node hfirst).imp fun _ => .tighter hn
      exact ih.chain hc hstart hmore
  | false =>
      have hn := Level.next?_of_single hj hc
      rw [Level.read_joining hj hn, Level.resume_eq_once hc] at h
      rcases bind_eq_ok_iff.mp h with ⟨first, hfirst, hmore⟩
      exact once_sound ih hn (ih.node hfirst) hmore

theorem negation_sound {ts : List Located} {r : Read Node}
    (h : Parser.negation (depth + 1) ts = .ok r) : Reads (.node .negation r.1) ts r.2 := by
  rw [Parser.negation] at h
  split at h
  · rename_i hnot
    rcases bind_eq_ok_iff.mp h with ⟨operand, hoperand, hok⟩
    cases hok
    have hsign := isNot_iff.mp hnot
    have hread : Reads (.node .negation operand.1) ts.tail operand.2 := ih.node hoperand
    refine Takes.afterToken rfl ?_ (hread.imp fun _ => .inverted hsign)
    intro hf
    rw [hf] at hsign
    simp [notSigns] at hsign
  · have hread : Reads (.node .comparison r.1) ts r.2 := ih.node h
    exact hread.imp fun _ => .tighter rfl

theorem signed_sound {ts : List Located} {r : Read Node}
    (h : Parser.signed (depth + 1) ts = .ok r) : Reads (.node .signed r.1) ts r.2 := by
  rw [Parser.signed] at h
  split at h
  · rename_i hminus
    rcases bind_eq_ok_iff.mp h with ⟨operand, hoperand, hok⟩
    cases hok
    have hread : Reads (.node .signed operand.1) ts.tail operand.2 := ih.node hoperand
    exact Takes.afterSymbol hminus (hread.imp fun _ => derives_negated)
  · split at h
    · rename_i hplus
      have hread : Reads (.node .signed r.1) ts.tail r.2 := ih.node h
      exact Takes.afterSymbol hplus (hread.imp fun _ => .positive)
    · have hread : Reads (.node .power r.1) ts r.2 := ih.node h
      exact hread.imp fun _ => .tighter rfl

theorem application_sound {ts : List Located} {r : Read Node}
    (h : Parser.application (depth + 1) ts = .ok r) : Reads (.node .application r.1) ts r.2 := by
  rw [Parser.application] at h
  split at h
  · rename_i head hhead
    split at h
    · rename_i hopen
      rcases bind_eq_ok_iff.mp h with ⟨⟨args, mid⟩, hargs, hclose⟩
      rcases bind_eq_ok_iff.mp hclose with ⟨⟨_, after⟩, hexpect, hok⟩
      cases hok
      rcases next_of_expect hexpect with ⟨hnext, rfl⟩
      have hread : Reads (.arguments args.1 args.2) ts.tail.tail mid := ih.arguments hargs
      refine Takes.afterToken hhead (by intro hf; cases hf) (Takes.afterSymbol hopen ?_)
      exact hread.beforeSymbol hnext fun _ => .call
    · have hread : Reads (.node .atom r.1) ts r.2 := ih.node h
      exact hread.imp fun _ => .tighter rfl
  · have hread : Reads (.node .atom r.1) ts r.2 := ih.node h
    exact hread.imp fun _ => .tighter rfl

theorem items_sound {closer : Symbol} {ts : List Located} {r : Read (List Node)}
    (h : Parser.items (depth + 1) closer ts = .ok r) : Reads (.items r.1) ts r.2 := by
  rw [Parser.items] at h
  split at h
  · cases h
    exact Takes.nil .noItems
  · rcases bind_eq_ok_iff.mp h with ⟨⟨tree, mid⟩, htree, hmore⟩
    have hread : Reads (.node .clause tree) ts mid := clause_sound ih htree
    dsimp only at hmore
    split at hmore
    · rename_i hcomma
      rcases bind_eq_ok_iff.mp hmore with ⟨others, hothers, hok⟩
      cases hok
      refine hread.around (isSymbol_iff.mp hcomma) (by intro hf; cases hf)
        ((ih.items hothers).imp ?_)
      intro back hback front hfront
      exact .moreItems hfront hback
    · cases hmore
      exact hread.imp fun _ => .lastItem

theorem named_sound {ts : List Located} {r : Read (List (String × Node))}
    (h : Parser.namedArguments (depth + 1) ts = .ok r) : Reads (.named r.1) ts r.2 := by
  rw [Parser.namedArguments] at h
  split at h
  · cases h
    exact Takes.nil .noNamed
  · split at h
    · rename_i name hname hassign
      refine Takes.afterToken hname (by intro hf; cases hf) (Takes.afterSymbol hassign ?_)
      rcases bind_eq_ok_iff.mp h with ⟨⟨tree, mid⟩, htree, hmore⟩
      have hread : Reads (.node .clause tree) ts.tail.tail mid := clause_sound ih htree
      dsimp only at hmore
      split at hmore
      · rename_i hcomma
        rcases bind_eq_ok_iff.mp hmore with ⟨others, hothers, hok⟩
        cases hok
        refine hread.around (isSymbol_iff.mp hcomma) (by intro hf; cases hf)
          ((ih.named hothers).imp ?_)
        intro back hback front hfront
        exact .moreNamed hfront hback
      · cases hmore
        exact hread.imp fun _ => .lastNamed
    · cases h

theorem arguments_sound {ts : List Located} {r : Read (List Node × List (String × Node))}
    (h : Parser.arguments (depth + 1) ts = .ok r) : Reads (.arguments r.1.1 r.1.2) ts r.2 := by
  rw [Parser.arguments] at h
  split at h
  · cases h
    exact Takes.nil (.onlyNamed .noNamed)
  · split at h
    · rcases bind_eq_ok_iff.mp h with ⟨named, hnamed, hok⟩
      cases hok
      exact (ih.named hnamed).imp fun _ => .onlyNamed
    · rcases bind_eq_ok_iff.mp h with ⟨⟨tree, mid⟩, htree, hmore⟩
      have hread : Reads (.node .clause tree) ts mid := clause_sound ih htree
      dsimp only at hmore
      split at hmore
      · rename_i hcomma
        rcases bind_eq_ok_iff.mp hmore with ⟨others, hothers, hok⟩
        cases hok
        refine hread.around (isSymbol_iff.mp hcomma) (by intro hf; cases hf)
          ((ih.arguments hothers).imp ?_)
        intro back hback front hfront
        exact .moreArguments hfront hback
      · cases hmore
        exact hread.imp fun _ => .lastArgument

theorem parenthesis_sound {ts : List Located} {r : Read Node}
    (hopen : (next ts).token = .symbol .openParen)
    (h : (do
      let (first, rest) <- Parser.expression depth ts.tail
      if isSymbol .closeParen rest then .ok (first, rest.tail)
      else
        let ((), rest) <- expect .comma rest
        let (others, rest) <- Parser.items depth .closeParen rest
        let ((), rest) <- expect .closeParen rest
        .ok (.tuple (first :: others), rest)) = Except.ok r) :
    Reads (.node .atom r.1) ts r.2 := by
  rcases bind_eq_ok_iff.mp h with ⟨⟨first, mid⟩, hfirst, hmore⟩
  have hread : Reads (.node .clause first) ts.tail mid := clause_sound ih hfirst
  refine Takes.afterToken hopen (by intro hf; cases hf) ?_
  dsimp only at hmore
  split at hmore
  · rename_i hclose
    cases hmore
    exact hread.beforeSymbol (isSymbol_iff.mp hclose) fun _ => .enclosed
  · rcases bind_eq_ok_iff.mp hmore with ⟨⟨_, afterComma⟩, hcomma, hmore⟩
    rcases bind_eq_ok_iff.mp hmore with ⟨⟨others, last⟩, hothers, hmore⟩
    rcases bind_eq_ok_iff.mp hmore with ⟨⟨_, after⟩, hexpect, hok⟩
    cases hok
    rcases next_of_expect hcomma with ⟨hnext, rfl⟩
    rcases next_of_expect hexpect with ⟨hlast, rfl⟩
    have hrest : Reads (.items others) mid.tail last := ih.items hothers
    refine hread.around hnext (by intro hf; cases hf) (hrest.beforeSymbol hlast ?_)
    intro back hback front hfront
    exact .tuple hfront hback

theorem atom_sound {ts : List Located} {r : Read Node}
    (h : Parser.atom (depth + 1) ts = .ok r) : Reads (.node .atom r.1) ts r.2 := by
  rw [Parser.atom] at h
  split at h
  · rename_i hmarker
    rcases bind_eq_ok_iff.mp h with ⟨inner, hinner, hok⟩
    cases hok
    have hread : Reads (.node .application inner.1) ts.tail inner.2 := ih.node hinner
    exact Takes.afterToken hmarker (by intro hf; cases hf) (hread.imp fun _ => .marked)
  · rename_i hopen
    split at h
    · rename_i hclose
      cases h
      refine Takes.afterToken hopen (by intro hf; cases hf) ?_
      exact Takes.token (isSymbol_iff.mp hclose) (by intro hf; cases hf) .emptyTuple
    · exact parenthesis_sound ih hopen h
  · rename_i hopen
    rcases bind_eq_ok_iff.mp h with ⟨⟨trees, mid⟩, htrees, hclose⟩
    rcases bind_eq_ok_iff.mp hclose with ⟨⟨_, after⟩, hexpect, hok⟩
    cases hok
    rcases next_of_expect hexpect with ⟨hnext, rfl⟩
    have hread : Reads (.items trees) ts.tail mid := ih.items htrees
    refine Takes.afterToken hopen (by intro hf; cases hf) ?_
    exact hread.beforeSymbol hnext fun _ => .vector
  · rename_i ht
    cases h
    exact Takes.token ht (by intro hf; cases hf) (.leaf rfl)
  · rename_i ht
    cases h
    exact Takes.token ht (by intro hf; cases hf) (.leaf rfl)
  · rename_i ht
    cases h
    exact Takes.token ht (by intro hf; cases hf) (.leaf rfl)
  · rename_i ht
    cases h
    exact Takes.token ht (by intro hf; cases hf) (.leaf rfl)
  · rename_i ht
    cases h
    exact Takes.token ht (by intro hf; cases hf) (.leaf rfl)
  · rename_i k ht
    split at h
    · rename_i value hvalue
      cases h
      refine Takes.token ht (by intro hf; cases hf) (.leaf ?_)
      rw [leaf?, hvalue]
      rfl
    · cases h
  · cases h

theorem soundAt_succ : SoundAt (depth + 1) where
  node := by
    intro level ts r h
    cases level with
    | negation => exact negation_sound ih h
    | signed => exact signed_sound ih h
    | application => exact application_sound ih h
    | atom => exact atom_sound ih h
    | _ => exact joining_sound ih rfl h
  chain := chain_sound ih
  items := items_sound ih
  arguments := arguments_sound ih
  named := named_sound ih

end Step

/-!
# Soundness
-/

theorem soundAt (depth : Nat) : SoundAt depth := by
  induction depth with
  | zero => exact soundAt_zero
  | succ depth ih => exact soundAt_succ ih

end Grammar
end Wrangle
