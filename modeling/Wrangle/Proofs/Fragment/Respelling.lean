import Wrangle.Proofs.Fragment.Spelling

/-!
# Canonical text that is read again

The canonical text of a tree that was read from a fragment need not be a fragment
itself.  It is one just when no comparison in the tree has another one on its left,
and when all markers in the text apply, as long as the names in the text are read as
names.
-/

namespace Wrangle
namespace Grammar

open Node Text

/-!
# Texts at a level
-/

/-- A text starts with bangs and goes on with tokens that are read at a level, if their markers
apply and no comparisons are chained. -/
structure Placed (level : Level) (text : String) (chained : Bool) (bangs : Nat)
    (toks : List Token) : Prop where
  spells : Spells text bangs toks
  odd : bangs % 2 = 1 -> Level.negation.rank <= level.rank
  reads : chained = false -> MarkersApply toks -> IsReadAt level toks
  scans : Scans (level.rank < Level.comparison.rank) chained toks

/-- A text is read as tokens with some property, under the same conditions. -/
structure Listed (text : String) (chained : Bool) (good : List Token -> Prop)
    (toks : List Token) : Prop where
  lexes : Lexes text toks
  reads : chained = false -> MarkersApply toks -> good toks
  scans : Scans False chained toks

namespace Placed

variable {level inner : Level} {text front sep back : String} {chained more : Bool}
  {bangs others : Nat} {toks rest : List Token} {sign : Token} {build : Node -> Node -> Node}

theorem loosen (h : Placed inner text chained bangs toks) (hr : inner.rank <= level.rank) :
    Placed level text chained bangs toks where
  spells := h.spells
  odd := fun hodd => Nat.le_trans (h.odd hodd) hr
  reads := fun hc hmarkers => (h.reads hc hmarkers).loosen hr
  scans := h.scans.imp fun hlevel => Nat.lt_of_le_of_lt hr hlevel

theorem listed (h : Placed level text chained bangs toks) :
    Listed text chained (IsReadAt level) (bangTokens bangs ++ toks) where
  lexes := h.spells.lexes
  reads := fun hc hmarkers => (h.reads hc hmarkers.right).bangs bangs h.odd hmarkers
  scans := (h.scans.imp False.elim).bangs bangs

theorem parenthesized (h : Placed .clause text chained bangs toks) :
    Placed .atom ("(" ++ text ++ ")") chained 0
      (.symbol .openParen :: ((bangTokens bangs ++ toks) ++ [.symbol .closeParen])) where
  spells := by
    refine spells_of_lexes (h.listed.lexes.between (by decide) (by decide) (by decide))
      (starts_append (starts_append ⟨'(', [], rfl, by decide, by decide⟩ _) _) ?_
    rw [String.toList_append, String.toList_append]
    intro hbang
    cases hbang
  odd := nofun
  reads := fun hc hmarkers => (h.listed.reads hc hmarkers.tail.left).enclosed
  scans := h.listed.scans.between (.inl rfl) (.inl rfl)

theorem joined (hsign : join? sign = some (level, build)) (hsep : Separates sep sign)
    (hfront : Placed level.left front chained bangs toks)
    (hback : Placed level.right back more others rest) :
    Placed level (front ++ sep ++ back) (chained || more) bangs
      (toks ++ sign :: (bangTokens others ++ rest)) where
  spells := hfront.spells.join hsep hback.spells.lexes
  odd := fun hodd => Nat.le_trans (hfront.odd hodd)
    (Level.rank_left_le level (Level.isJoining_of_join hsign))
  reads := by
    intro hc hmarkers
    rcases Bool.or_eq_false_iff.1 hc with ⟨hc, hmore⟩
    exact .joined hsign (hfront.reads hc hmarkers.left)
      (hback.listed.reads hmore hmarkers.right.tail)
  scans := hfront.scans.joined hsign (hback.scans.bangs others)

end Placed

/-!
# Trees
-/

/-- The level at which a tree of a strength is read again.  A negative number may be the base of
what was a power before. -/
def Level.ofPlace (n : Nat) : Level :=
  if 9 <= n then .signed else .ofStrength n

theorem Level.rank_ofPlace (n : Nat) : (ofPlace n).rank = max 4 (ofStrength n).rank := by
  rw [rank_ofStrength]
  unfold ofPlace
  split
  · show 4 = _
    omega
  · rw [rank_ofStrength]
    omega

def IsBase (toks : List Token) : Prop :=
  IsReadAt .application toks ∨
    exists rest, toks = .symbol .minus :: rest ∧ IsReadAt .application rest

/-- What can be said of the canonical text of a tree. -/
structure Respelled (tree : Node) (bangs : Nat) (toks : List Token) : Prop where
  placed : Placed (.ofPlace tree.strength) tree.unparse (hasChain tree) bangs toks
  base : 11 <= tree.strength -> hasChain tree = false -> MarkersApply toks -> IsBase toks
  compares : isComparison tree = true -> tree.strength = 5 ∧ Compares toks

def IsRespelled (tree : Node) : Prop :=
  exists bangs toks, Respelled tree bangs toks

namespace Respelled

variable {tree : Node} {bangs least : Nat} {toks : List Token} {level : Level}

theorem listed (h : Respelled tree bangs toks) :
    Listed tree.unparse (hasChain tree) (IsReadAt .clause) (bangTokens bangs ++ toks) :=
  (h.placed.loosen (Level.rank_le _)).listed

theorem enclosed (h : Respelled tree bangs toks) (hlevel : (Level.ofPlace least).rank <= level.rank) :
    exists bangs toks,
      Placed level (tree.enclosed least tree.unparse) (hasChain tree) bangs toks := by
  unfold Node.enclosed
  split
  · exact ⟨_, _, (h.placed.loosen (Level.rank_le _)).parenthesized.loosen level.rank_pos⟩
  · rename_i hstrong
    refine ⟨_, _, h.placed.loosen (Nat.le_trans ?_ hlevel)⟩
    have hrank := Level.rank_ofStrength_le (Nat.le_of_not_lt hstrong)
    rw [Level.rank_ofPlace, Level.rank_ofPlace]
    omega

theorem enclosed_base (h : Respelled tree bangs toks) (hleast : 11 <= least) :
    exists bangs toks,
      Placed .signed (tree.enclosed least tree.unparse) (hasChain tree) bangs toks ∧
        (hasChain tree = false -> MarkersApply toks -> IsBase toks) := by
  unfold Node.enclosed
  split
  · have hatom := (h.placed.loosen (Level.rank_le _)).parenthesized
    exact ⟨_, _, hatom.loosen (by decide), fun hc hmarkers =>
      .inl ((hatom.reads hc hmarkers).loosen (by decide))⟩
  · rename_i hstrong
    have hplace : (Level.ofPlace tree.strength).rank <= Level.signed.rank := by
      rw [Level.rank_ofPlace, Level.rank_ofStrength, Level.rank]
      omega
    exact ⟨_, _, h.placed.loosen hplace, h.base (by omega)⟩

end Respelled

theorem IsBase.power {front back : List Token} {sign : Token} {build : Node -> Node -> Node}
    (h : IsBase front) (hsign : join? sign = some (.power, build)) (hback : IsReadAt .signed back) :
    IsReadAt .signed (front ++ sign :: back) := by
  rcases h with h | ⟨rest, rfl, h⟩
  · exact IsReadAt.loosen (.joined hsign h hback) (by decide)
  · exact (IsReadAt.loosen (.joined hsign h hback) (by decide)).minus

theorem respelled_of_written {tree other : Node} {level : Level}
    (h : Written level tree.unparse other) (hbang : tree.unparse.toList.head? ≠ some '!')
    (hlevel : level.rank <= (Level.ofPlace tree.strength).rank) (hsigned : level.rank <= 4)
    (hbase : 11 <= tree.strength -> level.rank <= Level.application.rank)
    (hchain : hasChain tree = false) (hcomparison : isComparison tree = false) :
    IsRespelled tree := by
  rcases h with ⟨toks, hd, hlexes, hstarts⟩
  refine ⟨0, toks, ⟨spells_of_lexes hlexes hstarts hbang, nofun, ?_, ?_⟩, ?_, ?_⟩
  · exact fun _ _ => IsReadAt.loosen ⟨_, hd⟩ hlevel
  · rw [hchain]
    exact .of_derives hd (Nat.lt_of_le_of_lt hsigned (by decide))
  · exact fun hstrong _ _ => .inl (IsReadAt.loosen ⟨_, hd⟩ (hbase hstrong))
  · intro h
    rw [hcomparison] at h
    cases h

/-!
# Signs between operands
-/

theorem ofSymbol_of_comparison {op : String} (h : comparisonSymbols.contains op = true) :
    Strength.ofSymbol op = 5 := by
  simp only [comparisonSymbols, List.contains_eq_mem, List.mem_cons, List.not_mem_nil, or_false,
    decide_eq_true_eq] at h
  rcases h with rfl | rfl | rfl | rfl | rfl | rfl | rfl
  all_goals rfl

theorem Placed.respelled {tree : Node} {level : Level} {bangs : Nat} {toks : List Token}
    (h : Placed level tree.unparse (hasChain tree) bangs toks)
    (hlevel : level = .ofStrength tree.strength) (hjoining : level.isJoining = true)
    (hcompares : isComparison tree = true -> tree.strength = 5 ∧ Compares toks) :
    IsRespelled tree := by
  have hrank := Level.rank_ofStrength tree.strength
  rw [← hlevel] at hrank
  refine ⟨bangs, toks, h.loosen ?_, ?_, hcompares⟩
  · rw [Level.rank_ofPlace, ← hlevel]
    omega
  · intro hstrong
    have hloose : 2 < level.rank := by
      revert hjoining
      cases level <;> decide
    omega

theorem respelled_pair {a b : Node} (ha : IsRespelled a) (hb : IsRespelled b) :
    IsRespelled (.pair a b) := by
  rcases ha with ⟨_, _, ha⟩
  rcases hb with ⟨_, _, hb⟩
  have hsep : Separates " => " (.symbol .arrow) :=
    separates_spacedSign (by decide : ("=>", Token.symbol .arrow) ∈ spacedSigns)
  rcases ha.enclosed (by decide : (Level.ofPlace 2).rank <= Level.clause.left.rank)
    with ⟨_, _, hfront⟩
  rcases hb.enclosed (by decide : (Level.ofPlace 2).rank <= Level.clause.right.rank)
    with ⟨_, _, hback⟩
  have hjoined := hfront.joined rfl hsep hback
  rw [← hasChain_pair] at hjoined
  exact hjoined.respelled rfl rfl nofun

theorem respelled_range {a b : Node} (ha : IsRespelled a) (hb : IsRespelled b) :
    IsRespelled (.range a b) := by
  rcases ha with ⟨_, _, ha⟩
  rcases hb with ⟨_, _, hb⟩
  have hsign : join? (.symbol .colon) = some (.range, .range) := rfl
  rcases ha.enclosed (by decide : (Level.ofPlace 7).rank <= Level.range.left.rank)
    with ⟨_, _, hfront⟩
  rcases hb.enclosed (by decide : (Level.ofPlace 7).rank <= Level.range.right.rank)
    with ⟨_, _, hback⟩
  have hjoined := hfront.joined hsign separates_colon hback
  rw [← hasChain_range] at hjoined
  exact hjoined.respelled rfl rfl nofun

section Binary

variable {level : Level} {op : String} {sign : Token} {a b : Node}
  (hlookup : spacedSigns.lookup op = some sign) (hsign : join? sign = some (level, .binary op))
  (hlevel : level = .ofStrength (Strength.ofSymbol op))
  (hright : (Level.ofStrength (operandStrengths op).2).rank <= level.right.rank)
  (hleft : level ≠ .comparison ->
    (Level.ofStrength (operandStrengths op).1).rank <= level.left.rank)

include hlookup

theorem separates_operator : Separates (" " ++ op ++ " ") sign := by
  rcases List.lookup_eq_some_iff.1 hlookup with ⟨before, after, hmem, _⟩
  refine separates_spacedSign ?_
  rw [hmem]
  exact List.mem_append_right _ List.mem_cons_self

include hsign hlevel hright

omit hlookup in
theorem enclosed_right (hb : IsRespelled b) :
    exists bangs toks, Placed level.right (b.enclosed (operandStrengths op).2 b.unparse)
      (hasChain b) bangs toks := by
  rcases hb with ⟨_, _, hb⟩
  refine hb.enclosed ?_
  have hloose : 4 <= level.right.rank := by
    have hjoining := Level.isJoining_of_join hsign
    revert hjoining
    cases level <;> decide
  rw [Level.rank_ofPlace]
  omega

theorem respelled_binary_of_left {bangs : Nat} {toks : List Token}
    (ha : Placed level.left (a.enclosed (operandStrengths op).1 a.unparse) (hasChain a) bangs toks)
    (hunchained : level = .comparison -> isComparison a = false) (hb : IsRespelled b) :
    IsRespelled (.binary op a b) := by
  rcases enclosed_right hsign hlevel hright hb with ⟨others, rest, hback⟩
  have hchain : hasChain (.binary op a b) = (hasChain a || hasChain b) := by
    rw [hasChain_binary]
    cases hcontains : comparisonSymbols.contains op with
    | false => rw [Bool.false_and, Bool.false_or]
    | true =>
        rw [ofSymbol_of_comparison hcontains] at hlevel
        rw [hunchained hlevel, Bool.and_false, Bool.false_or]
  have hjoined := ha.joined hsign (separates_operator hlookup) hback
  rw [← unparse_binary, ← hchain] at hjoined
  refine hjoined.respelled hlevel (Level.isJoining_of_join hsign) ?_
  intro hcomparison
  have hfive : Strength.ofSymbol op = 5 := ofSymbol_of_comparison hcomparison
  rw [hfive] at hlevel
  exact ⟨hfive, ha.scans.compares hsign (hback.scans.bangs others) hlevel⟩

theorem respelled_power (hpower : level = .power) (ha : IsRespelled a) (hb : IsRespelled b)
    (hbase : 11 <= (operandStrengths op).1) : IsRespelled (.binary op a b) := by
  subst hpower
  rcases ha with ⟨_, _, ha⟩
  rcases ha.enclosed_base hbase with ⟨bangs, toks, hfront, hreads⟩
  rcases enclosed_right hsign hlevel hright hb with ⟨others, rest, hback⟩
  have hcontains : comparisonSymbols.contains op = false := by
    rw [Bool.eq_false_iff]
    intro hcontains
    rw [ofSymbol_of_comparison hcontains] at hlevel
    cases hlevel
  have hchain : hasChain (.binary op a b) = (hasChain a || hasChain b) := by
    rw [hasChain_binary, hcontains, Bool.false_and, Bool.false_or]
  have hscans : Scans (Level.power.rank < Level.comparison.rank) (hasChain a || hasChain b)
      (toks ++ sign :: (bangTokens others ++ rest)) :=
    (hfront.scans.imp fun _ => by decide).joined hsign (hback.scans.bangs others)
  have hspells := hfront.spells.join (separates_operator hlookup) hback.spells.lexes
  have hplace : Level.ofPlace (Node.binary op a b).strength = .signed := by
    apply Level.eq_of_rank_eq
    have hstrength : (Node.binary op a b).strength = Strength.ofSymbol op := rfl
    rw [Level.rank_ofPlace, hstrength, ← hlevel]
    rfl
  rw [← unparse_binary] at hspells
  rw [← hchain] at hscans
  refine ⟨bangs, _, ⟨hspells, ?_, ?_, ?_⟩, ?_, ?_⟩
  · intro hodd
    exact absurd (hfront.odd hodd) (by decide)
  · intro hc hmarkers
    rw [hchain] at hc
    rcases Bool.or_eq_false_iff.1 hc with ⟨hc, hmore⟩
    rw [hplace]
    exact (hreads hc hmarkers.left).power hsign
      (hback.listed.reads hmore hmarkers.right.tail)
  · exact hscans.imp fun _ => by decide
  · intro hstrong
    have hrank := Level.rank_ofStrength (Strength.ofSymbol op)
    have hstrength : 11 <= Strength.ofSymbol op := hstrong
    rw [← hlevel, Level.rank] at hrank
    omega
  · intro hcomparison
    rw [show comparisonSymbols.contains op = true from hcomparison] at hcontains
    cases hcontains

/-- A comparison of a comparison is not read again, whatever is around it. -/
theorem respelled_chained (hcomparison : level = .comparison) (ha : IsRespelled a)
    (hb : IsRespelled b) (hchained : isComparison a = true) : IsRespelled (.binary op a b) := by
  subst hcomparison
  rcases ha with ⟨bangs, toks, ha⟩
  rcases ha.compares hchained with ⟨hstrength, hcompares⟩
  rcases strength_of_comparison hlevel with ⟨hfive, hleast⟩
  rcases enclosed_right hsign hlevel hright hb with ⟨others, rest, hback⟩
  have htext : a.enclosed (operandStrengths op).1 a.unparse = a.unparse := by
    rw [Node.enclosed, hleast, hstrength, if_neg (by decide)]
  have hspells := ha.placed.spells.join (separates_operator hlookup) hback.spells.lexes
  have hfails := hcompares.chained hsign (bangTokens others ++ rest)
  rw [← htext, ← unparse_binary] at hspells
  have hchain : hasChain (.binary op a b) = true := by
    rw [hasChain_binary, mem_comparisonSymbols hfive, hchained]
    rfl
  have hplace : Level.ofPlace (Node.binary op a b).strength = Level.ofPlace a.strength := by
    have hbinary : (Node.binary op a b).strength = Strength.ofSymbol op := rfl
    rw [hbinary, hfive, hstrength]
  refine ⟨bangs, _, ⟨hspells, ?_, ?_, .of_none hfails⟩, ?_, ?_⟩
  · rw [hplace]
    exact ha.placed.odd
  · rw [hchain]
    exact nofun
  · rw [hchain]
    exact fun _ => nofun
  · exact fun _ => ⟨hfive, fun kept => .inl (hfails kept)⟩

include hleft

theorem respelled_binary (ha : IsRespelled a) (hb : IsRespelled b) :
    IsRespelled (.binary op a b) := by
  rcases ha with ⟨bangs, toks, ha⟩
  by_cases hcomparison : level = .comparison
  · cases hchained : isComparison a with
    | true =>
        exact respelled_chained hlookup hsign hlevel hright hcomparison ⟨_, _, ha⟩ hb hchained
    | false =>
        have hsix : exists bangs toks, Placed level.left
            (a.enclosed (operandStrengths op).1 a.unparse) (hasChain a) bangs toks := by
          rw [hcomparison] at hlevel
          have heq : a.enclosed (operandStrengths op).1 a.unparse = a.enclosed 6 a.unparse := by
            have hne : a.strength ≠ 5 := fun h => by
              rw [isComparison_of_strength h] at hchained
              cases hchained
            rw [(strength_of_comparison hlevel).2]
            unfold Node.enclosed
            by_cases hweak : a.strength < 5
            · rw [if_pos hweak, if_pos (by omega)]
            · rw [if_neg hweak, if_neg (by omega)]
          rw [heq, hcomparison]
          exact ha.enclosed (by decide)
        rcases hsix with ⟨_, _, hfront⟩
        exact respelled_binary_of_left hlookup hsign hlevel hright hfront (fun _ => hchained) hb
  · have hbound := hleft hcomparison
    rw [Level.rank_ofStrength] at hbound
    by_cases hpower : level = .power
    · refine respelled_power hlookup hsign hlevel hright hpower ⟨_, _, ha⟩ hb ?_
      rw [hpower] at hbound
      have hrank : Level.power.left.rank = 2 := rfl
      omega
    · have hloose : 4 <= level.left.rank := by
        have hjoining := Level.isJoining_of_join hsign
        revert hjoining hpower
        cases level <;> decide
      have hplace : (Level.ofPlace (operandStrengths op).1).rank <= level.left.rank := by
        rw [Level.rank_ofPlace, Level.rank_ofStrength]
        omega
      rcases ha.enclosed hplace with ⟨_, _, hfront⟩
      exact respelled_binary_of_left hlookup hsign hlevel hright hfront
        (fun h => absurd h hcomparison) hb

end Binary

theorem respelled_join {level : Level} {sign : Token} {build : Node -> Node -> Node} {a b : Node}
    (hsign : join? sign = some (level, build)) (ha : IsRespelled a) (hb : IsRespelled b) :
    IsRespelled (build a b) := by
  rcases joins_of_join hsign with ⟨_, rfl⟩ | ⟨_, rfl⟩ | ⟨rfl, hlookup, hjoin, hlevel, hright, hleft⟩
  · exact respelled_pair ha hb
  · exact respelled_range ha hb
  · exact respelled_binary hlookup hjoin hlevel hright hleft ha hb

/-!
# Signs before an operand
-/

theorem respelled_not {tree : Node} (h : IsRespelled tree) : IsRespelled (.unary "!" tree) := by
  rcases h with ⟨_, _, h⟩
  rcases h.enclosed (by decide : (Level.ofPlace Strength.invert).rank <= Level.negation.rank)
    with ⟨bangs, toks, hoperand⟩
  refine ⟨bangs + 1, toks, ⟨hoperand.spells.bang, fun _ => Nat.le_refl _, ?_, ?_⟩, nofun, nofun⟩
  · rw [hasChain_unary]
    exact hoperand.reads
  · rw [hasChain_unary]
    exact hoperand.scans

theorem respelled_minus {tree : Node} (h : IsRespelled tree) : IsRespelled (.unary "-" tree) := by
  rcases h with ⟨_, _, h⟩
  rcases h.enclosed (by decide : (Level.ofPlace Strength.negate).rank <= Level.signed.rank)
    with ⟨bangs, toks, hoperand⟩
  have hlexes : Lexes (Node.unary "-" tree).unparse
      (.symbol .minus :: (bangTokens bangs ++ toks)) :=
    Lexes.after (fun rest => lexed_loneSymbol (by decide) _) hoperand.listed.lexes
  have hstarts : Starts (Node.unary "-" tree).unparse :=
    starts_append ⟨'-', [], rfl, by decide, by decide⟩ _
  have hbang : (Node.unary "-" tree).unparse.toList.head? ≠ some '!' := by
    show ("-" ++ tree.enclosed Strength.negate tree.unparse).toList.head? ≠ some '!'
    rw [String.toList_append]
    intro hbang
    cases hbang
  refine ⟨0, _, ⟨spells_of_lexes hlexes hstarts hbang, nofun, ?_, ?_⟩, nofun, nofun⟩
  · rw [hasChain_unary]
    exact fun hc hmarkers => (hoperand.listed.reads hc hmarkers.tail).minus
  · rw [hasChain_unary]
    exact (hoperand.scans.bangs bangs).cons fun _ _ => rfl

theorem respelled_interpolate {tree : Node} (h : IsRespelled tree) :
    IsRespelled (.interpolate tree) := by
  rcases h with ⟨_, _, h⟩
  rcases h.enclosed_base (by decide : 11 <= Strength.atom) with ⟨bangs, toks, hoperand, hbase⟩
  have hchain : hasChain (.interpolate tree) = hasChain tree := by
    simp [hasChain, walk, isChained]
  have hspells : Spells (Node.interpolate tree).unparse (bangs + 2) toks := by
    have htext : (Node.interpolate tree).unparse =
        "!" ++ ("!" ++ tree.enclosed Strength.atom tree.unparse) := by
      rw [← String.append_assoc]
      rfl
    rw [htext]
    exact hoperand.spells.bang.bang
  refine ⟨bangs + 2, toks, ⟨hspells, ?_, ?_, ?_⟩, ?_, ?_⟩
  · intro hodd
    exact hoperand.odd (by omega)
  · rw [hchain]
    exact hoperand.reads
  · rw [hchain]
    exact hoperand.scans
  · rw [hchain]
    exact fun _ => hbase
  · intro hcompares
    cases hcompares

end Grammar
end Wrangle
