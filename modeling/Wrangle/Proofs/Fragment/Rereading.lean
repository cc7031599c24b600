import Wrangle.Proofs.Fragment.Respelling

/-!
# Fragments that are read again

The canonical text of a fragment is read as a fragment again, though maybe as another
one, unless a comparison in it has another one on its left, or a marker in it is before
a sign.  This is so whatever operators, calls and parentheses the fragment has, as long
as the text of each of its names is read as one name.
-/

namespace Wrangle
namespace Grammar

open Node Text Number

/-!
# Lists
-/

namespace Listed

variable {text : String} {texts : List String} {chained more : Bool}
  {good best whole : List Token -> Prop} {front back toks : List Token}

theorem imp (h : Listed text chained good toks) (hgood : forall {ts}, good ts -> best ts) :
    Listed text chained best toks where
  lexes := h.lexes
  reads := fun hc hmarkers => hgood (h.reads hc hmarkers)
  scans := h.scans

theorem empty (hgood : good []) : Listed (joined ", " []) false good [] where
  lexes := Lexes.empty
  reads := fun _ _ => hgood
  scans := .nil

theorem last (h : Listed text chained good toks) : Listed (joined ", " [text]) chained good toks := by
  rw [joined, String.intercalate_singleton]
  exact h

theorem comma (h : Listed text chained good front) (hne : texts ≠ [])
    (hrest : Listed (joined ", " texts) more best back)
    (hwhole : good front -> best back -> whole (front ++ .symbol .comma :: back)) :
    Listed (joined ", " (text :: texts)) (chained || more) whole
      (front ++ .symbol .comma :: back) where
  lexes := lexes_joined h.lexes hne hrest.lexes
  reads := by
    intro hc hmarkers
    rcases Bool.or_eq_false_iff.1 hc with ⟨hc, hmore⟩
    exact hwhole (h.reads hc hmarkers.left) (hrest.reads hmore hmarkers.right.tail)
  scans := h.scans.split (fun _ _ => rfl) hrest.scans

theorem named {name : String} (hname : (Token.identifier name).IsLegible)
    (h : Listed text chained good toks)
    (hwhole : good toks -> whole (.identifier name :: .symbol .assign :: toks)) :
    Listed (name ++ " = " ++ text) chained whole
      (.identifier name :: .symbol .assign :: toks) where
  lexes := lexes_named hname h.lexes
  reads := fun hc hmarkers => hwhole (h.reads hc hmarkers.tail.tail)
  scans := by
    have hfront : Scans False false [.identifier name] := Scans.nil.cons fun _ _ => rfl
    exact hfront.split (fun _ _ => rfl) h.scans

end Listed

theorem listed_items {trees : List Node} (h : forall tree, tree ∈ trees -> IsRespelled tree) :
    exists toks, Listed (joined ", " (unparseAll trees)) (anyHasChain trees)
      (fun ts => exists others, Derives ts (.items others)) toks := by
  induction trees with
  | nil => exact ⟨[], .empty ⟨[], .noItems⟩⟩
  | cons tree others ih =>
      rcases h tree List.mem_cons_self with ⟨bangs, toks, htree⟩
      rcases ih fun other hother => h other (List.mem_cons_of_mem _ hother) with ⟨back, hback⟩
      rw [anyHasChain_cons]
      cases others with
      | nil =>
          have hnone : anyHasChain [] = false := rfl
          rw [hnone, Bool.or_false]
          exact ⟨_, (htree.listed.imp fun ⟨item, hd⟩ => ⟨[item], .lastItem hd⟩).last⟩
      | cons other others =>
          refine ⟨_, htree.listed.comma (by simp [unparseAll]) hback ?_⟩
          rintro ⟨item, hd⟩ ⟨items, hitems⟩
          exact ⟨_, .moreItems hd hitems⟩

theorem listed_named {kwargs : List (String × Node)}
    (hnames : forall entry, entry ∈ kwargs -> (Token.identifier entry.1).IsLegible)
    (h : forall entry, entry ∈ kwargs -> IsRespelled entry.2) :
    exists toks, Listed (joined ", " (unparseNamed kwargs)) (anyNamedHasChain kwargs)
      (fun ts => exists others, Derives ts (.named others)) toks := by
  induction kwargs with
  | nil => exact ⟨[], .empty ⟨[], .noNamed⟩⟩
  | cons entry others ih =>
      rcases h entry List.mem_cons_self with ⟨bangs, toks, hentry⟩
      have hname := hnames entry List.mem_cons_self
      rcases ih (fun other hother => hnames other (List.mem_cons_of_mem _ hother))
        (fun other hother => h other (List.mem_cons_of_mem _ hother)) with ⟨back, hback⟩
      rw [anyNamedHasChain_cons]
      cases others with
      | nil =>
          have hnone : anyNamedHasChain [] = false := rfl
          have hlast : Listed _ _ (fun ts => exists others, Derives ts (.named others)) _ :=
            hentry.listed.named hname fun ⟨value, hd⟩ => ⟨[(entry.1, value)], .lastNamed hd⟩
          rw [hnone, Bool.or_false]
          exact ⟨_, hlast.last⟩
      | cons other others =>
          have hfirst : Listed _ _
              (fun ts => exists body value, ts = .identifier entry.1 :: .symbol .assign :: body ∧
                Derives body (.node .clause value)) _ :=
            hentry.listed.named hname fun ⟨value, hd⟩ => ⟨_, value, rfl, hd⟩
          refine ⟨_, hfirst.comma (by simp [unparseNamed]) hback ?_⟩
          rintro ⟨body, value, hbody, hd⟩ ⟨items, hitems⟩
          rw [hbody]
          exact ⟨_, .moreNamed hd hitems⟩

theorem listed_arguments {args : List Node} {kwargs : List (String × Node)}
    (hargs : forall tree, tree ∈ args -> IsRespelled tree)
    (hnames : forall entry, entry ∈ kwargs -> (Token.identifier entry.1).IsLegible)
    (hkwargs : forall entry, entry ∈ kwargs -> IsRespelled entry.2) :
    exists toks, Listed (joined ", " (unparseAll args ++ unparseNamed kwargs))
      (anyHasChain args || anyNamedHasChain kwargs)
      (fun ts => exists others named, Derives ts (.arguments others named)) toks := by
  induction args with
  | nil =>
      rcases listed_named hnames hkwargs with ⟨toks, h⟩
      refine ⟨toks, h.imp ?_⟩
      intro ts hread
      rcases hread with ⟨named, hd⟩
      exact ⟨[], named, .onlyNamed hd⟩
  | cons tree args ih =>
      rcases hargs tree List.mem_cons_self with ⟨bangs, toks, htree⟩
      rcases ih fun other hother => hargs other (List.mem_cons_of_mem _ hother) with ⟨back, hback⟩
      rw [anyHasChain_cons, unparseAll, List.cons_append, Bool.or_assoc]
      by_cases htexts : unparseAll args ++ unparseNamed kwargs = []
      · have hnone : (anyHasChain args || anyNamedHasChain kwargs) = false := by
          rcases List.append_eq_nil_iff.1 htexts with ⟨hnoArgs, hnoKwargs⟩
          cases args with
          | nil =>
              cases kwargs with
              | nil => rfl
              | cons entry kwargs => cases hnoKwargs
          | cons arg args => cases hnoArgs
        rw [htexts, hnone, Bool.or_false]
        refine ⟨_, (htree.listed.imp ?_).last⟩
        intro ts hread
        rcases hread with ⟨item, hd⟩
        exact ⟨[item], [], .lastArgument hd⟩
      · refine ⟨_, htree.listed.comma htexts hback ?_⟩
        rintro ⟨item, hd⟩ ⟨items, named, hitems⟩
        exact ⟨_, _, .moreArguments hd hitems⟩

/-!
# Brackets
-/

theorem respelled_atomic {tree : Node} {toks : List Token} (hlexes : Lexes tree.unparse toks)
    (hstarts : Starts tree.unparse) (hbang : tree.unparse.toList.head? ≠ some '!')
    (hstrength : tree.strength = Strength.atom) (hcomparison : isComparison tree = false)
    (hreads : hasChain tree = false -> MarkersApply toks -> IsReadAt .application toks)
    (hscans : Scans True (hasChain tree) toks) : IsRespelled tree := by
  have hplace : Level.ofPlace tree.strength = .signed := by
    rw [hstrength]
    rfl
  refine ⟨0, toks, ⟨spells_of_lexes hlexes hstarts hbang, nofun, ?_, ?_⟩, ?_, ?_⟩
  · rw [hplace]
    exact fun hc hmarkers => (hreads hc hmarkers).loosen (by decide)
  · exact hscans.imp fun _ => trivial
  · exact fun _ hc hmarkers => .inl (hreads hc hmarkers)
  · intro h
    rw [hcomparison] at h
    cases h

theorem respelled_call {head : String} {args : List Node} {kwargs : List (String × Node)}
    (hhead : (Token.identifier head).IsLegible)
    (hargs : forall tree, tree ∈ args -> IsRespelled tree)
    (hnames : forall entry, entry ∈ kwargs -> (Token.identifier entry.1).IsLegible)
    (hkwargs : forall entry, entry ∈ kwargs -> IsRespelled entry.2) :
    IsRespelled (.call head args kwargs false) := by
  rcases listed_arguments hargs hnames hkwargs with ⟨toks, h⟩
  have htext : (Node.call head args kwargs false).unparse =
      head ++ "(" ++ joined ", " (unparseAll args ++ unparseNamed kwargs) ++ ")" := by
    rw [unparse, callText]
    all_goals
      intros
      contradiction
  have hopen : Separates "(" (.symbol .openParen) := separates_lone (by decide) (by decide)
  have hclose : Separates ")" (.symbol .closeParen) := separates_lone (by decide) (by decide)
  have hword := lexes_word hhead.1
  have hstarts := starts_of_word hhead.1
  rw [String.ofList_toList, nameToken, hhead.2, String.ofList_toList] at hword
  rw [String.ofList_toList] at hstarts
  have hlexes := (hword.around hopen h.lexes).before hclose
  have hbang : head.toList.head? ≠ some '!' := by
    rcases hstarts with ⟨c, cs, hcs, _⟩
    have hfirst := hhead.1
    rw [hcs] at hfirst ⊢
    rintro ⟨rfl⟩
    cases hfirst.1
  rw [List.append_assoc, List.singleton_append, List.cons_append] at hlexes
  refine respelled_atomic (by rw [htext]; exact hlexes) ?_ ?_ rfl rfl ?_ ?_
  · rw [htext]
    exact starts_append (starts_append (starts_append hstarts _) _) _
  · rcases hstarts with ⟨c, cs, hcs, _⟩
    rw [htext, String.toList_append, String.toList_append, String.toList_append, hcs]
    rw [hcs] at hbang
    exact hbang
  · intro hc hmarkers
    rw [hasChain_call] at hc
    rcases h.reads hc hmarkers.tail.tail.left with ⟨others, named, hd⟩
    exact ⟨_, .call hd⟩
  · rw [hasChain_call]
    exact (h.scans.between (.inl rfl) (.inl rfl)).cons fun _ _ => rfl

theorem respelled_vector {trees : List Node} (h : forall tree, tree ∈ trees -> IsRespelled tree) :
    IsRespelled (.vector trees) := by
  rcases listed_items h with ⟨toks, h⟩
  have hchain : hasChain (.vector trees) = anyHasChain trees := by
    simp [hasChain, walk, isChained, anyHasChain]
  have hlexes : Lexes (Node.vector trees).unparse
      (.symbol .openBracket :: (toks ++ [.symbol .closeBracket])) :=
    h.lexes.between (by decide) (by decide) (by decide)
  refine respelled_atomic hlexes
    (starts_append (starts_append ⟨'[', [], rfl, by decide, by decide⟩ _) _) ?_ rfl rfl ?_ ?_
  · show ("[" ++ joined ", " (unparseAll trees) ++ "]").toList.head? ≠ some '!'
    rw [String.toList_append, String.toList_append]
    intro hbang
    cases hbang
  · intro hc hmarkers
    rw [hchain] at hc
    rcases h.reads hc hmarkers.tail.left with ⟨items, hd⟩
    exact IsReadAt.loosen ⟨_, .vector hd⟩ (by decide)
  · rw [hchain]
    exact h.scans.between (.inr rfl) (.inr rfl)

theorem respelled_tuple_of_listed {trees : List Node} {text : String} {toks : List Token}
    (htext : (Node.tuple trees).unparse = "(" ++ text ++ ")")
    (h : Listed text (anyHasChain trees)
      (fun ts => IsReadAt .atom (.symbol .openParen :: (ts ++ [.symbol .closeParen]))) toks) :
    IsRespelled (.tuple trees) := by
  have hchain : hasChain (.tuple trees) = anyHasChain trees := by
    simp [hasChain, walk, isChained, anyHasChain]
  have hlexes : Lexes (Node.tuple trees).unparse
      (.symbol .openParen :: (toks ++ [.symbol .closeParen])) := by
    rw [htext]
    exact h.lexes.between (by decide) (by decide) (by decide)
  refine respelled_atomic hlexes ?_ ?_ rfl rfl ?_ ?_
  · rw [htext]
    exact starts_append (starts_append ⟨'(', [], rfl, by decide, by decide⟩ _) _
  · rw [htext, String.toList_append, String.toList_append]
    intro hbang
    cases hbang
  · intro hc hmarkers
    rw [hchain] at hc
    exact (h.reads hc hmarkers.tail.left).loosen (by decide)
  · rw [hchain]
    exact h.scans.between (.inl rfl) (.inl rfl)

theorem Listed.beforeComma {text : String} {chained : Bool} {good whole : List Token -> Prop}
    {toks : List Token} (h : Listed text chained good toks)
    (hwhole : good toks -> whole (toks ++ [.symbol .comma])) :
    Listed (text ++ ",") chained whole (toks ++ [.symbol .comma]) where
  lexes := h.lexes.before (separates_lone (by decide) (by decide))
  reads := fun hc hmarkers => hwhole (h.reads hc hmarkers.left)
  scans := by
    have hnone : Scans False false [] := .nil
    exact Bool.or_false chained ▸ h.scans.split (fun _ _ => rfl) hnone

theorem respelled_tuple {trees : List Node} (h : forall tree, tree ∈ trees -> IsRespelled tree) :
    IsRespelled (.tuple trees) := by
  cases trees with
  | nil => exact respelled_tuple_of_listed rfl (.empty ⟨_, .emptyTuple⟩)
  | cons first others =>
      rcases h first List.mem_cons_self with ⟨bangs, toks, hfirst⟩
      rcases listed_items fun other hother => h other (List.mem_cons_of_mem _ hother)
        with ⟨back, hothers⟩
      cases hcons : others with
      | nil =>
          have htext : (Node.tuple [first]).unparse = "(" ++ (first.unparse ++ ",") ++ ")" := by
            show "(" ++ first.unparse ++ ",)" = _
            rw [← String.toList_inj]
            simp [String.toList_append]
          have hchain : anyHasChain [first] = hasChain first := by
            rw [anyHasChain_cons]
            exact Bool.or_false _
          refine respelled_tuple_of_listed htext (hchain ▸ hfirst.listed.beforeComma ?_)
          rintro ⟨item, hd⟩
          rw [List.append_assoc]
          exact ⟨_, .tuple hd .noItems⟩
      | cons second rest =>
          rw [← hcons]
          have hne : unparseAll others ≠ [] := by
            rw [hcons]
            exact List.cons_ne_nil _ _
          have htext : (Node.tuple (first :: others)).unparse =
              "(" ++ joined ", " (first.unparse :: unparseAll others) ++ ")" := by
            rw [hcons]
            rfl
          refine respelled_tuple_of_listed htext ((anyHasChain_cons first others).symm ▸
            hfirst.listed.comma hne hothers ?_)
          rintro ⟨item, hd⟩ ⟨items, hitems⟩
          rw [List.append_assoc, List.cons_append]
          exact ⟨_, .tuple hd hitems⟩

/-!
# Names
-/

/-- Every backslash is before a character that it can be taken with, and that is no backtick. -/
def keepsBackticks : List Char -> Bool
  | [] => true
  | [c] => c != backslash
  | c :: d :: rest =>
      if c == backslash then d != backtick && keepsBackticks rest else keepsBackticks (d :: rest)

/-- A name whose text is read as one name or literal: a word that is no operator, or what can
stand between backticks. -/
def IsReadableName (name : String) : Prop :=
  (isBasicName name = true ∧
    forall keyword, keywordOf? name = some keyword -> keyword.value?.isSome = true) ∨
  (isPlainName name = false ∧ keepsBackticks name.toList = true)

/-- A name that is read as one before an assignment sign; words for literals are not. -/
def IsReadableTarget (name : String) : Prop :=
  (isBasicName name = true ∧ keywordOf? name = none) ∨
  (isPlainName name = false ∧ keepsBackticks name.toList = true)

/-- The names in a tree are read as names. -/
structure HasReadableNames (tree : Node) : Prop where
  identifier : forall {name}, .identifier name ∈ tree.walk -> IsReadableName name
  target : forall {name value}, .assignment name value ∈ tree.walk -> IsReadableTarget name

theorem HasReadableNames.of_walk {tree part : Node} (h : HasReadableNames tree)
    (hsub : forall node, node ∈ part.walk -> node ∈ tree.walk) : HasReadableNames part where
  identifier := fun hmem => h.identifier (hsub _ hmem)
  target := fun hmem => h.target (hsub _ hmem)

def backtickedText (cs : List Char) : List Char :=
  replaceChar backtick [backslash, backtick] cs

theorem backtickedText_cons (c : Char) (cs : List Char) :
    backtickedText (c :: cs) =
      (if c == backtick then [backslash, backtick] else [c]) ++ backtickedText cs := by
  rw [backtickedText, replaceChar, List.flatMap_cons]
  rfl

theorem takeQuoted_backtickedText_cons {c : Char} (hc : c ≠ backslash) {cs taken : List Char}
    {rest : List Char}
    (h : takeQuoted backtick (backtickedText cs ++ backtick :: rest) =
      some (taken, (backtickedText cs).length + 1)) :
    takeQuoted backtick (backtickedText (c :: cs) ++ backtick :: rest) =
      some (c :: taken, (backtickedText (c :: cs)).length + 1) := by
  rw [backtickedText_cons]
  by_cases hquote : c = backtick
  · subst hquote
    simp [takeQuoted, h]
  · have hne : backtickedText cs ++ backtick :: rest ≠ [] := by simp
    rw [if_neg (by simpa using hquote), List.append_assoc, List.singleton_append,
      takeQuoted_cons hc hquote hne, h]
    rfl

theorem takeQuoted_backtickedText {cs : List Char} (h : keepsBackticks cs = true) :
    exists taken, forall rest, takeQuoted backtick (backtickedText cs ++ backtick :: rest) =
      some (taken, (backtickedText cs).length + 1) := by
  have hempty : forall rest, takeQuoted backtick (backtickedText [] ++ backtick :: rest) =
      some ([], (backtickedText []).length + 1) := by
    intro rest
    cases rest with
    | nil => rfl
    | cons d rest => rfl
  induction cs using keepsBackticks.induct with
  | case1 => exact ⟨[], hempty⟩
  | case2 c =>
      have hc : c ≠ backslash := by simpa [keepsBackticks] using h
      exact ⟨[c], fun rest => takeQuoted_backtickedText_cons hc (hempty rest)⟩
  | case3 c d rest hslash ih =>
      rw [keepsBackticks, if_pos hslash, Bool.and_eq_true, bne_iff_ne] at h
      rcases ih h.2 with ⟨taken, htaken⟩
      refine ⟨d :: taken, ?_⟩
      intro after
      have hc : (c == backtick) = false := by
        rw [beq_iff_eq.1 hslash]
        rfl
      have hd : (d == backtick) = false := by simpa using h.1
      have htext : backtickedText (c :: d :: rest) = c :: d :: backtickedText rest := by
        rw [backtickedText_cons, backtickedText_cons, hc, hd]
        rfl
      rw [htext]
      show takeQuoted backtick (c :: d :: (backtickedText rest ++ backtick :: after)) = _
      rw [takeQuoted, if_pos hslash, htaken]
      rfl
  | case4 c d rest hslash ih =>
      rw [keepsBackticks, if_neg hslash] at h
      rcases ih h with ⟨taken, htaken⟩
      have hc : c ≠ backslash := by simpa using hslash
      exact ⟨c :: taken, fun after => takeQuoted_backtickedText_cons hc (htaken after)⟩

theorem lexes_backticked {name : String} (hplain : isPlainName name = false)
    (h : keepsBackticks name.toList = true) :
    exists other, Lexes (nameText name) [.quotedName other] ∧ Starts (nameText name) ∧
      (nameText name).toList.head? ≠ some '!' := by
  rcases takeQuoted_backtickedText h with ⟨taken, htaken⟩
  have htext : nameText name =
      String.ofList (backtick :: (backtickedText name.toList ++ [backtick])) := by
    rw [nameText, hplain, if_neg Bool.false_ne_true]
    rfl
  have htoken : quotedToken backtick taken = .quotedName (String.ofList taken) := by
    rw [quotedToken, beq_self_eq_true, if_pos rfl]
  refine ⟨String.ofList taken, ?_, ?_, ?_⟩
  · rw [htext, ← htoken]
    exact lexes_between_quotes rfl htaken
  · rw [htext]
    exact ⟨backtick, _, String.toList_ofList, by decide, by decide⟩
  · rw [htext, String.toList_ofList]
    intro hbang
    cases hbang

theorem nameText_of_basic {name : String} (h : isBasicName name = true) :
    nameText name = String.ofList name.toList := by
  rw [nameText, (plain_of_basic h).1, if_pos rfl, String.ofList_toList]

theorem isLeafText_name {name : String} (h : IsReadableName name) : IsLeafText (nameText name) := by
  rcases h with ⟨hbasic, hkeyword⟩ | ⟨hplain, hkeeps⟩
  · have hleaf : exists tree, leaf? (nameToken name.toList) = some tree := by
      unfold nameToken
      split
      · rename_i keyword hfound
        rcases Option.isSome_iff_exists.1 (hkeyword keyword hfound) with ⟨value, hvalue⟩
        exact ⟨.literal value, congrArg (Option.map Node.literal) hvalue⟩
      · exact ⟨_, rfl⟩
    rcases hleaf with ⟨tree, htree⟩
    rw [nameText_of_basic hbasic]
    exact isLeafText_word (plain_of_basic hbasic).2 htree
  · rcases lexes_backticked hplain hkeeps with ⟨other, hlexes, hstarts, hbang⟩
    exact ⟨_, _, rfl, hlexes, hstarts, hbang⟩

theorem lexes_target {name : String} (h : IsReadableTarget name) :
    exists token other, target? token = some other ∧ Lexes (nameText name) [token] ∧
      Starts (nameText name) := by
  rcases h with ⟨hbasic, hkeyword⟩ | ⟨hplain, hkeeps⟩
  · rcases lexes_name (.inl ⟨hbasic, hkeyword⟩) with ⟨token, ⟨_, htarget⟩, hlexes, hstarts⟩
    exact ⟨token, name, htarget, hlexes, hstarts⟩
  · rcases lexes_backticked hplain hkeeps with ⟨other, hlexes, hstarts, _⟩
    exact ⟨_, other, rfl, hlexes, hstarts⟩

/-!
# Names and literals as trees
-/

theorem respelled_leafText {tree : Node} (h : IsLeafText tree.unparse)
    (hchain : hasChain tree = false) (hcomparison : isComparison tree = false) :
    IsRespelled tree := by
  rcases h with ⟨token, other, hleaf, hlexes, hstarts, hbang⟩
  have hwritten : Written .atom tree.unparse other := ⟨_, .leaf hleaf, hlexes, hstarts⟩
  exact respelled_of_written hwritten hbang (Level.rank_pos _) (by decide) (fun _ => by decide)
    hchain hcomparison

theorem ofLiteral_strong (value : Value) : 9 <= Strength.ofLiteral value := by
  unfold Strength.ofLiteral
  split
  · split <;> decide
  · split <;> decide
  · decide

theorem respelled_literal {value : Value} (h : Prints (.literal value))
    (hbang : (Node.literal value).unparse.toList.head? ≠ some '!') :
    IsRespelled (.literal value) := by
  have hstrong : 9 <= (Node.literal value).strength := ofLiteral_strong value
  have hrank := Level.rank_ofStrength (Node.literal value).strength
  refine respelled_of_written h hbang ?_ ?_ ?_ rfl rfl
  · rw [Level.rank_ofPlace]
    omega
  · omega
  · intro hbase
    have happlication : Level.application.rank = 2 := rfl
    omega

theorem head_nat (n : Nat) : n.repr.toList.head? ≠ some '!' := by
  have htext : n.repr.toList = Nat.toDigits 10 n := Nat.toList_repr
  rw [htext]
  intro hbang
  have hmem : '!' ∈ Nat.toDigits 10 n := List.mem_of_head? hbang
  have hdigit := Nat.isDigit_of_mem_toDigits (by decide) (by decide) hmem
  cases hdigit

theorem respelled_int {n : Int} (h : IsBounded (.literal (.int n))) :
    IsRespelled (.literal (.int n)) := by
  refine respelled_literal (prints_int h) ?_
  cases n with
  | ofNat k => exact head_nat k
  | negSucc k =>
      show ("-" ++ (k + 1).repr).toList.head? ≠ some '!'
      rw [String.toList_append]
      intro hbang
      cases hbang

theorem respelled_float (x : Float) : IsRespelled (.literal (.ofFloat x)) := by
  have hstrong : 9 <= (Node.literal (.ofFloat x)).strength := ofLiteral_strong (.ofFloat x)
  rcases floatText_shape x with h | ⟨text, htext, h⟩
  · exact respelled_leafText h rfl rfl
  · -- The tree of a negative zero is no sign and a number, but its text is one.
    rcases h with ⟨token, tree, hleaf, hlexes, _, _⟩
    have hunparse : (Node.literal (.ofFloat x)).unparse = "-" ++ text := htext
    have hminus : Lexes (Node.literal (.ofFloat x)).unparse [.symbol .minus, token] := by
      rw [hunparse]
      exact Lexes.after (fun rest => lexed_loneSymbol (by decide) _) hlexes
    have hplace : Level.ofPlace (Node.literal (.ofFloat x)).strength = .signed := if_pos hstrong
    have hreads : IsReadAt .signed [.symbol .minus, token] :=
      (IsReadAt.loosen ⟨tree, .leaf hleaf⟩ (by decide)).minus
    refine ⟨0, _, ⟨spells_of_lexes hminus ?_ ?_, nofun, ?_, ?_⟩, ?_, nofun⟩
    · rw [hunparse]
      exact starts_append ⟨'-', [], rfl, by decide, by decide⟩ _
    · rw [hunparse, String.toList_append]
      intro hbang
      cases hbang
    · rw [hplace]
      exact fun _ _ => hreads
    · rcases hreads with ⟨other, hd⟩
      exact .of_derives hd (by decide)
    · exact fun _ _ _ => .inr ⟨_, rfl, IsReadAt.loosen ⟨tree, .leaf hleaf⟩ (by decide)⟩

theorem respelled_leaf {token : Token} {tree : Node} (hlegible : token.IsLegible)
    (hleaf : leaf? token = some tree) (hnames : HasReadableNames tree) : IsRespelled tree := by
  have hname : forall {name}, tree = .identifier name -> IsRespelled tree := by
    rintro name rfl
    exact respelled_leafText (isLeafText_name (hnames.identifier (mem_walk_self _))) rfl rfl
  cases token with
  | identifier name => exact hname (Option.some.inj hleaf).symm
  | quotedName name => exact hname (Option.some.inj hleaf).symm
  | text s =>
      cases hleaf
      refine respelled_literal (prints_str s) ?_
      show ("\"" ++ escapedText s ++ "\"").toList.head? ≠ some '!'
      rw [String.toList_append, String.toList_append]
      intro hbang
      cases hbang
  | integer n =>
      have hbounded := isBounded_leaf hlegible hleaf
      cases hleaf
      exact respelled_int hbounded
  | decimal x =>
      cases hleaf
      exact respelled_float x
  | keyword k =>
      rcases Option.map_eq_some_iff.1 hleaf with ⟨value, hvalue, rfl⟩
      cases k <;> cases hvalue
      all_goals first
        | exact respelled_literal (prints_bool _) (by decide)
        | exact respelled_literal prints_missing (by decide)
  | _ => cases hleaf

theorem walk_join {sign : Token} {level : Level} {build : Node -> Node -> Node}
    (h : join? sign = some (level, build)) (a b : Node) :
    (build a b).walk = build a b :: (a.walk ++ b.walk) := by
  rcases joins_of_join h with ⟨_, rfl⟩ | ⟨_, rfl⟩ | ⟨rfl, _⟩
  · rfl
  · rfl
  · simp [Node.binary, walk, walkAll, walkNamed]

theorem respelled_of_parsed {tree : Node} (h : Parsed tree) (hnames : HasReadableNames tree) :
    IsRespelled tree := by
  induction h with
  | leaf hlegible hleaf => exact respelled_leaf hlegible hleaf hnames
  | @negativeInt n hbounded =>
      refine respelled_int ?_
      show (-n).natAbs < _
      rw [Int.natAbs_neg]
      exact hbounded
  | negativeFloat x => exact respelled_float (-x)
  | @joined sign level build a b hsign _ _ iha ihb =>
      have hwalk := walk_join hsign a b
      refine respelled_join hsign (iha (hnames.of_walk fun node hnode => ?_))
        (ihb (hnames.of_walk fun node hnode => ?_))
      · rw [hwalk]
        exact List.mem_cons_of_mem _ (List.mem_append_left _ hnode)
      · rw [hwalk]
        exact List.mem_cons_of_mem _ (List.mem_append_right _ hnode)
  | inverted _ ih =>
      exact respelled_not (ih (hnames.of_walk fun _ hnode => List.mem_cons_of_mem _
        (List.mem_append_left _ (mem_walkAll List.mem_cons_self hnode))))
  | negative _ _ ih =>
      exact respelled_minus (ih (hnames.of_walk fun _ hnode => List.mem_cons_of_mem _
        (List.mem_append_left _ (mem_walkAll List.mem_cons_self hnode))))
  | call hhead _ hkeys _ ihargs ihkwargs =>
      refine respelled_call hhead ?_ hkeys ?_
      · intro tree htree
        exact ihargs tree htree (hnames.of_walk fun _ hnode => List.mem_cons_of_mem _
          (List.mem_append_left _ (mem_walkAll htree hnode)))
      · intro entry hentry
        exact ihkwargs entry hentry (hnames.of_walk fun _ hnode => List.mem_cons_of_mem _
          (List.mem_append_right _ (mem_walkNamed hentry hnode)))
  | marked _ ih =>
      exact respelled_interpolate (ih (hnames.of_walk fun _ hnode => List.mem_cons_of_mem _ hnode))
  | tuple _ ih =>
      exact respelled_tuple fun tree htree => ih tree htree (hnames.of_walk fun _ hnode =>
        List.mem_cons_of_mem _ (mem_walkAll htree hnode))
  | vector _ ih =>
      exact respelled_vector fun tree htree => ih tree htree (hnames.of_walk fun _ hnode =>
        List.mem_cons_of_mem _ (mem_walkAll htree hnode))

/-!
# Whole fragments
-/

/-- A text is a fragment just when the tokens after those of its target are read as a tree. -/
theorem parse_iff_of_listed {allowAssignment chained : Bool} {text body : String}
    {toks : List Token} {wrap : Node -> Node} (front : List Token)
    (hlexes : Lexes text (front ++ toks))
    (hstarts : Starts text) (h : Listed body chained (IsReadAt .clause) toks)
    (hwrap : forall {value}, Derives toks (.node .clause value) ->
      DerivesFragment allowAssignment (front ++ toks ++ [.finish]) (wrap value)) :
    exists ts, tokenize text = .ok ts ∧
      ((exists again, parse allowAssignment text = .ok again) <->
        chained = false ∧ MarkersApply (ts.map Located.token)) := by
  rcases tokenize_of_lexes hlexes with ⟨ts, hts, htokens⟩
  refine ⟨ts, hts, ?_, ?_⟩
  · rintro ⟨again, hagain⟩
    rcases parse_eq_ok_iff.1 hagain with ⟨_, others, hothers, hread⟩
    rw [hts] at hothers
    cases hothers
    rcases scanned_of_fragment (fragment_sound (tokenize_endsOnce hts) hread)
      with ⟨hmarkers, hscanned⟩
    refine ⟨?_, hmarkers⟩
    rw [Bool.eq_false_iff]
    intro hchained
    apply hscanned
    rw [htokens]
    exact noteAll_none_of_front
      (noteAll_none_of_back (h.scans.fails hchained) front) [.finish] [false]
  · rintro ⟨hchained, hmarkers⟩
    rw [htokens] at hmarkers
    rcases h.reads hchained hmarkers.left.right with ⟨value, hd⟩
    exact ⟨_, parse_of_lexes hlexes hstarts (hwrap hd)⟩

/-- The canonical text of a fragment with readable names is a fragment again just when no
comparison in the fragment has another one on its left, and no marker in the text is before a
sign. -/
theorem parse_unparse_iff {allowAssignment : Bool} {source : String} {tree : Node}
    (h : parse allowAssignment source = .ok tree) (hnames : HasReadableNames tree) :
    exists ts, tokenize tree.unparse = .ok ts ∧
      ((exists again, parse allowAssignment tree.unparse = .ok again) <->
        hasChain tree = false ∧ MarkersApply (ts.map Located.token)) := by
  rcases parsed_of_parse h with hparsed | ⟨hallow, name, value, rfl, hparsed⟩
  · rcases respelled_of_parsed hparsed hnames with ⟨bangs, toks, hspelled⟩
    exact parse_iff_of_listed [] hspelled.listed.lexes hspelled.placed.spells.starts
      hspelled.listed .expression
  · have hvalue : HasReadableNames value :=
      hnames.of_walk fun _ hnode => List.mem_cons_of_mem _ hnode
    rcases respelled_of_parsed hparsed hvalue with ⟨bangs, toks, hspelled⟩
    rcases lexes_target (hnames.target (mem_walk_self _)) with
      ⟨token, other, htarget, hname, hstarts⟩
    have hmem : ("=", Token.symbol .assign) ∈ spacedSigns := by
      decide
    have hsep : Separates " = " (.symbol .assign) := separates_spacedSign hmem
    have hlexes := hname.around hsep hspelled.listed.lexes
    have hchain : hasChain (.assignment name value) = hasChain value := by
      simp [hasChain, walk, isChained]
    rw [hchain]
    exact parse_iff_of_listed [token, .symbol .assign] hlexes
      (starts_append (starts_append hstarts _) _) hspelled.listed
      (fun hd => .assignment hallow htarget hd)

/-- A comparison of a comparison loses its parentheses, and cannot be read again. -/
theorem not_parse_unparse_comparison :
    exists tree, parse true "(a == b) == c" = .ok tree ∧ tree.unparse = "a == b == c" ∧
      ¬ exists again, parse true "a == b == c" = .ok again := by
  have hts : tokenize "(a == b) == c" =
      .ok [⟨.symbol .openParen, 0⟩, ⟨.identifier "a", 1⟩, ⟨.symbol .equals, 3⟩,
        ⟨.identifier "b", 6⟩, ⟨.symbol .closeParen, 7⟩, ⟨.symbol .equals, 9⟩,
        ⟨.identifier "c", 12⟩, ⟨.finish, 13⟩] := rfl
  have hread : parse true "(a == b) == c" = .ok (.binary "=="
      (.binary "==" (.identifier "a") (.identifier "b")) (.identifier "c")) :=
    parse_eq_ok_iff.2 ⟨by decide, _, hts, rfl⟩
  have htext : (Node.binary "==" (.binary "==" (.identifier "a") (.identifier "b"))
      (.identifier "c")).unparse = "a == b == c" := by
    decide +kernel
  have hnames : HasReadableNames (.binary "==" (.binary "==" (.identifier "a") (.identifier "b"))
      (.identifier "c")) := by
    constructor
    · intro name hmem
      simp [walk, walkAll, walkNamed, Node.binary] at hmem
      rcases hmem with rfl | rfl | rfl
      all_goals exact .inl ⟨rfl, by decide⟩
    · intro name value hmem
      simp [walk, walkAll, walkNamed, Node.binary] at hmem
  rcases parse_unparse_iff hread hnames with ⟨_, _, hiff⟩
  rw [htext] at hiff
  refine ⟨_, hread, htext, ?_⟩
  intro hagain
  have hsingle := (hiff.1 hagain).1
  cases hsingle

end Grammar
end Wrangle
