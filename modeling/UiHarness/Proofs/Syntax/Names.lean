import UiHarness.Proofs.Syntax.Edit
import UiHarness.Proofs.Syntax.Reader
import UiHarness.Proofs.Syntax.Tokens
import UiHarness.Syntax.File

/-!
# Names of components

The name of a component stands in the file as a name, or as two names and a dot.  A name is read as a
token, and stays what it was in all that is done with trees (`Reader.Keeps`).  So a character that
neither pattern for names accepts is in no name of a component, in whatever file is read.

* `Tree.Avoids`: a tree in whose names a character does not stand.
* `Tree.keeps_avoids`: this is kept in all that is done with trees.
* `Node.Avoids`: nodes in whose components' names a character does not stand.
* `not_mem_component`: those of a file that is read are such nodes.
-/

namespace UiHarness.Syntax

/-! ## 1.  Trees -/

namespace Tree

mutual

/-- A tree in whose names a character does not stand. -/
def Avoids (x : Char) : Tree → Prop
  | leaf s _ text _ _ _ => Symbol.isNamed s = true → x ∉ text
  | branch _ _ parts _ _ => AvoidsIn x parts

/-- Trees in whose names a character does not stand. -/
def AvoidsIn (x : Char) : List Tree → Prop
  | [] => True
  | t :: ts => Avoids x t ∧ AvoidsIn x ts

end

theorem avoidsIn_iff {x : Char} {ts : List Tree} : AvoidsIn x ts ↔ ∀ t ∈ ts, t.Avoids x := by
  induction ts with
  | nil => simp [AvoidsIn]
  | cons t ts ih => rw [AvoidsIn, List.forall_mem_cons, ih]

theorem avoids_branch {x : Char} {s : Symbol} {names : Nat} {parts : List Tree} {between : Bool}
    {m : Measure} : (branch s names parts between m).Avoids x ↔ ∀ t ∈ parts, t.Avoids x := by
  rw [Avoids, avoidsIn_iff]

theorem avoids_token {x : Char} {s : Symbol} {blanks text : Text} :
    (token s blanks text).Avoids x ↔ (Symbol.isNamed s = true → x ∉ text) := by
  rw [token, Avoids]

end Tree

/-- A token that is read as a name or a word was found as a name. -/
theorem Reader.isNamed_of_classify {a : Automaton} {state : Nat} {l : Lexed}
    (h : Symbol.isNamed (classify a state l) = true) : Symbol.isNamed l.symbol = true := by
  unfold classify at h
  split at h
  · rename_i hname
    rw [hname]
    decide
  · exact h

/-- A token that is read is a name without the character, or no name. -/
theorem Reader.avoids_next {a : Automaton} {x : Char} (hspace : isSpace x = false)
    (ha : ∀ l ∈ a.lexicons, l.Avoids x) (s : Stack) (v : Nat) : (next a s v).1.Avoids x := by
  have hlexicon : ∀ state, (a.lexicon state).Avoids x := by
    intro state
    rw [Automaton.lexicon, List.getD_eq_getElem?_getD]
    cases hl : a.lexicons[a.entry state / 0x10 % 0x20]? with
    | none => exact ⟨fun _ h => absurd h List.not_mem_nil, fun _ h => absurd h List.not_mem_nil⟩
    | some l => exact ha l (List.mem_of_getElem? hl)
  have hlayout : ∀ n ∈ layoutTokens, Symbol.isNamed n = false := by decide
  have hmake : ∀ {t : Text} {state : Nat} {l : Lexed}, (a.lexicon state).scan t = .ok l →
      ∀ (state' : Nat) (blanks : Text),
        (Tree.token (classify a state' l) blanks l.text).Avoids x := by
    intro t state l hl state' blanks
    exact Tree.avoids_token.2 fun hname =>
      (a.lexicon state).not_mem_text_of_scan hspace (hlexicon state) hl (isNamed_of_classify hname)
  unfold next
  extract_lets top atFront mark t isUseful layout make anything
  have hfound : ∀ l ∈ layout, Symbol.isNamed l.symbol = false := by
    intro l hl
    change (if _ then none else _) = some l at hl
    split at hl
    · cases hl
    · exact hlayout _ (Layout.symbol_of_scan? (Option.eq_some_of_filter_eq_some hl))
  clear_value layout
  cases layout with
  | some l =>
    refine Tree.avoids_token.2 fun hname => ?_
    rw [hfound l rfl] at hname
    cases hname
  | none =>
    dsimp only
    split
    · rename_i l hl
      exact hmake hl _ _
    · split
      · rename_i l hl
        exact hmake hl _ _
      · refine Tree.avoids_token.2 fun hname => ?_
        exact absurd hname (by decide)

/-- **All names are free of the character**, whatever is done with trees. -/
theorem Tree.keeps_avoids {a : Automaton} {x : Char} (hspace : isSpace x = false)
    (ha : ∀ l ∈ a.lexicons, l.Avoids x) : Reader.Keeps a (Avoids x) where
  token := Reader.avoids_next hspace ha
  absent _ := fun _ => List.not_mem_nil
  node _ _ _ := avoids_branch.2
  part t ht u hu := by
    cases t with
    | leaf => cases hu
    | branch => exact avoids_branch.1 ht u hu
  between _ t ht := by
    cases t with
    | leaf => exact ht
    | branch => exact ht
  word t ht hword := by
    cases t with
    | leaf s =>
      have hnamed : Symbol.isNamed s = true := by
        rw [Symbol.isNamed, Bool.or_eq_true]
        exact .inr hword
      exact fun _ => ht hnamed
    | branch => exact ht
  raise _ t ht := by
    cases t with
    | leaf => exact ht
    | branch => exact ht

/-- What may come next is read by the two patterns for names in all states. -/
theorem Automaton.avoids_ofPath {x : Char} (hx : Pattern.name.avoids x = true)
    (hx' : Pattern.hyphenated.avoids x = true) (path : Text) :
    ∀ l ∈ (ofPath path).lexicons, l.Avoids x := by
  have hall := Lexicon.avoids_ofSymbols hx hx'
  unfold ofPath
  split
  · simp only [plain, Plain.lexicons, List.forall_mem_cons, hall, true_and]
    exact fun _ h => absurd h List.not_mem_nil
  · simp only [markup, Markup.lexicons, List.forall_mem_cons, hall, true_and]
    exact fun _ h => absurd h List.not_mem_nil

/-! ## 2.  Nodes -/

/-- Nodes in whose components' names a character does not stand. -/
def Node.Avoids (x : Char) (nodes : List Node) : Prop :=
  ∀ p, ∀ e ∈ Element.listFrom p nodes, ∀ name ∈ e.component?, x ∉ name

namespace Node

variable {x : Char}

theorem avoids_nil : Avoids x [] := fun p e he => by
  rw [Element.listFrom_nil] at he
  cases he

theorem Avoids.append {ns ms : List Node} (hns : Avoids x ns) (hms : Avoids x ms) :
    Avoids x (ns ++ ms) := by
  intro p e he
  rw [Element.listFrom_append] at he
  rcases List.mem_append.1 he with he | he
  · exact hns _ e he
  · exact hms _ e he

theorem avoids_singleton {n : Node} (h : ∀ p, ∀ e ∈ Element.ofNode p n, ∀ name ∈ e.component?, x ∉ name) :
    Avoids x [n] := by
  intro p e he
  rw [Element.listFrom_cons, Element.listFrom_nil, List.append_nil] at he
  exact h p e he

theorem avoids_blank (t : Text) : Avoids x (blank t) := by
  unfold blank
  split
  · exact avoids_nil
  · exact avoids_singleton fun p e he => by
      rw [Element.ofNode_token] at he
      cases he

theorem Avoids.attr {name link : Text} {quoted : Option Text} {code : List Node} (h : Avoids x code) :
    Avoids x [.attr name link quoted code] :=
  avoids_singleton fun p e he => by
    rw [Element.ofNode_attr] at he
    exact h _ e he

/-- The name of an element, and those in it. -/
theorem Avoids.element {lead : Text} {name : Option TagName} {types attributes content : List Node}
    {closing : Option Text} (hname : ∀ tag ∈ name, ∀ component ∈ tag.component?, x ∉ component)
    (htypes : Avoids x types) (hattributes : Avoids x attributes) (hcontent : Avoids x content) :
    Avoids x [.element lead name types attributes content closing] := by
  refine avoids_singleton fun p e he => ?_
  rw [Element.ofNode_element, List.mem_cons, List.mem_append, List.mem_append] at he
  rcases he with rfl | he | he | he
  · intro component hcomponent
    obtain ⟨tag, htag, hcomponent⟩ := Option.bind_eq_some_iff.1 hcomponent
    exact hname tag htag component hcomponent
  · exact htypes _ e he
  · exact hattributes _ e he
  · exact hcontent _ e he

end Node

/-! ## 3.  The names in tags -/

/-- The text of a token that is a name. -/
theorem Tree.Avoids.core {x : Char} {t : Tree} (h : t.Avoids x) (hparts : t.parts = [])
    (hname : Symbol.isNamed t.symbol = true) : x ∉ t.core := by
  cases t with
  | leaf s blanks text missing between m =>
    have hcore : (leaf s blanks text missing between m).core = text := by
      rw [Tree.core, Tree.text, Tree.blanks, List.drop_left]
    rw [hcore]
    exact h hname
  | branch s names parts between m =>
    obtain rfl : parts = [] := hparts
    rw [Tree.core, Tree.text, Tree.textOf, List.drop_nil]
    exact List.not_mem_nil

theorem Tree.Avoids.part {x : Char} {t : Tree} (h : t.Avoids x) : ∀ u ∈ t.parts, u.Avoids x := by
  cases t with
  | leaf => exact fun _ h => absurd h List.not_mem_nil
  | branch => exact avoids_branch.1 h

/-- The name of a component is made of names. -/
theorem TagName.not_mem_component {x : Char} (hdot : x ≠ '.') {t : Tree} (h : t.Avoids x)
    (htag : t.symbol ∈ Symbol.tagNames) : ∀ component ∈ (ofTree t).component?, x ∉ component := by
  have hpart : ∀ u ∈ t.parts, u.isName = true → x ∉ u.core := by
    intro u hu hname
    rw [Tree.isName, Bool.and_eq_true, decide_eq_true_eq, List.isEmpty_iff] at hname
    have hnamed : Symbol.isNamed u.symbol = true := by
      rw [hname.1]
      decide
    exact (h.part u hu).core hname.2 hnamed
  intro component hcomponent
  unfold ofTree at hcomponent
  split at hcomponent
  · rename_i hparts
    obtain rfl := Option.some.inj hcomponent
    have hnamed : Symbol.isNamed t.symbol = true := by
      rw [Symbol.isNamed, Bool.or_eq_true]
      exact .inl (List.contains_iff_mem.2 htag)
    exact h.core hparts hnamed
  · rename_i object others hparts
    rw [hparts] at hpart
    split at hcomponent
    · rename_i property hproperty
      split at hcomponent
      · rename_i hmember
        obtain rfl := Option.some.inj hcomponent
        rw [Bool.and_eq_true, Bool.and_eq_true] at hmember
        rw [List.mem_append, List.mem_cons, not_or, not_or]
        exact ⟨hpart object (List.mem_cons_self ..) hmember.1.2, hdot,
          hpart property (List.mem_cons_of_mem _ (List.mem_of_getLast? hproperty)) hmember.2⟩
      · cases hcomponent
    · cases hcomponent

/-! ## 4.  Pieces -/

namespace Piece

variable {x : Char}

/-- A piece in whose names the character does not stand. -/
structure Avoids (x : Char) (p : Piece) : Prop where
  tree : p.tree.Avoids x
  nodes : Node.Avoids x p.nodes

theorem avoids_nodesOf {ps : List Piece} (h : ∀ p ∈ ps, p.Avoids x) : Node.Avoids x (nodesOf ps) := by
  induction ps with
  | nil => exact Node.avoids_nil
  | cons p ps ih =>
    obtain ⟨hp, hps⟩ := List.forall_mem_cons.1 h
    exact hp.nodes.append (ih hps)

/-- The pieces around the first one with a property are all of them. -/
theorem eq_of_splitAt? {ps : List Piece} {f : Piece → Bool} {front behind : List Piece} {p : Piece}
    (h : splitAt? ps f = some (front, p, behind)) : ps = front ++ p :: behind := by
  unfold splitAt? at h
  split at h
  · cases h
  · rename_i q rest hrest
    obtain ⟨rfl, hq⟩ := Prod.mk.inj (Option.some.inj h)
    obtain ⟨rfl, rfl⟩ := Prod.mk.inj hq
    rw [← hrest, List.takeWhile_append_dropWhile]

theorem avoids_importNodes {ps : List Piece} (h : ∀ p ∈ ps, p.Avoids x) :
    Node.Avoids x (importNodes ps) := by
  unfold importNodes
  split
  · exact avoids_nodesOf h
  · rename_i front source behind hsplit
    rw [eq_of_splitAt? hsplit] at h
    refine ((Node.avoids_blank _).append (Node.avoids_singleton fun p e he => ?_)).append
      (avoids_nodesOf fun p hp => h p ?_)
    · rw [Element.ofNode_importStatement] at he
      cases he
    · exact List.mem_append_right _ (List.mem_cons_of_mem _ hp)

theorem avoids_attributeNodes {ps : List Piece} (h : ∀ p ∈ ps, p.Avoids x) :
    Node.Avoids x (attributeNodes ps) := by
  cases ps with
  | nil => exact Node.avoids_nil
  | cons name others =>
    obtain ⟨-, hothers⟩ := List.forall_mem_cons.1 h
    have hattr : ∀ (link : Text) (quoted : Option Text) {code : List Node}, Node.Avoids x code →
        Node.Avoids x (Node.blank name.tree.blanks ++ [.attr name.tree.core link quoted code]) := by
      intro link quoted code hcode
      exact (Node.avoids_blank _).append (Node.Avoids.attr hcode)
    unfold attributeNodes
    dsimp only
    split
    · exact hattr _ _ (avoids_nodesOf hothers)
    · rename_i front sign behind hsplit
      rw [eq_of_splitAt? hsplit] at hothers
      have hbehind : ∀ p ∈ behind, p.Avoids x := fun p hp =>
        hothers p (List.mem_append_right _ (List.mem_cons_of_mem _ hp))
      split
      · split
        · exact hattr _ _ (avoids_nodesOf (List.forall_mem_cons.1 hbehind).2)
        · exact hattr _ _ (avoids_nodesOf hbehind)
      · exact hattr _ _ Node.avoids_nil

/-- The name in an opening tag is free of the character, and the pieces behind it are some of
those that were there. -/
theorem avoids_tagName (hdot : x ≠ '.') {ps : List Piece} (h : ∀ p ∈ ps, p.Avoids x) :
    (∀ tag ∈ (tagName ps).2.1, ∀ component ∈ tag.component?, x ∉ component) ∧
      ∀ p ∈ (tagName ps).2.2, p.Avoids x := by
  have hnone : (∀ tag ∈ (none : Option TagName), ∀ component ∈ tag.component?, x ∉ component) ∧
      ∀ p ∈ ps, p.Avoids x := ⟨fun _ htag => (by cases htag), h⟩
  unfold tagName
  dsimp only
  split
  · rename_i name others hrest
    have hmem : ∀ p ∈ name :: others, p.Avoids x := fun p hp => h p (List.mem_of_mem_drop (hrest ▸ hp))
    obtain ⟨hname, hothers⟩ := List.forall_mem_cons.1 hmem
    split
    · rename_i hone
      refine ⟨fun tag htag => ?_, hothers⟩
      obtain rfl := Option.some.inj htag
      exact TagName.not_mem_component hdot hname.tree (List.contains_iff_mem.1 hone)
    · exact hnone
  · exact hnone

/-- The type arguments in an opening tag and the pieces behind them are some of those that were
there. -/
theorem avoids_typeArguments {ps : List Piece} (h : ∀ p ∈ ps, p.Avoids x) :
    Node.Avoids x (typeArguments ps).1 ∧ ∀ p ∈ (typeArguments ps).2, p.Avoids x := by
  have hnone : Node.Avoids x [] ∧ ∀ p ∈ ps, p.Avoids x := ⟨Node.avoids_nil, h⟩
  unfold typeArguments
  dsimp only
  split
  · rename_i types others hrest
    have hmem : ∀ p ∈ types :: others, p.Avoids x := fun p hp => h p (List.mem_of_mem_drop (hrest ▸ hp))
    obtain ⟨htypes, hothers⟩ := List.forall_mem_cons.1 hmem
    split
    · refine ⟨avoids_nodesOf fun p hp => ?_, hothers⟩
      rcases List.mem_append.1 hp with hp | hp
      · exact h p (List.takeWhile_subset _ hp)
      · exact List.mem_singleton.1 hp ▸ htypes
    · exact hnone
  · exact hnone

/-- Behind a name there may be type arguments; without one they are not looked for. -/
theorem avoids_typesBehind (named : Bool) {ps : List Piece} (h : ∀ p ∈ ps, p.Avoids x) :
    Node.Avoids x (if named then typeArguments ps else ([], ps)).1 ∧
      ∀ p ∈ (if named then typeArguments ps else ([], ps)).2, p.Avoids x := by
  cases named with
  | true => exact avoids_typeArguments h
  | false => exact ⟨Node.avoids_nil, h⟩

theorem avoids_elementNodes (hdot : x ≠ '.') {ps : List Piece} (h : ∀ p ∈ ps, p.Avoids x) :
    Node.Avoids x (elementNodes ps) := by
  unfold elementNodes
  split
  · exact avoids_nodesOf h
  · rename_i tag stop content hsplit
    rw [eq_of_splitAt? hsplit] at h
    have htag : ∀ p ∈ tag.tail, p.Avoids x := fun p hp =>
      h p (List.mem_append_left _ (List.mem_of_mem_tail hp))
    have hcontent : ∀ p ∈ content, p.Avoids x := fun p hp =>
      h p (List.mem_append_right _ (List.mem_cons_of_mem _ hp))
    obtain ⟨hname, hothers⟩ := avoids_tagName hdot htag
    obtain ⟨htypes, hrest⟩ := avoids_typesBehind (tagName tag.tail).2.1.isSome hothers
    have hattributes := (avoids_nodesOf hrest).append (Node.avoids_blank stop.tree.blanks)
    dsimp only
    split
    · exact (Node.avoids_blank _).append
        (Node.Avoids.element hname htypes hattributes Node.avoids_nil)
    · refine (Node.avoids_blank _).append (Node.Avoids.element hname htypes hattributes ?_)
      exact (avoids_nodesOf fun p hp => hcontent p (List.dropLast_subset _ hp)).append
        (Node.avoids_blank _)

theorem avoids_phraseNodes (hdot : x ≠ '.') (top : Bool) (s : Symbol) {ps : List Piece}
    (h : ∀ p ∈ ps, p.Avoids x) : Node.Avoids x (phraseNodes top s ps) := by
  unfold phraseNodes
  split
  · exact avoids_elementNodes hdot h
  · split
    · exact avoids_attributeNodes h
    · split
      · exact avoids_importNodes h
      · exact avoids_nodesOf h

end Piece

/-! ## 5.  Files -/

namespace Tree

variable {x : Char}

mutual

/-- The pieces of a tree are free of the character. -/
theorem avoids_pieces (hdot : x ≠ '.') (top named : Bool) (t : Tree) (h : t.Avoids x) :
    ∀ p ∈ pieces top named t, p.Avoids x := by
  match t with
  | leaf s blanks text missing between m =>
    intro p hp
    rw [pieces] at hp
    obtain rfl := List.mem_singleton.1 hp
    exact ⟨h, Node.avoids_blank _⟩
  | branch s names parts between m =>
    have hparts := fun top => avoids_piecesOf hdot top names 0 parts (avoids_branch.1 h)
    rw [pieces]
    split
    · intro p hp
      obtain rfl := List.mem_singleton.1 hp
      exact ⟨h, Piece.avoids_phraseNodes hdot top s (hparts false)⟩
    · exact hparts top

/-- The pieces of trees are free of the character. -/
theorem avoids_piecesOf (hdot : x ≠ '.') (top : Bool) (names place : Nat) (ts : List Tree)
    (h : ∀ t ∈ ts, t.Avoids x) : ∀ p ∈ piecesOf top names place ts, p.Avoids x := by
  match ts with
  | [] => exact fun _ hp => by rw [piecesOf] at hp; cases hp
  | t :: ts =>
    obtain ⟨ht, hts⟩ := List.forall_mem_cons.1 h
    intro p hp
    rw [piecesOf] at hp
    rcases List.mem_append.1 hp with hp | hp
    · exact avoids_pieces hdot top _ t ht p hp
    · exact avoids_piecesOf hdot top names _ ts hts p hp

end

end Tree

/-- **A character that stands in no name** stands in no name of a component, in all files that are
read. -/
theorem not_mem_component {x : Char} (hspace : isSpace x = false) (hdot : x ≠ '.')
    (hx : Pattern.name.avoids x = true) (hx' : Pattern.hyphenated.avoids x = true)
    {path code : Text} {nodes : List Node} (h : read path code = .ok nodes) :
    ∀ e ∈ Element.list nodes, ∀ name ∈ e.component?, x ∉ name := by
  unfold read at h
  split at h
  · cases h
  · rename_i root hroot
    split at h
    · obtain rfl := Except.ok.inj h
      have hkept : root.Avoids x :=
        Tree.of_read? (Tree.keeps_avoids hspace (Automaton.avoids_ofPath hx hx' path)) hroot
      have hnodes : Node.Avoids x (nodesOf code root) := by
        unfold nodesOf
        split
        · exact Piece.avoids_nodesOf (Tree.avoids_piecesOf hdot true root.names 0 root.parts hkept.part)
        · exact Node.avoids_blank code
      exact fun e he => hnodes {} e (Element.list_eq _ ▸ he)
    · cases h

end UiHarness.Syntax
