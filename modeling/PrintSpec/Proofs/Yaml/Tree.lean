import PrintSpec.Document.Yaml.Reader
import PrintSpec.Proofs.Yaml.Outline

/-!
# The tree of written values

The tokens of a value form a tree again, and the tree stands for the value, with its texts as they
are read back.
-/

namespace PrintSpec.Yaml

open Scanner

/-- A scalar as it is read back. -/
def rereadScalar : Scalar → Scalar
  | .str s => .str (String.ofList ((Style.ofText s).reread s.toList))
  | other => other

/-- The leaf of a scalar. -/
def scalarNode (s : Scalar) : Node :=
  match scalarToken s with
  | .quoted content => .quoted content
  | .plain text => .plain text
  | _ => .missing

mutual

/-- The tree of a value. -/
def valueNode : Value → Node
  | .scalar s => scalarNode s
  | .list vs => .sequence (itemNodes vs)
  | .map es => .mapping (entryNodes es)

/-- The trees of items. -/
def itemNodes : List Value → List Node
  | [] => []
  | v :: vs => valueNode v :: itemNodes vs

/-- The trees of entries. -/
def entryNodes : List (Scalar × Value) → List (Node × Node)
  | [] => []
  | (k, v) :: es => (.plain (String.ofList (keyText k)), valueNode v) :: entryNodes es

end

/-! ## Tokens form a tree -/

/-- The tree of a value under a key; a list there ends where no dash follows. -/
def TreeOfValue (v : Value) : Prop :=
  ∀ ⦃indent fuel : Nat⦄ ⦃rest : List Token⦄, Fits indent v → 3 * (valueTokens v).length + 2 ≤ fuel →
    rest.head? ≠ some .blockEntry →
    Node.read true true fuel (valueTokens v ++ rest) = .ok (valueNode v, rest)

/-- The tree of the entries of a mapping. -/
def TreeOfEntries (es : List (Scalar × Value)) : Prop :=
  ∀ ⦃indent fuel : Nat⦄ ⦃rest : List Token⦄, EntriesFit indent es →
    3 * (entryTokens es).length + 1 ≤ fuel →
    Node.readEntries fuel (entryTokens es ++ .blockEnd :: rest) = .ok (entryNodes es, rest)

/-- The tree of the items of a list, in a block of its own or at the column of a mapping. -/
def TreeOfItems (vs : List Value) : Prop :=
  ∀ ⦃indent fuel : Nat⦄ ⦃rest : List Token⦄, ItemsFit indent vs →
    3 * (itemTokens vs).length + 1 ≤ fuel →
    Node.readItems fuel (itemTokens vs ++ .blockEnd :: rest) = .ok (itemNodes vs, rest) ∧
      (rest.head? ≠ some .blockEntry →
        Node.readBareItems fuel (itemTokens vs ++ rest) = .ok (itemNodes vs, rest))

lemma scalarToken_cases (s : Scalar) :
    (∃ text, scalarToken s = .plain text) ∨ ∃ content, scalarToken s = .quoted content := by
  unfold scalarToken
  split
  · split
    · exact .inl ⟨_, rfl⟩
    · exact .inr ⟨_, rfl⟩
  · exact .inl ⟨_, rfl⟩

lemma read_scalar (s : Scalar) (block bare : Bool) (fuel : Nat) (rest : List Token) :
    Node.read block bare (fuel + 1) (scalarToken s :: rest) = .ok (scalarNode s, rest) := by
  rw [scalarNode]
  rcases scalarToken_cases s with ⟨text, h⟩ | ⟨content, h⟩
  · rw [h, Node.read]
  · rw [h, Node.read]

/-- A value starts with a token of its own, which ends nothing before it. -/
lemma exists_valueTokens_cons (v : Value) : ∃ t ts, valueTokens v = t :: ts ∧
    t ≠ .key ∧ t ≠ .value ∧ t ≠ .blockEnd ∧ (t = .blockEntry → ∃ w ws, v = .list (w :: ws)) := by
  rcases v with s | (_ | ⟨w, ws⟩) | es
  · refine ⟨scalarToken s, [], by rw [valueTokens], ?_⟩
    rcases scalarToken_cases s with ⟨text, h⟩ | ⟨content, h⟩ <;> simp [h]
  · exact ⟨_, _, by rw [valueTokens], by simp⟩
  · exact ⟨_, _, by rw [valueTokens, itemTokens]; rfl, by simp⟩
  · exact ⟨_, _, by rw [valueTokens]; rfl, by simp⟩

/-- A value after a key or a dash is there. -/
lemma readUnless_value {v : Value} {stop : List Token} {block bare : Bool} {fuel : Nat}
    {rest : List Token} {result : Except (List Token) (Node × List Token)}
    (hstop : ∀ t ∈ stop, t = .key ∨ t = .value ∨ t = .blockEnd ∨ t = .blockEntry)
    (hitem : .blockEntry ∈ stop → ∀ w ws, v ≠ .list (w :: ws))
    (h : Node.read block bare fuel (valueTokens v ++ rest) = result) :
    Node.readUnless (fun t => stop.contains t) block bare (fuel + 1) (valueTokens v ++ rest) =
      result := by
  obtain ⟨t, ts, hts, hkey, hvalue, hend, hentry⟩ := exists_valueTokens_cons v
  have hgoes : Node.goesOn (fun t => stop.contains t) (valueTokens v ++ rest) = false := by
    rw [hts]
    simp only [Node.goesOn, List.cons_append, List.head?_cons, Option.any_some,
      List.contains_eq_mem, decide_eq_false_iff_not]
    intro hmem
    rcases hstop t hmem with rfl | rfl | rfl | rfl
    · exact hkey rfl
    · exact hvalue rfl
    · exact hend rfl
    · obtain ⟨w, ws, hv⟩ := hentry rfl
      exact hitem hmem w ws hv
  rw [Node.readUnless, hgoes, ← h]
  rfl

lemma treeOfValue_scalar (s : Scalar) : TreeOfValue (.scalar s) := by
  intro indent fuel rest _ hfuel _
  obtain ⟨fuel, rfl⟩ := Nat.exists_eq_succ_of_ne_zero (by omega : fuel ≠ 0)
  rw [valueTokens, valueNode]
  exact read_scalar s true true fuel rest

lemma treeOfValue_emptyList : TreeOfValue (.list []) := by
  intro indent fuel rest _ hfuel _
  rw [valueTokens] at hfuel
  obtain ⟨fuel, rfl⟩ := Nat.exists_eq_add_of_le (show 2 ≤ fuel by omega)
  rw [valueTokens, Nat.add_comm 2 fuel]
  simp [Node.read, Node.readFlowItems, Node.afterComma, Except.map, valueNode, itemNodes]

/-- The tree of a mapping, wherever it stands. -/
lemma read_mapping {es : List (Scalar × Value)} (hes : TreeOfEntries es) {indent : Nat}
    (hfit : EntriesFit indent es) (bare : Bool) {fuel : Nat}
    (hfuel : 3 * (valueTokens (.map es)).length + 2 ≤ fuel) (rest : List Token) :
    Node.read true bare fuel (valueTokens (.map es) ++ rest) = .ok (valueNode (.map es), rest) := by
  rw [valueTokens] at hfuel ⊢
  simp only [List.length_cons, List.length_append, List.cons_append] at hfuel
  obtain ⟨fuel, rfl⟩ := Nat.exists_eq_succ_of_ne_zero (by omega : fuel ≠ 0)
  have hread := @hes indent fuel rest hfit (by omega)
  simp [Node.read, hread, Except.map, valueNode]

lemma treeOfValue_map {es : List (Scalar × Value)} (hes : TreeOfEntries es) :
    TreeOfValue (.map es) := by
  intro indent fuel rest hfit hfuel _
  exact read_mapping hes hfit.2.2 true hfuel rest

lemma treeOfValue_list {v : Value} {vs : List Value} (hvs : TreeOfItems (v :: vs)) :
    TreeOfValue (.list (v :: vs)) := by
  intro indent fuel rest hfit hfuel hrest
  rw [valueTokens] at hfuel ⊢
  obtain ⟨fuel, rfl⟩ := Nat.exists_eq_succ_of_ne_zero (by omega : fuel ≠ 0)
  have hread := (@hvs indent fuel rest hfit (by omega)).2 hrest
  rw [itemTokens, List.cons_append, List.cons_append] at hread ⊢
  rw [Node.read, if_pos rfl, hread]
  simp [Except.map, valueNode]

lemma head?_entryTokens (es : List (Scalar × Value)) (rest : List Token) :
    (entryTokens es ++ .blockEnd :: rest).head? ≠ some .blockEntry := by
  cases es with
  | nil => simp [entryTokens]
  | cons e es => simp [entryTokens]

lemma treeOfEntries_cons {k : Scalar} {v : Value} {es : List (Scalar × Value)}
    (hv : TreeOfValue v) (hes : TreeOfEntries es) : TreeOfEntries ((k, v) :: es) := by
  intro indent fuel rest hfit hfuel
  obtain ⟨-, hvfit, hesfit⟩ := hfit
  rw [entryTokens] at hfuel ⊢
  simp only [List.length_cons, List.length_append, List.cons_append] at hfuel
  obtain ⟨fuel, rfl⟩ := Nat.exists_eq_add_of_le (show 4 ≤ fuel by omega)
  have hvalue := @hv indent (fuel + 1) (entryTokens es ++ .blockEnd :: rest) hvfit (by omega)
    (head?_entryTokens es rest)
  have hafter := @readUnless_value v [.key, .value, .blockEnd] true true (fuel + 1)
    (entryTokens es ++ .blockEnd :: rest) _ (by simp) (by simp) hvalue
  have hmore := @hes indent (fuel + 3) rest hesfit (by omega)
  have hkey : Node.readUnless (fun t => [Token.key, .value, .blockEnd].contains t) true true
      (fuel + 3) (keyToken k :: .value :: (valueTokens v ++ (entryTokens es ++ .blockEnd :: rest))) =
        .ok (.plain (String.ofList (keyText k)),
          .value :: (valueTokens v ++ (entryTokens es ++ .blockEnd :: rest))) := by
    simp [Node.readUnless, Node.goesOn, keyToken, Node.read]
  simp only [List.cons_append, List.append_assoc]
  rw [Nat.add_comm 4 fuel, Node.readEntries]
  simp only [bind, Except.bind, pure, Except.pure, hkey, Node.readValueAfterKey, hafter, hmore,
    entryNodes]

lemma treeOfItems_cons {es : List (Scalar × Value)} {vs : List Value} (hes : TreeOfEntries es)
    (hvs : TreeOfItems vs) : TreeOfItems (.map es :: vs) := by
  intro indent fuel rest hfit hfuel
  obtain ⟨-, ⟨-, -, hesfit⟩, hvsfit⟩ := hfit
  rw [itemTokens] at hfuel ⊢
  simp only [List.length_cons, List.length_append, List.cons_append] at hfuel
  obtain ⟨fuel, rfl⟩ := Nat.exists_eq_add_of_le (show 2 ≤ fuel by omega)
  rw [Nat.add_comm 2 fuel]
  have hread := fun after => @read_mapping es hes _ hesfit false fuel (by omega) after
  have hitem : ∀ (stop : List Token) (after : List Token),
      (∀ t ∈ stop, t = .key ∨ t = .value ∨ t = .blockEnd ∨ t = .blockEntry) →
      Node.readUnless (fun t => stop.contains t) true false (fuel + 1)
        (valueTokens (.map es) ++ after) = .ok (valueNode (.map es), after) := by
    intro stop after hstop
    exact readUnless_value hstop (fun _ _ _ => by simp) (hread after)
  obtain ⟨hblock, hbare⟩ := @hvs indent (fuel + 1) rest hvsfit (by omega)
  simp only [List.cons_append, List.append_assoc]
  constructor
  · have hfirst := hitem [.blockEntry, .blockEnd] (itemTokens vs ++ .blockEnd :: rest) (by simp)
    rw [Node.readItems]
    simp only [bind, Except.bind, pure, Except.pure, hfirst, hblock, itemNodes]
  · intro hrest
    have hfirst := hitem [.blockEntry, .key, .value, .blockEnd] (itemTokens vs ++ rest) (by simp)
    rw [Node.readBareItems]
    simp only [bind, Except.bind, pure, Except.pure, hfirst, hbare hrest, itemNodes]

mutual

lemma treeOfValue : ∀ v : Value, TreeOfValue v
  | .scalar s => treeOfValue_scalar s
  | .list [] => treeOfValue_emptyList
  | .list (v :: vs) => treeOfValue_list (treeOfItems (v :: vs))
  | .map es => treeOfValue_map (treeOfEntries es)

lemma treeOfEntries : ∀ es : List (Scalar × Value), TreeOfEntries es
  | [] => by
    intro indent fuel rest _ hfuel
    obtain ⟨fuel, rfl⟩ := Nat.exists_eq_succ_of_ne_zero (by omega : fuel ≠ 0)
    simp [entryTokens, entryNodes, Node.readEntries]
  | (_, v) :: es => treeOfEntries_cons (treeOfValue v) (treeOfEntries es)

lemma treeOfItems : ∀ vs : List Value, TreeOfItems vs
  | [] => by
    intro indent fuel rest _ hfuel
    obtain ⟨fuel, rfl⟩ := Nat.exists_eq_succ_of_ne_zero (by omega : fuel ≠ 0)
    refine ⟨by simp [itemTokens, itemNodes, Node.readItems], fun hrest => ?_⟩
    rw [itemTokens, itemNodes, List.nil_append, Node.readBareItems]
    rintro after rfl
    exact hrest rfl
  | .map es :: vs => treeOfItems_cons (treeOfEntries es) (treeOfItems vs)
  | .scalar _ :: _ => fun _ _ _ hvs => by
    obtain ⟨⟨es, hes⟩, -⟩ := hvs
    cases hes
  | .list _ :: _ => fun _ _ _ hvs => by
    obtain ⟨⟨es, hes⟩, -⟩ := hvs
    cases hes

end

/-! ## The tree stands for the value -/

lemma ofPlain_of_ofText {text : String} (h : Style.ofText text = .plain) :
    ofPlain text = .ok (.str text) := by
  rw [ofPlain, (ofText_eq_plain_iff.mp h).1]

lemma toValue_scalarNode {s : Scalar} (h : IsWhole s) (level : Nat) :
    (scalarNode s).toValue level = .ok (.scalar (rereadScalar s)) := by
  cases s with
  | null => rfl
  | bool b => cases b <;> rfl
  | int n =>
    obtain ⟨n, hn, rfl⟩ := h.1
    have hnode : scalarNode (.int n) = .plain (toString (n : Int)) := by
      simp [scalarNode, scalarToken, scalarText]
    rw [hnode, Node.toValue, ofPlain_toString hn]
    rfl
  | str text =>
    cases hstyle : Style.ofText text with
    | plain =>
      simp [scalarNode, scalarToken, rereadScalar, hstyle, Node.toValue, ofPlain_of_ofText hstyle,
        Style.reread, Except.map, Except.mapError]
    | singleQuoted | doubleQuoted =>
      simp [scalarNode, scalarToken, rereadScalar, hstyle, Node.toValue]
  | double d => exact absurd h.1 not_false
  | torn codes => exact absurd rfl (h.2 codes)

/-- A word is read as a key, and not as the one that merges. -/
lemma KeyWord.toKey {word : String} (h : KeyWord word) (level : Nat) :
    Node.toKey level (.plain word) = .ok (.str word) := by
  rw [Node.toKey, (ofText_eq_plain_iff.mp h.style).1, ofPlain_of_ofText h.style]
  rfl

lemma KeyWord.isMergeKey {word : String} (h : KeyWord word) :
    Node.isMergeKey (.plain word) = false := by
  rw [Node.isMergeKey, (ofText_eq_plain_iff.mp h.style).1]
  rfl

lemma merges_entryNodes {indent : Nat} {es : List (Scalar × Value)} (h : EntriesFit indent es)
    (level : Nat) : Node.mergesWell (entryNodes es) = true ∧
      Node.mergedEntries level (entryNodes es) = .ok [] := by
  induction es with
  | nil => exact ⟨rfl, rfl⟩
  | cons e es ih =>
    obtain ⟨⟨word, hk, hword⟩, -, hes⟩ := h
    obtain ⟨hwell, hmerged⟩ := ih hes
    simp [entryNodes, hk, keyText_of_keyWord hword, Node.mergesWell, Node.mergedEntries,
      hword.isMergeKey, hwell, hmerged]

mutual

/-- **The tree of a value stands for the value as it is read back.** -/
lemma toValue_valueNode : ∀ {v : Value} {indent : Nat}, Fits indent v → ∀ level,
    (valueNode v).toValue level = .ok (v.reread rereadScalar)
  | .scalar s, _, h, level => toValue_scalarNode h.1 level
  | .list vs, _, h, level => by
    rw [valueNode, Node.toValue, itemValues_itemNodes h, Value.reread]
    rfl
  | .map es, _, ⟨_, hnodup, hes⟩, level => by
    obtain ⟨hwell, hmerged⟩ := merges_entryNodes hes (level + 1)
    have hmap := Value.ofEntries_rereadEntries rereadScalar hnodup fun e he => by
      obtain ⟨⟨word, hword, -⟩, -⟩ := entriesFit_iff.mp hes e he
      exact ⟨word, hword⟩
    rw [valueNode, Node.toValue, hwell, if_pos rfl, hmerged, ownEntries_entryNodes hes, Value.reread,
      ← hmap]
    rfl

lemma itemValues_itemNodes : ∀ {vs : List Value} {indent : Nat}, ItemsFit indent vs → ∀ level,
    Node.itemValues level (itemNodes vs) = .ok (Value.rereadItems rereadScalar vs)
  | [], _, _, _ => rfl
  | v :: vs, _, ⟨_, hv, hvs⟩, level => by
    rw [itemNodes, Node.itemValues, toValue_valueNode hv, itemValues_itemNodes hvs]
    rfl

lemma ownEntries_entryNodes : ∀ {es : List (Scalar × Value)} {indent : Nat}, EntriesFit indent es →
    ∀ level, Node.ownEntries level (entryNodes es) = .ok (Value.rereadEntries rereadScalar es)
  | [], _, _, _ => rfl
  | (k, v) :: es, _, ⟨⟨word, hk, hword⟩, hv, hes⟩, level => by
    obtain rfl : k = .str word := hk
    rw [entryNodes, keyText_of_keyWord hword, String.ofList_toList, Node.ownEntries,
      hword.isMergeKey, if_neg (by simp), hword.toKey, toValue_valueNode hv,
      ownEntries_entryNodes hes]
    rfl

end

end PrintSpec.Yaml
