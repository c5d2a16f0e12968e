import PrintSpec.Proofs.TokenForm

/-!
# Tokens as the decomposition of an argument

An argument has one decomposition into tokens: the texts of the tokens make it up, a token that is
not plain is what the first pattern that matches there asks for, and a plain token covers a run of
places where no pattern matches and is not followed by another plain one.  `tokenize` finds it
exactly when there is one, which is when every number in it can be read.

`Decomposition` speaks about offsets in the whole argument.  The cutting goes from left to right, so
`decomposition_cons_iff` first turns it into a statement about the first token and the rest.  The
three cases of the cutting are then one lemma each: nothing is left, no pattern is found at the next
character, or a pattern is found.
-/

namespace PrintSpec

/-! ## Decompositions -/

namespace Matcher

/-- In the order in which the patterns are tried, `m` is the first that matches at the start of
`cs`. -/
def IsFirst (m : Matcher) (cs text payload : List Char) : Prop :=
  ∃ earlier later, all = earlier ++ m :: later ∧
    (∀ e ∈ earlier, ∀ text' payload', ¬ e.Matches cs text' payload') ∧ m.Matches cs text payload

/-- No pattern matches at the start of `cs`. -/
def NoneMatches (cs : List Char) : Prop :=
  ∀ m ∈ all, ∀ text payload, ¬ m.Matches cs text payload

lemma isFirst_iff {m : Matcher} {cs text payload : List Char} :
    m.IsFirst cs text payload ↔ ∃ found, first? all cs = some (m, found) ∧
      text = cs.take found.size ∧ payload = found.payload := by
  constructor
  · rintro ⟨earlier, later, hall, hearlier, hmatches⟩
    obtain ⟨found, hfound, htext, hpayload⟩ := matches_iff.mp hmatches
    refine ⟨found, ?_, htext, hpayload⟩
    rw [first?, List.findSome?_eq_some_iff]
    refine ⟨earlier, m, later, hall, by rw [hfound, Option.map_some], ?_⟩
    intro e he
    rw [find_eq_none_iff.mpr (hearlier e he), Option.map_none]
  · rintro ⟨found, hfirst, htext, hpayload⟩
    rw [first?, List.findSome?_eq_some_iff] at hfirst
    obtain ⟨earlier, m', later, hall, hfound, hearlier⟩ := hfirst
    obtain ⟨found', hfound', heq⟩ := Option.map_eq_some_iff.mp hfound
    obtain ⟨rfl, rfl⟩ := Prod.mk.inj heq
    refine ⟨earlier, later, hall, ?_, matches_iff.mpr ⟨found', hfound', htext, hpayload⟩⟩
    intro e he
    exact find_eq_none_iff.mp (Option.map_eq_none_iff.mp (hearlier e he))

lemma IsFirst.accepts {m : Matcher} {cs text payload : List Char}
    (h : m.IsFirst cs text payload) : m.Accepts text payload := by
  obtain ⟨-, -, -, -, hmatches⟩ := h
  exact hmatches.accepts

lemma first?_eq_none_iff {cs : List Char} : first? all cs = none ↔ NoneMatches cs := by
  rw [first?, List.findSome?_eq_none_iff]
  refine forall₂_congr fun m _ => ?_
  rw [Option.map_eq_none_iff, find_eq_none_iff]

end Matcher

namespace Token

/-- What a token of a decomposition is at its place, where `cs` is the argument from there on and
`after` are the tokens that follow. -/
structure Placed (cs : List Char) (t : Token) (after : List Token) : Prop where
  /-- A token covers some text. -/
  raw_ne : t.raw ≠ ""
  /-- A token that is not plain is what the first pattern that matches here asks for, and covers
  what the pattern matches. -/
  found : t.body.kind ≠ .plainText →
    ∃ m payload, Matcher.IsFirst m cs t.raw.toList payload ∧ m.body payload = .ok t.body
  /-- A plain token asks for the text it covers. -/
  plain : t.body.kind = .plainText → t.body = .plain t.raw
  /-- No pattern matches at any place of a plain token. -/
  unmatched : t.body.kind = .plainText → ∀ i < t.raw.length, Matcher.NoneMatches (cs.drop i)
  /-- A plain token is not followed by another one. -/
  separated : t.body.kind = .plainText → ∀ next ∈ after.head?, next.body.kind ≠ .plainText

/-- A token that is not plain covers a text of a pattern and is read from it. -/
lemma Placed.accepts {cs : List Char} {t : Token} {ts : List Token} (h : t.Placed cs ts)
    (hkind : t.body.kind ≠ .plainText) :
    ∃ m payload, Matcher.Accepts m t.raw.toList payload ∧ m.body payload = .ok t.body := by
  obtain ⟨m, payload, hfirst, hbody⟩ := h.found hkind
  exact ⟨m, payload, hfirst.accepts, hbody⟩

/-- The offset in an argument of the token that follows the given ones. -/
def offset (before : List Token) : Nat :=
  (before.flatMap fun t => t.raw.toList).length

end Token

/-- The tokens are a decomposition of the text: they make it up, and each of them is right at its
offset. -/
structure Decomposition (cs : List Char) (tokens : List Token) : Prop where
  source : (tokens.flatMap fun t => t.raw.toList) = cs
  placed : ∀ before t after, tokens = before ++ t :: after →
    t.Placed (cs.drop (Token.offset before)) after

lemma decomposition_nil_iff {cs : List Char} : Decomposition cs [] ↔ cs = [] := by
  constructor
  · intro h
    exact h.source.symm
  · rintro rfl
    exact ⟨rfl, by simp⟩

/-- A decomposition is its first token, and a decomposition of the rest. -/
lemma decomposition_cons_iff {cs : List Char} {t : Token} {ts : List Token} :
    Decomposition cs (t :: ts) ↔
      t.Placed cs ts ∧ ∃ rest, cs = t.raw.toList ++ rest ∧ Decomposition rest ts := by
  have hdrop : ∀ (rest : List Char) (before : List Token),
      (t.raw.toList ++ rest).drop (Token.offset (t :: before)) =
        rest.drop (Token.offset before) := by
    intro rest before
    rw [Token.offset, List.flatMap_cons, List.length_append, ← List.drop_drop, List.drop_left]
    rfl
  constructor
  · intro h
    have hsource := h.source.symm
    rw [List.flatMap_cons] at hsource
    refine ⟨h.placed [] t ts rfl, _, hsource, rfl, ?_⟩
    intro before t' after hts
    have hplaced := h.placed (t :: before) t' after (by rw [hts, List.cons_append])
    rwa [hsource, hdrop] at hplaced
  · rintro ⟨hplaced, rest, rfl, hrest⟩
    refine ⟨by rw [List.flatMap_cons, hrest.source], ?_⟩
    rintro (_ | ⟨s, before⟩) t' after htokens
    · obtain ⟨rfl, rfl⟩ := List.cons.inj htokens
      exact hplaced
    · obtain ⟨rfl, hts⟩ := List.cons.inj htokens
      rw [hdrop]
      exact hrest.placed before t' after hts

/-! ## Plain text -/

namespace Token

/-- Puts a plain character in front of tokens, as part of the first one if that is plain. -/
def consPlain (c : Char) : List Token → List Token
  | ⟨raw, .plain _⟩ :: ts => ofPlain (c :: raw.toList) :: ts
  | ts => ofPlain [c] :: ts

lemma consPlain_ofPlain (c : Char) (run : List Char) (ts : List Token) :
    consPlain c (ofPlain run :: ts) = ofPlain (c :: run) :: ts := by
  simp [consPlain, ofPlain]

lemma consPlain_of_kind_ne (c : Char) {ts : List Token}
    (h : ∀ next ∈ ts.head?, next.body.kind ≠ .plainText) :
    consPlain c ts = ofPlain [c] :: ts := by
  unfold consPlain
  split
  · simp [Body.kind] at h
  · rfl

lemma Placed.eq_ofPlain {cs : List Char} {t : Token} {ts : List Token} (h : t.Placed cs ts)
    (hkind : t.body.kind = .plainText) : t = ofPlain t.raw.toList := by
  obtain ⟨raw, body⟩ := t
  obtain rfl : body = .plain raw := h.plain hkind
  simp [ofPlain]

/-- No pattern matches where a plain token begins. -/
lemma Placed.noneMatches {cs : List Char} {t : Token} {ts : List Token} (h : t.Placed cs ts)
    (hkind : t.body.kind = .plainText) : Matcher.NoneMatches cs := by
  have hpos : 0 < t.raw.length := by
    rw [← String.length_toList, List.length_pos_iff]
    exact fun hraw => h.raw_ne (String.toList_eq_nil_iff.mp hraw)
  exact h.unmatched hkind 0 hpos

lemma placed_ofPlain_iff {cs run : List Char} {ts : List Token} :
    (ofPlain run).Placed cs ts ↔ run ≠ [] ∧
      (∀ i < run.length, Matcher.NoneMatches (cs.drop i)) ∧
      ∀ next ∈ ts.head?, next.body.kind ≠ .plainText := by
  constructor
  · intro h
    refine ⟨?_, by simpa [ofPlain] using h.unmatched rfl, h.separated rfl⟩
    rintro rfl
    exact h.raw_ne rfl
  · rintro ⟨hne, hrun, hnext⟩
    refine ⟨?_, fun h => absurd rfl h, fun _ => rfl, fun _ => ?_, fun _ => hnext⟩
    · simpa [ofPlain] using hne
    · simpa [ofPlain] using hrun

end Token

/-- A plain character in front of pieces comes in front of their tokens: no token of a pattern is
plain. -/
lemma mapM_token_consPlain (c : Char) (pieces : List Piece) :
    (Piece.consPlain c pieces).mapM Piece.token =
      (pieces.mapM Piece.token).map (Token.consPlain c) := by
  match pieces with
  | [] => rfl
  | .plain run :: pieces =>
    rw [Piece.consPlain, mapM_cons_ok (Piece.token_plain _), mapM_cons_ok (Piece.token_plain _)]
    cases pieces.mapM Piece.token with
    | error e => rfl
    | ok ts => simp [Except.map, Token.consPlain_ofPlain]
  | .found m text payload :: pieces =>
    have hcons : Piece.consPlain c (.found m text payload :: pieces) =
        .plain [c] :: .found m text payload :: pieces := rfl
    rw [hcons, mapM_cons_ok (Piece.token_plain _)]
    cases hread : (Piece.found m text payload :: pieces).mapM Piece.token with
    | error e => rfl
    | ok tokens =>
      obtain ⟨t, ts, ht, -, rfl⟩ := mapM_cons_eq_ok_iff.mp hread
      obtain ⟨b, hb, rfl⟩ := map_eq_ok_iff.mp ht
      have hkind := (Matcher.found_of_body hb).kind_ne_plainText
      simp only [Except.map]
      rw [Token.consPlain_of_kind_ne c (by simpa using hkind)]

/-- Where no pattern matches at the first character, a decomposition is one of the rest with that
character put in front. -/
lemma decomposition_plain_iff {c : Char} {rest : List Char}
    (h : Matcher.NoneMatches (c :: rest)) {tokens : List Token} :
    Decomposition (c :: rest) tokens ↔
      ∃ tokens', Decomposition rest tokens' ∧ Token.consPlain c tokens' = tokens := by
  have hrun : ∀ n, (∀ i < n + 1, Matcher.NoneMatches ((c :: rest).drop i)) ↔
      ∀ i < n, Matcher.NoneMatches (rest.drop i) := by
    intro n
    constructor
    · intro h i hi
      exact h (i + 1) (by omega)
    · rintro h' (_ | i) hi
      · exact h
      · exact h' i (by omega)
  constructor
  · intro hdec
    cases tokens with
    | nil => cases decomposition_nil_iff.mp hdec
    | cons t ts =>
      obtain ⟨hplaced, rest', hsplit, hts⟩ := decomposition_cons_iff.mp hdec
      have hkind : t.body.kind = .plainText := by
        by_contra hkind
        obtain ⟨m, payload, ⟨earlier, later, hall, -, hmatches⟩, -⟩ := hplaced.found hkind
        exact h m (by simp [hall]) _ _ hmatches
      obtain ⟨run, rfl⟩ : ∃ run, t = Token.ofPlain run := ⟨_, hplaced.eq_ofPlain hkind⟩
      obtain ⟨hne, hnone, hnext⟩ := Token.placed_ofPlain_iff.mp hplaced
      obtain ⟨d, run, rfl⟩ := List.exists_cons_of_ne_nil hne
      obtain ⟨rfl, rfl⟩ : c = d ∧ rest = run ++ rest' := by
        simpa [Token.ofPlain] using hsplit
      -- the rest begins with a plain token exactly if the run does not end after `c`
      cases run with
      | nil => exact ⟨ts, hts, Token.consPlain_of_kind_ne c hnext⟩
      | cons d run =>
        refine ⟨Token.ofPlain (d :: run) :: ts, ?_, Token.consPlain_ofPlain c _ ts⟩
        refine decomposition_cons_iff.mpr ⟨?_, rest', ?_, hts⟩
        · exact Token.placed_ofPlain_iff.mpr ⟨by simp, (hrun _).mp hnone, hnext⟩
        · simp [Token.ofPlain]
  · rintro ⟨tokens, hdec, rfl⟩
    by_cases hhead : ∀ next ∈ tokens.head?, next.body.kind ≠ .plainText
    · rw [Token.consPlain_of_kind_ne c hhead]
      refine decomposition_cons_iff.mpr ⟨?_, rest, by simp [Token.ofPlain], hdec⟩
      exact Token.placed_ofPlain_iff.mpr ⟨by simp, (hrun 0).mpr (by simp), hhead⟩
    · push Not at hhead
      obtain ⟨t, ht, hkind⟩ := hhead
      obtain ⟨ts, rfl⟩ := List.head?_eq_some_iff.mp ht
      obtain ⟨hplaced, rest', hsplit, hts⟩ := decomposition_cons_iff.mp hdec
      obtain ⟨run, rfl⟩ : ∃ run, t = Token.ofPlain run := ⟨_, hplaced.eq_ofPlain hkind⟩
      obtain ⟨-, hnone, hnext⟩ := Token.placed_ofPlain_iff.mp hplaced
      rw [Token.consPlain_ofPlain]
      refine decomposition_cons_iff.mpr ⟨?_, rest', ?_, hts⟩
      · exact Token.placed_ofPlain_iff.mpr ⟨by simp, (hrun _).mpr hnone, hnext⟩
      · simpa [Token.ofPlain] using hsplit

/-! ## Patterns -/

lemma Piece.raw_of_token {p : Piece} {t : Token} (h : p.token = .ok t) :
    t.raw.toList = p.text := by
  obtain ⟨b, -, rfl⟩ := map_eq_ok_iff.mp h
  exact String.toList_ofList

/-- Where a pattern is found, the token at this place is the one of the piece that the pattern
makes. -/
lemma placed_iff_token {cs : List Char} (hne : cs ≠ []) {m : Matcher} {found : Match}
    (h : Matcher.first? Matcher.all cs = some (m, found)) {t : Token} {ts : List Token} :
    t.Placed cs ts ↔
      (Piece.found m (cs.take found.size) found.payload).token = .ok t := by
  constructor
  · intro hplaced
    have hkind : t.body.kind ≠ .plainText := by
      intro hkind
      have hnone := Matcher.first?_eq_none_iff.mpr (hplaced.noneMatches hkind)
      rw [h] at hnone
      cases hnone
    obtain ⟨m', payload, hfirst, hbody⟩ := hplaced.found hkind
    obtain ⟨found', hfound, hraw, rfl⟩ := Matcher.isFirst_iff.mp hfirst
    obtain ⟨rfl, rfl⟩ := Prod.mk.inj (Option.some.inj (h.symm.trans hfound))
    refine map_eq_ok_iff.mpr ⟨t.body, hbody, ?_⟩
    simp only [Piece.text, ← hraw, String.ofList_toList]
  · intro htoken
    have hraw := Piece.raw_of_token htoken
    obtain ⟨b, hbody, rfl⟩ := map_eq_ok_iff.mp htoken
    have hkind := (Matcher.found_of_body hbody).kind_ne_plainText
    refine ⟨?_, fun _ => ⟨m, found.payload, Matcher.isFirst_iff.mpr ⟨found, h, hraw, rfl⟩, hbody⟩,
      fun hplain => absurd hplain hkind, fun hplain => absurd hplain hkind,
      fun hplain => absurd hplain hkind⟩
    have hsize : found.size ≠ 0 := found.size_pos.ne'
    simp [Piece.text, hne, hsize]

/-- Where a pattern is found, a decomposition is its token and a decomposition of what it leaves. -/
lemma decomposition_found_iff {cs : List Char} (hne : cs ≠ []) {m : Matcher} {found : Match}
    (h : Matcher.first? Matcher.all cs = some (m, found)) {tokens : List Token} :
    Decomposition cs tokens ↔ ∃ t ts,
      (Piece.found m (cs.take found.size) found.payload).token = .ok t ∧
        Decomposition (cs.drop found.size) ts ∧ tokens = t :: ts := by
  constructor
  · intro hdec
    cases tokens with
    | nil => exact absurd (decomposition_nil_iff.mp hdec) hne
    | cons t ts =>
      obtain ⟨hplaced, rest, hsplit, hts⟩ := decomposition_cons_iff.mp hdec
      have htoken := (placed_iff_token hne h).mp hplaced
      rw [Piece.raw_of_token htoken] at hsplit
      have hrest : cs.take found.size ++ cs.drop found.size = cs.take found.size ++ rest :=
        (List.take_append_drop found.size cs).trans hsplit
      refine ⟨t, ts, htoken, ?_, rfl⟩
      rwa [List.append_cancel_left hrest]
  · rintro ⟨t, ts, htoken, hts, rfl⟩
    refine decomposition_cons_iff.mpr ⟨(placed_iff_token hne h).mpr htoken, _, ?_, hts⟩
    rw [Piece.raw_of_token htoken]
    exact (List.take_append_drop _ _).symm

/-! ## Tokenizing -/

lemma mapM_token_cutWith_iff (cs : List Char) (tokens : List Token) :
    (cutWith Matcher.all cs).mapM Piece.token = .ok tokens ↔ Decomposition cs tokens := by
  -- for all tokens at once, since the plain character in front of a rest changes its first token
  fun_induction cutWith Matcher.all cs generalizing tokens with
  | case1 =>
    rw [mapM_eq_ok_iff, List.forall₂_nil_left_iff]
    constructor
    · rintro rfl
      exact decomposition_nil_iff.mpr rfl
    · intro h
      cases tokens with
      | nil => rfl
      | cons t ts =>
        obtain ⟨hplaced, rest, hsplit, -⟩ := decomposition_cons_iff.mp h
        have hraw : t.raw.toList = [] := (List.append_eq_nil_iff.mp hsplit.symm).1
        exact absurd (String.toList_eq_nil_iff.mp hraw) hplaced.raw_ne
  | case2 c rest hnone ih =>
    rw [decomposition_plain_iff (Matcher.first?_eq_none_iff.mp hnone), mapM_token_consPlain,
      map_eq_ok_iff]
    simp only [ih]
  | case3 c rest m found hfirst ih =>
    rw [decomposition_found_iff (by simp) hfirst, mapM_cons_eq_ok_iff]
    simp only [ih]

/-- **The tokens of an argument are its decomposition.**  What tokenizing gives is a decomposition
of the argument, and any decomposition of it is what tokenizing gives. -/
theorem tokenize_eq_ok_iff_decomposition (argument : String) (tokens : List Token) :
    tokenize argument = .ok tokens ↔ Decomposition argument.toList tokens := by
  rw [tokenize_eq_mapM, mapM_token_cutWith_iff]

end PrintSpec
