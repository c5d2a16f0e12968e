import Mathlib.Data.List.Infix
import PrintSpec.Proofs.Decomposition

/-!
# Cutting an argument at token boundaries

The tokens of an argument do not depend on what stands around them, as long as the argument is cut
between two of them: every run of neighbouring tokens is what tokenizing gives for the text of the
run.

Nothing that stands before a token counts, since a decomposition is its first token and a
decomposition of the rest.  What stands after a token does count in general: a number goes on as far
as there are digits, and a brace is open until it is closed.  But a pattern that matches at the
start of a text still matches when the text is made longer (`exists_matches_of_isPrefix`).  So with
less text on the right no new match appears, and a match that still fits remains the longest one.
-/

namespace PrintSpec

/-! ## Patterns on a shorter text -/

namespace Matcher

/-- A pattern matches wherever a text begins with one of its texts. -/
lemma exists_matches_of_accepts {m : Matcher} {cs text payload : List Char} (htext : text <+: cs)
    (h : m.Accepts text payload) : ∃ text' payload', m.Matches cs text' payload' := by
  obtain ⟨found, hfound, -⟩ := m.recognises.complete cs text payload htext h
  exact ⟨_, _, matches_iff.mpr ⟨found, hfound, rfl, rfl⟩⟩

/-- A pattern that matches at the start of a text matches, perhaps with a longer text, wherever more
follows. -/
lemma exists_matches_of_isPrefix {m : Matcher} {cs cs' text payload : List Char}
    (h : m.Matches cs' text payload) (hcs : cs' <+: cs) :
    ∃ text' payload', m.Matches cs text' payload' :=
  exists_matches_of_accepts (h.isPrefix.trans hcs) h.accepts

/-- A match stays one when text is taken away behind it. -/
lemma Matches.of_isPrefix {m : Matcher} {cs cs' text payload : List Char}
    (h : m.Matches cs text payload) (hcs : cs' <+: cs) (htext : text <+: cs') :
    m.Matches cs' text payload where
  isPrefix := htext
  accepts := h.accepts
  longest text' payload' htext' haccepts :=
    h.longest text' payload' (htext'.trans hcs) haccepts

lemma NoneMatches.of_isPrefix {cs cs' : List Char} (h : NoneMatches cs) (hcs : cs' <+: cs) :
    NoneMatches cs' := by
  intro m hm text payload hmatches
  obtain ⟨text', payload', hlonger⟩ := exists_matches_of_isPrefix hmatches hcs
  exact h m hm text' payload' hlonger

lemma IsFirst.of_isPrefix {m : Matcher} {cs cs' text payload : List Char}
    (h : m.IsFirst cs text payload) (hcs : cs' <+: cs) (htext : text <+: cs') :
    m.IsFirst cs' text payload := by
  obtain ⟨earlier, later, hall, hearlier, hmatches⟩ := h
  refine ⟨earlier, later, hall, ?_, hmatches.of_isPrefix hcs htext⟩
  intro e he text' payload' hshorter
  obtain ⟨text'', payload'', hlonger⟩ := exists_matches_of_isPrefix hshorter hcs
  exact hearlier e he text'' payload'' hlonger

end Matcher

/-! ## Tokens on a shorter text -/

/-- A token stays right at its place when text is taken away behind it, together with the tokens
there. -/
lemma Token.Placed.of_isPrefix {cs cs' : List Char} {t : Token} {ts us : List Token}
    (h : t.Placed cs (ts ++ us)) (hcs : cs' <+: cs) (hraw : t.raw.toList <+: cs') :
    t.Placed cs' ts where
  raw_ne := h.raw_ne
  found hkind := by
    obtain ⟨m, payload, hfirst, hbody⟩ := h.found hkind
    exact ⟨m, payload, hfirst.of_isPrefix hcs hraw, hbody⟩
  plain := h.plain
  unmatched hkind i hi := (h.unmatched hkind i hi).of_isPrefix (hcs.drop i)
  separated hkind next hnext := by
    apply h.separated hkind
    rw [List.head?_append, Option.mem_def.mp hnext]
    rfl

/-- The first tokens of a decomposition are one of their own text. -/
lemma Decomposition.left {cs : List Char} {ts us : List Token} (h : Decomposition cs (ts ++ us)) :
    Decomposition (ts.flatMap fun t => t.raw.toList) ts := by
  induction ts generalizing cs with
  | nil => exact decomposition_nil_iff.mpr rfl
  | cons t ts ih =>
    rw [List.cons_append] at h
    obtain ⟨hplaced, rest, rfl, hrest⟩ := decomposition_cons_iff.mp h
    have hshorter : (ts.flatMap fun t => t.raw.toList) <+: rest := by
      rw [← hrest.source, List.flatMap_append]
      exact List.prefix_append _ _
    refine decomposition_cons_iff.mpr ⟨?_, _, List.flatMap_cons, ih hrest⟩
    rw [List.flatMap_cons]
    exact hplaced.of_isPrefix ((List.prefix_append_right_inj _).mpr hshorter)
      (List.prefix_append _ _)

/-- The last tokens of a decomposition are one of their own text. -/
lemma Decomposition.right {cs : List Char} {ts us : List Token}
    (h : Decomposition cs (ts ++ us)) : Decomposition (us.flatMap fun t => t.raw.toList) us := by
  induction ts generalizing cs with
  | nil =>
    have hsource : (us.flatMap fun t => t.raw.toList) = cs := h.source
    rw [hsource]
    exact h
  | cons t ts ih =>
    obtain ⟨-, rest, -, hrest⟩ := decomposition_cons_iff.mp h
    exact ih hrest

/-- A run of tokens of an argument is the decomposition of the text of the run. -/
lemma decomposition_slice {argument : String} {tokens slice : List Token}
    (h : tokenize argument = .ok tokens) (hslice : slice <:+: tokens) :
    Decomposition (slice.flatMap fun t => t.raw.toList) slice := by
  obtain ⟨before, after, rfl⟩ := hslice
  rw [tokenize_eq_mapM, mapM_token_cutWith_iff] at h
  exact h.left.right

/-- Each token is right at the start of its own text. -/
lemma placed_raw_of_tokenize {argument : String} {tokens : List Token}
    (h : tokenize argument = .ok tokens) {t : Token} (ht : t ∈ tokens) :
    t.Placed t.raw.toList [] := by
  have hslice : [t] <:+: tokens := (List.singleton_infix_iff t tokens).mpr ht
  have hdec := decomposition_slice h hslice
  rw [List.flatMap_singleton] at hdec
  exact (decomposition_cons_iff.mp hdec).1

/-- **Tokens are stable under cutting at token boundaries.**  Every run of neighbouring tokens of an
argument is what tokenizing gives for the text of the run. -/
theorem tokenize_slice {argument : String} {tokens slice : List Token}
    (h : tokenize argument = .ok tokens) (hslice : slice <:+: tokens) :
    tokenize (String.join (slice.map Token.raw)) = .ok slice := by
  have htext : (String.join (slice.map Token.raw)).toList =
      slice.flatMap fun t => t.raw.toList := by
    simp [List.flatMap_map]
  rw [tokenize_eq_mapM, mapM_token_cutWith_iff, htext]
  exact decomposition_slice h hslice

/-- A range and a block are cut out from between plain texts, and so are the block and a brace that
is never closed. -/
theorem tokenize_slice_before_open_brace :
    tokenize "a%\x7b2:-1\x7d@\x7bx\x7d%\x7b" = .ok
      [⟨"a", .plain "a"⟩, ⟨"%\x7b2:-1\x7d", .range (some ⟨2, false⟩) (some ⟨1, true⟩)⟩,
        ⟨"@\x7bx\x7d", .block "x"⟩, ⟨"%\x7b", .plain "%\x7b"⟩] ∧
    tokenize "%\x7b2:-1\x7d@\x7bx\x7d" = .ok
      [⟨"%\x7b2:-1\x7d", .range (some ⟨2, false⟩) (some ⟨1, true⟩)⟩,
        ⟨"@\x7bx\x7d", .block "x"⟩] ∧
    tokenize "@\x7bx\x7d%\x7b" = .ok [⟨"@\x7bx\x7d", .block "x"⟩, ⟨"%\x7b", .plain "%\x7b"⟩] := by
  have h : tokenize "a%\x7b2:-1\x7d@\x7bx\x7d%\x7b" = .ok
      [⟨"a", .plain "a"⟩, ⟨"%\x7b2:-1\x7d", .range (some ⟨2, false⟩) (some ⟨1, true⟩)⟩,
        ⟨"@\x7bx\x7d", .block "x"⟩, ⟨"%\x7b", .plain "%\x7b"⟩] := by
    cbv
  have hmiddle := @tokenize_slice _ _ [_, _] h ⟨[_], [_], rfl⟩
  have hend := @tokenize_slice _ _ [_, _] h ⟨[_, _], [], rfl⟩
  have hmiddleText : String.join ["%\x7b2:-1\x7d", "@\x7bx\x7d"] = "%\x7b2:-1\x7d@\x7bx\x7d" := by
    decide
  have hendText : String.join ["@\x7bx\x7d", "%\x7b"] = "@\x7bx\x7d%\x7b" := by
    decide
  exact ⟨h, hmiddleText ▸ hmiddle, hendText ▸ hend⟩

end PrintSpec
