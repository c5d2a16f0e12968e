import PrintSpec.Proofs.Traversal
import PrintSpec.Token.Scan

/-!
# Cutting first and reading afterwards

The pass over an argument does three things at once: it finds the patterns, it gathers the plain text
between them, and it reads the numbers.  Here they are taken apart.  `cutWith` cuts a text into pieces
without reading a number, so it never fails, and it needs no places: a plain character is put in front
of the pieces of the rest.  Each piece is then read by itself.

`tokenizeWith_eq_mapM` says that this is the same, errors included.  The invariant of the pass is that
the plain text it has gathered stands in front of the pieces that are still to come.
-/

namespace PrintSpec

/-- A piece of an argument, before any number in it is read. -/
inductive Piece where
  /-- A run of characters at none of which a pattern is found. -/
  | plain (text : List Char)
  /-- What a pattern covers, and the part of it that carries the meaning. -/
  | found (matcher : Matcher) (text payload : List Char)
  deriving DecidableEq, Repr

namespace Piece

/-- The characters of the argument that a piece covers. -/
def text : Piece → List Char
  | .plain text => text
  | .found _ text _ => text

/-- Puts a plain character in front of pieces: in front of the first one if that is plain, and as
a piece of its own otherwise. -/
def consPlain (c : Char) : List Piece → List Piece
  | .plain text :: pieces => .plain (c :: text) :: pieces
  | pieces => .plain [c] :: pieces

/-- What a piece asks for. -/
def body : Piece → Except Numeral.Error Body
  | .plain text => .ok (.plain (String.ofList text))
  | .found matcher _ payload => matcher.body payload

/-- Reads a piece as a token. -/
def token (p : Piece) : Except Numeral.Error Token :=
  p.body.map (Token.mk (String.ofList p.text))

lemma token_plain (run : List Char) : (Piece.plain run).token = .ok (.ofPlain run) := rfl

lemma token_found (m : Matcher) (text payload : List Char) :
    (Piece.found m text payload).token = m.token text payload := rfl

lemma consPlain_of_head?_ne (c : Char) {pieces : List Piece}
    (h : ∀ run, pieces.head? ≠ some (.plain run)) :
    consPlain c pieces = .plain [c] :: pieces := by
  unfold consPlain
  split
  · exact absurd rfl (h _)
  · rfl

/-- A run of plain characters in front of pieces that do not begin with plain text is a piece of its
own. -/
lemma foldr_consPlain {run : List Char} (hne : run ≠ []) {pieces : List Piece}
    (h : ∀ run', pieces.head? ≠ some (.plain run')) :
    run.foldr consPlain pieces = .plain run :: pieces := by
  induction run with
  | nil => exact absurd rfl hne
  | cons c run ih =>
    rw [List.foldr_cons]
    by_cases hlast : run = []
    · rw [hlast, List.foldr_nil, consPlain_of_head?_ne c h]
    · rw [ih hlast]
      rfl

end Piece

/-- Cuts a text into pieces, with the first of the given patterns that is found at each place. -/
def cutWith (matchers : List Matcher) (cs : List Char) : List Piece :=
  match cs with
  | [] => []
  | c :: rest =>
    match Matcher.first? matchers (c :: rest) with
    | none => Piece.consPlain c (cutWith matchers rest)
    | some (m, found) =>
      .found m ((c :: rest).take found.size) found.payload ::
        cutWith matchers ((c :: rest).drop found.size)
termination_by cs.length
decreasing_by
  · simp
  · have := found.size_pos
    simp only [List.length_drop, List.length_cons]
    omega

lemma cutWith_of_none {matchers : List Matcher} {c : Char} {rest : List Char}
    (h : Matcher.first? matchers (c :: rest) = none) :
    cutWith matchers (c :: rest) = Piece.consPlain c (cutWith matchers rest) := by
  rw [cutWith, h]

lemma cutWith_of_some {matchers : List Matcher} {cs : List Char} (hne : cs ≠ []) {m : Matcher}
    {found : Match} (h : Matcher.first? matchers cs = some (m, found)) :
    cutWith matchers cs =
      .found m (cs.take found.size) found.payload :: cutWith matchers (cs.drop found.size) := by
  obtain ⟨c, rest, rfl⟩ := List.exists_cons_of_ne_nil hne
  rw [cutWith, h]

/-! ## The pass reads the pieces -/

/-- Pieces that do not begin with plain text are read after a run of it: the run is put out first,
unless it is empty. -/
lemma mapM_token_foldr_consPlain {cs : List Char} (tokens : List Token) (plainStart : Nat)
    {pos : Nat} (hpos : pos ≤ cs.length) {pieces : List Piece}
    (h : ∀ run, pieces.head? ≠ some (.plain run)) :
    (((cs.extract plainStart pos).foldr Piece.consPlain pieces).mapM Piece.token).map
        (tokens ++ ·) =
      (pieces.mapM Piece.token).map (flushPlain cs tokens plainStart pos ++ ·) := by
  unfold flushPlain
  split
  · rename_i hlt
    have hne : cs.extract plainStart pos ≠ [] := by
      rw [ne_eq, ← List.length_eq_zero_iff]
      simp only [List.length_take, List.length_drop]
      omega
    rw [Piece.foldr_consPlain hne h, mapM_cons_ok (Piece.token_plain _)]
    cases pieces.mapM Piece.token with
    | error e => rfl
    | ok ts => simp [Except.map]
  · rename_i hlt
    have hempty : cs.extract plainStart pos = [] := by
      rw [List.extract_eq_take_drop, Nat.sub_eq_zero_of_le (by omega), List.take_zero]
    rw [hempty, List.foldr_nil]

/-- The text from a place on, up to a length. -/
lemma extract_add (cs : List Char) (pos size : Nat) :
    cs.extract pos (pos + size) = (cs.drop pos).take size := by
  rw [List.extract_eq_take_drop, Nat.add_sub_cancel_left]

/-- The character at a place goes to the end of the plain text before it. -/
lemma extract_succ {cs rest : List Char} {c : Char} {plainStart pos : Nat} (hle : plainStart ≤ pos)
    (h : cs.drop pos = c :: rest) :
    cs.extract plainStart (pos + 1) = cs.extract plainStart pos ++ [c] := by
  have hget : (cs.drop plainStart)[pos - plainStart]? = some c := by
    rw [List.getElem?_drop, Nat.add_sub_cancel' hle, ← List.head?_drop, h]
    rfl
  rw [List.extract_eq_take_drop, List.extract_eq_take_drop, Nat.succ_sub hle, List.take_add_one,
    hget]
  rfl

/-- **The pass goes on by reading the pieces of the rest**, with the plain text that it has gathered in
front of them. -/
lemma scanFrom_eq_mapM (matchers : List Matcher) (cs : List Char) (tokens : List Token)
    {plainStart pos : Nat} (hle : plainStart ≤ pos) :
    scanFrom matchers cs tokens plainStart pos =
      (((cs.extract plainStart pos).foldr Piece.consPlain (cutWith matchers (cs.drop pos))).mapM
        Piece.token).map (tokens ++ ·) := by
  fun_induction scanFrom matchers cs tokens plainStart pos with
  | case1 tokens plainStart pos hpos hnone ih =>
    have hne : cs.drop pos ≠ [] := by simpa using hpos
    obtain ⟨c, rest, hrest⟩ := List.exists_cons_of_ne_nil hne
    have hnext : cs.drop (pos + 1) = rest := by
      rw [← List.drop_drop, hrest]
      rfl
    rw [hrest] at hnone
    rw [ih (by omega), extract_succ hle hrest, List.foldr_append, hnext, hrest,
      cutWith_of_none hnone]
    rfl
  | case2 tokens plainStart pos hpos m found hfirst stop e he =>
    rw [extract_add, ← Piece.token_found] at he
    rw [cutWith_of_some (by simpa using hpos) hfirst,
      mapM_token_foldr_consPlain tokens plainStart (by omega) (by simp), mapM_cons_error he]
    rfl
  | case3 tokens plainStart pos hpos m found hfirst stop t ht ih =>
    rw [extract_add, ← Piece.token_found] at ht
    rw [ih (Nat.le_refl stop), cutWith_of_some (by simpa using hpos) hfirst,
      mapM_token_foldr_consPlain tokens plainStart (by omega) (by simp), mapM_cons_ok ht,
      List.drop_drop, List.extract_eq_take_drop, Nat.sub_self, List.take_zero, List.foldr_nil]
    cases (cutWith matchers (cs.drop stop)).mapM Piece.token with
    | error e => rfl
    | ok ts => simp [Except.map]
  | case4 tokens plainStart pos hpos =>
    have hend : ∀ stop, cs.length ≤ stop → cs.extract plainStart stop = cs.drop plainStart := by
      intro stop hstop
      rw [List.extract_eq_take_drop, List.take_of_length_le]
      rw [List.length_drop]
      omega
    rw [hend pos (by omega), ← hend cs.length (Nat.le_refl _), List.drop_of_length_le (by omega),
      cutWith, mapM_token_foldr_consPlain tokens plainStart (Nat.le_refl _) (by simp)]
    simp [Except.map, pure, Except.pure]

/-- **Tokenizing is cutting and then reading.** -/
lemma tokenizeWith_eq_mapM (matchers : List Matcher) (argument : String) :
    tokenizeWith matchers argument =
      (cutWith matchers argument.toList).mapM Piece.token := by
  have hscan := scanFrom_eq_mapM matchers argument.toList [] (Nat.le_refl 0)
  rw [tokenizeWith, hscan]
  change ((cutWith matchers argument.toList).mapM Piece.token).map ([] ++ ·) = _
  cases (cutWith matchers argument.toList).mapM Piece.token <;> rfl

lemma tokenize_eq_mapM (argument : String) :
    tokenize argument = (cutWith Matcher.all argument.toList).mapM Piece.token :=
  tokenizeWith_eq_mapM Matcher.all argument

/-- Every token of an argument is read from a piece of it. -/
lemma exists_piece_of_tokenize {argument : String} {tokens : List Token}
    (h : tokenize argument = .ok tokens) {t : Token} (ht : t ∈ tokens) :
    ∃ p : Piece, p.token = .ok t := by
  rw [tokenize_eq_mapM] at h
  obtain ⟨p, -, hp⟩ := exists_mem_of_mapM_eq_ok h ht
  exact ⟨p, hp⟩

/-- The same for the groups of several arguments. -/
lemma exists_piece_of_ofArguments {args : List String} {groups : List Group}
    (h : Group.ofArguments args = .ok groups) {g : Group} (hg : g ∈ groups) {t : Token}
    (ht : t ∈ g.tokens) : ∃ p : Piece, p.token = .ok t := by
  obtain ⟨arg, -, hgroup⟩ := exists_mem_of_mapM_eq_ok h hg
  obtain ⟨tokens, htokens, rfl⟩ := map_eq_ok_iff.mp hgroup
  exact exists_piece_of_tokenize htokens ht

end PrintSpec
