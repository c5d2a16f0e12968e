import Mathlib.Data.List.Basic
import PrintSpec.Document.Yaml.Folded
import PrintSpec.Document.Yaml.Scalar

/-!
# The runs of a text

Folding sees a text as runs of words, spaces and line ends.  Where no space meets a line end, words
and other runs alternate, so that a reader can tell the runs apart again.

`Piece.reread` says what a run is read back as between single quotes.  Only the next-line control
makes a difference: the reader takes it for a line feed.
-/

namespace PrintSpec.Yaml

namespace Piece

/-- The characters of a run. -/
def chars : Piece → List Char
  | .word cs => cs
  | .spaces n => List.replicate n ' '
  | .breaks cs => cs

/-- Whether a run is a word. -/
def isWord : Piece → Bool
  | .word _ => true
  | _ => false

/-- A run that is not empty and has characters of its sort only. -/
def Pure : Piece → Prop
  | .word cs => cs ≠ [] ∧ ∀ c ∈ cs, c ≠ ' ' ∧ isBreak c = false
  | .spaces n => 0 < n
  | .breaks cs => cs ≠ [] ∧ ∀ c ∈ cs, isBreak c = true

end Piece

/-- Runs in which words and others alternate. -/
def Alternating : List Piece → Prop
  | [] => True
  | p :: ps => p.Pure ∧ (∀ q ∈ ps.head?, q.isWord = !p.isWord) ∧ Alternating ps

lemma chars_cons (c : Char) (ps : List Piece) :
    (Piece.cons c ps).flatMap Piece.chars = c :: ps.flatMap Piece.chars := by
  unfold Piece.cons
  split_ifs with hspace hbreak
  · subst hspace
    split <;> simp [Piece.chars, List.replicate_succ]
  · split <;> simp [Piece.chars]
  · split <;> simp [Piece.chars]

/-- The runs of a text make it up. -/
lemma chars_pieces (cs : List Char) : (pieces cs).flatMap Piece.chars = cs := by
  induction cs with
  | nil => rfl
  | cons c cs ih => rw [pieces, List.foldr_cons, chars_cons, ← pieces, ih]

/-- A character goes in front of runs, unless a space would meet a line end there. -/
lemma alternating_cons {c : Char} {ps : List Piece} (h : Alternating ps)
    (hspace : c = ' ' → ∀ bs ps', ps ≠ .breaks bs :: ps')
    (hbreak : isBreak c → ∀ n ps', ps ≠ .spaces n :: ps') : Alternating (Piece.cons c ps) := by
  unfold Piece.cons
  split_ifs with hc hc'
  · split
    · exact ⟨Nat.succ_pos _, h.2⟩
    · rename_i hnot
      refine ⟨Nat.one_pos, ?_, h⟩
      rcases ps with - | ⟨- | n | bs, ps'⟩
      · simp
      · simp [Piece.isWord]
      · exact absurd rfl (hnot n ps')
      · exact absurd rfl (hspace hc bs ps')
  · split
    · rename_i bs ps'
      refine ⟨⟨List.cons_ne_nil _ _, ?_⟩, h.2⟩
      simpa using ⟨hc', h.1.2⟩
    · rename_i hnot
      refine ⟨⟨List.cons_ne_nil _ _, by simpa using hc'⟩, ?_, h⟩
      rcases ps with - | ⟨- | n | bs, ps'⟩
      · simp
      · simp [Piece.isWord]
      · exact absurd rfl (hbreak hc' n ps')
      · exact absurd rfl (hnot bs ps')
  · have hword : c ≠ ' ' ∧ isBreak c = false := ⟨hc, by simpa using hc'⟩
    split
    · rename_i w ps'
      refine ⟨⟨List.cons_ne_nil _ _, ?_⟩, h.2⟩
      intro d hd
      rcases List.mem_cons.mp hd with rfl | hd
      · exact hword
      · exact h.1.2 d hd
    · rename_i hnot
      refine ⟨⟨List.cons_ne_nil _ _, by simpa using hword⟩, ?_, h⟩
      rcases ps with - | ⟨w | n | bs, ps'⟩
      · simp
      · exact absurd rfl (hnot w ps')
      · simp [Piece.isWord]
      · simp [Piece.isWord]

lemma spaceMeetsBreak_tail {c : Char} {cs : List Char}
    (h : Style.spaceMeetsBreak (c :: cs) = false) : Style.spaceMeetsBreak cs = false := by
  cases cs with
  | nil => rfl
  | cons d cs =>
    simp only [Style.spaceMeetsBreak, Bool.or_eq_false_iff] at h
    exact h.2

lemma alternating_pieces {cs : List Char} (h : Style.spaceMeetsBreak cs = false) :
    Alternating (pieces cs) := by
  induction cs with
  | nil => trivial
  | cons c cs ih =>
    have htail := ih (spaceMeetsBreak_tail h)
    have hchars := chars_pieces cs
    rw [pieces, List.foldr_cons, ← pieces]
    refine alternating_cons htail ?_ ?_
    · rintro rfl bs ps' hps
      rw [hps] at htail hchars
      obtain ⟨b, bs, rfl⟩ := List.exists_cons_of_ne_nil htail.1.1
      have hb : isBreak b = true := htail.1.2 b List.mem_cons_self
      rw [← hchars] at h
      simp [Piece.chars, Style.spaceMeetsBreak, hb] at h
    · intro hc n ps' hps
      rw [hps] at htail hchars
      have hn : 0 < n := htail.1
      obtain ⟨n, rfl⟩ := Nat.exists_eq_succ_of_ne_zero (by omega : n ≠ 0)
      rw [← hchars] at h
      simp [Piece.chars, Style.spaceMeetsBreak, List.replicate_succ, hc] at h

/-! ## Reading back -/

/-- The character that a line end is read as. -/
def readBreak (c : Char) : Char :=
  if c = '\x85' then '\n' else c

/-- What a run is read back as between single quotes. -/
def Piece.reread : Piece → List Char
  | .breaks (c :: cs) =>
    if c = '\n' then (c :: cs).map readBreak else foldedBreaks (readBreak c) (cs.map readBreak)
  | p => p.chars

/-- What a text is read back as if it is written in a style. -/
def Style.reread : Style → List Char → List Char
  | .singleQuoted, cs => (pieces cs).flatMap Piece.reread
  | _, cs => cs

lemma map_readBreak {cs : List Char} (h : '\x85' ∉ cs) : cs.map readBreak = cs := by
  conv_rhs => rw [← List.map_id cs]
  refine List.map_congr_left fun c hc => ?_
  have hne : c ≠ '\x85' := by
    rintro rfl
    exact h hc
  simp [readBreak, hne]

lemma reread_of_kept {p : Piece} (h : '\x85' ∉ p.chars) : p.reread = p.chars := by
  match p, h with
  | .word cs, _ => rfl
  | .spaces n, _ => rfl
  | .breaks [], _ => rfl
  | .breaks (c :: cs), h =>
    have hmap : (c :: cs).map readBreak = c :: cs := map_readBreak h
    obtain ⟨hc, hcs⟩ := List.cons.inj hmap
    rw [Piece.reread, hmap, hc, hcs]
    split_ifs with hline
    · rfl
    · simp [foldedBreaks, hline, Piece.chars]

lemma readBreak_ne (c : Char) : readBreak c ≠ '\x85' := by
  unfold readBreak
  split_ifs with h
  · decide
  · exact h

lemma not_mem_map_readBreak (cs : List Char) : '\x85' ∉ cs.map readBreak := by
  intro h
  obtain ⟨c, -, hc⟩ := List.mem_map.mp h
  exact readBreak_ne c hc

lemma not_mem_reread {p : Piece} (h : p.Pure) : '\x85' ∉ p.reread := by
  match p, h with
  | .word cs, h =>
    intro hmem
    have hbreak := (h.2 _ hmem).2
    revert hbreak
    decide
  | .spaces n, _ => simp [Piece.reread, Piece.chars]
  | .breaks (c :: cs), _ =>
    have hcs := not_mem_map_readBreak cs
    simp only [Piece.reread]
    split_ifs
    · exact not_mem_map_readBreak (c :: cs)
    · unfold foldedBreaks
      split_ifs
      · simpa using ⟨(readBreak_ne c).symm, by simpa using hcs⟩
      · decide
      · exact hcs

lemma pure_of_alternating {ps : List Piece} (h : Alternating ps) : ∀ p ∈ ps, p.Pure := by
  induction ps with
  | nil => simp
  | cons p ps ih => simpa using ⟨h.1, ih h.2.2⟩

lemma allowsSingle_of_ofText {text : String} (h : Style.ofText text = .singleQuoted) :
    Style.allowsSingle text.toList = true := by
  unfold Style.ofText at h
  split_ifs at h with _ hsingle
  exact hsingle

/-- **Single quotes keep a text exactly if it has no next-line control.** -/
lemma reread_single_iff {cs : List Char} (h : Style.allowsSingle cs = true) :
    Style.reread .singleQuoted cs = cs ↔ '\x85' ∉ cs := by
  have hmeet : Style.spaceMeetsBreak cs = false := by
    simp only [Style.allowsSingle, Bool.and_eq_true, Bool.not_eq_true'] at h
    exact h.2
  have hpure := pure_of_alternating (alternating_pieces hmeet)
  constructor
  · intro hsame hmem
    rw [← hsame] at hmem
    obtain ⟨p, hp, hmem⟩ := List.mem_flatMap.mp hmem
    exact not_mem_reread (hpure p hp) hmem
  · intro hnot
    conv_rhs => rw [← chars_pieces cs]
    refine List.flatMap_congr fun p hp => reread_of_kept fun hmem => hnot ?_
    rw [← chars_pieces cs]
    exact List.mem_flatMap.mpr ⟨p, hp, hmem⟩

end PrintSpec.Yaml
