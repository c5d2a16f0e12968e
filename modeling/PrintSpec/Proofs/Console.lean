import Mathlib.Data.Bool.AllAny
import Mathlib.Data.List.Basic
import PrintSpec.Console

/-!
# What the console keeps

The console changes six characters: it drops five controls and makes spaces of a tab.  A text
without them is shown as it is, and no shown text holds one.
-/

namespace PrintSpec.Console

/-- A character that the console neither drops nor replaces. -/
def Keeps (c : Char) : Prop :=
  c ≠ '\t' ∧ isDropped c = false

lemma expandFrom_of_keeps (column : Nat) (part : List Char) {cs : List Char}
    (h : ∀ c ∈ cs, Keeps c) : expandFrom column part cs = part.reverse ++ cs := by
  induction cs generalizing column part with
  | nil => simp [expandFrom]
  | cons c cs ih =>
    have htail : ∀ d ∈ cs, Keeps d := fun d hd => h d (List.mem_cons_of_mem c hd)
    have htab : c ≠ '\t' := (h c List.mem_cons_self).1
    rw [expandFrom]
    by_cases hline : c = '\n'
    · rw [if_pos hline, ih _ _ htail, hline]
      simp
    · rw [if_neg hline, if_neg htab, ih _ _ htail]
      simp

/-- A text of kept characters is shown as it is. -/
lemma shown_of_keeps {s : String} (h : ∀ c ∈ s.toList, Keeps c) : shown s = s := by
  have hfilter : s.toList.filter (fun c => !isDropped c) = s.toList := by
    rw [List.filter_eq_self]
    intro c hc
    simp [(h c hc).2]
  rw [shown, hfilter, expandFrom_of_keeps 0 [] h]
  simp

lemma keeps_space : Keeps ' ' := ⟨by decide, by decide⟩

lemma keeps_of_mem_expandFrom (column : Nat) {part cs : List Char}
    (hpart : ∀ c ∈ part, Keeps c) (hcs : ∀ c ∈ cs, isDropped c = false) :
    ∀ c ∈ expandFrom column part cs, Keeps c := by
  induction cs generalizing column part with
  | nil =>
    intro c hc
    exact hpart c (by simpa [expandFrom] using hc)
  | cons d cs ih =>
    have htail : ∀ c ∈ cs, isDropped c = false :=
      fun c hc => hcs c (List.mem_cons_of_mem d hc)
    rw [expandFrom]
    split_ifs with hline htab
    · intro c hc
      simp only [List.mem_append, List.mem_reverse, List.mem_cons] at hc
      rcases hc with hc | rfl | hc
      · exact hpart c hc
      · exact ⟨by decide, by decide⟩
      · exact ih _ (by simp) htail c hc
    · intro c hc
      simp only [List.mem_append, List.mem_reverse, List.mem_cons, List.mem_replicate] at hc
      rcases hc with ((rfl | hc) | ⟨-, rfl⟩) | hc
      · exact keeps_space
      · exact hpart c hc
      · exact keeps_space
      · exact ih _ (by simp) htail c hc
    · refine ih _ ?_ htail
      simp only [List.mem_cons, forall_eq_or_imp]
      exact ⟨⟨htab, hcs d List.mem_cons_self⟩, hpart⟩

/-- Whatever a text holds, kept characters are all that is shown of it. -/
lemma keeps_of_mem_shown {s : String} : ∀ c ∈ (shown s).toList, Keeps c := by
  rw [shown, String.toList_ofList]
  refine keeps_of_mem_expandFrom 0 (by simp) ?_
  intro c hc
  simpa using (List.mem_filter.mp hc).2

/-- The bytes of the characters that the console does not keep. -/
def isLostByte (b : UInt8) : Bool :=
  [7, 8, 9, 11, 12, 13].contains b

/-- Each of these characters is encoded as such a byte, so it is enough to look at bytes. -/
lemma keeps_of_bytes {s : String}
    (h : (s.toByteArray.data.toList.all fun b => !isLostByte b) = true) :
    ∀ c ∈ s.toList, Keeps c := by
  have hbytes : s.toByteArray.data.toList = s.toList.flatMap String.utf8EncodeChar := by
    conv_lhs => rw [← String.ofList_toList (s := s), String.toByteArray_ofList]
    exact List.toList_data_toByteArray
  have hall : ∀ c ∈ ['\t', '\x07', '\x08', '\x0b', '\x0c', '\r'],
      ∃ b ∈ String.utf8EncodeChar c, isLostByte b = true := by
    rw [← List.all_iff_forall_prop]
    decide
  intro c hc
  by_contra hkeeps
  have hmem : c ∈ ['\t', '\x07', '\x08', '\x0b', '\x0c', '\r'] := by
    by_contra hnot
    exact hkeeps (by simpa [Keeps, isDropped] using hnot)
  obtain ⟨b, hb, hlost⟩ := hall c hmem
  have hkept : (!isLostByte b) = true := by
    refine List.all_eq_true.mp h b ?_
    rw [hbytes]
    exact List.mem_flatMap.mpr ⟨c, hc, hb⟩
  rw [hlost] at hkept
  cases hkept

end PrintSpec.Console
