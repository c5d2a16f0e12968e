import Mathlib.Tactic.Common
import PrintSpec.Awk.Quote

/-!
# String literals

What awk fixes about string literals is little: a quote ends a literal, the end of a line may not
stand in one, a backslash and one of four characters stand for one character, and every other
character but the backslash stands for itself.  What another backslash means is left to the reader.
These rules alone give a text back from its literal, whatever the text holds and whatever follows
(`LiteralReader.literal?_quote`): the literal ends at its own closing quote and nowhere before.
-/

namespace PrintSpec.Awk

/-- The characters that stand for another one after a backslash, each with its meaning. -/
def escapePairs : List (Char × Char) :=
  [('\\', '\\'), ('"', '"'), ('n', '\n'), ('r', '\r')]

/-- A reader of string literals that follows the rules of awk. -/
structure LiteralReader where
  /-- Reads a literal after its opening quote: its meaning, and what follows the closing quote. -/
  read : List Char → Option (List Char × List Char)
  /-- A quote ends the literal. -/
  read_close : ∀ rest, read ('"' :: rest) = some ([], rest)
  /-- A literal does not go over the end of a line. -/
  read_newline : ∀ rest, read ('\n' :: rest) = none
  /-- A backslash and one of the four characters stand for one character. -/
  read_pair : ∀ e meaning, (e, meaning) ∈ escapePairs → ∀ rest,
    read ('\\' :: e :: rest) = (read rest).map fun (content, rest) => (meaning :: content, rest)
  /-- Every other character but the backslash stands for itself. -/
  read_char : ∀ c, c ≠ '"' → c ≠ '\n' → c ≠ '\\' → ∀ rest,
    read (c :: rest) = (read rest).map fun (content, rest) => (c :: content, rest)

namespace LiteralReader

variable (reader : LiteralReader)

/-- Reads a literal, its opening quote included. -/
def literal? : List Char → Option (String × List Char)
  | '"' :: cs => (reader.read cs).map fun (content, rest) => (String.ofList content, rest)
  | _ => none

lemma read_escapeChar (c : Char) (rest : List Char) :
    reader.read (escapeChar c ++ rest) =
      (reader.read rest).map fun (content, rest) => (c :: content, rest) := by
  unfold escapeChar
  split_ifs with hb hq hn hr
  · subst hb
    exact reader.read_pair '\\' '\\' (by simp [escapePairs]) rest
  · subst hq
    exact reader.read_pair '"' '"' (by simp [escapePairs]) rest
  · subst hn
    exact reader.read_pair 'n' '\n' (by simp [escapePairs]) rest
  · subst hr
    exact reader.read_pair 'r' '\r' (by simp [escapePairs]) rest
  · exact reader.read_char c hq hn hb rest

/-- The escaped characters of a text, up to a closing quote, denote that text. -/
lemma read_flatMap_escapeChar (content rest : List Char) :
    reader.read (content.flatMap escapeChar ++ '"' :: rest) = some (content, rest) := by
  induction content with
  | nil => exact reader.read_close rest
  | cons c content ih =>
    rw [List.flatMap_cons, List.append_assoc, read_escapeChar, ih]
    rfl

/-- The literal of a text is read as the text, whatever the text holds and whatever follows. -/
lemma literal?_quote (t : String) (rest : List Char) :
    reader.literal? ((quote t).toList ++ rest) = some (t, rest) := by
  have hquote : (quote t).toList ++ rest =
      '"' :: (t.toList.flatMap escapeChar ++ '"' :: rest) := by
    simp [quote]
  rw [hquote, literal?, read_flatMap_escapeChar]
  simp

end LiteralReader

end PrintSpec.Awk
