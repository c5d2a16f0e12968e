/-!
# Patterns

Regular patterns over characters, matched against a whole text by derivatives: after reading a
character, what is left to match is again a pattern.  The smart constructors drop branches that
can no longer match, so that the pattern stays small however long the text is.
-/

namespace PrintSpec.Text

/-- A regular pattern. -/
inductive Pattern where
  /-- Matches no text. -/
  | never
  /-- Matches the empty text. -/
  | done
  /-- Matches one character of a class. -/
  | one (p : Char → Bool)
  /-- Matches a text of the first pattern followed by one of the second. -/
  | seq (p q : Pattern)
  /-- Matches the texts of either pattern. -/
  | alt (p q : Pattern)
  /-- Matches any number of texts of a pattern in a row. -/
  | star (p : Pattern)

namespace Pattern

/-- Sequence, without the parts that decide it. -/
def mkSeq : Pattern → Pattern → Pattern
  | .never, _ => .never
  | _, .never => .never
  | .done, q => q
  | p, q => .seq p q

/-- Choice, without the branches that never match. -/
def mkAlt : Pattern → Pattern → Pattern
  | .never, q => q
  | p, .never => p
  | p, q => .alt p q

/-- Whether a pattern matches the empty text. -/
def nullable : Pattern → Bool
  | .never => false
  | .done => true
  | .one _ => false
  | .seq p q => p.nullable && q.nullable
  | .alt p q => p.nullable || q.nullable
  | .star _ => true

/-- What is left of a pattern after reading a character. -/
def after (c : Char) : Pattern → Pattern
  | .never => .never
  | .done => .never
  | .one p => if p c then .done else .never
  | .seq p q =>
    if p.nullable then mkAlt (mkSeq (p.after c) q) (q.after c) else mkSeq (p.after c) q
  | .alt p q => mkAlt (p.after c) (q.after c)
  | .star p => mkSeq (p.after c) (.star p)

/-- Whether a pattern matches a whole text. -/
def accepts (p : Pattern) (cs : List Char) : Bool :=
  (cs.foldl (fun p c => p.after c) p).nullable

/-! ## Building patterns -/

/-- One of the given characters. -/
def anyOf (chars : String) : Pattern :=
  .one fun c => chars.toList.contains c

/-- Exactly the given text. -/
def lit (text : String) : Pattern :=
  text.toList.foldr (fun c p => .seq (.one (· == c)) p) .done

/-- The given patterns one after the other. -/
def inOrder (ps : List Pattern) : Pattern :=
  ps.foldr .seq .done

/-- One of the given patterns. -/
def oneOf (ps : List Pattern) : Pattern :=
  ps.foldr .alt .never

/-- A pattern or nothing. -/
def optional (p : Pattern) : Pattern :=
  .alt p .done

/-- A pattern at least once. -/
def atLeastOnce (p : Pattern) : Pattern :=
  .seq p (.star p)

/-- A pattern a fixed number of times. -/
def times : Nat → Pattern → Pattern
  | 0, _ => .done
  | n + 1, p => .seq p (times n p)

end Pattern

end PrintSpec.Text
