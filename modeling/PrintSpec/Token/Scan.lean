import PrintSpec.Token.Matcher

/-!
# Cutting an argument into tokens

One pass over an argument, from left to right, with two places in it: the place that is looked at,
and the place where the plain text before it begins.  The first pattern that is found at the current
place makes a token and ends the plain text before it; a place at which no pattern is found is passed
over.  What is plain at the end of the argument is a token as well.

A number is read as soon as it is found, so one that is too long ends the pass there.  The patterns
are a parameter, so that statements about their order can be made.
-/

namespace PrintSpec

/-- The tokens so far, and the text between two places as one more if there is any. -/
def flushPlain (cs : List Char) (tokens : List Token) (plainStart pos : Nat) : List Token :=
  if plainStart < pos then tokens ++ [.ofPlain (cs.extract plainStart pos)] else tokens

/-- Goes on at a place of a text, with the tokens so far and the place where the plain text after
them begins. -/
def scanFrom (matchers : List Matcher) (cs : List Char) (tokens : List Token)
    (plainStart pos : Nat) : Except Numeral.Error (List Token) :=
  if pos < cs.length then
    match Matcher.first? matchers (cs.drop pos) with
    | none => scanFrom matchers cs tokens plainStart (pos + 1)
    | some (m, found) =>
      let stop := pos + found.size
      match m.token (cs.extract pos stop) found.payload with
      | .error e => .error e
      | .ok t => scanFrom matchers cs (flushPlain cs tokens plainStart pos ++ [t]) stop stop
  else .ok (flushPlain cs tokens plainStart cs.length)
termination_by cs.length - pos
decreasing_by
  · omega
  · have := found.size_pos
    omega

/-- The tokens of an argument under the given patterns. -/
def tokenizeWith (matchers : List Matcher) (argument : String) :
    Except Numeral.Error (List Token) :=
  scanFrom matchers argument.toList [] 0 0

/-- The tokens of an argument. -/
def tokenize (argument : String) : Except Numeral.Error (List Token) :=
  tokenizeWith Matcher.all argument

namespace Group

def ofArgument (argument : String) : Except Numeral.Error Group :=
  (tokenize argument).map (Group.mk argument)

/-- The first argument that cannot be cut ends it. -/
def ofArguments (arguments : List String) : Except Numeral.Error (List Group) :=
  arguments.mapM ofArgument

end Group

end PrintSpec
