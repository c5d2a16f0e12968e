/-!
# Command lines for a shell

A command is shown as one line that a POSIX shell reads back as the same words.  A word of
harmless characters stands for itself; any other word stands between single quotes, and a single
quote inside it is written between double quotes.
-/

namespace PrintSpec.Shell

/-- Whether a character needs no quotes. -/
def isHarmless (c : Char) : Bool :=
  c.isAlphanum || ['_', '@', '%', '+', '=', ':', ',', '.', '/', '-'].contains c

/-- One character between single quotes.  A single quote closes them, stands between double
quotes and opens them again. -/
def quotedChar (c : Char) : List Char :=
  if c = '\'' then ['\'', '"', '\'', '"', '\''] else [c]

/-- A word as a shell reads it back. -/
def quoteWord (word : String) : String :=
  if word.toList.isEmpty then "''"
  else if word.toList.all isHarmless then word
  else String.ofList ('\'' :: word.toList.flatMap quotedChar ++ ['\''])

/-- A command as a shell reads it back. -/
def commandLine (command : List String) : String :=
  " ".intercalate (command.map quoteWord)

end PrintSpec.Shell
