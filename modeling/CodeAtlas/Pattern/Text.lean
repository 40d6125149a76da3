/-
  CodeAtlas.Pattern.Text — patterns given by their text.

  `Pattern.parse?` gives the pattern that a text describes.  The text must be well formed, its parts
  must not be nested too deeply, what it stands for must make sense under its flags, and the
  automaton must not be too large.
-/
import CodeAtlas.Pattern.Automaton
import CodeAtlas.Pattern.Matching
import CodeAtlas.Pattern.Meaning
import CodeAtlas.Pattern.Parser

namespace CodeAtlas.Pattern

/-- Parts of a pattern may not be nested more deeply. -/
def depthLimit : Nat := 250

/-- The pattern that a text describes. -/
def parse? (s : String) : Option Pattern :=
  (Expression.parse? s).bind fun e =>
    if depthLimit < e.depth then none
    else ((e.pattern? {}).map (·.1)).filter Automaton.fits

end CodeAtlas.Pattern
