import ComponentAtlas.Pattern.Matcher
import ComponentAtlas.Pattern.Reader

/-!
# Excluding names

Names are excluded by patterns. A text that is no pattern excludes nothing, so that a slip in
one of them does not stop a scan.
-/

namespace ComponentAtlas.Pattern

/-- The patterns among some texts, with the texts that write them. Malformed ones are left
out; any other refusal stands. -/
def compileAll : List String → Except Refusal (List (String × Compiled))
  | [] => .ok []
  | text :: rest => do
    match compile text with
    | .ok pattern => return (text, pattern) :: (← compileAll rest)
    | .error .malformed => compileAll rest
    | .error refusal => .error refusal

/-- Some pattern matches in a name. -/
def excludes (patterns : List Compiled) (name : String) : Bool :=
  patterns.any (·.matchesIn name)

end ComponentAtlas.Pattern
