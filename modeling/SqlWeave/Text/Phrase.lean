import SqlWeave.Text.Blank

/-!
# Phrases

A statement is put together from fragments, some of which are empty because the statement lacks
that part.  A phrase takes the fragments in order, trims each, leaves out the blank ones and sets
one blank between the others.
-/

namespace SqlWeave

namespace Text

/-- Adds one fragment: nothing if it is blank, else the trimmed fragment, after a blank if there
is text before it. -/
def addFragment (written fragment : String) : String :=
  let fragment := trim fragment
  if fragment.isEmpty then written
  else if written.isEmpty then fragment
  else written ++ " " ++ fragment

/-- The fragments that are not blank, trimmed, with one blank between each two. -/
def phrase (fragments : List String) : String :=
  fragments.foldl addFragment ""

end Text

end SqlWeave
