import FeedExplorer.Text.Blank

/-!
# File names

The last part of a name that came from elsewhere, so that it can name nothing outside the
directory it is put into.
-/

namespace FeedExplorer.Files

/-- Both kinds of slash part a name. -/
def isSeparator (c : Char) : Bool :=
  c == '/' || c == '\\'

/-- What stands behind the last separator. -/
def lastPart (cs : List Char) : List Char :=
  (cs.reverse.takeWhile fun c => !isSeparator c).reverse

/-- The last part without blanks around it, unless nothing usable is left. -/
def safeName? (name : String) : Option String :=
  let part := Text.trimChars (lastPart name.toList)
  if part.isEmpty || part == ['.'] || part == ['.', '.'] then none
  else some (String.ofList part)

end FeedExplorer.Files
