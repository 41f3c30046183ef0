import RuleBench.Text.Search

/-!
# Paths

The plain spelling of a path: no repeated separators, none at the end, and no parts that stand for
the place they are in. Two separators in front, no more and no less, are kept.
-/

namespace RuleBench.Text

/-- The separators that are kept in front of a path. -/
def pathRoot (path : List Char) : String :=
  match (path.takeWhile (· == '/')).length with
  | 0 => ""
  | 2 => "//"
  | _ => "/"

/-- The parts of a path that lead somewhere. -/
def pathParts (path : List Char) : List String :=
  ((path.splitOn '/').map String.ofList).filter fun part => !part.isEmpty && part != "."

def plainPath (path : String) : String :=
  let root := pathRoot path.toList
  let parts := pathParts path.toList
  if root.isEmpty && parts.isEmpty then "." else root ++ "/".intercalate parts

end RuleBench.Text
