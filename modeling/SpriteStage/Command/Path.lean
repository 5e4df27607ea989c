/-!
# Paths

A path is normalised by leaving out empty steps and steps that stay in place.  It is resolved against
a directory by taking back one step for each step up.
-/

namespace SpriteStage.Path

/-- The steps of a path. -/
def steps (path : String) : List String := (path.splitOn "/").filter fun s => s ≠ "" ∧ s ≠ "."

/-- The slashes that a normalised path begins with: two stay two, more become one. -/
def root (path : List Char) : String :=
  match (path.takeWhile (· = '/')).length with
  | 0 => ""
  | 2 => "//"
  | _ => "/"

/-- A path without idle steps. -/
def normalize (path : String) : String :=
  let text := root path.toList ++ "/".intercalate (steps path)
  if text.isEmpty then "." else text

/-- Walks the steps from a reversed list of steps. -/
def walk : List String → List String → List String
  | reached, [] => reached.reverse
  | reached, ".." :: rest => walk (reached.drop 1) rest
  | reached, s :: rest => walk (s :: reached) rest

/-- A path as seen from a directory, without steps up: the steps below the directory, or the steps
    from the root if the path begins there. -/
def resolve (directory path : String) : String :=
  if path.startsWith "/" then "/" ++ "/".intercalate (walk [] (steps path))
  else
    let root := if directory.startsWith "/" then "/" else ""
    root ++ "/".intercalate (walk (steps directory).reverse (steps path))

end SpriteStage.Path
