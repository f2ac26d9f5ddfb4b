import SourceOutline.Text.Lines

/-!
# Paths

A path is a place to start from and the names that lead on from there. Empty names and the name `.`
are left out when a path is read, so that different spellings of a path without `..` are equal. The
name `..` stays until the path is resolved.
-/

namespace SourceOutline

/-- Where a path starts. -/
inductive Anchor where
  /-- At the current folder. -/
  | here
  /-- At the root. -/
  | root
  /-- At the root, written with exactly two slashes. -/
  | doubleRoot
  deriving DecidableEq, Repr

/-- A path. -/
structure Path where
  /-- Where the path starts. -/
  anchor : Anchor
  /-- The names that lead on. -/
  parts : List String
  deriving DecidableEq, Repr

namespace Path

/-- The names in a text with slashes, empty names and `.` left out. -/
def names (cs : List Char) : List String :=
  ((cs.splitOn '/').map String.ofList).filter fun name => name != "" && name != "."

/-- Reads a path. -/
def ofString (s : String) : Path :=
  match s.toList with
  | '/' :: '/' :: '/' :: rest => ⟨.root, names rest⟩
  | '/' :: '/' :: rest => ⟨.doubleRoot, names rest⟩
  | '/' :: rest => ⟨.root, names rest⟩
  | cs => ⟨.here, names cs⟩

/-- The written path; the current folder is written `.`. -/
def text (p : Path) : String :=
  let joined := String.intercalate "/" p.parts
  match p.anchor with
  | .here => if p.parts.isEmpty then "." else joined
  | .root => "/" ++ joined
  | .doubleRoot => "//" ++ joined

/-- The path `q` as seen from `p`; a `q` that starts at the root stays as it is. -/
def join (p q : Path) : Path :=
  match q.anchor with
  | .here => ⟨p.anchor, p.parts ++ q.parts⟩
  | _ => q

/-- The path with one more name. -/
def child (p : Path) (name : String) : Path := ⟨p.anchor, p.parts ++ [name]⟩

/-- The last name, or the empty text. -/
def name (p : Path) : String := p.parts.getLast?.getD ""

/-- Divides a name before its last dot, unless this is the first or the last character. -/
def splitName (name : String) : String × String :=
  let cs := name.toList
  let ending := (cs.reverse.takeWhile (· != '.')).reverse
  let stem := cs.take (cs.length - ending.length - 1)
  if ending.isEmpty || stem.isEmpty then (name, "")
  else (String.ofList stem, String.ofList ('.' :: ending))

/-- The last name without its ending. -/
def stem (p : Path) : String := (splitName p.name).1

/-- The ending of the last name with its dot, or the empty text. -/
def suffix (p : Path) : String := (splitName p.name).2

/-- One step of resolving: `..` leads back, and stays at the root when it is there. -/
def resolveStep (done : List String) (name : String) : List String :=
  if name == ".." then done.dropLast else done ++ [name]

/-- The path from the root without `..`, for a path seen from the folder `here`. -/
def resolve (here : Path) (p : Path) : Path :=
  ⟨.root, ((here.join p).parts).foldl resolveStep []⟩

/-- The names that lead from `base` to `p`, if `p` lies at or below it. -/
def relativeTo? (base p : Path) : Option (List String) :=
  if p.anchor = base.anchor && base.parts.isPrefixOf p.parts then
    some (p.parts.drop base.parts.length)
  else none

/-- The path that names lead to from the current folder. -/
def ofNames (names : List String) : Path := ⟨.here, names⟩

end Path

end SourceOutline
