import SourceOutline.Fault
import SourceOutline.Path

/-!
# Commands

What the program can be asked for.
-/

namespace SourceOutline.CommandLine

/-- What a scan is asked for. -/
structure ScanRequest where
  /-- The path of the repository; the current folder when it is not given. -/
  path : Option Path
  /-- The languages to show; all when there are none. -/
  languages : List String
  /-- The greatest number of files. -/
  maxFiles : Int
  /-- The greatest number of lines for a file. -/
  maxLines : Int
  /-- The file to write to. -/
  output : Option Path
  /-- Whether to write a document. -/
  json : Bool
  /-- Whether to show the result only. -/
  quiet : Bool

/-- What the program is asked for. -/
inductive Command where
  /-- To scan a repository. -/
  | scan (request : ScanRequest)
  /-- To tell its version. -/
  | version
  /-- To tell the languages. -/
  | languages
  /-- To test itself on a folder. -/
  | test (path : Option Path)
  /-- To explain itself. -/
  | help

/-- What makes a command of the words of a command line, or refuses them. -/
abbrev Reader := List String → Except Fault Command

end SourceOutline.CommandLine
