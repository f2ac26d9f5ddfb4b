import SourceOutline.Folder
import SourceOutline.Json.Printer

/-!
# Summaries

The summary of a repository: its folders with all files and symbols, and what is known about its
languages.
-/

namespace SourceOutline

/-- The summary of a repository. -/
structure Summary where
  /-- The name of the repository. -/
  name : String
  /-- The path of the repository as the user gave it. -/
  rootPath : String
  /-- The folders and files. -/
  folder : Folder
  /-- The number of files of each language. -/
  languages : List (String × Int)
  /-- Whether a parser is there for each language. -/
  supportedLanguages : List (String × Bool)
  /-- The number of files. -/
  totalFiles : Int
  /-- The number of lines of all files. -/
  totalLines : Int

namespace Summary

/-- Whether a parser is told to be there for a language. -/
def supports (summary : Summary) (language : String) : Bool :=
  (summary.supportedLanguages.lookup language).getD false

/-- The document of a summary. -/
def document (summary : Summary) : Json :=
  .table [
    ("repository", .table [
      ("name", .text summary.name), ("root_path", .text summary.rootPath),
      ("total_files", .int summary.totalFiles), ("total_lines", .int summary.totalLines),
      ("languages", countsDocument summary.languages),
      ("supported_languages",
        .table (summary.supportedLanguages.map fun (name, b) => (name, .bool b)))]),
    ("structure", summary.folder.document)]

/-- The layout of a written document for an indentation: no indentation gives one line, and one that
is not positive gives lines that are not indented. -/
def style (indent : Option Int) (ascii : Bool) : Json.Style := ⟨indent.map Int.toNat, ascii⟩

/-- The summary as a written document. -/
def render (summary : Summary) (indent : Option Int) : String :=
  summary.document.render (style indent false)

/-- Refuses an indentation that cannot be written. -/
def checkIndent : Option Int → Except Fault Unit
  | none => .ok ()
  | some n =>
    if n < -9223372036854775808 ∨ 9223372036854775807 < n then .error .indentOutOfRange
    else if (Text.Template.maxWidth : Int) < n then .error .indentTooWide
    else .ok ()

/-- The summary as a written document, when its indentation can be written. -/
def write (summary : Summary) (indent : Option Int) : Except Fault String := do
  checkIndent indent
  .ok (summary.render indent)

/-- The summary as the command line writes it. -/
def renderAscii (summary : Summary) : String := summary.document.render (style (some 2) true)

end Summary

end SourceOutline
