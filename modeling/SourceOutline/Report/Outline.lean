import SourceOutline.Summary
import SourceOutline.Text.Casing
import SourceOutline.Text.Lines
import SourceOutline.Text.Blank

/-!
# The outline of a repository

The outline shows the files of a repository with their symbols, two spaces deeper for every level.
It comes in two views: by folders, where folders and files stand in the order of their names, and by
languages.
-/

namespace SourceOutline

namespace Outline

/-- The spaces at the start of a line of some depth. -/
def indent (depth : Nat) : String := String.ofList (List.replicate (2 * depth) ' ')

/-- Moves the lines of a text after the first to the right: each starts with `base`, whatever blanks
it started with; lines with nothing but blanks become empty. -/
def alignLines (base text : String) : String :=
  match Text.lines text with
  | [] => text
  | first :: rest =>
    String.intercalate "\n" (first :: rest.map fun line =>
      let line := Text.trimStart line
      if line.isEmpty then "" else base ++ line)

/-- What is shown of a symbol: its signature, or its kind and name when it has none. -/
def symbolText (symbol : Symbol) : String :=
  match symbol.signature with
  | some s => if s.isEmpty then symbol.kind.lead ++ symbol.name else s
  | none => symbol.kind.lead ++ symbol.name

mutual

/-- The lines of a symbol and of the symbols in it. -/
def symbolLines (depth : Nat) (symbol : Symbol) : List String :=
  match symbol with
  | ⟨name, kind, line, signature, language, children⟩ =>
    (indent depth ++
      alignLines (indent depth) (symbolText ⟨name, kind, line, signature, language, children⟩)) ::
      forestLines (depth + 1) children

/-- The lines of the symbols of a forest. -/
def forestLines (depth : Nat) : List Symbol → List String
  | [] => []
  | symbol :: rest => symbolLines depth symbol ++ forestLines depth rest

end

/-- The lines of a file. A file without symbols is only named. -/
def fileLines (depth : Nat) (file : FileRecord) : List String :=
  if file.symbols.isEmpty then [indent depth ++ file.fileName]
  else
    (indent depth ++ file.fileName ++ " (" ++ file.language ++ ", " ++ toString file.lines ++
      " lines)") :: forestLines (depth + 1) file.symbols

/-- Sorts by a key; items with equal keys keep their order. -/
def sortByKey {α : Type} (key : α → String) (items : List α) : List α :=
  items.mergeSort fun a b => !(key b < key a)

/-! ## By folders -/

/-- The files of a folder in the order of their names, upper and lower case being the same. -/
def sortedFiles (files : List FileRecord) : List FileRecord :=
  sortByKey (fun file => Text.lowercase file.fileName) files

mutual

/-- The lines of a folder: first the folders in it, each under its name, then its files. -/
def folderLines (depth : Nat) (folder : Folder) : List String :=
  match folder with
  | ⟨_, _, files, folders, _⟩ =>
    ((sortByKey (fun (entry : String × List String) => Text.lowercase entry.1)
        (entryLines depth folders)).flatMap (·.2)) ++
      (sortedFiles files).flatMap (fileLines depth)

/-- The lines of each of some folders, with its name for sorting. -/
def entryLines (depth : Nat) : List Folder → List (String × List String)
  | [] => []
  | folder :: rest =>
    (folder.name, (indent depth ++ folder.name ++ "/") :: folderLines (depth + 1) folder) ::
      entryLines depth rest

end

/-! ## By languages -/

/-- The languages of some files in ascending order. -/
def languagesOf (files : List FileRecord) : List String :=
  sortByKey id (files.map (·.language)).eraseDups

/-- The word for the support of a language. -/
def supportWord (supported : Bool) : String := if supported then "SUPPORTED" else "NOT_SUPPORTED"

/-- The lines of the files of one language. -/
def languageLines (summary : Summary) (files : List FileRecord) (language : String) : List String :=
  let group := files.filter (·.language == language)
  (Text.uppercase language ++ " Files (" ++ toString group.length ++ " files, " ++
    supportWord (summary.supports language) ++ "):") ::
    group.flatMap (fileLines 1) ++ [""]

/-- The lines of all files, grouped by language. -/
def allLanguageLines (summary : Summary) : List String :=
  let files := summary.folder.allFiles
  (languagesOf files).flatMap (languageLines summary files)

/-! ## The whole -/

/-- The lines before the files. -/
def headLines (summary : Summary) : List String :=
  ["Repository: " ++ summary.name,
    "Total files: " ++ toString summary.totalFiles ++ ", Total lines: " ++
      toString summary.totalLines,
    "",
    "Language Support:"] ++
    summary.languages.map (fun (language, count) =>
      "  " ++ language ++ ": " ++ toString count ++ " files (" ++
        supportWord (summary.supports language) ++ ")") ++
    [""]

end Outline

/-- The outline of a repository. -/
def Summary.outline (summary : Summary) (byLanguage : Bool) : String :=
  String.intercalate "\n" (Outline.headLines summary ++
    if byLanguage then Outline.allLanguageLines summary
    else Outline.folderLines 0 summary.folder)

end SourceOutline
