import SourceOutline.Report.Outline

/-!
# Lists and overviews

Other reports on a repository: the list of all files, the index of symbols by kind, and the overview
of the languages.
-/

namespace SourceOutline

/-- An entry of the index of symbols. -/
structure IndexEntry where
  /-- What the symbol is called. -/
  name : String
  /-- The path of its file. -/
  file : String
  /-- The number of its line. -/
  line : Int
  /-- How it looks. -/
  signature : Option String
  /-- The language in which it is written. -/
  language : Option String
  deriving DecidableEq, Repr

/-- The document of an entry. -/
def IndexEntry.document (entry : IndexEntry) : Json :=
  .table [("name", .text entry.name), ("file", .text entry.file), ("line", .int entry.line),
    ("signature", .optionalText entry.signature), ("language", .optionalText entry.language)]

/-- An index: for each kind of symbol its entries, the kinds in the order of their first entries. -/
abbrev SymbolIndex := List (SymbolKind × List IndexEntry)

namespace SymbolIndex

/-- Adds an entry at the end of its kind. -/
def add (kind : SymbolKind) (entry : IndexEntry) : SymbolIndex → SymbolIndex
  | [] => [(kind, [entry])]
  | (other, entries) :: rest =>
    if other = kind then (other, entries ++ [entry]) :: rest
    else (other, entries) :: add kind entry rest

mutual

/-- Adds a symbol of a file and the symbols in it. -/
def addSymbol (file : String) (index : SymbolIndex) (symbol : Symbol) : SymbolIndex :=
  match symbol with
  | ⟨name, kind, line, signature, language, children⟩ =>
    addForest file (add kind ⟨name, file, line, signature, language⟩ index) children

/-- Adds the symbols of a forest. -/
def addForest (file : String) (index : SymbolIndex) : List Symbol → SymbolIndex
  | [] => index
  | symbol :: rest => addForest file (addSymbol file index symbol) rest

end

end SymbolIndex

namespace Summary

/-- The documents of all files. -/
def fileDocuments (summary : Summary) : List Json := summary.folder.allFiles.map FileRecord.document

/-- The index of the symbols that are in no other symbol. -/
def symbolIndex (summary : Summary) : SymbolIndex :=
  summary.folder.allFiles.foldl
    (fun index file => SymbolIndex.addForest file.path index (Symbol.topLevel file.symbols)) []

/-- The overview of a repository and its languages, in the order of their names. -/
def overview (summary : Summary) : String :=
  let lines := ["Repository: " ++ summary.name,
    "Total files: " ++ toString summary.totalFiles,
    "Total lines: " ++ toString summary.totalLines,
    "\nLanguage Support:"] ++
    (Outline.sortByKey (·.1) summary.languages).map fun (language, count) =>
      "  " ++ (if summary.supports language then "✅" else "❌") ++ " " ++ language ++ ": " ++
        toString count ++ " files"
  String.join (lines.map (· ++ "\n"))

end Summary

end SourceOutline
