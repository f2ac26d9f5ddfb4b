import SourceOutline.Discovery
import SourceOutline.Summary
import SourceOutline.Support

/-!
# Surveying a repository

A survey finds the files of a repository, reads the symbols of those with a language, and puts all
of them into the folders where they are. A file that cannot be dealt with is told to the user and
left out.
-/

namespace SourceOutline.Survey

/-- Reads a file. -/
def fileContent (path : Path) : Run String := do
  let content ← Run.onDisk (·.read path)
  return Discovery.fileText content

/-- The symbols of a file; a file that cannot be read is told to the user and has none. -/
def fileSymbols (path : Path) (language : String) : Run (List Symbol) := do
  let attempt ← Run.attempt do
    let text ← fileContent path
    Run.symbolsOfText text language
  match attempt with
  | .ok symbols => return symbols
  | .error fault =>
    Run.say ("ERROR: Error reading " ++ path.text ++ ": " ++ fault.message)
    return []

/-- The symbols within the budget of lines: all of them, or those at the top when there are too
many. -/
def withinBudget (budget : Option Int) (symbols : List Symbol) : Except Fault (List Symbol) :=
  match budget with
  | none => .error .noLineBudget
  | some budget =>
    .ok (if budget < Symbol.sizeAll symbols then Symbol.topLevel symbols else symbols)

/-- Whether signatures are told to be supported: when the language has an entry and an extractor
that is not of its own kind, or when the extractor says which language it is for. -/
def signatureSupport (entry : Option LanguageEntry) (extractor : Extractor) : Bool :=
  entry.isSome && !extractor.isOf extractor.kind || extractor.namesLanguage

/-- Every extractor is of its own kind, so that the entry has no part in this. -/
theorem signatureSupport_eq (entry : Option LanguageEntry) (extractor : Extractor) :
    signatureSupport entry extractor = extractor.namesLanguage := by
  simp [signatureSupport, Extractor.isOf]

/-- The record of a file. -/
def fileRecord (path : Path) (language : String) (budget : Option Int) : Run FileRecord := do
  let symbols ← fileSymbols path language
  let lines := Discovery.countLines (← Run.disk) path
  let symbols ← Run.ofExcept (withinBudget budget symbols)
  let entry ← Run.entryFor language
  let extractor ← Run.extractor language
  return {
    path := path.text, language, lines, symbols
    signatureSupport := signatureSupport entry extractor }

/-- The names that lead from a repository to a file, if the file lies in it. -/
def place? (disk : Disk) (repository file : Path) : Option (List String) :=
  (Path.resolve disk.here repository).relativeTo? (Path.resolve disk.here file)

/-- A survey under way: the folders with the files so far, and the number of files. -/
structure Progress where
  /-- The folders. -/
  root : Folder
  /-- How many files are in them. -/
  count : Nat

/-- Puts a file where the names lead; the last name is the file's. Without names it goes to the
root. -/
def Progress.add (progress : Progress) (names : List String) (file : FileRecord) : Progress where
  root := progress.root.addFile names.dropLast { file with path := (Path.ofNames names).text }
  count := progress.count + 1

/-- Deals with a file of a language. -/
def surveyFile (repository : Path) (language : String) (budget : Option Int) (progress : Progress)
    (path : Path) : Run Progress := do
  let attempt ← Run.attempt do
    let place := place? (← Run.disk) repository path
    let file ← fileRecord path language budget
    match place with
    | none => throw Fault.unplaced
    | some [] => throw Fault.nameless
    | some names => return progress.add names file
  match attempt with
  | .ok progress => return progress
  | .error fault =>
    Run.say ("ERROR: Error processing " ++ path.text ++ ": " ++ fault.message)
    return progress

/-- Deals with the files of a language. -/
def surveyGroup (repository : Path) (budget : Option Int) (progress : Progress)
    (group : String × List Path) : Run Progress := do
  Run.say ("Processing " ++ toString group.2.length ++ " " ++ group.1 ++ " files...")
  group.2.foldlM (surveyFile repository group.1 budget) progress

/-- The record of a file without a language. -/
def otherRecord (path : String) : FileRecord where
  path := path
  language := "other"
  lines := 0
  symbols := []
  signatureSupport := false

/-- Deals with a file without a language, which has to lie in the repository. -/
def surveyOther (repository : Path) (progress : Progress) (path : Path) : Run Progress := do
  match place? (← Run.disk) repository path with
  | none => throw .unplaced
  | some names => return progress.add names (otherRecord "")

/-- Whether a parser is told to be there for a language. -/
def supported (languages : List (String × LanguageSupport)) (language : String) : Bool :=
  match languages.lookup language with
  | some support => support.parserAvailable
  | none => false

/-- Puts the files of a scan into folders, first those of each language and then the others, and
sums up. -/
def sumUp (repository : Path) (budget : Option Int) (scan : Scan)
    (languages : List (String × LanguageSupport)) : Run Summary := do
  let progress ← scan.groups.foldlM (surveyGroup repository budget) ⟨.root, 0⟩
  let progress ← scan.others.foldlM (surveyOther repository) progress
  Run.say ("Processed " ++ toString progress.count ++ " files")
  return {
    name := scan.info.name
    rootPath := repository.text
    folder := progress.root
    languages := scan.languageCounts.map fun (language, n) => (language, (n : Int))
    supportedLanguages := scan.groups.map fun (language, _) =>
      (language, supported languages language)
    totalFiles := scan.totalFiles
    totalLines := scan.totalLines }

/-- Surveys a repository. -/
def run (repository : Path) (f : LanguageFilter) (limit budget : Option Int) : Run Summary := do
  Run.say "Processing repository with fancy_tree..."
  let scan ← Discovery.scan repository f limit false
  let languages ← Support.offer repository
  sumUp repository budget scan languages

end SourceOutline.Survey
