import SourceOutline.Session

/-!
# Language support

Which languages a repository has, and whether the packages with their parsers are installed. Missing
packages can be installed with the consent of the user.
-/

namespace SourceOutline

/-- What is known about a language of a repository. -/
structure LanguageSupport where
  /-- Whether the repository has files of the language. -/
  hasFiles : Bool
  /-- Whether the package with the parser is installed. -/
  parserAvailable : Bool
  /-- The package with the parser. -/
  package : String
  /-- The number that is shown for the files of the language. -/
  fileCount : Int
  deriving DecidableEq, Repr

/-- What is told about a language. Fields may be missing. -/
structure LanguageStatus where
  /-- Whether the repository has files of the language. -/
  hasFiles : Option Bool
  /-- Whether the package with the parser is installed. -/
  parserAvailable : Option Bool
  /-- The package with the parser. -/
  package : Option String
  /-- The number that is shown for the files of the language. -/
  fileCount : Option Int

/-- The status with all fields. -/
def LanguageSupport.status (s : LanguageSupport) : LanguageStatus :=
  ⟨some s.hasFiles, some s.parserAvailable, some s.package, some s.fileCount⟩

namespace Support

/-- Adds a file ending, unless it is empty or already there. -/
def addEnding (endings : List String) (path : Path) : List String :=
  let ending := Catalogue.ending path
  if ending.isEmpty || endings.contains ending then endings else endings ++ [ending]

/-- The different endings of some files, in the order of their first use. -/
def endingsOf (paths : List Path) : List String := paths.foldl addEnding []

/-- The paths that a listing gives, one on each line; lines with nothing but blanks give none. -/
def listedPaths (output : String) : List Path :=
  ((Text.lines (Text.trim output)).filter fun line => !(Text.trim line).isEmpty).map Path.ofString

/-- The different file endings of a repository: of the tracked files, or of all files when these
cannot be listed. -/
def endings (repository : Path) : Run (List String) := do
  match (← Run.world).git.files with
  | .ok answer =>
    if answer.code = 0 then return endingsOf (listedPaths answer.output)
    else return endingsOf (← Run.onDisk (·.filesBelow repository))
  | .error _ => return endingsOf (← Run.onDisk (·.filesBelow repository))

/-- Whether a module can be imported. -/
def canImport (modules : List String) (name : String) : Except Fault Bool :=
  if name.isEmpty then .error .emptyModuleName else .ok (modules.contains name)

/-- Counts the endings that an entry lists. -/
def countListed (entry : LanguageEntry) : List String → Except Fault Int
  | [] => .ok 0
  | ending :: rest => do
    let listed ← entry.extensions.holds ending
    let more ← countListed entry rest
    .ok (if listed then more + 1 else more)

/-- The support of a language, if one of the file endings is listed in its entry. -/
def ofEntry (modules endings : List String) (entry : LanguageEntry) :
    Except Fault (Option LanguageSupport) := do
  let hasFiles ← Json.anyAmong endings (← entry.extensions.elements)
  if hasFiles then
    let package ← entry.package.asText "replace"
    let parserAvailable ← canImport modules (← entry.moduleName)
    let fileCount ← countListed entry endings
    .ok (some { hasFiles, parserAvailable, package, fileCount })
  else .ok none

/-- The support of each language that one of the file endings belongs to. -/
def ofEntries (modules endings : List String) :
    List LanguageEntry → Except Fault (List (String × LanguageSupport))
  | [] => .ok []
  | entry :: rest => do
    let support ← ofEntry modules endings entry
    let more ← ofEntries modules endings rest
    .ok ((support.map ((entry.name, ·))).toList ++ more)

/-- The support of the languages of a repository. -/
def available (repository : Path) : Run (List (String × LanguageSupport)) := do
  let catalogue ← Run.catalogue
  let endings ← endings repository
  Run.ofExcept (ofEntries (← Run.world).modules endings catalogue.entries)

/-- A field of a status, which must not be missing. -/
def required {α : Type} (name : String) : Option α → Run α
  | some a => pure a
  | none => throw (.missingField name)

/-- Tells the user about a language and gives its package when it is missing. -/
def showLanguage (language : String) (status : LanguageStatus) : Run (List String) := do
  let hasFiles ← required "has_files" status.hasFiles
  let parserAvailable ← required "parser_available" status.parserAvailable
  let count := toString (status.fileCount.getD 0)
  if !hasFiles then return []
  else if parserAvailable then
    Run.say ("  SUPPORTED: " ++ language ++ ": " ++ count ++ " files (parser available)")
    return []
  else
    Run.say ("  NOT_SUPPORTED: " ++ language ++ ": " ++ count ++ " files (parser missing)")
    return [← required "package_name" status.package]

/-- Tells the user about some languages and gives the packages that are missing. -/
def showLanguages : List (String × LanguageStatus) → Run (List String)
  | [] => return []
  | (language, status) :: rest => do
    let missing ← showLanguage language status
    return missing ++ (← showLanguages rest)

/-- Tells the user about the languages of a repository and gives the packages that are missing;
nothing when there are no languages. -/
def showStatus (languages : List (String × LanguageStatus)) : Run (Option (List String)) := do
  Run.say "Language Support Status:"
  if languages.isEmpty then
    Run.say "  No supported languages detected in repository"
    return none
  else
    let missing ← showLanguages languages
    if missing.isEmpty then
      Run.say "\nSUCCESS: All detected languages have parser support!"
    else
      Run.say ("\nTIP: To enable full support: pip install " ++ String.intercalate " " missing)
    return some missing

/-- The words of the command that installs a package. -/
def installWords (package : String) : List String := ["<python>", "-m", "pip", "install", package]

/-- Runs the command that installs a package. What it installs can be imported from then on. -/
def runInstall (package : String) : Run (Except CommandFault CommandAnswer) := do
  modify fun session => { session with commands := session.commands ++ [installWords package] }
  let outcome := ((← Run.world).packages.lookup package).getD CommandOutcome.noPackage
  match CommandOutcome.run outcome (installWords package) 120 with
  | .error fault => return .error fault
  | .ok answer =>
    modify fun session =>
      { session with
        world := { session.world with modules := session.world.modules ++ answer.installs } }
    return .ok answer

/-- Installs a package and tells the user; gives whether it went well. -/
def installPackage (package : String) : Run Bool := do
  Run.say ("Installing " ++ package ++ "...")
  match ← runInstall package with
  | .ok answer =>
    if answer.code = 0 then
      Run.say ("SUCCESS: " ++ package ++ " installed successfully")
      return true
    else
      Run.say ("ERROR: Failed to install " ++ package ++ ": " ++ answer.complaint)
      return false
  | .error (.timedOut words seconds) =>
    Run.say ("ERROR: Error installing " ++ package ++ ": " ++
      (CommandFault.timedOut words seconds).message)
    return false
  | .error (.broken reason) =>
    Run.say ("ERROR: Error installing " ++ package ++ ": " ++ (CommandFault.broken reason).message)
    return false
  | .error fault => throw (.command fault)

/-- Installs packages one after the other; gives how many went well. -/
def installPackages : List String → Run Nat
  | [] => return 0
  | package :: rest => do
    let installed ← installPackage package
    let more ← installPackages rest
    return if installed then more + 1 else more

/-- Offers to install missing packages; gives whether nothing is missing any more. -/
def install (missing : List String) : Run Bool := do
  if missing.isEmpty then return true
  Run.say "Missing tree-sitter packages for optimal support:"
  missing.forM fun package => Run.say ("  - " ++ package)
  if ← Run.ask "Install missing packages automatically?" then
    Run.say "Installing packages..."
    let count ← installPackages missing
    if count = missing.length then
      Run.say "SUCCESS: All packages installed successfully!"
      return true
    else
      Run.say ("WARNING: " ++ toString count ++ "/" ++ toString missing.length ++
        " packages installed")
      return false
  else
    Run.say "INFO: Continuing with available languages only"
    return false

/-- The support of the languages of a repository, after the user was told about it and could install
what is missing. -/
def offer (repository : Path) : Run (List (String × LanguageSupport)) := do
  let languages ← available repository
  let missing ← showStatus (languages.map fun (language, s) => (language, s.status))
  match missing with
  | none | some [] => return languages
  | some missing =>
    discard (install missing)
    available repository

end Support

end SourceOutline
