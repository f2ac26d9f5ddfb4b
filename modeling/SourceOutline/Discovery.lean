import SourceOutline.Session

/-!
# Finding files

The files of a repository are those that git tracks, or all files on disk that no pattern leaves
out. They are filtered by language, limited in number and grouped by language.
-/

namespace SourceOutline

/-- The languages that are asked for. -/
inductive LanguageFilter where
  /-- One of some languages; all files when there are none. -/
  | names (languages : List String)
  /-- A language whose name stands in a text; all files when the text is empty. -/
  | within (text : String)
  deriving DecidableEq, Repr

namespace LanguageFilter

/-- Whether the filter lets all files through. -/
def isOff : LanguageFilter → Bool
  | .names languages => languages.isEmpty
  | .within text => text.isEmpty

/-- Whether a file of a language, or without one, gets through. -/
def admits (f : LanguageFilter) (language : Option String) : Except Fault Bool :=
  match f, language with
  | .names languages, some language => .ok (languages.contains language)
  | .names _, none => .ok false
  | .within text, some language => .ok (Text.contains text language)
  | .within _, none => .error .noLanguageToFind

/-- The filter in words. -/
def label : LanguageFilter → String
  | .names languages => String.intercalate ", " languages
  | .within text => String.intercalate ", " (text.toList.map fun c => String.ofList [c])

end LanguageFilter

/-- What is known about a repository as a whole. -/
structure RepositoryInfo where
  /-- Its name. -/
  name : String
  /-- Its path from the root. -/
  path : String
  /-- Whether it is a repository of git. -/
  isGit : Bool
  /-- The current branch, if git tells it. -/
  branch : Option String
  deriving DecidableEq, Repr

/-- Files in groups by language. -/
abbrev FileGroups := List (String × List Path)

/-- The files of a repository. -/
structure Scan where
  /-- What is known about the repository. -/
  info : RepositoryInfo
  /-- The files. -/
  files : List Path
  /-- The files with a language, by language. -/
  groups : FileGroups
  /-- The number of files. -/
  totalFiles : Nat
  /-- The number of lines of all files. -/
  totalLines : Nat
  /-- The number of files of each language. -/
  languageCounts : List (String × Nat)

/-- The files that are in no group. -/
def Scan.others (scan : Scan) : List Path :=
  let grouped := scan.groups.flatMap (·.2)
  scan.files.filter fun path => !grouped.contains path

namespace Discovery

/-! ## Where files are -/

/-- The paths that a listing gives, seen from the repository; empty lines give none. -/
def listedPaths (repository : Path) (output : String) : List Path :=
  let names := (Text.lines (Text.trim output)).map Text.trim
  (names.filter fun name => !name.isEmpty).map fun name => repository.join (.ofString name)

/-- Those of some paths that lead to files. -/
def presentFiles (disk : Disk) : List Path → Except DiskFault (List Path)
  | [] => .ok []
  | path :: rest => do
    let present ← disk.hasFile path
    let more ← presentFiles disk rest
    .ok (if present then path :: more else more)

/-- The files that git tracks; nothing when git cannot tell or tracks no file that is there. -/
def gitFiles (repository : Path) : Run (Option (List Path)) := do
  match CommandOutcome.run (← Run.world).git.files ["git", "ls-files"] 30 with
  | .ok answer =>
    if answer.code = 0 then
      let files ← Run.onDisk fun disk =>
        presentFiles disk (listedPaths repository answer.output)
      return if files.isEmpty then none else some files
    else
      Run.say ("Git command failed: " ++ answer.complaint)
      return none
  | .error (.denied reason) => throw (.command (.denied reason))
  | .error fault =>
    Run.say ("Git not available: " ++ fault.message)
    return none

/-- Whether a pattern leaves a file out: a pattern with a star by the end of the file's name, any
other pattern when it stands in the path. -/
def matchesPattern (path : Path) (pattern : String) : Bool :=
  match pattern.toList with
  | '*' :: ending => ending.isSuffixOf path.name.toList
  | _ => Text.contains path.text pattern

/-- Whether one of the patterns leaves a file out. -/
def isIgnored (path : Path) : List Json → Except Fault Bool
  | [] => .ok false
  | pattern :: rest => do
    let pattern ← pattern.asText "startswith"
    if matchesPattern path pattern then .ok true else isIgnored path rest

/-- The files that none of the patterns leaves out. -/
def keepFiles (patterns : Json) : List Path → Except Fault (List Path)
  | [] => .ok []
  | path :: rest => do
    let ignored ← isIgnored path (← patterns.elements)
    let more ← keepFiles patterns rest
    .ok (if ignored then more else path :: more)

/-- The files on disk that no pattern leaves out. A path that is too long is met only after the
files before it were looked at. -/
def diskFiles (repository : Path) : Run (List Path) := do
  let catalogue ← Run.catalogue
  let entries ← Run.onDisk (·.entriesBelow repository)
  let kept ← Run.ofExcept (keepFiles catalogue.ignorePatterns (Disk.filesMet entries))
  Run.ofExcept ((Disk.refuseLong entries).mapError .disk)
  return kept

/-- Refuses a repository that is not there. -/
def requireRepository (repository : Path) : Run Unit := do
  if ← Run.onDisk (·.hasEntry repository) then pure ()
  else throw (.noRepository repository.text)

/-- The files that git tracks; git is not asked when files that it does not track are wanted too. -/
def trackedFiles (repository : Path) (includeIgnored : Bool) : Run (Option (List Path)) :=
  if includeIgnored then pure none else gitFiles repository

/-- The tracked files, or those on disk when there are none. -/
def chooseFiles (repository : Path) : Option (List Path) → Run (List Path)
  | some files => do
    Run.say ("Using git ls-files: found " ++ toString files.length ++ " tracked files")
    return files
  | none => do
    Run.say "Git not available, using filesystem traversal"
    let files ← diskFiles repository
    Run.say ("Found " ++ toString files.length ++ " files via filesystem scan")
    return files

/-- The files of a repository: the tracked ones, or those on disk when git cannot be asked or files
that it does not track are wanted too. -/
def discover (repository : Path) (includeIgnored : Bool) : Run (List Path) := do
  let repository ← Run.onDisk (·.resolve repository)
  requireRepository repository
  chooseFiles repository (← trackedFiles repository includeIgnored)

/-! ## What files are -/

/-- Puts a file into the group of its language. -/
def addToGroup (language : String) (path : Path) : FileGroups → FileGroups
  | [] => [(language, [path])]
  | (other, paths) :: rest =>
    if other == language then (other, paths ++ [path]) :: rest
    else (other, paths) :: addToGroup language path rest

/-- Groups files by language. A file whose language has an empty name counts as one without. -/
def groupFiles : FileGroups × List Path → List Path → Run (FileGroups × List Path)
  | done, [] => return done
  | (groups, others), path :: rest => do
    match ← Run.languageOf path with
    | none => groupFiles (groups, others ++ [path]) rest
    | some language =>
      if language.isEmpty then groupFiles (groups, others ++ [path]) rest
      else groupFiles (addToGroup language path groups, others) rest

/-- Groups files by language and tells the user; gives the groups and the files without a
language. -/
def classify (paths : List Path) : Run (FileGroups × List Path) := do
  let (groups, others) ← groupFiles ([], []) paths
  let count := groups.foldl (fun count group => count + group.2.length) 0
  Run.say ("Classified " ++ toString count ++ " files, " ++ toString others.length ++
    " unclassified")
  groups.forM fun (language, paths) =>
    Run.say ("  " ++ language ++ ": " ++ toString paths.length ++ " files")
  return (groups, others)

/-- The files that get through a filter. -/
def filterFiles (f : LanguageFilter) : List Path → Run (List Path)
  | [] => return []
  | path :: rest => do
    let admitted ← Run.ofExcept (f.admits (← Run.languageOf path))
    let more ← filterFiles f rest
    return if admitted then path :: more else more

/-- The files that get through a filter, all of them when it is off. -/
def byLanguage (f : LanguageFilter) (paths : List Path) : Run (List Path) :=
  if f.isOff then pure paths else filterFiles f paths

/-- The files that get through a filter; when it is on, the user is told how many. -/
def wantedFiles (f : LanguageFilter) (paths : List Path) : Run (List Path) :=
  if f.isOff then pure paths
  else do
    let wanted ← filterFiles f paths
    Run.say ("Filtered to " ++ toString wanted.length ++ " files for languages: " ++ f.label)
    return wanted

/-- The text of a file: bytes that are not UTF-8 are left out, and every line ends with a line
feed. -/
def fileText (content : ByteArray) : String :=
  String.ofList (Text.unifyNewlines (Text.Utf8.lenient content))

/-- The number of lines of a file; a file that cannot be read has none. -/
def countLines (disk : Disk) (path : Path) : Nat :=
  match disk.read path with
  | .ok content => Text.lineCount (fileText content)
  | .error _ => 0

/-- The name of a repository by the address of its origin. -/
def nameOfOrigin (address : String) : String :=
  let path := Path.ofString address
  if ['.', 'g', 'i', 't'].isSuffixOf address.toList then path.stem else path.name

/-- What is known about a repository as a whole. -/
def repositoryInfo (world : World) (repository : Path) : Except DiskFault RepositoryInfo := do
  let repository ← world.disk.resolve repository
  let told (outcome : CommandOutcome) : Option String :=
    match outcome with
    | .ok answer => if answer.code = 0 then some (Text.trim answer.output) else none
    | .error _ => none
  .ok {
    name := ((told world.git.origin).map nameOfOrigin).getD repository.name
    path := repository.text
    isGit := ← world.disk.hasEntry (repository.child ".git")
    branch := told world.git.branch }

/-- The first items, as many as `limit` says; a negative limit leaves out so many from the end. -/
def limited {α : Type} (limit : Int) (items : List α) : List α :=
  if limit < 0 then items.take (items.length - limit.natAbs) else items.take limit.toNat

/-- Limits the number of files and tells the user. No limit and zero let all files through. -/
def limitFiles (limit : Option Int) (paths : List Path) : Run (List Path) :=
  match limit with
  | none => pure paths
  | some limit =>
    if limit ≠ 0 ∧ limit < paths.length then do
      Run.say ("Limited to " ++ toString limit ++ " files")
      return limited limit paths
    else pure paths

/-- Tells the user about a repository. -/
def announce (info : RepositoryInfo) : Run Unit := do
  Run.say ("Repository: " ++ info.name)
  match info.branch with
  | none | some "" => pure ()
  | some branch => Run.say ("Branch: " ++ branch)

/-- Finds the files of a repository, filters, limits and groups them. -/
def scan (repository : Path) (f : LanguageFilter) (limit : Option Int) (includeIgnored : Bool) :
    Run Scan := do
  Run.say ("Scanning repository: " ++ repository.text)
  let info ← Run.ofExcept ((repositoryInfo (← Run.world) repository).mapError .disk)
  announce info
  let found ← discover repository includeIgnored
  let wanted ← wantedFiles f found
  let files ← limitFiles limit wanted
  let (groups, _) ← classify files
  let disk ← Run.disk
  return {
    info, files, groups
    totalFiles := files.length
    totalLines := files.foldl (fun lines path => lines + countLines disk path) 0
    languageCounts := groups.map fun (language, paths) => (language, paths.length) }

end Discovery

end SourceOutline
