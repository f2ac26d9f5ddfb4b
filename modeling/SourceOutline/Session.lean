import SourceOutline.Catalogue.Standard
import SourceOutline.Extraction

/-!
# Sessions

The program works on a world: the disk, the answers of outside commands, the answers of the user,
the console, the installed modules, the parsers and the catalogue. Over a session it remembers the
catalogue once it is loaded, and for each language whether a parser was found.

A computation of type `Run α` works on a session, shows notices and can fail. What happened before a
failure stays.
-/

namespace SourceOutline

/-- What an outside command answers. -/
structure CommandAnswer where
  /-- The exit code; zero is success. -/
  code : Int
  /-- What the command wrote. -/
  output : String
  /-- What the command complained about. -/
  complaint : String
  /-- The modules that can be imported once the command is done. -/
  installs : List String

/-- How an outside command ends without an answer, when its words are not yet known. -/
inductive CommandStop where
  /-- There is no such command. -/
  | notFound
  /-- The command takes too long. -/
  | timeout
  /-- The command cannot be run to its end. -/
  | broken (reason : String)
  /-- The command may not be run. -/
  | denied (reason : String)

/-- The outcome of an outside command. -/
abbrev CommandOutcome := Except CommandStop CommandAnswer

namespace CommandOutcome

/-- The outcome of a command with these words that has so many seconds. -/
def run (outcome : CommandOutcome) (words : List String) (seconds : Nat) :
    Except CommandFault CommandAnswer :=
  outcome.mapError fun
    | .notFound => .notFound
    | .timeout => .timedOut words seconds
    | .broken reason => .broken reason
    | .denied reason => .denied reason

/-- The answer outside a repository of git. -/
def noRepository : CommandOutcome := .ok ⟨128, "", "fatal: not a git repository\n", []⟩

/-- The answer for a package that does not exist. -/
def noPackage : CommandOutcome := .ok ⟨1, "", "no such package", []⟩

end CommandOutcome

/-- The outcomes of the commands of git. -/
structure GitOutcomes where
  /-- Listing the tracked files. -/
  files : CommandOutcome := CommandOutcome.noRepository
  /-- Asking for the address of the origin. -/
  origin : CommandOutcome := CommandOutcome.noRepository
  /-- Asking for the current branch. -/
  branch : CommandOutcome := CommandOutcome.noRepository

/-- Where the catalogue comes from. -/
inductive CatalogueSource where
  /-- The standard catalogue. -/
  | standard
  /-- A document. -/
  | document (document : Json)
  /-- A text that is no document, and why. -/
  | unreadable (reason : String)
  /-- A file that is not there. -/
  | missing (path : String)

/-- A source text of a language with its syntax tree. -/
structure ParsedText where
  /-- The language. -/
  language : String
  /-- The source text. -/
  text : String
  /-- The root of the syntax tree. -/
  tree : Node

/-- What the program works on. -/
structure World where
  /-- The disk. -/
  disk : Disk
  /-- The outcomes of the commands of git. -/
  git : GitOutcomes
  /-- The outcomes of installing packages. -/
  packages : List (String × CommandOutcome)
  /-- The answers to the next questions. -/
  answers : List Bool
  /-- What notices are shown on. -/
  console : Console
  /-- The modules that can be imported. -/
  modules : List String
  /-- Why there is no parser for a language; nothing when there is one. -/
  parserProblem? : String → Option String
  /-- What the parsers give. -/
  parsed : List ParsedText
  /-- Where the catalogue comes from. -/
  catalogue : CatalogueSource

/-- A world and what is remembered about it. -/
structure Session where
  /-- The world. -/
  world : World
  /-- The catalogue, once it is loaded. -/
  catalogue : Option Catalogue
  /-- The languages for which a parser was asked for, and whether there was one. -/
  parsers : List (String × Bool)
  /-- The extractors of languages. -/
  registry : Registry
  /-- What was shown to the user. -/
  notices : List Notice
  /-- The commands that were run to install packages, each by its words. -/
  commands : List (List String)

/-- A session in which nothing has happened. -/
def Session.start (world : World) : Session := ⟨world, none, [], .initial, [], []⟩

/-- A computation on a session. -/
abbrev Run := ExceptT Fault (StateM Session)

namespace Run

/-- A computation that only shows notices. -/
def noting {α : Type} (c : Noting α) : Run α := fun session =>
  let (result, shown) := c session.world.console session.notices
  (result, { session with notices := shown })

/-- Shows a notice. -/
def post (notice : Notice) : Run Unit := noting (Noting.post notice)

/-- Shows a text. -/
def say (text : String) : Run Unit := noting (Noting.say text)

/-- A result or a fault. -/
def ofExcept {α : Type} (result : Except Fault α) : Run α := fun session => (result, session)

/-- The world. -/
def world : Run World := do return (← get).world

/-- The disk. -/
def disk : Run Disk := do return (← world).disk

/-- What the disk answers. -/
def onDisk {α : Type} (question : Disk → Except DiskFault α) : Run α := do
  ofExcept ((question (← disk)).mapError .disk)

/-- The result of a computation, or its fault as a value. -/
def attempt {α : Type} (c : Run α) : Run (Except Fault α) := fun session =>
  let (result, session) := c session
  (.ok result, session)

/-- Writes a file into a folder that is there. -/
def store (path : Path) (text : String) : Run Unit := do
  let disk ← onDisk (·.write path text.toUTF8)
  modify fun session => { session with world := { session.world with disk } }

/-- Asks the user; the question fails when there is no answer. -/
def ask (question : String) : Run Bool := do
  post (.question question)
  match (← world).answers with
  | [] => throw .unanswered
  | answer :: rest =>
    modify fun session => { session with world := { session.world with answers := rest } }
    return answer

/-! ## The catalogue -/

/-- The catalogue of a source, or what to tell the user when it cannot be read. -/
def openCatalogue (source : CatalogueSource) : Except Fault (Except String Catalogue) :=
  match source with
  | .standard => .ok (.ok .standard)
  | .document document => (Catalogue.ofDocument document).map .ok
  | .unreadable reason => .ok (.error reason)
  | .missing path => .ok (.error (DiskFault.missing path).message)

/-- The catalogue. It is loaded when it is first needed; when it cannot be read the user is told,
the empty catalogue is used, and the next use tries again. -/
def catalogue : Run Catalogue := do
  match (← get).catalogue with
  | some catalogue => return catalogue
  | none =>
    match ← ofExcept (openCatalogue (← world).catalogue) with
    | .error reason =>
      say ("Warning: Could not load language config: " ++ reason)
      return .empty
    | .ok catalogue =>
      modify fun session => { session with catalogue := some catalogue }
      return catalogue

/-- The entry of a language. -/
def entryFor (language : String) : Run (Option LanguageEntry) := do
  return (← catalogue).entryFor? language

/-- The language of a file. -/
def languageOf (path : Path) : Run (Option String) := do
  ofExcept ((← catalogue).languageOf path)

/-- The extractor of a language. -/
def extractor (language : String) : Run Extractor := do
  return (← get).registry.extractor language

/-- The languages that have an extractor of their own. -/
def registered : Run (List String) := do return (← get).registry.languages

/-! ## Parsers -/

/-- Remembers whether there is a parser for a language, in the place of what was remembered. -/
def remember (language : String) (found : Bool) : Run Unit :=
  modify fun session =>
    { session with parsers := session.parsers.filter (·.1 != language) ++ [(language, found)] }

/-- Loads the parser of a language. It is remembered before the user is told. -/
def loadParser (language : String) : Run Unit := do
  match (← world).parserProblem? language with
  | some reason => throw (.noParser reason)
  | none =>
    remember language true
    say ("Loaded parser for " ++ language)

/-- Whether there is a parser for a language. It is asked for once, and the user is told. A parser
also counts as missing when the user cannot be told that it was loaded. -/
def hasParser (language : String) : Run Bool := do
  match (← get).parsers.lookup language with
  | some found => return found
  | none =>
    match ← attempt (loadParser language) with
    | .ok _ => return true
    | .error fault =>
      say ("ERROR: Parser failed for " ++ language ++ ": " ++ fault.message)
      say "    Try: pip install tree-sitter-language-pack"
      remember language false
      return false

/-- The syntax tree that the parser of a language gives for a source text. -/
def parse (language text : String) : Run Node := do
  let known? := (← world).parsed.find? fun p => p.language == language && p.text == text
  return (known?.map (·.tree)).getD .unparsed

/-- The symbols of a source text; none without an entry or a parser for the language. -/
def symbolsOfText (text language : String) : Run (List Symbol) := do
  let listed ← entryFor language
  let found ← hasParser language
  match listed, found with
  | some entry, true =>
    let extractor ← extractor language
    let tree ← parse language text
    noting (Grammar.symbols ⟨language, some entry, extractor, text⟩ entry tree)
  | _, _ => return []

end Run

end SourceOutline
