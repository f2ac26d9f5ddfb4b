import SourceOutline.Catalogue.Setting
import SourceOutline.Path
import SourceOutline.Text.Casing

/-!
# The catalogue of languages

The catalogue says which file endings belong to a language, which nodes of its syntax trees declare
something, how signatures look and which package brings the parser. Its entries keep their order: a
file has the language of the first entry that lists its ending.
-/

namespace SourceOutline

/-- The entry of a language. All but the name are settings as they are written. -/
structure LanguageEntry where
  /-- The name of the language. -/
  name : String
  /-- The endings of its files. -/
  extensions : Json
  /-- The kinds of nodes that declare functions. -/
  functionNodes : Json
  /-- The kinds of nodes that declare types. -/
  classNodes : Json
  /-- The kinds of nodes that declare interfaces. -/
  interfaceNodes : Json
  /-- The kinds of nodes that name a declaration. -/
  nameNodes : Json
  /-- The templates of signatures, by what is declared. -/
  templates : Json
  /-- The package with the parser. -/
  package : Json
  /-- The function of the package that gives the grammar. -/
  languageFunction : Json
  deriving Inhabited

namespace LanguageEntry

/-- The field of a template. -/
def slot (name : String) : String := "\x7b" ++ name ++ "\x7d"

/-- The entry that the fields of a table describe; fields that are missing have defaults. -/
def ofFields (name : String) (fields : List (String × Json)) : LanguageEntry :=
  let field (key : String) (default : Json) : Json := (fields.lookup key).getD default
  { name
    extensions := field "extensions" (.list [])
    functionNodes := field "function_nodes" (.list [])
    classNodes := field "class_nodes" (.list [])
    interfaceNodes := field "interface_nodes" (.list [])
    nameNodes := field "name_nodes" (.texts ["identifier"])
    templates := field "signature_templates" (.table [])
    package := field "tree_sitter_package" (.text ("tree-sitter-" ++ name))
    languageFunction := field "language_function" (.text "language") }

/-- The template for what is declared; without one it is the word for it and the name. -/
def template (entry : LanguageEntry) (declared : String) : Except Fault Json :=
  match entry.templates with
  | .table fields =>
    .ok ((fields.lookup declared).getD (.text (declared ++ " " ++ slot "name")))
  | other => .error (.misuse (.operation other.kindName "get"))

/-- The entry in one line. -/
def summary (entry : LanguageEntry) : Except Fault String := do
  let count ← entry.extensions.size
  .ok ("LanguageConfig(" ++ entry.name ++ ", " ++ toString count ++ " extensions)")

/-- The module that importing the package gives, by its name. -/
def moduleName (entry : LanguageEntry) : Except Fault String := do
  let package ← entry.package.asText "replace"
  .ok (String.ofList (package.toList.map fun c => if c = '-' then '_' else c))

end LanguageEntry

/-- A catalogue. -/
structure Catalogue where
  /-- The entries of languages. -/
  entries : List LanguageEntry
  /-- The files that describe builds. -/
  buildFiles : Json
  /-- The patterns of files that are left out. -/
  ignorePatterns : Json

namespace Catalogue

/-- The catalogue before one is loaded. -/
def empty : Catalogue := ⟨[], .list [], .list []⟩

/-- The names of a catalogue document that are not languages. -/
def reservedNames : List String := ["build_files", "ignore_patterns"]

/-- The entry of a field of a catalogue document: a table that has file endings. -/
def entryOfField? (field : String × Json) : Option LanguageEntry :=
  if reservedNames.contains field.1 then none
  else
    match field.2 with
    | .table fields =>
      if (fields.lookup "extensions").isSome then some (.ofFields field.1 fields) else none
    | _ => none

/-- The catalogue that a document describes, which has to be a table. -/
def ofDocument (document : Json) : Except Fault Catalogue :=
  match document with
  | .table fields =>
    .ok {
      entries := fields.filterMap entryOfField?
      buildFiles := (fields.lookup "build_files").getD (.list [])
      ignorePatterns := (fields.lookup "ignore_patterns").getD (.list []) }
  | other => .error (.misuse (.operation other.kindName "items"))

/-- The entry of a language. -/
def entryFor? (catalogue : Catalogue) (language : String) : Option LanguageEntry :=
  catalogue.entries.find? (·.name == language)

/-- The first of some entries that lists a file ending. -/
def firstWith (ending : String) : List LanguageEntry → Except Fault (Option String)
  | [] => .ok none
  | entry :: rest => do
    if ← entry.extensions.holds ending then .ok (some entry.name) else firstWith ending rest

/-- The ending by which a file's language is found. -/
def ending (path : Path) : String := Text.lowercase path.suffix

/-- The language of a file. -/
def languageOf (catalogue : Catalogue) (path : Path) : Except Fault (Option String) :=
  firstWith (ending path) catalogue.entries

end Catalogue

end SourceOutline
