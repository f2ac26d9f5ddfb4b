import SourceOutline.Catalogue.Basic

/-!
# The standard catalogue

The catalogue that is used when the user gives none.
-/

namespace SourceOutline.Catalogue.Standard

open LanguageEntry (slot)

/-- The name in a template. -/
def name : String := slot "name"

/-- The name and the parameters in a template. -/
def call : String := name ++ "(" ++ slot "params" ++ ")"

/-- The type of the result in a template. -/
def result : String := slot "return_type"

/-- The visibility in a template. -/
def visibility : String := slot "visibility"

/-- An entry without kinds of nodes for interfaces. -/
def entry (language : String) (extensions functions classes names : List String)
    (templates : List (String × String)) (package : String) : LanguageEntry where
  name := language
  extensions := .texts extensions
  functionNodes := .texts functions
  classNodes := .texts classes
  interfaceNodes := .texts []
  nameNodes := .texts names
  templates := .table (templates.map fun (declared, t) => (declared, .text t))
  package := .text package
  languageFunction := .text "language"

/-- The entry of Python. -/
def python : LanguageEntry :=
  entry "python" [".py"]
    ["function_definition"]
    ["class_definition"]
    ["identifier"]
    [("function", "def " ++ call),
      ("method", "def " ++ call),
      ("class", "class " ++ name)]
    "tree-sitter-python"

/-- The entry of TypeScript. -/
def typescript : LanguageEntry :=
  { entry "typescript" [".ts", ".tsx"]
      ["function_declaration", "method_definition", "arrow_function"]
      ["class_declaration"]
      ["identifier", "type_identifier"]
      [("function", "function " ++ call ++ ": " ++ result),
        ("method", call ++ ": " ++ result),
        ("class", "class " ++ name),
        ("interface", "interface " ++ name)]
      "tree-sitter-typescript" with
    interfaceNodes := .texts ["interface_declaration"] }

/-- The entry of Java. -/
def java : LanguageEntry :=
  entry "java" [".java"]
    ["method_declaration", "constructor_declaration"]
    ["class_declaration", "interface_declaration", "enum_declaration"]
    ["identifier"]
    [("method", visibility ++ " " ++ result ++ " " ++ call),
      ("constructor", visibility ++ " " ++ call),
      ("class", visibility ++ " class " ++ name),
      ("interface", visibility ++ " interface " ++ name),
      ("enum", visibility ++ " enum " ++ name)]
    "tree-sitter-java"

/-- The entry of JavaScript. -/
def javascript : LanguageEntry :=
  entry "javascript" [".js", ".jsx"]
    ["function_declaration", "method_definition", "arrow_function"]
    ["class_declaration"]
    ["identifier"]
    [("function", "function " ++ call),
      ("method", call),
      ("class", "class " ++ name)]
    "tree-sitter-javascript"

/-- The entry of Rust. -/
def rust : LanguageEntry :=
  entry "rust" [".rs"]
    ["function_item"]
    ["struct_item", "impl_item", "trait_item"]
    ["identifier", "type_identifier"]
    [("function", "fn " ++ call ++ " -> " ++ result),
      ("struct", "struct " ++ name),
      ("trait", "trait " ++ name)]
    "tree-sitter-rust"

/-- The entry of Go. -/
def go : LanguageEntry :=
  entry "go" [".go"]
    ["function_declaration", "method_declaration"]
    ["type_declaration"]
    ["identifier"]
    [("function", "func " ++ call ++ " " ++ result),
      ("method", "func (" ++ slot "receiver" ++ ") " ++ call ++ " " ++ result),
      ("type", "type " ++ name)]
    "tree-sitter-go"

/-- The entry of C. -/
def c : LanguageEntry :=
  entry "c" [".c", ".h"]
    ["function_definition", "function_declarator"]
    ["struct_specifier", "union_specifier", "enum_specifier"]
    ["identifier"]
    [("function", result ++ " " ++ call),
      ("struct", "struct " ++ name),
      ("enum", "enum " ++ name)]
    "tree-sitter-c"

/-- The entry of C++. -/
def cpp : LanguageEntry :=
  entry "cpp" [".cpp", ".cc", ".cxx", ".hpp", ".h++", ".hxx"]
    ["function_definition", "function_declarator"]
    ["class_specifier", "struct_specifier", "enum_specifier"]
    ["identifier", "type_identifier"]
    [("function", result ++ " " ++ call),
      ("class", "class " ++ name),
      ("struct", "struct " ++ name)]
    "tree-sitter-cpp"

/-- The entry of C#. -/
def csharp : LanguageEntry :=
  entry "csharp" [".cs"]
    ["method_declaration", "constructor_declaration"]
    ["class_declaration", "interface_declaration", "struct_declaration"]
    ["identifier"]
    [("method", visibility ++ " " ++ result ++ " " ++ call),
      ("class", visibility ++ " class " ++ name),
      ("interface", visibility ++ " interface " ++ name)]
    "tree-sitter-c-sharp"

/-- The entry of PHP. -/
def php : LanguageEntry :=
  entry "php" [".php"]
    ["function_definition", "method_declaration"]
    ["class_declaration", "interface_declaration", "trait_declaration"]
    ["name"]
    [("function", "function " ++ call),
      ("method", "function " ++ call),
      ("class", "class " ++ name)]
    "tree-sitter-php"

/-- The entry of Ruby. -/
def ruby : LanguageEntry :=
  entry "ruby" [".rb"]
    ["method", "singleton_method"]
    ["class", "module"]
    ["identifier", "constant"]
    [("method", "def " ++ call),
      ("class", "class " ++ name),
      ("module", "module " ++ name)]
    "tree-sitter-ruby"

/-- The entry of Swift. -/
def swift : LanguageEntry :=
  entry "swift" [".swift"]
    ["function_declaration"]
    ["class_declaration", "struct_declaration", "protocol_declaration"]
    ["simple_identifier"]
    [("function", "func " ++ call ++ " -> " ++ result),
      ("class", "class " ++ name),
      ("struct", "struct " ++ name)]
    "tree-sitter-swift"

/-- The entry of Kotlin. -/
def kotlin : LanguageEntry :=
  entry "kotlin" [".kt", ".kts"]
    ["function_declaration"]
    ["class_declaration", "interface_declaration", "object_declaration"]
    ["simple_identifier"]
    [("function", "fun " ++ call ++ ": " ++ result),
      ("class", "class " ++ name),
      ("interface", "interface " ++ name)]
    "tree-sitter-kotlin"

/-- The entry of Elixir. -/
def elixir : LanguageEntry :=
  entry "elixir" [".ex", ".exs"]
    ["call"]
    ["call"]
    ["identifier", "atom"]
    [("function", "def " ++ call),
      ("module", "defmodule " ++ name)]
    "tree-sitter-elixir"

/-- The entry of Lua. -/
def lua : LanguageEntry :=
  entry "lua" [".lua"]
    ["function_declaration", "local_function", "function_definition"]
    []
    ["identifier"]
    [("function", "function " ++ call),
      ("local_function", "local function " ++ call)]
    "tree-sitter-lua"

/-- The entry of Scala. -/
def scala : LanguageEntry :=
  entry "scala" [".scala"]
    ["function_definition"]
    ["class_definition", "object_definition", "trait_definition"]
    ["identifier"]
    [("function", "def " ++ call ++ ": " ++ result),
      ("class", "class " ++ name),
      ("object", "object " ++ name)]
    "tree-sitter-scala"

/-- The entry of Haskell. -/
def haskell : LanguageEntry :=
  entry "haskell" [".hs", ".lhs"]
    ["function"]
    ["data_type", "type_class"]
    ["variable", "constructor"]
    [("function", name ++ " :: " ++ slot "type"),
      ("data", "data " ++ name)]
    "tree-sitter-haskell"

end Standard

/-- The standard catalogue. -/
def standard : Catalogue where
  entries := [
    Standard.python, Standard.typescript, Standard.java, Standard.javascript, Standard.rust,
    Standard.go, Standard.c, Standard.cpp, Standard.csharp, Standard.php,
    Standard.ruby, Standard.swift, Standard.kotlin, Standard.elixir, Standard.lua,
    Standard.scala, Standard.haskell]
  buildFiles := .texts [
    "build.gradle", "build.gradle.kts", "pom.xml", "package.json", "Cargo.toml", "go.mod",
    "pyproject.toml", "requirements.txt"]
  ignorePatterns := .texts [
    "__pycache__", "node_modules", ".git", "dist", "build", "target", "*.pyc", "*.class"]

end SourceOutline.Catalogue
