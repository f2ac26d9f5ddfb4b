import SourceOutline.Fault

/-!
# Symbols

A symbol is a declaration of a source file: what it is called, what it is, where it stands and how
it looks. The symbols declared inside it are its children, so that the symbols of a file are a
forest.
-/

namespace SourceOutline

/-- What a symbol is. -/
inductive SymbolKind where
  /-- A class, or a type like one. -/
  | classType
  /-- An interface. -/
  | interface
  /-- An enumeration. -/
  | enum
  /-- A function in a class. -/
  | method
  /-- A function outside classes. -/
  | function
  /-- A field of a class. -/
  | field
  /-- A constructor of a class. -/
  | constructor
  /-- A variable. -/
  | binding
  /-- Another name for a type. -/
  | typeAlias
  deriving DecidableEq, Repr

namespace SymbolKind

/-- All kinds of symbols. -/
def all : List SymbolKind :=
  [.classType, .interface, .enum, .method, .function, .field, .constructor, .binding, .typeAlias]

/-- The word for a kind in documents. -/
def word : SymbolKind → String
  | .classType => "class"
  | .interface => "interface"
  | .enum => "enum"
  | .method => "method"
  | .function => "function"
  | .field => "field"
  | .constructor => "constructor"
  | .binding => "variable"
  | .typeAlias => "type_alias"

/-- The kind that a word names. -/
def ofWord (word : String) : Except Fault SymbolKind :=
  match all.find? (·.word == word) with
  | some kind => .ok kind
  | none => .error (.unknownSymbolKind word)

/-- What stands before a symbol's name when it has no signature. -/
def lead : SymbolKind → String
  | .binding => "var "
  | .typeAlias => ""
  | kind => kind.word ++ " "

/-- Reading a kind's word gives the kind back. -/
theorem ofWord_word (kind : SymbolKind) : ofWord kind.word = .ok kind := by
  cases kind <;> rfl

end SymbolKind

/-- A declaration of a source file. -/
structure Symbol where
  /-- What it is called. -/
  name : String
  /-- What it is. -/
  kind : SymbolKind
  /-- The number of the line on which it starts. -/
  line : Int
  /-- How it looks. -/
  signature : Option String
  /-- The language in which it is written. -/
  language : Option String
  /-- The symbols declared in it. -/
  children : List Symbol

namespace Symbol

mutual

/-- The number of symbols in a symbol, itself included. -/
def size (symbol : Symbol) : Nat :=
  match symbol with
  | ⟨_, _, _, _, _, children⟩ => 1 + sizeAll children

/-- The number of symbols in a forest. -/
def sizeAll : List Symbol → Nat
  | [] => 0
  | symbol :: rest => size symbol + sizeAll rest

end

/-- Forests side by side add up. -/
@[simp] theorem sizeAll_append (xs ys : List Symbol) :
    sizeAll (xs ++ ys) = sizeAll xs + sizeAll ys := by
  induction xs with
  | nil => simp [sizeAll]
  | cons x xs ih => simp [sizeAll, ih, Nat.add_assoc]

/-- A symbol counts itself and the symbols declared in it. -/
theorem size_eq (symbol : Symbol) : symbol.size = 1 + sizeAll symbol.children := by
  cases symbol
  rw [size]

/-- Every symbol at the top counts. -/
theorem length_le_sizeAll (xs : List Symbol) : xs.length ≤ sizeAll xs := by
  induction xs with
  | nil => simp
  | cons x xs ih =>
    rw [sizeAll, size_eq, List.length_cons]
    omega

/-- The symbol without its children. -/
def alone (symbol : Symbol) : Symbol := { symbol with children := [] }

/-- The symbols of a forest that are in no other, without their children. -/
def topLevel (symbols : List Symbol) : List Symbol := symbols.map alone

/-- The symbols at the top count once each. -/
@[simp] theorem sizeAll_topLevel (xs : List Symbol) : sizeAll (topLevel xs) = xs.length := by
  induction xs with
  | nil => rfl
  | cons x xs ih =>
    rw [topLevel, List.map_cons, sizeAll, ← topLevel, ih, size_eq, alone, sizeAll, List.length_cons]
    omega

mutual

/-- The document of a symbol. -/
def document (symbol : Symbol) : Json :=
  match symbol with
  | ⟨name, kind, line, signature, language, children⟩ =>
    .table [("name", .text name), ("type", .text kind.word), ("line", .int line),
      ("signature", .optionalText signature), ("language", .optionalText language),
      ("children", .list (documents children))]

/-- The documents of a forest. -/
def documents : List Symbol → List Json
  | [] => []
  | symbol :: rest => document symbol :: documents rest

end

end Symbol

end SourceOutline
