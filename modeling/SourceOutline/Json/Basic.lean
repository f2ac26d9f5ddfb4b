/-!
# Documents

A document is a value of the JSON data model with whole numbers. The fields of a table keep their
order. Catalogues of languages are read as documents, and reports are written as documents.
-/

namespace SourceOutline

/-- A document. -/
inductive Json where
  /-- The absent value. -/
  | null
  /-- A truth value. -/
  | bool (value : Bool)
  /-- A whole number of any size. -/
  | int (value : Int)
  /-- A text. -/
  | text (value : String)
  /-- A list of documents. -/
  | list (items : List Json)
  /-- A table: named documents in their order. -/
  | table (fields : List (String × Json))
  deriving Inhabited, Repr

namespace Json

/-- The word that messages use for the kind of a document. -/
def kindName : Json → String
  | .null => "NoneType"
  | .bool _ => "bool"
  | .int _ => "int"
  | .text _ => "str"
  | .list _ => "list"
  | .table _ => "dict"

/-- The field of that name in a table; nothing in any other document. -/
def field? (name : String) : Json → Option Json
  | .table fields => fields.lookup name
  | _ => none

/-- A list of texts. -/
def texts (items : List String) : Json := .list (items.map .text)

/-- A text, or the absent value. -/
def optionalText : Option String → Json
  | some s => .text s
  | none => .null

@[simp] theorem field?_table (name : String) (fields : List (String × Json)) :
    (Json.table fields).field? name = fields.lookup name := rfl

end Json

end SourceOutline
