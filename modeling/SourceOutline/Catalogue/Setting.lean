import SourceOutline.Fault
import SourceOutline.Text.Search

/-!
# Settings

The settings of a catalogue are documents that the user may write in any way. Each use of a setting
says which documents it accepts and what it makes of them; for the others it fails.
-/

namespace SourceOutline.Json

/-- Whether a text is among the elements of a list, the names of a table, or stands in a text. -/
def holds (setting : Json) (wanted : String) : Except Fault Bool :=
  match setting with
  | .list items => .ok (items.any fun
    | .text s => s == wanted
    | _ => false)
  | .table fields => .ok (fields.any (·.1 == wanted))
  | .text s => .ok (Text.contains s wanted)
  | other => .error (.misuse (.membership other.kindName))

@[simp] theorem holds_texts (words : List String) (wanted : String) :
    (texts words).holds wanted = .ok (words.contains wanted) := by
  have hany : ((words.map Json.text).any fun
      | .text s => s == wanted
      | _ => false) = words.contains wanted := by
    rw [List.any_map, List.contains_eq_any_beq]
    simp only [Function.comp_def, Bool.beq_comm]
  exact congrArg Except.ok hany

/-- The elements of a list, the names of a table, or the characters of a text. -/
def elements (setting : Json) : Except Fault (List Json) :=
  match setting with
  | .list items => .ok items
  | .table fields => .ok (fields.map fun (name, _) => .text name)
  | .text s => .ok (s.toList.map fun c => .text (String.ofList [c]))
  | other => .error (.misuse (.iteration other.kindName))

/-- The number of elements. -/
def size (setting : Json) : Except Fault Nat :=
  match setting.elements with
  | .ok items => .ok items.length
  | .error _ => .error (.misuse (.size setting.kindName))

/-- Whether an element of a setting is one of some texts; lists and tables cannot be looked for. -/
def isAmong (element : Json) (texts : List String) : Except Fault Bool :=
  match element with
  | .text s => .ok (texts.contains s)
  | .list _ | .table _ => .error (.misuse (.lookedFor element.kindName))
  | _ => .ok false

/-- Whether one of the elements is one of some texts; the first that is ends the search. -/
def anyAmong (texts : List String) : List Json → Except Fault Bool
  | [] => .ok false
  | element :: rest => do
    if ← element.isAmong texts then .ok true else anyAmong texts rest

@[simp] theorem anyAmong_texts (texts words : List String) :
    anyAmong texts (words.map .text) = .ok (words.any texts.contains) := by
  induction words with
  | nil => rfl
  | cons word rest ih =>
    have hword : (Json.text word).isAmong texts = .ok (texts.contains word) := rfl
    rw [List.map_cons, anyAmong, hword, List.any_cons]
    cases texts.contains word with
    | true => rfl
    | false => exact ih

/-- A setting that has to be a text for the operation of that name. -/
def asText (setting : Json) (operation : String) : Except Fault String :=
  match setting with
  | .text s => .ok s
  | other => .error (.misuse (.operation other.kindName operation))

end SourceOutline.Json
