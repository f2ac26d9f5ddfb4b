/-!
# Parts of a text

Looking for one text inside another, and cutting a piece out of a text by the positions of its
characters.
-/

namespace SourceOutline.Text

/-- Whether `needle` stands somewhere in `hay`. -/
def occursIn (needle : List Char) : List Char → Bool
  | [] => needle.isEmpty
  | c :: rest => needle.isPrefixOf (c :: rest) || occursIn needle rest

/-- A text stands in another when the other is it with something before and after. -/
theorem occursIn_iff {needle hay : List Char} : occursIn needle hay = true ↔ needle <:+: hay := by
  induction hay with
  | nil => simp [occursIn]
  | cons c rest ih => simp [occursIn, ih, List.infix_cons_iff]

/-- Whether the text `needle` stands somewhere in the text `hay`. -/
def contains (hay needle : String) : Bool := occursIn needle.toList hay.toList

/-- The characters from position `start` up to position `stop`, as far as there are any. -/
def slice (s : String) (start stop : Nat) : String :=
  String.ofList ((s.toList.take stop).drop start)

end SourceOutline.Text
