/-!
# Lines

A text is divided by line feeds. A file may end its lines with a carriage return, a line feed or
both; its text has a line feed in each of these places. A text has as many lines as it has line
feeds, and one more when something stands after the last of them.
-/

namespace SourceOutline.Text

/-- There is one piece more than there are separators. -/
theorem length_splitOn (sep : Char) (cs : List Char) :
    (cs.splitOn sep).length = cs.count sep + 1 := by
  induction cs with
  | nil => rfl
  | cons c rest ih =>
    rw [List.splitOn_cons_eq_if_modifyHead, List.count_cons]
    split
    · next h => simp [ih]
    · next h => simp [ih]

/-- No piece holds a separator. -/
theorem not_mem_of_mem_splitOn {sep : Char} {cs piece : List Char} (h : piece ∈ cs.splitOn sep) :
    sep ∉ piece := by
  induction cs generalizing piece with
  | nil => simp_all
  | cons c rest ih =>
    rw [List.splitOn_cons_eq_if_modifyHead] at h
    split at h
    · rcases List.mem_cons.1 h with rfl | h
      · simp
      · exact ih h
    · next hc =>
      cases hs : rest.splitOn sep with
      | nil => exact absurd hs (List.splitOn_ne_nil sep rest)
      | cons first more =>
        simp only [hs, List.modifyHead_cons, List.mem_cons] at h ih
        rcases h with rfl | h
        · have hne : sep ≠ c := fun heq => hc (by simp [heq])
          simpa [hne] using ih (Or.inl rfl)
        · exact ih (Or.inr h)

/-- The lines of a text, without their line feeds. -/
def lines (s : String) : List String := (s.toList.splitOn '\n').map String.ofList

/-- A text has one line more than it has line feeds. -/
theorem length_lines (s : String) : (lines s).length = s.toList.count '\n' + 1 := by
  simp [lines, length_splitOn]

/-- Puts a line feed for every carriage return, and for a carriage return with the line feed
after it. -/
def unifyNewlines : List Char → List Char
  | [] => []
  | '\r' :: '\n' :: rest => '\n' :: unifyNewlines rest
  | c :: rest => (if c = '\r' then '\n' else c) :: unifyNewlines rest

/-- The number of lines; an unfinished last line counts. -/
def lineCount (s : String) : Nat :=
  s.toList.count '\n' + match s.toList.getLast? with
    | none => 0
    | some c => if c = '\n' then 0 else 1

end SourceOutline.Text
