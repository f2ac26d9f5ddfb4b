import SourceOutline.Fault

/-!
# Notices

What the user sees while the program works: lines of text, some of them in a style or in a panel,
questions, and the trace of a failure.

Notices are handed to a console. How it draws them is left out, but not that it may refuse one: a
console that reads markup does so with a text in which a tag is closed that was never opened. This
is a fault, and nothing is shown of the notice.

A computation of type `Noting α` has a console. Beside giving an `α` it can show notices, and it can
fail. The notices that were shown before a failure stay.
-/

namespace SourceOutline

/-- Something that is shown to the user. -/
inductive Notice where
  /-- A text. -/
  | line (text : String)
  /-- A text in a style. -/
  | styled (text style : String)
  /-- A text in a panel of a style. -/
  | panel (text style : String)
  /-- A question that is to be answered with yes or no. -/
  | question (text : String)
  /-- Where the program stood when it failed. -/
  | trace
  deriving DecidableEq, Repr

/-- What notices are shown on. -/
structure Console where
  /-- Why the console refuses a notice; nothing when it shows it. -/
  refuses : Notice → Option String

namespace Console

/-- Why a notice is not shown; nothing when it is. Questions are put without the console. -/
def refusal? (console : Console) : Notice → Option String
  | .question _ => none
  | notice => console.refuses notice

/-- The console that shows everything. -/
def lenient : Console := ⟨fun _ => none⟩

end Console

/-- A computation that shows notices on a console and can fail. -/
abbrev Noting := ReaderT Console (ExceptT Fault (StateM (List Notice)))

namespace Noting

/-- Shows a notice; this fails when the console refuses it. -/
def post (notice : Notice) : Noting Unit := fun console shown =>
  match console.refusal? notice with
  | none => (.ok (), shown ++ [notice])
  | some reason => (.error (.unshown reason), shown)

/-- Shows a text. -/
def say (text : String) : Noting Unit := post (.line text)

/-- A result or a fault, without notices. -/
def ofExcept {α : Type} (result : Except Fault α) : Noting α := fun _ shown => (result, shown)

end Noting

end SourceOutline
