import SourceOutline.CommandLine.Arguments
import SourceOutline.CommandLine.Program

/-!
# The executable

The outer layer of the program. It reads the current folder from disk, runs the command line on it,
shows the notices, asks the questions and writes the file that the command line asks for. There is
no git and no parser here, so that files are found on disk and shown without symbols.
-/

namespace SourceOutline

/-- Reads an entry of the disk, at most `depth` folders deep. Entries that cannot be read are left
out. -/
def loadEntry : (depth : Nat) → IO.FS.DirEntry → IO (Option Entry)
  | 0, _ => return none
  | depth + 1, e => do
    try
      if ← e.path.isDir then
        let entries ← (← e.path.readDir).foldlM (fun entries d => do
          match ← loadEntry depth d with
          | some entry => return Entry.put d.fileName entry entries
          | none => return entries) []
        return some (.folder entries)
      else return some (.file (← IO.FS.readBinFile e.path))
    catch _ => return none

/-- The disk with the contents of the current folder. -/
def loadDisk : IO Disk := do
  let folder ← IO.currentDir
  let here := Path.ofString folder.toString
  let entry := (← loadEntry 64 ⟨folder, "."⟩).getD (.folder [])
  return ⟨Entry.insert entry here.parts (.folder []), here⟩

/-- The world of the executable. -/
def loadWorld : IO World := do
  return {
    disk := ← loadDisk
    git := ⟨.error .notFound, .error .notFound, .error .notFound⟩
    packages := []
    answers := []
    console := .lenient
    modules := []
    parserProblem? := fun _ => some "there are no parsers"
    parsed := []
    catalogue := .standard }

/-- Shows a notice. -/
def showNotice : Notice → IO Unit
  | .line text | .styled text _ | .panel text _ => IO.println text
  | .question text => IO.print (text ++ " [y/N]: ")
  | .trace => pure ()

/-- The answer on a line, if there is one. -/
def readAnswer : IO (Option Bool) := do
  let line ← (← IO.getStdin).getLine
  if line.isEmpty then return none
  return some (["y", "yes"].contains (Text.lowercase (Text.trim line)))

/-- Runs the command line with the answers so far and shows what was not shown before. When there is
one more question, it is asked, and the program runs again with its answer; at most `questions`
times. -/
def runAsking (world : World) (arguments : List String) :
    (questions shown : Nat) → (answers : List Bool) → IO (Except Fault (Option Int) × Session)
  | questions, shown, answers => do
    let start := Session.start { world with answers }
    let (result, session) := (CommandLine.run CommandLine.read arguments).run.run start
    let isQuestion (notice : Notice) : Bool := match notice with
      | .question _ => true
      | _ => false
    match questions with
    | 0 =>
      (session.notices.drop shown).forM showNotice
      return (result, session)
    | questions + 1 =>
      if answers.length < (session.notices.filter isQuestion).length then
        let before := session.notices.takeWhile fun notice => !isQuestion notice
        let upTo := before.length + 1
        ((session.notices.take upTo).drop shown).forM showNotice
        match ← readAnswer with
        | some answer => runAsking world arguments questions upTo (answers ++ [answer])
        | none =>
          (session.notices.drop upTo).forM showNotice
          return (result, session)
      else
        (session.notices.drop shown).forM showNotice
        return (result, session)

/-- Writes the file that the command line asks for, when the run has made it. -/
def saveOutput (arguments : List String) (session : Session) : IO Unit := do
  match CommandLine.read arguments with
  | .ok (.scan request) =>
    match request.output with
    | none => pure ()
    | some path =>
      match session.world.disk.read path with
      | .ok content => IO.FS.writeBinFile path.text content
      | .error _ => pure ()
  | _ => pure ()

end SourceOutline

/-- Runs the program on the words of the command line. -/
def main (arguments : List String) : IO UInt32 := do
  let world ← SourceOutline.loadWorld
  let (result, session) ← SourceOutline.runAsking world arguments 1 0 []
  match result with
  | .ok code =>
    if code.isNone then SourceOutline.saveOutput arguments session
    return UInt32.ofNat (code.getD 0).toNat
  | .error fault =>
    IO.eprintln fault.message
    return match fault with
      | .usage _ => 2
      | _ => 1
