import SourceOutline.Proofs.EntrySupport

/-!
# Runs of the installer

The user is asked whether missing packages should be installed, and the installer is then run for
one package after the other, whether or not the runs before went well.

What happens can be read off the session: the questions are among the notices, and each run of the
installer is among the commands. The sessions before and after are given as equations, so that
nothing else happens. All notices are taken to be shown; what happens when one is refused follows
from this.
-/

namespace SourceOutline

/-! ## What was asked -/

/-- The questions among some notices. -/
def Notice.questions (shown : List Notice) : List String :=
  shown.filterMap fun
    | .question text => some text
    | _ => none

theorem Notice.questions_append (shown more : List Notice) :
    questions (shown ++ more) = questions shown ++ questions more := List.filterMap_append

namespace Session

/-- The session after the user gave an answer and these are left. -/
def answered (session : Session) (rest : List Bool) : Session :=
  { session with world := { session.world with answers := rest } }

end Session

/-- Questions are never refused. -/
theorem Run.post_question (question : String) (s : Session) :
    Run.post (.question question) s = (.ok (), s.shows [.question question]) := rfl

theorem Run.ask_of_unanswered (question : String) {s : Session} (h : s.world.answers = []) :
    Run.ask question s = (.error .unanswered, s.shows [.question question]) := by
  rw [Run.ask, bind_of_ok (Run.post_question question s), bind_of_ok (Run.world_apply _),
    Session.world_shows, h]
  rfl

theorem Run.ask_of_answered (question : String) {s : Session} {answer : Bool} {rest : List Bool}
    (h : s.world.answers = answer :: rest) :
    Run.ask question s = (.ok answer, (s.answered rest).shows [.question question]) := by
  rw [Run.ask, bind_of_ok (Run.post_question question s), bind_of_ok (Run.world_apply _),
    Session.world_shows, h]
  rfl

/-! ## Runs of the installer -/

namespace CommandOutcome

/-- Whether the command answers with the code of success. -/
def succeeds : CommandOutcome → Bool
  | .ok answer => answer.code == 0
  | .error _ => false

/-- The modules that can be imported once the command is done. -/
def installed : CommandOutcome → List String
  | .ok answer => answer.installs
  | .error _ => []

end CommandOutcome

/-- The outcome of installing a package. -/
def World.installing (world : World) (package : String) : CommandOutcome :=
  (world.packages.lookup package).getD CommandOutcome.noPackage

namespace Support

/-- What the user is told after a run of the installer. -/
def report (package : String) (outcome : CommandOutcome) : Notice :=
  match CommandOutcome.run outcome (installWords package) 120 with
  | .ok answer =>
    if answer.code = 0 then .line ("SUCCESS: " ++ package ++ " installed successfully")
    else .line ("ERROR: Failed to install " ++ package ++ ": " ++ answer.complaint)
  | .error fault => .line ("ERROR: Error installing " ++ package ++ ": " ++ fault.message)

/-- What is shown of a run of the installer. -/
def runNotices (world : World) (package : String) : List Notice :=
  [.line ("Installing " ++ package ++ "..."), report package (world.installing package)]

end Support

/-- The session after the installer was run for some packages, one after the other. -/
def Session.installed (session : Session) (packages : List String) : Session :=
  { session with
    world :=
      { session.world with
        modules := session.world.modules ++
          packages.flatMap fun package => (session.world.installing package).installed }
    notices := session.notices ++ packages.flatMap (Support.runNotices session.world)
    commands := session.commands ++ packages.map Support.installWords }

namespace Support

section Install

variable {package : String} {s : Session}

/-- The session after a command was run. -/
def ran (s : Session) (words : List String) : Session :=
  { s with commands := s.commands ++ [words] }

theorem runInstall_of_ok {answer : CommandAnswer} (h : s.world.installing package = .ok answer) :
    runInstall package s =
      (.ok (.ok answer),
        { ran s (installWords package) with
          world := { s.world with modules := s.world.modules ++ answer.installs } }) := by
  rw [World.installing] at h
  rw [runInstall, bind_of_ok (Run.modify_apply _ s), bind_of_ok (Run.world_apply _)]
  dsimp only
  rw [h]
  rfl

theorem runInstall_of_error {stop : CommandStop} (h : s.world.installing package = .error stop) :
    ∃ fault, CommandOutcome.run (.error stop) (installWords package) 120 = .error fault ∧
      runInstall package s = (.ok (.error fault), ran s (installWords package)) := by
  refine ⟨_, rfl, ?_⟩
  rw [World.installing] at h
  rw [runInstall, bind_of_ok (Run.modify_apply _ s), bind_of_ok (Run.world_apply _)]
  dsimp only
  rw [h]
  rfl

end Install

/-! ## Asking the user -/

/-- What the user is told after all packages. -/
def verdict (world : World) (missing : List String) : Notice :=
  let count := missing.countP fun package => (world.installing package).succeeds
  if count = missing.length then .line "SUCCESS: All packages installed successfully!"
  else .line ("WARNING: " ++ toString count ++ "/" ++ toString missing.length ++
    " packages installed")

section Answer

variable {missing : List String} {s : Session} {rest : List Bool}

theorem forM_say {α : Type} (text : α → String) (items : List α) (hs : s.Lenient) :
    (items.forM fun a => Run.say (text a)) s =
      (.ok ⟨⟩, s.shows (items.map fun a => .line (text a))) := by
  induction items generalizing s with
  | nil => rw [List.map_nil, Session.shows_nil]; rfl
  | cons a rest ih =>
    change (Run.say (text a) >>= fun _ => rest.forM fun a => Run.say (text a)) s = _
    rw [bind_of_ok (Run.say_apply _ hs), ih (s := s.shows _) hs, Session.shows_shows]
    rfl

end Answer

end Support

end SourceOutline
