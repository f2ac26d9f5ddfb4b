import SourceOutline.CommandLine.Command
import SourceOutline.Report.Outline
import SourceOutline.Survey

/-!
# The program

What the program does for each command. A command gives an exit code when it ends the program with
one. The words of a command line become a command by a reader that the program is given.
-/

namespace SourceOutline.CommandLine

/-- The style of a complaint. -/
def red : String := "red"

/-- Writes the result of a scan to a file, or shows it. -/
def deliver (request : ScanRequest) (content : String) : Run Unit :=
  match request.output with
  | none => Run.say content
  | some path => do
    Run.store path content
    if !request.quiet then Run.say ("Results written to: " ++ path.text)

/-- Surveys a repository and delivers the result. -/
def surveyAndDeliver (request : ScanRequest) (path : Path) : Run Unit := do
  let summary ← Survey.run path (.names request.languages) (some request.maxFiles)
    (some request.maxLines)
  deliver request (if request.json then summary.renderAscii else summary.outline false)
  if !request.quiet then
    Run.say ("\nProcessed " ++ toString summary.totalFiles ++ " files in " ++
      toString summary.languages.length ++ " languages")

/-- Tells what is going to be scanned. -/
def announce (request : ScanRequest) (path : Path) : Run Unit := do
  if !request.quiet then
    Run.say ("Scanning repository: " ++ path.text)
    if !request.languages.isEmpty then
      Run.say ("Language filter: " ++ String.intercalate ", " request.languages)
    if request.maxFiles ≠ 0 then Run.say ("Max files: " ++ toString request.maxFiles)

/-- Scans a folder. -/
def scan (request : ScanRequest) : Run (Option Int) := do
  let path := request.path.getD (← Run.disk).here
  if !(← Run.onDisk (·.hasEntry path)) then
    Run.post (.styled ("Error: Path '" ++ path.text ++ "' does not exist") red)
    return some 1
  else if !(← Run.onDisk (·.hasFolder path)) then
    Run.post (.styled ("Error: Path '" ++ path.text ++ "' is not a directory") red)
    return some 1
  else
    announce request path
    match ← Run.attempt (surveyAndDeliver request path) with
    | .ok _ => return none
    | .error fault =>
      Run.post (.styled ("Error processing repository: " ++ fault.message) red)
      if !request.quiet then Run.post .trace
      return some 1

/-- Tells the version. -/
def version : Run (Option Int) := do
  Run.say "fancy-tree version 0.1.0"
  return none

/-- Tells which languages a folder has. -/
def tellLanguages (folder : Path) : Run Unit := do
  let found ← Support.available folder
  if !found.isEmpty then
    Run.say ("\nLanguages detected in " ++ folder.text ++ ":")
    found.forM fun (language, support) =>
      Run.say ("  " ++ language ++ ": " ++ toString support.fileCount ++ " files (" ++
        (if support.parserAvailable then "AVAILABLE" else "PARSER MISSING") ++ ")")

/-- Tells which languages have extractors, and which of them the current folder has. -/
def languages : Run (Option Int) := do
  Run.post (.panel "Fancy Tree - Supported Languages" "bold blue")
  let registered ← Run.registered
  Run.say ("\nImplemented extractors: " ++ toString registered.length)
  (Outline.sortByKey id registered).forM fun language => Run.say ("  ✓ " ++ language)
  match ← Run.attempt (tellLanguages (← Run.disk).here) with
  | .ok _ => return none
  | .error fault =>
    Run.say ("\nNote: Could not detect languages in current directory: " ++ fault.message)
    return none

/-- Surveys a folder and tells what was found. -/
def tellSurvey (path : Path) : Run Unit := do
  let summary ← Survey.run path (.names []) (some 10) (some 25)
  Run.say ("✓ Successfully processed " ++ toString summary.totalFiles ++ " files")
  Run.say ("✓ Found " ++ toString summary.languages.length ++ " languages: " ++
    Text.quoteList (summary.languages.map (·.1)))
  let supported := (summary.supportedLanguages.filter (·.2)).length
  Run.say ("✓ Language support: " ++ toString supported ++ "/" ++
    toString summary.supportedLanguages.length ++ " languages supported")
  Run.say "\nTest completed successfully!"

/-- Surveys a folder and tells how it went. -/
def test (path : Option Path) : Run (Option Int) := do
  let path := path.getD (← Run.disk).here
  Run.post (.panel ("Testing fancy_tree on: " ++ path.text) "bold green")
  match ← Run.attempt (tellSurvey path) with
  | .ok _ => return none
  | .error fault =>
    Run.post (.styled ("✗ Test failed: " ++ fault.message) red)
    return some 1

/-- Does what a command asks for. -/
def perform : Command → Run (Option Int)
  | .scan request => scan request
  | .version => version
  | .languages => languages
  | .test path => test path
  | .help => return some 0

/-- Runs the program on a command line; gives the exit code when the program ends with one. -/
def run (read : Reader) (arguments : List String) : Run (Option Int) := do
  perform (← Run.ofExcept (read arguments))

/-- Runs the program to its end; gives the exit code of the process. -/
def runProcess (read : Reader) (arguments : List String) : Run Int := do
  match ← Run.attempt (run read arguments) with
  | .ok code => return code.getD 0
  | .error (.usage _) => return 2
  | .error _ => return 1

end SourceOutline.CommandLine
