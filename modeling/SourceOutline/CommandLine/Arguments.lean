import SourceOutline.CommandLine.Command
import SourceOutline.Text.Digit

/-!
# Command lines

The words of a command line are options, their values and other words. An option is a letter after a
dash or a name after two; letters can stand together, and the value of an option follows it in the
same word or is the next word. After a word of two dashes there are no more options.

The first other word is the path of a repository. The next one is a subcommand, and what follows are
its arguments.

This is the reader that the executable is made with. The program itself works with any other one.
-/

namespace SourceOutline.CommandLine

/-- The options. -/
inductive Flag where
  /-- A language to show; can be given several times. -/
  | language
  /-- The greatest number of files. -/
  | maxFiles
  /-- The greatest number of lines for a file. -/
  | maxLines
  /-- The file to write to. -/
  | output
  /-- Whether to write a document. -/
  | json
  /-- Whether to show the result only. -/
  | quiet
  /-- Whether to explain the command. -/
  | help
  deriving DecidableEq, Repr

namespace Flag

/-- Whether the option has a value. -/
def takesValue : Flag → Bool
  | .language | .maxFiles | .maxLines | .output => true
  | .json | .quiet | .help => false

/-- The names of options. -/
def names : List (String × Flag) :=
  [("--lang", .language), ("--max-files", .maxFiles), ("--max-lines", .maxLines),
    ("--output", .output), ("--json", .json), ("--quiet", .quiet), ("--help", .help)]

/-- The letters of options. -/
def letters : List (Char × Flag) :=
  [('l', .language), ('m', .maxFiles), ('o', .output), ('j', .json), ('q', .quiet)]

end Flag

/-- The options that a command knows. -/
structure Options where
  /-- The names. -/
  names : List (String × Flag)
  /-- The letters. -/
  letters : List (Char × Flag)

/-- The options of the program. -/
def Options.program : Options := ⟨Flag.names, Flag.letters⟩

/-- The options of a subcommand. -/
def Options.subcommand : Options := ⟨[("--help", .help)], []⟩

/-- What is read from a word: options with their values, and possibly an option that needs the next
word for its value, with the spelling that was used. -/
structure WordReading where
  /-- The options with their values; the value of an option that has none is empty. -/
  given : List (Flag × String)
  /-- The option that needs a value. -/
  pending : Option (Flag × String)

/-- Reads letters that stand together. -/
def readLetters (options : Options) : List Char → Except UsageFault WordReading
  | [] => .ok ⟨[], none⟩
  | c :: rest =>
    let spelling := String.ofList ['-', c]
    match options.letters.lookup c with
    | none => .error (.noOption spelling)
    | some flag =>
      if flag.takesValue then
        if rest.isEmpty then .ok ⟨[], some (flag, spelling)⟩
        else .ok ⟨[(flag, String.ofList rest)], none⟩
      else do
        let reading ← readLetters options rest
        .ok { reading with given := (flag, "") :: reading.given }

/-- Divides a word at its first equals sign. -/
def splitValue (word : List Char) : String × Option String :=
  let name := String.ofList (word.takeWhile (· != '='))
  match word.dropWhile (· != '=') with
  | [] => (name, none)
  | _ :: value => (name, some (String.ofList value))

/-- Reads a word that starts with a dash. -/
def readOption (options : Options) (word : List Char) : Except UsageFault WordReading :=
  let (name, value) := splitValue word
  match options.names.lookup name with
  | some flag =>
    match flag.takesValue, value with
    | true, some value => .ok ⟨[(flag, value)], none⟩
    | true, none => .ok ⟨[], some (flag, name)⟩
    | false, some _ => .error (.unwantedValue name)
    | false, none => .ok ⟨[(flag, "")], none⟩
  | none =>
    match word with
    | '-' :: '-' :: _ => .error (.noOption name)
    | _ => readLetters options word.tail

/-- The options and the other words of a command line. -/
structure Words where
  /-- The options with their values, in their order. -/
  given : List (Flag × String)
  /-- The other words. -/
  others : List String

/-- Reads the words of a command line, `pending` being an option that waits for its value. -/
def readWords (options : Options) : (pending : Option (Flag × String)) → List String →
    Except UsageFault Words
  | some (_, spelling), [] => .error (.noValue spelling)
  | none, [] => .ok ⟨[], []⟩
  | some (flag, _), word :: rest => do
    let words ← readWords options none rest
    .ok { words with given := (flag, word) :: words.given }
  | none, word :: rest =>
    if word == "--" then .ok ⟨[], rest⟩
    else if word.toList.head? == some '-' && 1 < word.length then do
      let reading ← readOption options word.toList
      let words ← readWords options reading.pending rest
      .ok { words with given := reading.given ++ words.given }
    else do
      let words ← readWords options none rest
      .ok { words with others := word :: words.others }

/-- The last value of an option. -/
def Words.last? (words : Words) (flag : Flag) : Option String :=
  ((words.given.filter (·.1 == flag)).getLast?).map (·.2)

/-- Whether an option is given. -/
def Words.has (words : Words) (flag : Flag) : Bool := (words.last? flag).isSome

/-- Refuses a text that is no path. -/
def checkPath (text : String) : Except Fault Unit := (Path.refuseNull text).mapError .disk

/-- Refuses a value that does not suit its option. -/
def Flag.check (flag : Flag) (value : String) : Except Fault Unit :=
  match flag with
  | .maxFiles | .maxLines =>
    if (Text.readInteger? value).isSome then .ok () else .error (.usage (.notInteger value))
  | .output => checkPath value
  | .language | .json | .quiet | .help => .ok ()

/-- Checks the last value of each option, in the order in which the options are given, and then the
path. -/
def Words.check (words : Words) : Except Fault Unit := do
  words.given.forM fun (flag, _) => ((words.last? flag).map flag.check).getD (.ok ())
  (words.others.head?.map checkPath).getD (.ok ())

/-- The value of a number, or its default. -/
def Words.number (words : Words) (flag : Flag) (default : Int) : Int :=
  ((words.last? flag).bind Text.readInteger?).getD default

/-- The scan that is asked for. -/
def Words.scanRequest (words : Words) (path : Option Path) : ScanRequest where
  path := path
  languages := (words.given.filter (·.1 == .language)).map (·.2)
  maxFiles := words.number .maxFiles 100
  maxLines := words.number .maxLines 25
  output := (words.last? .output).map Path.ofString
  json := words.has .json
  quiet := words.has .quiet

/-- Reads the arguments of a subcommand that takes at most `count` of them, each a path. -/
def readArguments (count : Nat) (arguments : List String) (command : List String → Command) :
    Except Fault Command := do
  let words ← (readWords .subcommand none arguments).mapError .usage
  if words.has .help then .ok .help
  else
    (words.others.take count).forM checkPath
    if count < words.others.length then
      .error (.usage (.extraArguments (words.others.drop count)))
    else .ok (command words.others)

/-- The subcommand of a name, with its arguments. -/
def subcommand? (name : String) (arguments : List String) : Option (Except Fault Command) :=
  if name == "version" then some (readArguments 0 arguments fun _ => .version)
  else if name == "languages" then some (readArguments 0 arguments fun _ => .languages)
  else if name == "test" then
    some (readArguments 1 arguments fun words => .test (words.head?.map Path.ofString))
  else none

/-- The command without a subcommand: a path that is the name of a subcommand stands for it. -/
def commandOfPath (words : Words) (path : Option Path) : Command :=
  let scan := Command.scan (words.scanRequest path)
  match path with
  | none => scan
  | some path =>
    if path.text == "version" then .version
    else if path.text == "languages" then .languages
    else if path.text == "test" then .test none
    else scan

/-- Reads a command line. -/
def read (arguments : List String) : Except Fault Command := do
  let words ← (readWords .program none arguments).mapError .usage
  if words.has .help then .ok .help
  else
    words.check
    match words.others with
    | [] => .ok (commandOfPath words none)
    | [path] => .ok (commandOfPath words (some (.ofString path)))
    | _ :: name :: rest => (subcommand? name rest).getD (.error (.usage (.noCommand name)))

end SourceOutline.CommandLine
