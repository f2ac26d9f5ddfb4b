import SourceOutline.Disk
import SourceOutline.Json.Basic
import SourceOutline.Text.Template
import SourceOutline.Text.Utf8

/-!
# Faults

A fault is the cause for which an operation gives no result. Its message is shown to the user. Parts
of the library that can only fail in one way have fault types of their own; this type collects them.
-/

namespace SourceOutline

/-- What a document of a catalogue was used for, when its kind does not allow it. The kind is given
in the words of `Json.kindName`. -/
inductive Misuse where
  /-- Something was looked for in it. -/
  | membership (kind : String)
  /-- Its elements were asked for. -/
  | iteration (kind : String)
  /-- Its size was asked for. -/
  | size (kind : String)
  /-- It was looked for among texts. -/
  | lookedFor (kind : String)
  /-- An operation was asked for that documents of this kind do not have. -/
  | operation (kind name : String)
  deriving DecidableEq, Repr

/-- The message about a document that was misused. -/
def Misuse.message : Misuse → String
  | .membership kind => "argument of type '" ++ kind ++ "' is not iterable"
  | .iteration kind => "'" ++ kind ++ "' object is not iterable"
  | .size kind => "object of type '" ++ kind ++ "' has no len()"
  | .lookedFor kind => "unhashable type: '" ++ kind ++ "'"
  | .operation kind name => "'" ++ kind ++ "' object has no attribute '" ++ name ++ "'"

/-- How an outside command fails to give an answer. -/
inductive CommandFault where
  /-- There is no such command. -/
  | notFound
  /-- The command, given by its words, took longer than the seconds it had. -/
  | timedOut (words : List String) (seconds : Nat)
  /-- The command could not be run to its end. -/
  | broken (reason : String)
  /-- The command may not be run. -/
  | denied (reason : String)
  deriving DecidableEq, Repr

/-- The message about a command without an answer. -/
def CommandFault.message : CommandFault → String
  | .notFound => "[Errno 2] No such file or directory: 'git'"
  | .timedOut words seconds =>
    "Command '" ++ Text.quoteList words ++ "' timed out after " ++ toString seconds ++ " seconds"
  | .broken reason => reason
  | .denied reason => reason

/-- What is wrong with the words of a command line. -/
inductive UsageFault where
  /-- A word that is no subcommand. -/
  | noCommand (name : String)
  /-- Words after the last argument. -/
  | extraArguments (words : List String)
  /-- An option that does not exist. -/
  | noOption (name : String)
  /-- An option without its value. -/
  | noValue (option : String)
  /-- A value for an option that has none. -/
  | unwantedValue (option : String)
  /-- A value that is not a whole number. -/
  | notInteger (value : String)
  deriving DecidableEq, Repr

/-- The message about a wrong command line. -/
def UsageFault.message : UsageFault → String
  | .noCommand name => "No such command " ++ Text.quote name ++ "."
  | .extraArguments words =>
    "Got unexpected extra argument" ++ (if words.length == 1 then "" else "s") ++ " (" ++
      String.intercalate " " words ++ ")"
  | .noOption name => "No such option: " ++ name
  | .noValue option => "Option " ++ Text.quote option ++ " requires an argument."
  | .unwantedValue option => "Option " ++ Text.quote option ++ " does not take a value."
  | .notInteger value => Text.quote value ++ " is not a valid integer."

/-- The cause for which an operation gives no result. -/
inductive Fault where
  /-- Bytes of a source that are not UTF-8. -/
  | undecodable (flaw : Text.Utf8.Flaw)
  /-- A template that cannot be rendered. -/
  | template (fault : Text.Template.Fault)
  /-- A document of the catalogue that was misused. -/
  | misuse (m : Misuse)
  /-- A type declaration without a type name. -/
  | noTypeName
  /-- A language that is not in the catalogue, where its entry is needed. -/
  | unlistedLanguage
  /-- A file without a language that was looked for in a text of languages. -/
  | noLanguageToFind
  /-- A line budget that is not given. -/
  | noLineBudget
  /-- A status without one of its fields. -/
  | missingField (name : String)
  /-- A text that names no kind of symbol. -/
  | unknownSymbolKind (text : String)
  /-- A repository that is not there. -/
  | noRepository (path : String)
  /-- A file that lies outside the repository and has no place in its tree. -/
  | unplaced
  /-- A file that is the repository itself, so that no name leads to it. -/
  | nameless
  /-- A path that cannot be opened. -/
  | disk (fault : DiskFault)
  /-- A command without an answer. -/
  | command (fault : CommandFault)
  /-- A question that was not answered. -/
  | unanswered
  /-- An indentation that is no machine number. -/
  | indentOutOfRange
  /-- An indentation with more blanks than there can be. -/
  | indentTooWide
  /-- An empty name for a module. -/
  | emptyModuleName
  /-- A wrong command line. -/
  | usage (fault : UsageFault)
  /-- A parser that cannot be loaded. -/
  | noParser (reason : String)
  /-- A notice that the console refused. -/
  | unshown (reason : String)
  deriving DecidableEq, Repr

/-- The message of a fault. -/
def Fault.message : Fault → String
  | .undecodable flaw => flaw.message
  | .template fault => fault.message
  | .misuse m => m.message
  | .noTypeName => "'NoneType' object has no attribute 'start_byte'"
  | .unlistedLanguage => "'NoneType' object has no attribute 'name_nodes'"
  | .noLanguageToFind => "'in <string>' requires string as left operand, not NoneType"
  | .noLineBudget => "'>' not supported between instances of 'int' and 'NoneType'"
  | .missingField name => Text.quote name
  | .unknownSymbolKind text => Text.quote text ++ " is not a valid SymbolType"
  | .noRepository path => "Repository path does not exist: " ++ path
  | .unplaced => "'str' object has no attribute 'parts'"
  | .nameless => "pop from empty list"
  | .disk fault => fault.message
  | .command fault => fault.message
  | .unanswered => ""
  | .indentOutOfRange => "cannot fit 'int' into an index-sized integer"
  | .indentTooWide => ""
  | .emptyModuleName => "Empty module name"
  | .usage fault => fault.message
  | .noParser reason => reason
  | .unshown reason => reason

end SourceOutline
