import SourceOutline.Text.Quoted
import SourceOutline.Text.Template.Class

/-!
# Faults of templates

Why a template cannot be rendered, and the message that says so.
-/

namespace SourceOutline.Text.Template

/-- Why a template cannot be rendered. -/
inductive Fault where
  /-- A closing brace without an opening one. -/
  | loneClosing
  /-- An opening brace at the very end. -/
  | loneOpening
  /-- A field that does not end. -/
  | unclosedField
  /-- An opening brace in a field's name. -/
  | braceInName
  /-- Nothing after the exclamation mark of a field. -/
  | noConversion
  /-- Something other than a colon after a conversion. -/
  | afterConversion
  /-- A layout that does not end. -/
  | unclosedLayout
  /-- A conversion that does not exist. -/
  | unknownConversion (letter : Char)
  /-- Fields in layouts of fields in layouts. -/
  | tooDeep
  /-- A number with too many digits. -/
  | tooManyDigits
  /-- No value has this name. -/
  | unknownName (name : String)
  /-- A field without a name, or with a number for it; only named values are given. -/
  | noPosition (index : Nat)
  /-- An empty name after a dot or in square brackets. -/
  | emptyStep
  /-- A square bracket that is not closed. -/
  | unclosedBracket
  /-- Something other than a dot or a square bracket after a closed square bracket. -/
  | afterBracket
  /-- A dot with a name by which a value of the class leads to nothing. -/
  | noPart (c : Class) (name : String)
  /-- A dot with a name by which this class leads to nothing. -/
  | noPartOfClass (c : Class) (name : String)
  /-- A dot with a name that a class could tell and does not. -/
  | untold (name : String)
  /-- Square brackets after a value of a class without items. -/
  | noItems (c : Class)
  /-- Square brackets after this class. -/
  | noItemsOfClass (c : Class)
  /-- Square brackets after a class that has its argument. -/
  | argumentGiven (shown : String)
  /-- A name or a number in square brackets that a table has no entry for. -/
  | noEntry (shown : String)
  /-- A text in square brackets after a text, where a number is needed. -/
  | textPosition
  /-- A text in square brackets after a series, where a number is needed. -/
  | seriesPosition
  /-- A number in square brackets that is beyond the end of a text. -/
  | beyondEnd
  /-- A number in square brackets that is beyond the end of a series. -/
  | beyondSeries
  /-- A layout for a value of a class that cannot be laid out. -/
  | noLayout (c : Class)
  /-- More characters than there can be. -/
  | tooWide
  /-- A layout that cannot be read. -/
  | badLayout (c : Class) (layout : String)
  /-- A point without a number after it. -/
  | noPrecision
  /-- Two different thousands marks. -/
  | twoThousandsMarks
  /-- A thousands mark where none can be used. -/
  | thousandsMark (mark letter : Char)
  /-- A presentation that values of the class do not have. -/
  | unknownPresentation (c : Class) (letter : Char)
  /-- A sign. -/
  | sign
  /-- A blank for a sign. -/
  | blankSign
  /-- The mark of a number's zero. -/
  | zeroMark
  /-- The mark of a number's alternate form. -/
  | alternateForm
  /-- The alignment of numbers. -/
  | numberAlignment
  /-- A precision for a whole number. -/
  | wholePrecision
  /-- The mark of a number's zero for a whole number. -/
  | wholeZeroMark
  /-- A sign for a character. -/
  | characterSign
  /-- The mark of the alternate form for a character. -/
  | characterAlternate
  /-- A number that is no character's. -/
  | noCharacter
  /-- A precision that is too great. -/
  | precisionTooGreat
  deriving DecidableEq, Repr

/-- A letter in a message: itself when it comes after the blank and before `limit`, its code
otherwise. -/
def shownLetter (limit : Nat) (c : Char) : String :=
  if 0x20 < c.toNat && c.toNat < limit then String.ofList [c]
  else "\\x" ++ String.ofList (Nat.toDigits 16 c.toNat)

/-- The message about a template that cannot be rendered. -/
def Fault.message : Fault → String
  | .loneClosing => "Single '\x7d' encountered in format string"
  | .loneOpening => "Single '\x7b' encountered in format string"
  | .unclosedField => "expected '\x7d' before end of string"
  | .braceInName => "unexpected '\x7b' in field name"
  | .noConversion => "end of string while looking for conversion specifier"
  | .afterConversion => "expected ':' after conversion specifier"
  | .unclosedLayout => "unmatched '\x7b' in format spec"
  | .unknownConversion letter => "Unknown conversion specifier " ++ shownLetter 0x7f letter
  | .tooDeep => "Max string recursion exceeded"
  | .tooManyDigits => "Too many decimal digits in format string"
  | .unknownName name => quote name
  | .noPosition index =>
    "Replacement index " ++ toString index ++ " out of range for positional args tuple"
  | .emptyStep => "Empty attribute in format string"
  | .unclosedBracket => "Missing ']' in format string"
  | .afterBracket => "Only '.' or '[' may follow ']' in format field specifier"
  | .noPart c name => "'" ++ c.fullName ++ "' object has no attribute '" ++ name ++ "'"
  | .noPartOfClass c name =>
    "type object '" ++ c.fullName ++ "' has no attribute '" ++ name ++ "'"
  | .untold name => name
  | .noItems c => "'" ++ c.fullName ++ "' object is not subscriptable"
  | .noItemsOfClass c => "type '" ++ c.fullName ++ "' is not subscriptable"
  | .argumentGiven shown => shown ++ " is not a generic class"
  | .noEntry shown => shown
  | .textPosition => "string indices must be integers, not 'str'"
  | .seriesPosition => "tuple indices must be integers or slices, not str"
  | .beyondEnd => "string index out of range"
  | .beyondSeries => "tuple index out of range"
  | .noLayout c => "unsupported format string passed to " ++ c.fullName ++ ".__format__"
  | .tooWide => ""
  | .badLayout c layout =>
    "Invalid format specifier '" ++ layout ++ "' for object of type '" ++ c.fullName ++ "'"
  | .noPrecision => "Format specifier missing precision"
  | .twoThousandsMarks => "Cannot specify both ',' and '_'."
  | .thousandsMark mark letter =>
    "Cannot specify '" ++ String.ofList [mark] ++ "' with '" ++ shownLetter 0x80 letter ++ "'."
  | .unknownPresentation c letter =>
    "Unknown format code '" ++ shownLetter 0x80 letter ++ "' for object of type '" ++
      c.fullName ++ "'"
  | .sign => "Sign not allowed in string format specifier"
  | .blankSign => "Space not allowed in string format specifier"
  | .zeroMark => "Negative zero coercion (z) not allowed in string format specifier"
  | .alternateForm => "Alternate form (#) not allowed in string format specifier"
  | .numberAlignment => "'=' alignment not allowed in string format specifier"
  | .wholePrecision => "Precision not allowed in integer format specifier"
  | .wholeZeroMark => "Negative zero coercion (z) not allowed in integer format specifier"
  | .characterSign => "Sign not allowed with integer format specifier 'c'"
  | .characterAlternate => "Alternate form (#) not allowed with integer format specifier 'c'"
  | .noCharacter => "%c arg not in range(0x110000)"
  | .precisionTooGreat => "precision too big"

end SourceOutline.Text.Template
