import SourceOutline.Path
import SourceOutline.Symbol

/-!
# The folders of a repository

The files of a repository with their symbols, in a tree of folders. A folder is reached from the
root by the names of the folders on the way; going to a folder that is not there makes it.
-/

namespace SourceOutline

/-- A file with its symbols. -/
structure FileRecord where
  /-- The path of the file. -/
  path : String
  /-- The language of the file. -/
  language : String
  /-- The number of its lines. -/
  lines : Int
  /-- The symbols declared in it. -/
  symbols : List Symbol
  /-- Whether its signatures are told to be supported. -/
  signatureSupport : Bool

/-- A folder with everything in it. -/
structure Folder where
  /-- The path of the folder. -/
  path : String
  /-- The name of the folder. -/
  name : String
  /-- The files in it. -/
  files : List FileRecord
  /-- The folders in it. -/
  folders : List Folder
  /-- Numbers of files by language. -/
  languageCounts : List (String × Int)

/-- The last name of a file's path. -/
def FileRecord.fileName (file : FileRecord) : String := (Path.ofString file.path).name

/-- The document of a file. -/
def FileRecord.document (file : FileRecord) : Json :=
  .table [("path", .text file.path), ("language", .text file.language), ("lines", .int file.lines),
    ("has_signature_support", .bool file.signatureSupport),
    ("symbols", .list (Symbol.documents file.symbols))]

/-- A table of numbers. -/
def countsDocument (counts : List (String × Int)) : Json :=
  .table (counts.map fun (name, n) => (name, .int n))

namespace Folder

/-- The root of a repository without files. -/
def root : Folder := ⟨".", ".", [], [], []⟩

/-- A new folder in another. -/
def fresh (parent : Folder) (name : String) : Folder :=
  ⟨((Path.ofString parent.path).join (.ofString name)).text, name, [], [], []⟩

/-- Changes the first folder of that name; when there is none, `new` is changed and put at the
end. -/
def alterNamed (name : String) (change : Folder → Folder) (new : Folder) :
    List Folder → List Folder
  | [] => [change new]
  | folder :: rest =>
    if folder.name == name then change folder :: rest
    else folder :: alterNamed name change new rest

/-- Changes the folder that the names lead to, making the folders that are not there. -/
def alter (change : Folder → Folder) : List String → Folder → Folder
  | [], folder => change folder
  | name :: rest, folder =>
    { folder with
      folders := alterNamed name (alter change rest) (fresh folder name) folder.folders }

/-- Changing a folder below keeps the name of the whole. -/
theorem name_alter {change : Folder → Folder} (h : ∀ f, (change f).name = f.name)
    (names : List String) (folder : Folder) : (alter change names folder).name = folder.name := by
  cases names with
  | nil => exact h folder
  | cons name rest => rfl

/-- After a change of the folder of some name, that folder is the changed one. -/
theorem find?_alterNamed {name : String} {change : Folder → Folder} {new : Folder}
    (h : ∀ f, (change f).name = f.name) (hnew : new.name = name) (folders : List Folder) :
    (alterNamed name change new folders).find? (·.name == name) =
      some (change ((folders.find? (·.name == name)).getD new)) := by
  induction folders with
  | nil => simp [alterNamed, h, hnew]
  | cons folder rest ih =>
    rw [alterNamed]
    split
    · next hn => simp [h, hn]
    · next hn => simp [hn, ih]

/-- Makes the folders that the names lead through. -/
def make (names : List String) (folder : Folder) : Folder := alter id names folder

/-- The folder that the names lead to. -/
def find? : List String → Folder → Option Folder
  | [], folder => some folder
  | name :: rest, folder => (folder.folders.find? (·.name == name)).bind (find? rest)

/-- Making folders makes a way to the last of them. -/
theorem isSome_find?_make (names : List String) (folder : Folder) :
    (find? names (make names folder)).isSome := by
  induction names generalizing folder with
  | nil => rfl
  | cons name rest ih =>
    have keepsName : ∀ f, (alter id rest f).name = f.name := name_alter (fun _ => rfl) rest
    have named : (fresh folder name).name = name := rfl
    simp only [make, alter, find?]
    rw [find?_alterNamed keepsName named]
    exact ih _

/-- Goes to the folder that the names lead to: gives this folder, and the whole in which it is. -/
def enter (names : List String) (folder : Folder) : Folder × Folder :=
  let whole := make names folder
  ((find? names whole).getD whole, whole)

/-- The folder with one more file. -/
def push (file : FileRecord) (folder : Folder) : Folder :=
  { folder with files := folder.files ++ [file] }

/-- Puts a file into the folder that the names lead to. -/
def addFile (names : List String) (file : FileRecord) (folder : Folder) : Folder :=
  alter (push file) names folder

mutual

/-- The files of a folder and of all folders in it: its own first, then those of each folder. -/
def allFiles (folder : Folder) : List FileRecord :=
  match folder with
  | ⟨_, _, files, folders, _⟩ => files ++ allFilesOf folders

/-- The files of some folders. -/
def allFilesOf : List Folder → List FileRecord
  | [] => []
  | folder :: rest => allFiles folder ++ allFilesOf rest

end

mutual

/-- The document of a folder. -/
def document (folder : Folder) : Json :=
  match folder with
  | ⟨path, name, files, folders, languageCounts⟩ =>
    .table [("path", .text path), ("name", .text name),
      ("files", .list (files.map FileRecord.document)),
      ("subdirs", .list (documents folders)),
      ("language_counts", countsDocument languageCounts)]

/-- The documents of some folders. -/
def documents : List Folder → List Json
  | [] => []
  | folder :: rest => document folder :: documents rest

end

end Folder

end SourceOutline
