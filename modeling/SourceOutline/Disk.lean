import SourceOutline.Path
import SourceOutline.Text.Quoted

/-!
# Disk contents

A disk is a tree of folders and files. The entries of a folder are kept in the order of their names.
A path is looked up name by name, so that every name but the last must be a folder's, also where
`..` leads back from it. Names and paths have a greatest length, and the null character stands in
none of them.

There are no symbolic links, so that a path can be resolved by its names alone, and every file and
every folder that is there can be read.
-/

namespace SourceOutline

/-- An entry of a disk. -/
inductive Entry where
  /-- A file with its bytes. -/
  | file (content : ByteArray)
  /-- A folder with its named entries. -/
  | folder (entries : List (String × Entry))

namespace Entry

/-- Whether the entry is a file. -/
def isFile : Entry → Bool
  | .file _ => true
  | .folder _ => false

/-- Puts an entry in the place of its name. -/
def put (name : String) (entry : Entry) : List (String × Entry) → List (String × Entry)
  | [] => [(name, entry)]
  | (other, e) :: rest =>
    if name == other then (name, entry) :: rest
    else if name < other then (name, entry) :: (other, e) :: rest
    else (other, e) :: put name entry rest

/-- The entry that the names lead to. -/
def find? : List String → Entry → Option Entry
  | [], e => some e
  | _ :: _, .file _ => none
  | name :: rest, .folder entries => (entries.lookup name).bind (find? rest)

/-- Puts `new` where the names lead, with all folders on the way; a file on the way gives place to a
folder. -/
def insert (new : Entry) : List String → Entry → Entry
  | [], _ => new
  | name :: rest, e =>
    let entries := match e with
      | .folder entries => entries
      | .file _ => []
    .folder (put name (insert new rest ((entries.lookup name).getD (.folder []))) entries)

/-- Makes the folders that the names lead through, keeping what is there. -/
def makeFolders : List String → Entry → Entry
  | [], e => e
  | name :: rest, e =>
    let entries := match e with
      | .folder entries => entries
      | .file _ => []
    .folder (put name (makeFolders rest ((entries.lookup name).getD (.folder []))) entries)

mutual

/-- All entries below a folder with the names that lead there: first the folder's own entries, then
those of each of its folders. -/
def descendants (names : List String) : Entry → List (List String × Entry)
  | .file _ => []
  | .folder entries =>
    entries.map (fun (name, e) => (names ++ [name], e)) ++ descendantsEach names entries

/-- The entries below each entry of a folder. -/
def descendantsEach (names : List String) : List (String × Entry) → List (List String × Entry)
  | [] => []
  | (name, e) :: rest => descendants (names ++ [name]) e ++ descendantsEach names rest

end

end Entry

/-- Why a path cannot be opened. -/
inductive DiskFault where
  /-- A name is not there. -/
  | missing (path : String)
  /-- A name on the way is a file's. -/
  | notFolder (path : String)
  /-- A folder stands where a file is needed. -/
  | isFolder (path : String)
  /-- The path, or a name on the way, is too long. -/
  | tooLong (path : String)
  /-- The null character stands in the path. -/
  | nullCharacter
  deriving DecidableEq, Repr

/-- The message about a path that cannot be opened. -/
def DiskFault.message : DiskFault → String
  | .missing path => "[Errno 2] No such file or directory: " ++ Text.quote path
  | .notFolder path => "[Errno 20] Not a directory: " ++ Text.quote path
  | .isFolder path => "[Errno 21] Is a directory: " ++ Text.quote path
  | .tooLong path => "[Errno 36] File name too long: " ++ Text.quote path
  | .nullCharacter => "embedded null byte"

/-- The greatest number of bytes in a name. -/
def maxNameSize : Nat := 255

/-- The greatest number of bytes in a path. -/
def maxPathSize : Nat := 4095

namespace Path

/-- Refuses a text with the null character. -/
def refuseNull (text : String) : Except DiskFault Unit :=
  if text.toList.contains '\x00' then .error .nullCharacter else .ok ()

/-- Whether the path is short enough. -/
def fits (path : Path) : Bool := path.text.utf8ByteSize ≤ maxPathSize

/-- Refuses what cannot be the path of anything. -/
def refuse (path : Path) : Except DiskFault Unit := do
  refuseNull path.text
  if maxPathSize < path.text.utf8ByteSize then throw (.tooLong path.text)

end Path

/-- A disk and the folder that paths without a root are seen from. -/
structure Disk where
  /-- Everything from the root on. -/
  tree : Entry
  /-- The current folder, from the root on. -/
  here : Path

namespace Disk

/-- Goes on by `names` from the folder that `done` leads to. -/
def walk (tree : Entry) (path : Path) : (done names : List String) →
    Except DiskFault (List String × Entry)
  | done, [] =>
    match tree.find? done with
    | some e => .ok (done, e)
    | none => .error (.missing path.text)
  | done, name :: rest =>
    match tree.find? done with
    | none => .error (.missing path.text)
    | some (.file _) => .error (.notFolder path.text)
    | some (.folder _) =>
      if maxNameSize < name.utf8ByteSize then .error (.tooLong path.text)
      else walk tree path (Path.resolveStep done name) rest

/-- The entry at a path, with the names that lead there from the root. -/
def locate (disk : Disk) (path : Path) : Except DiskFault (List String × Entry) := do
  path.refuse
  walk disk.tree path [] (disk.here.join path).parts

/-- The entry at a path, if there is one. Only for a path that is too long there is no telling. -/
def entryAt (disk : Disk) (path : Path) : Except DiskFault (Option Entry) :=
  match disk.locate path with
  | .ok (_, e) => .ok (some e)
  | .error (.tooLong path) => .error (.tooLong path)
  | .error _ => .ok none

/-- Whether the path leads somewhere. -/
def hasEntry (disk : Disk) (path : Path) : Except DiskFault Bool :=
  (disk.entryAt path).map (·.isSome)

/-- Whether the path leads to a file. -/
def hasFile (disk : Disk) (path : Path) : Except DiskFault Bool :=
  (disk.entryAt path).map fun
    | some (.file _) => true
    | _ => false

/-- Whether the path leads to a folder. -/
def hasFolder (disk : Disk) (path : Path) : Except DiskFault Bool :=
  (disk.entryAt path).map fun
    | some (.folder _) => true
    | _ => false

/-- The path from the root without `..`. The names need not be there. -/
def resolve (disk : Disk) (path : Path) : Except DiskFault Path := do
  Path.refuseNull path.text
  .ok (Path.resolve disk.here path)

/-- The bytes of the file at a path. -/
def read (disk : Disk) (path : Path) : Except DiskFault ByteArray := do
  match ← disk.locate path with
  | (_, .file content) => .ok content
  | (_, .folder _) => .error (.isFolder path.text)

/-- Writes a file into a folder that is there. -/
def write (disk : Disk) (path : Path) (content : ByteArray) : Except DiskFault Disk := do
  path.refuse
  let names := (disk.here.join path).parts
  match names.getLast? with
  | none => .error (.isFolder path.text)
  | some name =>
    match ← walk disk.tree path [] names.dropLast with
    | (_, .file _) => .error (.notFolder path.text)
    | (folder, .folder entries) =>
      let isFolder := name == ".." || match entries.lookup name with
        | some (.folder _) => true
        | _ => false
      if maxNameSize < name.utf8ByteSize then .error (.tooLong path.text)
      else if isFolder then .error (.isFolder path.text)
      else .ok { disk with tree := Entry.insert (.file content) (folder ++ [name]) disk.tree }

/-- Writes a file, making the folders on the way. -/
def writeAll (disk : Disk) (path : Path) (content : ByteArray) : Disk :=
  { disk with tree := Entry.insert (.file content) (Path.resolve disk.here path).parts disk.tree }

/-- Makes a folder and the folders on the way. -/
def makeFolders (disk : Disk) (path : Path) : Disk :=
  { disk with tree := disk.tree.makeFolders (Path.resolve disk.here path).parts }

/-- The entries below a folder with their paths, in the order in which they are met; none when there
is no such folder. -/
def entriesBelow (disk : Disk) (path : Path) : Except DiskFault (List (Path × Entry)) :=
  (disk.entryAt path).map fun
    | some e => (e.descendants []).map fun (names, e) => (path.join (.ofNames names), e)
    | none => []

/-- The files among some entries, up to the first entry whose path is too long to be asked for. -/
def filesMet (entries : List (Path × Entry)) : List Path :=
  ((entries.takeWhile (·.1.fits)).filter (·.2.isFile)).map (·.1)

/-- Refuses entries of which one has a path that is too long to be asked for. -/
def refuseLong (entries : List (Path × Entry)) : Except DiskFault Unit :=
  match entries.find? (!·.1.fits) with
  | some (path, _) => .error (.tooLong path.text)
  | none => .ok ()

/-- The files below a folder, in the order in which they are met; none when there is no such folder.
Every entry is asked for by its path, as it is spelled from the folder on. -/
def filesBelow (disk : Disk) (path : Path) : Except DiskFault (List Path) := do
  let entries ← disk.entriesBelow path
  refuseLong entries
  .ok (filesMet entries)

end Disk

end SourceOutline
