import Mathlib.Data.List.Perm.Basic
import SourceOutline.Proofs.Addresses
import SourceOutline.Proofs.Forests
import SourceOutline.Proofs.Sorting
import SourceOutline.Report.Listing

/-!
# All views show the same files

The outline by folders, the outline by languages and the list of files go over the folders of a
repository in three different ways: folders before files and both in the order of their names, the
files of one language after the other, and files before folders. Each of them shows every file of
every folder once, and of each file every symbol once.

The folders are told apart by their addresses, and each view is compared with what is gathered along
the list of addresses.
-/

namespace SourceOutline

namespace Outline

open scoped List

/-! ## Files and symbols -/

/-- The line of a symbol. -/
def symbolLine (depth : Nat) (symbol : Symbol) : String :=
  indent depth ++ alignLines (indent depth) (symbolText symbol)

mutual

theorem symbolLines_eq (depth : Nat) : (symbol : Symbol) →
    symbolLines depth symbol = (symbol.levelsAt depth).map fun entry => symbolLine entry.1 entry.2
  | ⟨name, kind, line, signature, language, children⟩ => by
    rw [symbolLines, Symbol.levelsAt, List.map_cons, forestLines_eq (depth + 1) children]
    rfl

/-- The lines of a forest are those of all symbols in it, each at its depth. -/
theorem forestLines_eq (depth : Nat) : (forest : List Symbol) →
    forestLines depth forest =
      (Symbol.levels depth forest).map fun entry => symbolLine entry.1 entry.2
  | [] => by
    rw [forestLines, Symbol.levels]
    rfl
  | symbol :: rest => by
    rw [forestLines, Symbol.levels, List.map_append, symbolLines_eq depth symbol,
      forestLines_eq depth rest]

end

/-- The first line of a file. -/
def fileHead (depth : Nat) (file : FileRecord) : String :=
  if file.symbols.isEmpty then indent depth ++ file.fileName
  else indent depth ++ file.fileName ++ " (" ++ file.language ++ ", " ++ toString file.lines ++
    " lines)"

/-- The lines of a file are its first line and one for each symbol in it. -/
theorem fileLines_eq (depth : Nat) (file : FileRecord) :
    fileLines depth file = fileHead depth file ::
      (Symbol.levels (depth + 1) file.symbols).map fun entry => symbolLine entry.1 entry.2 := by
  rw [fileLines, fileHead]
  cases hsymbols : file.symbols with
  | nil => rfl
  | cons symbol rest =>
    rw [forestLines_eq]
    rfl

/-! ## By folders -/

/-- The line over a folder in a folder of some depth. -/
def folderHead (depth : Nat) (folder : Folder) : String := indent depth ++ folder.name ++ "/"

/-- What the view by folders shows of a folder, `above` levels below the one where it starts: the
line over it, unless it is that one, and its files. -/
def shown (depth : Nat) : (above : Nat) → Folder → List String
  | 0, folder => folder.files.flatMap (fileLines depth)
  | above + 1, folder =>
    folderHead (depth + above) folder :: folder.files.flatMap (fileLines (depth + above + 1))

/-- A folder in another is shown with a line over it. -/
theorem gather_shown_succ (depth : Nat) (folder : Folder) :
    folder.gather (fun above => shown depth (above + 1)) =
      folderHead depth folder :: folder.gather (shown (depth + 1)) := by
  have hdeeper (above : Nat) : shown depth (above + 1 + 1) = shown (depth + 1) (above + 1) := by
    funext folder
    have hdepth : depth + (above + 1) = depth + 1 + above := by omega
    rw [shown, shown, hdepth]
  rw [Folder.gather_eq, Folder.gather_eq (shown (depth + 1))]
  simp only [hdeeper]
  rfl

mutual

theorem folderLines_perm (depth : Nat) : (folder : Folder) →
    (folderLines depth folder).Perm (folder.gather (shown depth))
  | ⟨path, name, files, folders, counts⟩ => by
    rw [folderLines, Folder.gather_eq]
    have hfolders := ((sortByKey_perm (fun entry => Text.lowercase entry.1)
      (entryLines depth folders)).flatMap_right (·.2)).trans (entryLines_perm depth folders)
    have hfiles : ((sortedFiles files).flatMap (fileLines depth)).Perm
        (files.flatMap (fileLines depth)) := (sortByKey_perm _ files).flatMap_right _
    exact (hfolders.append hfiles).trans List.perm_append_comm

theorem entryLines_perm (depth : Nat) : (folders : List Folder) →
    ((entryLines depth folders).flatMap (·.2)).Perm
      (folders.flatMap (Folder.gather fun above => shown depth (above + 1)))
  | [] => by
    rw [entryLines]
    exact .nil
  | folder :: rest => by
    rw [entryLines, List.flatMap_cons, List.flatMap_cons, gather_shown_succ]
    exact ((folderLines_perm (depth + 1) folder).cons _).append (entryLines_perm depth rest)

end

/-- The line over the folder at an address, in the folder that is one level less deep. -/
def headAt (folder : Folder) (address : List Nat) : String :=
  indent (address.length - 1) ++ ((folder.at? address).map (·.name)).getD "" ++ "/"

/-- The lines of the files in the folder at an address. -/
def blocksAt (folder : Folder) (address : List Nat) : List String :=
  (folder.filesAt address).flatMap (fileLines address.length)

/-- The view by folders shows a line over each folder but the first and the lines of each file of
each folder. -/
theorem folderLines_perm_addresses (folder : Folder) :
    (folderLines 0 folder).Perm
      ((folder.addresses.filter (!·.isEmpty)).map (headAt folder) ++
        folder.addresses.flatMap (blocksAt folder)) := by
  have hbelow : ∀ address ∈ Folder.addressesFrom 0 folder.folders, address ≠ [] ∧
      ((folder.at? address).map (shown 0 address.length)).getD [] =
        headAt folder address :: blocksAt folder address := by
    intro address haddress
    obtain ⟨_, index, rest, -, -, rfl⟩ := Folder.mem_addressesFrom.1 haddress
    have hsome : (folder.at? (index :: rest)).isSome := by
      rw [← Folder.mem_addresses, Folder.addresses_eq]
      exact List.mem_cons_of_mem _ haddress
    obtain ⟨sub, hsub⟩ := Option.isSome_iff_exists.1 hsome
    refine ⟨List.cons_ne_nil _ _, ?_⟩
    simp [headAt, blocksAt, Folder.filesAt, hsub, shown, folderHead]
  have hproper : folder.addresses.filter (!·.isEmpty) = Folder.addressesFrom 0 folder.folders := by
    rw [Folder.addresses_eq, List.filter_cons]
    refine List.filter_eq_self.2 fun address haddress => ?_
    simpa using (hbelow address haddress).1
  calc
    folderLines 0 folder
    _ ~ folder.gather (shown 0) := folderLines_perm 0 folder
    _ = blocksAt folder [] ++ (Folder.addressesFrom 0 folder.folders).flatMap fun address =>
        headAt folder address :: blocksAt folder address := by
      rw [Folder.gather, Folder.addresses_eq, List.flatMap_cons]
      exact congrArg _ (List.flatMap_congr fun address haddress => (hbelow address haddress).2)
    _ ~ blocksAt folder [] ++ ((Folder.addressesFrom 0 folder.folders).map (headAt folder) ++
        (Folder.addressesFrom 0 folder.folders).flatMap (blocksAt folder)) :=
      (List.map_append_flatMap_perm _ _ _).symm.append_left _
    _ ~ (Folder.addressesFrom 0 folder.folders).map (headAt folder) ++
        (blocksAt folder [] ++ (Folder.addressesFrom 0 folder.folders).flatMap (blocksAt folder)) :=
      List.perm_append_comm_assoc _ _ _
    _ = (folder.addresses.filter (!·.isEmpty)).map (headAt folder) ++
        folder.addresses.flatMap (blocksAt folder) := by
      rw [hproper, Folder.addresses_eq, List.flatMap_cons]

/-! ## By languages -/

theorem nodup_eraseDups : (words : List String) → words.eraseDups.Nodup
  | [] => List.nodup_nil
  | word :: rest => by
    rw [List.eraseDups_cons, List.nodup_cons]
    refine ⟨?_, nodup_eraseDups _⟩
    simp [List.mem_eraseDups]
  termination_by words => words.length
  decreasing_by exact Nat.lt_succ_of_le (List.length_filter_le _ _)

theorem mem_languagesOf {files : List FileRecord} {language : String} :
    language ∈ languagesOf files ↔ ∃ file ∈ files, file.language = language := by
  rw [languagesOf, (sortByKey_perm id _).mem_iff, List.mem_eraseDups, List.mem_map]

theorem nodup_languagesOf (files : List FileRecord) : (languagesOf files).Nodup :=
  (sortByKey_perm id _).nodup_iff.2 (nodup_eraseDups _)

/-- The languages are different and stand in ascending order. -/
theorem pairwise_languagesOf (files : List FileRecord) :
    (languagesOf files).Pairwise (· < ·) := by
  refine (pairwise_sortByKey id _).imp₂ (fun a b hle hne => ?_) (nodup_languagesOf files)
  refine String.not_le.1 fun hge => hne (String.le_antisymm hle hge)

/-- Files in groups by language are the same files, when each language stands there once. -/
theorem flatMap_filter_perm {languages : List String} (hnodup : languages.Nodup)
    {files : List FileRecord} (hfiles : ∀ file ∈ files, file.language ∈ languages) :
    (languages.flatMap fun language => files.filter (·.language == language)).Perm files := by
  induction languages generalizing files with
  | nil =>
    have hnil : files = [] := List.eq_nil_iff_forall_not_mem.2 fun file hfile =>
      List.not_mem_nil (hfiles file hfile)
    rw [hnil]
    rfl
  | cons language rest ih =>
    obtain ⟨hnew, hrest⟩ := List.nodup_cons.1 hnodup
    -- The other groups are made from the files of other languages.
    have hothers : (rest.flatMap fun other => files.filter (·.language == other)) =
        rest.flatMap fun other =>
          (files.filter (!·.language == language)).filter (·.language == other) := by
      refine List.flatMap_congr fun other hother => ?_
      rw [List.filter_filter]
      refine List.filter_congr fun file _ => ?_
      by_cases h : file.language = other
      · have hne : file.language ≠ language := fun heq => hnew (heq ▸ h ▸ hother)
        simp [h, h ▸ hne]
      · simp [h]
    have hremaining : ∀ file ∈ files.filter (!·.language == language), file.language ∈ rest := by
      intro file hfile
      obtain ⟨hmem, hne⟩ := List.mem_filter.1 hfile
      exact (List.mem_cons.1 (hfiles file hmem)).resolve_left (by simpa using hne)
    rw [List.flatMap_cons, hothers]
    exact ((ih hrest hremaining).append_left _).trans (List.filter_append_perm _ files)

/-- The line over the files of a language. -/
def languageHead (summary : Summary) (language : String) (count : Nat) : String :=
  Text.uppercase language ++ " Files (" ++ toString count ++ " files, " ++
    supportWord (summary.supports language) ++ "):"

/-- The view by languages shows the files of each language, in the order in which they are
listed. -/
theorem allLanguageLines_eq (summary : Summary) :
    allLanguageLines summary =
      (languagesOf summary.folder.allFiles).flatMap fun language =>
        languageHead summary language
            ((summary.folder.allFiles.map (·.language)).count language) ::
          (summary.folder.allFiles.filter (·.language == language)).flatMap (fileLines 1) ++
            [""] := by
  refine List.flatMap_congr fun language _ => ?_
  rw [List.count, List.countP_map, List.countP_eq_length_filter]
  rfl

end Outline

namespace Summary

open Outline

/-- All views of a repository show the files of all folders, each once, with all their symbols. -/
structure ViewsAgree (summary : Summary) : Prop where
  /-- Every folder has its address, and no address stands there twice. -/
  addresses : summary.folder.addresses.Nodup ∧
    ∀ address, address ∈ summary.folder.addresses ↔ (summary.folder.at? address).isSome
  /-- The list of files has the files of each folder. -/
  listed : summary.fileDocuments = summary.folder.allFiles.map FileRecord.document ∧
    summary.folder.allFiles = summary.folder.addresses.flatMap summary.folder.filesAt
  /-- Both outlines have some lines first and then those of the view. -/
  outlines : ∀ byLanguage, summary.outline byLanguage = String.intercalate "\n"
    (headLines summary ++
      if byLanguage then allLanguageLines summary else folderLines 0 summary.folder)
  /-- The view by folders has a line over each folder in another and the lines of each file of each
  folder, as deep as the folder lies, and no other lines. -/
  byFolders : (folderLines 0 summary.folder).Perm
    ((summary.folder.addresses.filter (!·.isEmpty)).map (headAt summary.folder) ++
      summary.folder.addresses.flatMap (blocksAt summary.folder))
  /-- The view by languages has the languages of all files in ascending order, and for each language
  a line with the number of its files and the lines of these files, in the order of the list of
  files. Together these are all files. -/
  byLanguages : ∃ languages : List String,
    languages.Pairwise (· < ·) ∧
    (∀ language, language ∈ languages ↔
      ∃ file ∈ summary.folder.allFiles, file.language = language) ∧
    (allLanguageLines summary = languages.flatMap fun language =>
      languageHead summary language ((summary.folder.allFiles.map (·.language)).count language) ::
        (summary.folder.allFiles.filter (·.language == language)).flatMap (fileLines 1) ++ [""]) ∧
    (languages.flatMap fun language =>
      summary.folder.allFiles.filter (·.language == language)).Perm summary.folder.allFiles
  /-- The lines of a file are one for the file and one for each symbol in it, at its depth. -/
  symbols : ∀ depth file,
    (fileLines depth file = fileHead depth file ::
      (Symbol.levels (depth + 1) file.symbols).map fun entry => symbolLine entry.1 entry.2) ∧
    (Symbol.levels (depth + 1) file.symbols).map (·.2) = Symbol.preorderAll file.symbols

theorem views_agree (summary : Summary) : ViewsAgree summary where
  addresses := ⟨Folder.nodup_addresses _, fun _ => Folder.mem_addresses⟩
  listed := ⟨rfl, Folder.allFiles_eq_flatMap _⟩
  outlines _ := rfl
  byFolders := folderLines_perm_addresses summary.folder
  byLanguages := by
    refine ⟨languagesOf summary.folder.allFiles, pairwise_languagesOf _, fun _ => mem_languagesOf,
      allLanguageLines_eq summary, ?_⟩
    refine flatMap_filter_perm (nodup_languagesOf _) fun file hfile => ?_
    exact mem_languagesOf.2 ⟨file, hfile, rfl⟩
  symbols depth file := ⟨fileLines_eq depth file, Symbol.map_snd_levels _ _⟩

end Summary

end SourceOutline
