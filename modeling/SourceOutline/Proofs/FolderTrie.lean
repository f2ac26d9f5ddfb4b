import SourceOutline.Proofs.Addresses
import SourceOutline.Proofs.Indentation
import SourceOutline.Proofs.Partition
import SourceOutline.Proofs.Rearrangement

/-!
# Folders as a trie

Going to folders one after the other makes a trie of their names. What a folder gets in this way can
be told from the visits alone: a folder for each name that comes next, in the order in which the
names first occur, and in it what the visits ask for below this name (`Folder.folders_visit`). So
the folders that are there, each with the names that lead to it (`Folder.nodes`), are known for any
row of visits (`Folder.mem_nodes_visit`), and their order depends on the order of the visits only as
far as folders stand side by side.

A single visit leaves everything that is there where it is (`Folder.at?_make`).
-/

namespace SourceOutline

/-! ## Reading a path back -/

namespace Path

/-- A text that stands for one name when a path is read. -/
structure IsName (name : String) : Prop where
  filled : name ≠ ""
  notHere : name ≠ "."
  undivided : '/' ∉ name.toList

instance decidableIsName (name : String) : Decidable (IsName name) :=
  decidable_of_iff (name ≠ "" ∧ name ≠ "." ∧ '/' ∉ name.toList)
    ⟨fun ⟨filled, notHere, undivided⟩ => ⟨filled, notHere, undivided⟩,
      fun ⟨filled, notHere, undivided⟩ => ⟨filled, notHere, undivided⟩⟩

/-- A text that does not start with a slash is read as a path from the current folder. -/
theorem ofString_of_head? {s : String} (h : s.toList.head? ≠ some '/') :
    ofString s = ofNames (names s.toList) := by
  unfold ofString
  split
  · next hs => simp [hs] at h
  · next hs => simp [hs] at h
  · next hs => simp [hs] at h
  · rfl

theorem text_ofNames_cons (first : String) (rest : List String) :
    (ofNames (first :: rest)).text = String.intercalate "/" (first :: rest) := rfl

/-- A written path is read as the same names. -/
theorem ofString_text {way : List String} (h : ∀ name ∈ way, IsName name) :
    ofString (ofNames way).text = ofNames way := by
  cases way with
  | nil => decide
  | cons first rest =>
    have hjoined : (ofNames (first :: rest)).text.toList =
        ['/'].intercalate (first.toList :: rest.map String.toList) := by
      rw [text_ofNames_cons, String.toList_intercalate]
      rfl
    have hpieces : ∀ piece ∈ first.toList :: rest.map String.toList, '/' ∉ piece := by
      intro piece hpiece
      rw [← List.map_cons, List.mem_map] at hpiece
      obtain ⟨name, hname, rfl⟩ := hpiece
      exact (h name hname).undivided
    have hhead : (ofNames (first :: rest)).text.toList.head? ≠ some '/' := by
      have hfirst := h first List.mem_cons_self
      -- The first name has a first character, which is not a slash.
      cases hchars : first.toList with
      | nil => exact absurd (String.toList_eq_nil_iff.1 hchars) hfirst.filled
      | cons c cs =>
        have hc : c ≠ '/' := by
          rintro rfl
          exact hfirst.undivided (by simp [hchars])
        rw [hjoined, hchars]
        cases rest with
        | nil => simpa using hc
        | cons second rest => simpa using hc
    rw [ofString_of_head? hhead, names, hjoined,
      List.splitOn_intercalate '/' hpieces (List.cons_ne_nil _ _), ← List.map_cons, List.map_map,
      List.filter_eq_self.2]
    · simp [Function.comp_def]
    · intro name hname
      simp only [Function.comp_def, String.ofList_toList, List.map_id'] at hname
      simp [(h name hname).filled, (h name hname).notHere]

theorem ofString_name {name : String} (h : IsName name) : ofString name = ofNames [name] := by
  have hread := ofString_text (List.forall_mem_singleton.2 h)
  rwa [text_ofNames_cons, String.intercalate_singleton] at hread

end Path

namespace Folder

/-! ## The folders in a folder, with the names that lead to them -/

mutual

/-- A folder and all folders in it, each with the names that lead to it. -/
def nodes (folder : Folder) : List (List String × Folder) :=
  match folder with
  | ⟨path, name, files, folders, counts⟩ =>
    ([], ⟨path, name, files, folders, counts⟩) :: nodesIn folders

/-- Some folders side by side and all folders in them. -/
def nodesIn : List Folder → List (List String × Folder)
  | [] => []
  | sub :: rest => (nodes sub).map (fun node => (sub.name :: node.1, node.2)) ++ nodesIn rest

end

theorem nodes_eq (folder : Folder) : folder.nodes = ([], folder) :: nodesIn folder.folders := by
  cases folder
  rw [nodes]

theorem mem_nodesIn {folders : List Folder} {way : List String} {node : Folder} :
    (way, node) ∈ nodesIn folders ↔
      ∃ sub ∈ folders, ∃ rest, way = sub.name :: rest ∧ (rest, node) ∈ sub.nodes := by
  induction folders with
  | nil => simp [nodesIn]
  | cons sub rest ih =>
    rw [nodesIn, List.mem_append, ih, List.exists_mem_cons_iff]
    refine or_congr_left ?_
    simp only [List.mem_map, Prod.mk.injEq, Prod.exists]
    constructor
    · rintro ⟨names, found, hfound, rfl, rfl⟩
      exact ⟨names, rfl, hfound⟩
    · rintro ⟨names, rfl, hfound⟩
      exact ⟨names, node, hfound, rfl, rfl⟩

theorem mem_nodes_nil {folder node : Folder} : ([], node) ∈ folder.nodes ↔ node = folder := by
  rw [nodes_eq, List.mem_cons, mem_nodesIn]
  simp

theorem mem_nodes_cons {folder node : Folder} {name : String} {rest : List String} :
    (name :: rest, node) ∈ folder.nodes ↔
      ∃ sub ∈ folder.folders, sub.name = name ∧ (rest, node) ∈ sub.nodes := by
  rw [nodes_eq, List.mem_cons, mem_nodesIn]
  constructor
  · rintro (h | ⟨sub, hsub, names, ⟨⟩, hnode⟩)
    · simp at h
    · exact ⟨sub, hsub, rfl, hnode⟩
  · rintro ⟨sub, hsub, rfl, hnode⟩
    exact .inr ⟨sub, hsub, rest, rfl, hnode⟩

/-- The folder that is found by names is one of those that the names lead to. -/
theorem mem_nodes_of_find? {names : List String} {folder node : Folder}
    (h : folder.find? names = some node) : (names, node) ∈ folder.nodes := by
  induction names generalizing folder with
  | nil => exact mem_nodes_nil.2 (Option.some.inj h).symm
  | cons name rest ih =>
    obtain ⟨sub, hsub, hnode⟩ := Option.bind_eq_some_iff.1 h
    refine mem_nodes_cons.2 ⟨sub, List.mem_of_find?_eq_some hsub, ?_, ih hnode⟩
    simpa using List.find?_some hsub

mutual

/-- Where folders side by side have different names, no two folders are reached by the same
names. -/
theorem nodup_ways : (folder : Folder) →
    (∀ node ∈ folder.nodes, (node.2.folders.map (·.name)).Nodup) →
    (folder.nodes.map (·.1)).Nodup
  | ⟨path, name, files, folders, counts⟩, h => by
    rw [nodes] at h ⊢
    obtain ⟨hroot, hinside⟩ := List.forall_mem_cons.1 h
    rw [List.map_cons, List.nodup_cons]
    refine ⟨?_, nodup_waysIn folders hroot hinside⟩
    rw [List.mem_map]
    rintro ⟨⟨way, node⟩, hnode, rfl⟩
    obtain ⟨_, _, _, hway, _⟩ := mem_nodesIn.1 hnode
    cases hway

theorem nodup_waysIn : (folders : List Folder) → (folders.map (·.name)).Nodup →
    (∀ node ∈ nodesIn folders, (node.2.folders.map (·.name)).Nodup) →
    ((nodesIn folders).map (·.1)).Nodup
  | [], _, _ => by simp [nodesIn]
  | sub :: rest, hnames, h => by
    rw [nodesIn] at h ⊢
    obtain ⟨hsub, hrest⟩ := List.forall_mem_append.1 h
    rw [List.map_cons, List.nodup_cons] at hnames
    have hfirst := nodup_ways sub fun node hnode => hsub (sub.name :: node.1, node.2)
      (List.mem_map.2 ⟨node, hnode, rfl⟩)
    rw [List.map_append, List.map_map, List.nodup_append]
    refine ⟨?_, nodup_waysIn rest hnames.2 hrest, ?_⟩
    · have hways : (sub.nodes.map fun node => sub.name :: node.1) =
          (sub.nodes.map (·.1)).map (sub.name :: ·) := by simp
      exact hways ▸ hfirst.map fun _ _ heq => (List.cons.inj heq).2
    · -- A way into a later folder starts with another name.
      rintro way hway other hother rfl
      obtain ⟨_, _, rfl⟩ := List.mem_map.1 hway
      obtain ⟨⟨_, _⟩, hlater, rfl⟩ := List.mem_map.1 hother
      obtain ⟨later, hmem, _, heq, _⟩ := mem_nodesIn.1 hlater
      exact hnames.1 (List.mem_map.2 ⟨later, hmem, (List.cons.inj heq).1.symm⟩)

end

/-! ## One visit -/

theorem make_cons (name : String) (rest : List String) (folder : Folder) :
    make (name :: rest) folder =
      { folder with folders := alterNamed name (make rest) (fresh folder name) folder.folders } :=
  rfl

theorem name_make (names : List String) (folder : Folder) :
    (make names folder).name = folder.name := name_alter (fun _ => rfl) names folder

/-- The folder of some name stays in its place, and so do all others. -/
theorem getElem?_alterNamed {name : String} {change : Folder → Folder} {new sub : Folder}
    {folders : List Folder} {index : Nat} (h : folders[index]? = some sub) :
    (alterNamed name change new folders)[index]? = some sub ∨
      (alterNamed name change new folders)[index]? = some (change sub) := by
  induction folders generalizing index with
  | nil => simp at h
  | cons folder rest ih =>
    rw [alterNamed]
    split
    · cases index with
      | zero =>
        obtain rfl : folder = sub := by simpa using h
        exact .inr rfl
      | succ index => exact .inl h
    · cases index with
      | zero => exact .inl h
      | succ index => exact ih h

theorem allFilesOf_alterNamed {name : String} {change : Folder → Folder} {new : Folder}
    (hchange : ∀ f, (change f).allFiles = f.allFiles) (hnew : new.allFiles = [])
    (folders : List Folder) :
    allFilesOf (alterNamed name change new folders) = allFilesOf folders := by
  induction folders with
  | nil => simp [alterNamed, allFilesOf, hchange, hnew]
  | cons folder rest ih =>
    rw [alterNamed]
    split
    · rw [allFilesOf, allFilesOf, hchange]
    · rw [allFilesOf, allFilesOf, ih]

/-- Making folders brings no file and loses none. -/
theorem allFiles_make (names : List String) (folder : Folder) :
    (make names folder).allFiles = folder.allFiles := by
  induction names generalizing folder with
  | nil => rfl
  | cons name rest ih =>
    have hnew : (fresh folder name).allFiles = [] := rfl
    rw [make_cons, allFiles_eq, allFiles_eq folder]
    exact congrArg (folder.files ++ ·) (allFilesOf_alterNamed ih hnew folder.folders)

/-- A folder stays what it is, and new folders in it come after those that it has. -/
structure Stays (before after : Folder) : Prop where
  path : after.path = before.path
  name : after.name = before.name
  files : after.files = before.files
  languageCounts : after.languageCounts = before.languageCounts
  folders : before.folders.map (·.name) <+: after.folders.map (·.name)

theorem stays_refl (folder : Folder) : Stays folder folder :=
  ⟨rfl, rfl, rfl, rfl, List.prefix_refl _⟩

theorem stays_make (names : List String) (folder : Folder) : Stays folder (make names folder) := by
  cases names with
  | nil => exact stays_refl folder
  | cons name rest =>
    refine ⟨rfl, rfl, rfl, rfl, ?_⟩
    rw [make_cons, map_name_alterNamed (name_make rest) (name_fresh folder name)]
    split
    · exact List.prefix_refl _
    · exact List.prefix_append _ _

/-- Every folder is at its address after a visit too. -/
theorem at?_make (names : List String) {folder node : Folder} {address : List Nat}
    (h : folder.at? address = some node) :
    ∃ after, (make names folder).at? address = some after ∧ Stays node after := by
  induction names generalizing folder address with
  | nil => exact ⟨node, h, stays_refl node⟩
  | cons name rest ih =>
    cases address with
    | nil =>
      obtain rfl : folder = node := Option.some.inj h
      exact ⟨_, rfl, stays_make _ folder⟩
    | cons index address =>
      obtain ⟨sub, hsub, hnode⟩ := Option.bind_eq_some_iff.1 h
      rw [at?, make_cons]
      dsimp only
      rcases getElem?_alterNamed hsub with hsame | hchanged
      · rw [hsame]
        exact ⟨node, hnode, stays_refl node⟩
      · rw [hchanged]
        exact ih hnode

/-! ## Many visits -/

/-- Goes to one folder after the other. -/
def visit (visits : List (List String)) (folder : Folder) : Folder :=
  visits.foldl (fun whole names => (whole.enter names).2) folder

theorem visit_concat (visits : List (List String)) (names : List String) (folder : Folder) :
    visit (visits ++ [names]) folder = make names (visit visits folder) := by
  rw [visit, List.foldl_append]
  rfl

/-- Visits change nothing of a folder but the folders in it. -/
theorem visit_eq (visits : List (List String)) (folder : Folder) :
    visit visits folder = { folder with folders := (visit visits folder).folders } := by
  induction visits using List.reverseRecOn with
  | nil =>
    cases folder
    rfl
  | append_singleton visits names ih =>
    rw [visit_concat]
    cases names with
    | nil => exact ih
    | cons name rest =>
      have hother (folders : List Folder) :
          { visit visits folder with folders } = { folder with folders } := by
        rw [ih]
      rw [make_cons, hother]

theorem name_visit (visits : List (List String)) (folder : Folder) :
    (visit visits folder).name = folder.name := by rw [visit_eq]

theorem path_visit (visits : List (List String)) (folder : Folder) :
    (visit visits folder).path = folder.path := by rw [visit_eq]

/-- Visits bring no file and lose none. -/
theorem allFiles_visit (visits : List (List String)) (folder : Folder) :
    (visit visits folder).allFiles = folder.allFiles := by
  induction visits using List.reverseRecOn with
  | nil => rfl
  | append_singleton visits names ih => rw [visit_concat, allFiles_make, ih]

theorem fresh_visit (visits : List (List String)) (folder : Folder) (name : String) :
    fresh (visit visits folder) name = fresh folder name := by rw [fresh, path_visit, fresh]

/-- What the visits ask for below the folder that a way leads to. -/
def onward (way : List String) (visits : List (List String)) : List (List String) :=
  visits.filterMap (·.dropPrefix? way)

/-- The names that the visits go on with from a folder, each where it first occurs. -/
def firstNames (visits : List (List String)) : List String :=
  (visits.filterMap List.head?).eraseDups

theorem mem_onward {way rest : List String} {visits : List (List String)} :
    rest ∈ onward way visits ↔ way ++ rest ∈ visits := by
  simp only [onward, List.mem_filterMap, List.dropPrefix?_eq_some_iff, beq_iff_eq]
  constructor
  · rintro ⟨_, hvisit, _, rfl, rfl⟩
    exact hvisit
  · intro hvisit
    exact ⟨way ++ rest, hvisit, way, rfl, rfl⟩

theorem mem_firstNames {name : String} {visits : List (List String)} :
    name ∈ firstNames visits ↔ ∃ rest, name :: rest ∈ visits := by
  simp only [firstNames, List.mem_eraseDups, List.mem_filterMap, List.head?_eq_some_iff]
  constructor
  · rintro ⟨_, hvisit, rest, rfl⟩
    exact ⟨rest, hvisit⟩
  · rintro ⟨rest, hvisit⟩
    exact ⟨name :: rest, hvisit, rest, rfl⟩

theorem nodup_firstNames (visits : List (List String)) : (firstNames visits).Nodup :=
  Outline.nodup_eraseDups _

theorem onward_nil (visits : List (List String)) : onward [] visits = visits := by
  simp [onward]

theorem onward_cons (name : String) (rest : List String) (visits : List (List String)) :
    onward (name :: rest) visits = onward rest (onward [name] visits) := by
  rw [onward, onward, onward, List.filterMap_filterMap]
  refine List.filterMap_congr fun visit _ => ?_
  cases visit with
  | nil => rfl
  | cons first more =>
    simp only [List.dropPrefix?]
    split
    · rfl
    · rfl

theorem onward_concat_cons (name first : String) (rest : List String)
    (visits : List (List String)) :
    onward [name] (visits ++ [first :: rest]) =
      if first = name then onward [name] visits ++ [rest] else onward [name] visits := by
  rw [onward, List.filterMap_append]
  split
  · next h => simp [onward, List.dropPrefix?, h]
  · next h => simp [onward, List.dropPrefix?, h]

theorem onward_concat_nil (name : String) (visits : List (List String)) :
    onward [name] (visits ++ [[]]) = onward [name] visits := by
  rw [onward, List.filterMap_append]
  exact List.append_nil _

theorem firstNames_concat_cons (first : String) (rest : List String)
    (visits : List (List String)) :
    firstNames (visits ++ [first :: rest]) =
      if first ∈ firstNames visits then firstNames visits else firstNames visits ++ [first] := by
  have hlast : [first :: rest].filterMap List.head? = [first] := rfl
  rw [firstNames, List.filterMap_append, hlast, Discovery.eraseDups_concat]
  simp only [firstNames, List.mem_eraseDups]

theorem firstNames_concat_nil (visits : List (List String)) :
    firstNames (visits ++ [[]]) = firstNames visits := by
  rw [firstNames, List.filterMap_append]
  exact congrArg List.eraseDups (List.append_nil _)

/-- What visits make of a folder without folders: one for each name that they go on with, in the
order in which these names first occur, and in it what they ask for below. -/
theorem folders_visit {folder : Folder} (hempty : folder.folders = [])
    (visits : List (List String)) :
    (visit visits folder).folders =
      (firstNames visits).map fun name => visit (onward [name] visits) (fresh folder name) := by
  induction visits using List.reverseRecOn with
  | nil => exact hempty
  | append_singleton visits names ih =>
    rw [visit_concat]
    cases names with
    | nil =>
      simp only [onward_concat_nil, firstNames_concat_nil]
      exact ih
    | cons first rest =>
      have hnames : ((firstNames visits).map fun name =>
          visit (onward [name] visits) (fresh folder name)).map (·.name) = firstNames visits := by
        simp [Function.comp_def, name_visit, name_fresh]
      have hdistinct : (((firstNames visits).map fun name =>
          visit (onward [name] visits) (fresh folder name)).map (·.name)).Nodup := by
        rw [hnames]
        exact nodup_firstNames visits
      rw [make_cons, fresh_visit, firstNames_concat_cons]
      dsimp only
      rw [ih, alterNamed_eq hdistinct, hnames]
      split
      · -- The folder of this name is visited once more.
        rw [List.map_map]
        refine List.map_congr_left fun name _ => ?_
        simp only [Function.comp_def, name_visit, name_fresh, onward_concat_cons,
          eq_comm (a := first)]
        split
        · rw [visit_concat]
        · rfl
      · next hnew =>
        -- No visit went on with this name before.
        have hnone : onward [first] visits = [] := by
          refine List.eq_nil_iff_forall_not_mem.2 fun way hway => hnew ?_
          exact mem_firstNames.2 ⟨way, mem_onward.1 hway⟩
        rw [List.map_append, List.map_singleton, onward_concat_cons, if_pos rfl, hnone]
        refine congrArg (· ++ _) (List.map_congr_left fun name hname => ?_)
        have hne : first ≠ name := by
          rintro rfl
          exact hnew hname
        rw [onward_concat_cons, if_neg hne]

/-- The new folder that a way leads to from a folder. -/
def descend : List String → Folder → Folder
  | [], folder => folder
  | name :: rest, folder => descend rest (fresh folder name)

/-- The folders that visits make: one for each part of a way from its start on, and in it what the
visits ask for below. -/
theorem mem_nodes_visit {folder : Folder} (hempty : folder.folders = [])
    {visits : List (List String)} {way : List String} {node : Folder} :
    (way, node) ∈ (visit visits folder).nodes ↔
      (way = [] ∨ ∃ names ∈ visits, way <+: names) ∧
        node = visit (onward way visits) (descend way folder) := by
  induction way generalizing folder visits with
  | nil => simp [mem_nodes_nil, onward_nil, descend]
  | cons name rest ih =>
    have hfresh : (fresh folder name).folders = [] := rfl
    have hreached : (∃ names ∈ visits, name :: rest <+: names) ↔ name ∈ firstNames visits ∧
        (rest = [] ∨ ∃ names ∈ onward [name] visits, rest <+: names) := by
      simp only [mem_firstNames, mem_onward, List.singleton_append]
      constructor
      · rintro ⟨_, hvisit, more, rfl⟩
        exact ⟨⟨rest ++ more, hvisit⟩, .inr ⟨rest ++ more, hvisit, List.prefix_append _ _⟩⟩
      · rintro ⟨⟨more, hmore⟩, rfl | ⟨names, hnames, hstart⟩⟩
        · exact ⟨name :: more, hmore, List.prefix_append [name] more⟩
        · exact ⟨name :: names, hnames, List.cons_prefix_cons.2 ⟨rfl, hstart⟩⟩
    rw [mem_nodes_cons, folders_visit hempty, onward_cons, descend]
    simp only [List.mem_map, exists_exists_and_eq_and, name_visit, name_fresh, reduceCtorEq,
      false_or, hreached]
    constructor
    · rintro ⟨other, hother, rfl, hnode⟩
      obtain ⟨hway, rfl⟩ := (ih hfresh).1 hnode
      exact ⟨⟨hother, hway⟩, rfl⟩
    · rintro ⟨⟨hname, hway⟩, rfl⟩
      exact ⟨name, hname, rfl, (ih hfresh).2 ⟨hway, rfl⟩⟩

theorem folders_descend {folder : Folder} (hempty : folder.folders = []) (way : List String) :
    (descend way folder).folders = [] := by
  induction way generalizing folder with
  | nil => exact hempty
  | cons name rest ih => exact ih rfl

/-- New folders are called by the way that leads to them. -/
theorem path_descend {folder : Folder} {done way : List String}
    (hpath : folder.path = (Path.ofNames done).text) (hdone : ∀ name ∈ done, Path.IsName name)
    (hway : ∀ name ∈ way, Path.IsName name) :
    (descend way folder).path = (Path.ofNames (done ++ way)).text := by
  induction way generalizing folder done with
  | nil =>
    rw [List.append_nil]
    exact hpath
  | cons name rest ih =>
    obtain ⟨hname, hrest⟩ := List.forall_mem_cons.1 hway
    have hfresh : (fresh folder name).path = (Path.ofNames (done ++ [name])).text := by
      rw [fresh, hpath, Path.ofString_text hdone, Path.ofString_name hname]
      rfl
    have hdone' : ∀ other ∈ done ++ [name], Path.IsName other :=
      List.forall_mem_append.2 ⟨hdone, List.forall_mem_singleton.2 hname⟩
    have hpath' := ih hfresh hdone' hrest
    rwa [List.append_assoc, List.singleton_append] at hpath'

/-! ## Visits in another order -/

theorem firstNames_perm {visits visits' : List (List String)} (h : visits.Perm visits') :
    (firstNames visits).Perm (firstNames visits') := by
  refine (List.perm_ext_iff_of_nodup (nodup_firstNames _) (nodup_firstNames _)).2 fun name => ?_
  simp only [mem_firstNames, h.mem_iff]

/-- The same visits in another order make the same folders, up to the order of folders side by
side. -/
theorem rearranged_visit {visits visits' : List (List String)} (h : visits.Perm visits')
    {folder : Folder} (hempty : folder.folders = []) :
    Rearranged (visit visits folder) (visit visits' folder) := by
  -- By induction on a bound for the lengths of the ways: below a name they are shorter.
  obtain ⟨bound, hbound⟩ : ∃ bound, ∀ names ∈ visits, names.length < bound :=
    ⟨visits.flatten.length + 1, fun names hnames =>
      Nat.lt_succ_of_le (List.sublist_flatten_of_mem hnames).length_le⟩
  induction bound generalizing visits visits' folder with
  | zero =>
    obtain rfl : visits = [] := List.eq_nil_iff_forall_not_mem.2 fun names hnames =>
      Nat.not_lt_zero _ (hbound names hnames)
    rw [← h.nil_eq]
    exact rearranged_refl _
  | succ bound ih =>
    rw [visit_eq visits, visit_eq visits', folders_visit hempty, folders_visit hempty]
    refine .mk (List.Perm.refl _) ?_ ((firstNames_perm h).map _)
    rw [List.forall₂_map_left_iff, List.forall₂_map_right_iff, List.forall₂_same]
    intro name _
    refine ih (h.filterMap _) rfl fun names hnames => ?_
    have hlong := hbound _ (mem_onward.1 hnames)
    simp only [List.singleton_append, List.length_cons] at hlong
    omega

/-! ## The trie -/

/-- The folders are those that the visits lead to and through. -/
structure IsTrie (visits : List (List String)) (folder : Folder) : Prop where
  /-- Folders side by side have different names. -/
  distinct : ∀ node ∈ folder.nodes, (node.2.folders.map (·.name)).Nodup
  /-- The ways to folders are the starts of those that were visited. -/
  ways : ∀ way, way ∈ folder.nodes.map (·.1) ↔ way = [] ∨ ∃ names ∈ visits, way <+: names
  /-- There is one folder for each of them. -/
  once : (folder.nodes.map (·.1)).Nodup
  /-- A folder is called by the way to it. -/
  paths : ∀ node ∈ folder.nodes, node.1 ≠ [] → node.2.path = String.intercalate "/" node.1
  /-- The folders in a folder stand in the order in which their names were first used there. -/
  ordered : ∀ node ∈ folder.nodes,
    node.2.folders.map (·.name) = firstNames (onward node.1 visits)

theorem isTrie_visit {folder : Folder} (hpath : folder.path = ".") (hempty : folder.folders = [])
    {visits : List (List String)} (hnames : ∀ names ∈ visits, ∀ name ∈ names, Path.IsName name) :
    IsTrie visits (visit visits folder) := by
  have hordered : ∀ node ∈ (visit visits folder).nodes,
      node.2.folders.map (·.name) = firstNames (onward node.1 visits) := by
    rintro ⟨way, node⟩ hnode
    obtain ⟨-, rfl⟩ := (mem_nodes_visit hempty).1 hnode
    simp [folders_visit (folders_descend hempty way), Function.comp_def, name_visit, name_fresh]
  have hdistinct : ∀ node ∈ (visit visits folder).nodes,
      (node.2.folders.map (·.name)).Nodup := by
    intro node hnode
    rw [hordered node hnode]
    exact nodup_firstNames _
  refine ⟨hdistinct, fun way => ?_, nodup_ways _ hdistinct, ?_, hordered⟩
  · rw [List.mem_map]
    constructor
    · rintro ⟨⟨way, node⟩, hnode, rfl⟩
      exact ((mem_nodes_visit hempty).1 hnode).1
    · intro hway
      exact ⟨(way, _), (mem_nodes_visit hempty).2 ⟨hway, rfl⟩, rfl⟩
  · rintro ⟨way, node⟩ hnode hne
    obtain ⟨hway, rfl⟩ := (mem_nodes_visit hempty).1 hnode
    obtain ⟨names, hvisit, hstart⟩ := hway.resolve_left hne
    have hway : ∀ name ∈ way, Path.IsName name := fun name hname =>
      hnames names hvisit name (hstart.subset hname)
    obtain ⟨first, rest, rfl⟩ := List.exists_cons_of_ne_nil hne
    have hroot : folder.path = (Path.ofNames []).text := hpath
    rw [path_visit, path_descend hroot (List.forall_mem_nil _) hway]
    rfl

/-- Visits of folders, from a root without folders on, make a trie of their names. A visit leads to
the folder of its own names, every folder that was there stays at its address, and no file is lost.
In another order the visits make the same trie up to the order of folders side by side. -/
theorem visit_makes_trie {folder : Folder} (hpath : folder.path = ".")
    (hempty : folder.folders = []) (visits : List (List String))
    (hnames : ∀ names ∈ visits, ∀ name ∈ names, Path.IsName name) :
    IsTrie visits (visit visits folder) ∧
    (∀ names, (∀ name ∈ names, Path.IsName name) → ∃ node after,
      (visit visits folder).enter names = (node, after) ∧
      after = visit (visits ++ [names]) folder ∧ IsTrie (visits ++ [names]) after ∧
      (names, node) ∈ after.nodes ∧ after.allFiles = (visit visits folder).allFiles ∧
      ∀ address before, (visit visits folder).at? address = some before →
        ∃ there, after.at? address = some there ∧ Stays before there) ∧
    ∀ visits', visits.Perm visits' → Rearranged (visit visits folder) (visit visits' folder) ∧
      (visit visits folder).allFiles = (visit visits' folder).allFiles := by
  refine ⟨isTrie_visit hpath hempty hnames, fun names hnew => ?_, fun visits' h => ?_⟩
  · obtain ⟨node, hnode⟩ := Option.isSome_iff_exists.1
      (isSome_find?_make names (visit visits folder))
    have hall : ∀ other ∈ visits ++ [names], ∀ name ∈ other, Path.IsName name :=
      List.forall_mem_append.2 ⟨hnames, List.forall_mem_singleton.2 hnew⟩
    have htrie := isTrie_visit hpath hempty hall
    rw [visit_concat] at htrie ⊢
    refine ⟨node, make names (visit visits folder), ?_, rfl, htrie, mem_nodes_of_find? hnode,
      allFiles_make .., fun address before => at?_make names⟩
    rw [enter, hnode]
    rfl
  · rw [allFiles_visit, allFiles_visit]
    exact ⟨rearranged_visit h hempty, rfl⟩

namespace Grove

/-- A root with one file. -/
def ground : Folder := ⟨".", ".", [⟨"setup.py", "python", 3, [], false⟩], [], []⟩

/-- Visits that share folders. -/
def visits : List (List String) := [["src", "main"], ["docs"], ["src"]]

theorem isName_visits : ∀ names ∈ visits, ∀ name ∈ names, Path.IsName name := by decide +kernel

theorem isName_test : ∀ name ∈ ["src", "test"], Path.IsName name := by decide +kernel

/-- The folders after one more visit, with their ways and paths. -/
theorem nodes_visit :
    (visit (visits ++ [["src", "test"]]) ground).nodes.map (fun node => (node.1, node.2.path)) =
      [([], "."), (["src"], "src"), (["src", "main"], "src/main"), (["src", "test"], "src/test"),
        (["docs"], "docs")] := by
  decide +kernel

end Grove

theorem visit_makes_trie_grove :
    IsTrie Grove.visits (visit Grove.visits Grove.ground) ∧
    (∃ node after, (visit Grove.visits Grove.ground).enter ["src", "test"] = (node, after) ∧
      (["src", "test"], node) ∈ after.nodes ∧
      after.allFiles = (visit Grove.visits Grove.ground).allFiles ∧
      after.nodes.map (fun node => (node.1, node.2.path)) =
        [([], "."), (["src"], "src"), (["src", "main"], "src/main"), (["src", "test"], "src/test"),
          (["docs"], "docs")]) ∧
    Rearranged (visit Grove.visits Grove.ground) (visit Grove.visits.reverse Grove.ground) := by
  have hpath : Grove.ground.path = "." := rfl
  have hempty : Grove.ground.folders = [] := rfl
  obtain ⟨htrie, henter, hrearranged⟩ :=
    visit_makes_trie hpath hempty Grove.visits Grove.isName_visits
  refine ⟨htrie, ?_, (hrearranged _ (List.reverse_perm _).symm).1⟩
  obtain ⟨node, after, hnode, rfl, -, hmem, hfiles, -⟩ := henter ["src", "test"] Grove.isName_test
  exact ⟨node, _, hnode, hmem, hfiles, Grove.nodes_visit⟩

end Folder

end SourceOutline
