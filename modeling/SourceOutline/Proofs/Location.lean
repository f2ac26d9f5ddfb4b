import SourceOutline.Proofs.LanguageStatus

/-!
# Where a repository lies

When git lists no files, those on the disk are taken, less the ones that a pattern leaves out. A
pattern without a star is looked for in the whole path of a file from the root on. So what is found
depends not only on what is in the repository, but also on the names of the folders around it.

For each file there is a *verdict* (`Discovery.verdict`), and the files that are found are those
with the verdict that they stay (`Discovery.finds_iff`), provided that no path is too long. Two
places of the same content give the same files exactly when the verdicts are the same
(`Discovery.finds_same_iff`). With patterns that have no slash, such as the standard ones, a place
either has no part in the verdicts or leaves out everything (`Discovery.any_matchesPattern_join`).
-/

namespace SourceOutline

/-! ## A text without the separator in a row of pieces -/

namespace Text

variable {sep : Char} {needle : List Char}

theorem prefix_of_prefix_append {piece rest : List Char} (hsep : sep ∉ needle)
    (h : needle <+: piece ++ sep :: rest) : needle <+: piece := by
  induction piece generalizing needle with
  | nil =>
    cases needle with
    | nil => exact List.nil_prefix
    | cons c needle =>
      have hc : c = sep := (List.cons_prefix_cons.1 h).1
      exact absurd (hc ▸ List.mem_cons_self) hsep
  | cons d piece ih =>
    cases needle with
    | nil => exact List.nil_prefix
    | cons c needle =>
      obtain ⟨rfl, hrest⟩ := List.cons_prefix_cons.1 h
      have hsep' : sep ∉ needle := fun hmem => hsep (List.mem_cons_of_mem _ hmem)
      exact List.cons_prefix_cons.2 ⟨rfl, ih hsep' hrest⟩

/-- What has no separator in it stands before a separator or after it. -/
theorem infix_append_iff {piece rest : List Char} (hsep : sep ∉ needle) :
    needle <:+: piece ++ sep :: rest ↔ needle <:+: piece ∨ needle <:+: rest := by
  constructor
  · intro h
    induction piece with
    | nil =>
      rcases List.infix_cons_iff.1 h with hprefix | hinfix
      · have hnil : needle <+: [] := prefix_of_prefix_append hsep hprefix
        exact .inl hnil.isInfix
      · exact .inr hinfix
    | cons c piece ih =>
      rcases List.infix_cons_iff.1 h with hprefix | hinfix
      · have hpiece : needle <+: c :: piece := prefix_of_prefix_append hsep hprefix
        exact .inl hpiece.isInfix
      · exact (ih hinfix).imp_left fun hpiece => List.infix_cons hpiece
  · rintro (hpiece | hrest)
    · exact hpiece.trans (List.prefix_append _ _).isInfix
    · exact hrest.trans ((List.suffix_cons _ _).trans (List.suffix_append _ _)).isInfix

/-- What has no separator in it does not use a separator at the start. -/
theorem infix_cons_sep_iff {rest : List Char} (hsep : sep ∉ needle) :
    needle <:+: sep :: rest ↔ needle <:+: rest := by
  have happend : needle <:+: [] ++ sep :: rest ↔ needle <:+: [] ∨ needle <:+: rest :=
    infix_append_iff hsep
  refine happend.trans ⟨?_, .inr⟩
  rintro (hnil | hrest)
  · rw [List.infix_nil.1 hnil]
    exact List.nil_infix
  · exact hrest

/-- What has no separator in it stands in one of the pieces between the separators. -/
theorem infix_intercalate_iff (hsep : sep ∉ needle) (first : List Char) (rest : List (List Char)) :
    needle <:+: List.intercalate [sep] (first :: rest) ↔
      ∃ piece ∈ first :: rest, needle <:+: piece := by
  induction rest generalizing first with
  | nil => simp
  | cons second rest ih =>
    rw [List.intercalate_cons_cons, List.append_assoc, List.singleton_append,
      infix_append_iff hsep, ih second]
    exact (List.exists_mem_cons_iff (needle <:+: ·) first (second :: rest)).symm

theorem contains_iff {hay needle : String} :
    contains hay needle = true ↔ needle.toList <:+: hay.toList := occursIn_iff

end Text

/-- A text without slashes stands in a path exactly when it stands in one of its names. -/
theorem Path.contains_text_iff (path : Path) {pattern : String} (hne : path.parts ≠ [])
    (hslash : '/' ∉ pattern.toList) :
    Text.contains path.text pattern = true ↔
      ∃ part ∈ path.parts, Text.contains part pattern = true := by
  obtain ⟨anchor, parts⟩ := path
  obtain ⟨first, rest, rfl⟩ := List.exists_cons_of_ne_nil hne
  have hjoined : pattern.toList <:+: (String.intercalate "/" (first :: rest)).toList ↔
      ∃ part ∈ first :: rest, pattern.toList <:+: part.toList := by
    rw [String.toList_intercalate, List.map_cons]
    refine (Text.infix_intercalate_iff hslash _ _).trans ?_
    rw [← List.map_cons]
    simp only [List.mem_map, exists_exists_and_eq_and]
  simp only [Text.contains_iff]
  rw [← hjoined]
  -- The slashes at the start have no part in it.
  have hroot (text : String) : pattern.toList <:+: ("/" ++ text).toList ↔
      pattern.toList <:+: text.toList := by
    rw [String.toList_append]
    exact Text.infix_cons_sep_iff hslash
  cases anchor with
  | here => rfl
  | root => exact hroot _
  | doubleRoot => exact (hroot ("/" ++ String.intercalate "/" (first :: rest))).trans (hroot _)

/-- The names of a path are those of the place and those that lead on from there. -/
theorem Path.parts_join_ofNames (location : Path) (names : List String) :
    (location.join (.ofNames names)).parts = location.parts ++ names := rfl

/-- From one place different names lead to different paths. -/
theorem Path.join_ofNames_injective (location : Path) :
    Function.Injective fun names => location.join (.ofNames names) := by
  intro names names' heq
  exact List.append_cancel_left (congrArg Path.parts heq)

namespace Discovery

/-! ## Verdicts -/

/-- Whether the patterns leave a file out. -/
def verdict (patterns : Json) (path : Path) : Except Fault Bool :=
  patterns.elements >>= isIgnored path

/-- Whether there is a verdict that the file stays. -/
def stays (patterns : Json) (path : Path) : Bool :=
  match verdict patterns path with
  | .ok ignored => !ignored
  | .error _ => false

theorem stays_of_verdict {patterns : Json} {path : Path} {ignored : Bool}
    (h : verdict patterns path = .ok ignored) : stays patterns path = !ignored := by
  rw [stays, h]

theorem keepFiles_cons (patterns : Json) (path : Path) (rest : List Path) :
    keepFiles patterns (path :: rest) =
      verdict patterns path >>= fun ignored => keepFiles patterns rest >>= fun more =>
        .ok (if ignored then more else path :: more) := by
  rw [keepFiles, verdict]
  cases patterns.elements with
  | error fault => rfl
  | ok elements => rfl

/-- Files are found when there is a verdict on each of them, and they are those that stay. -/
theorem keepFiles_eq_ok_iff {patterns : Json} {paths kept : List Path} :
    keepFiles patterns paths = .ok kept ↔
      (∀ path ∈ paths, ∃ ignored, verdict patterns path = .ok ignored) ∧
        kept = paths.filter (stays patterns) := by
  induction paths generalizing kept with
  | nil => simp [keepFiles, eq_comm]
  | cons path rest ih =>
    rw [keepFiles_cons, List.forall_mem_cons]
    constructor
    · intro h
      obtain ⟨ignored, hignored, h⟩ := except_bind_eq_ok.1 h
      obtain ⟨more, hmore, h⟩ := except_bind_eq_ok.1 h
      obtain ⟨hrest, rfl⟩ := ih.1 hmore
      refine ⟨⟨⟨ignored, hignored⟩, hrest⟩, ?_⟩
      rw [List.filter_cons, stays_of_verdict hignored, ← Except.ok.inj h]
      cases ignored <;> rfl
    · rintro ⟨⟨⟨ignored, hignored⟩, hrest⟩, rfl⟩
      refine except_bind_eq_ok.2 ⟨ignored, hignored, ?_⟩
      refine except_bind_eq_ok.2 ⟨_, ih.2 ⟨hrest, rfl⟩, ?_⟩
      rw [List.filter_cons, stays_of_verdict hignored]
      cases ignored <;> rfl

theorem isIgnored_texts (path : Path) (patterns : List String) :
    isIgnored path (patterns.map .text) = .ok (patterns.any (matchesPattern path)) := by
  induction patterns with
  | nil => rfl
  | cons pattern rest ih =>
    have hpattern : isIgnored path ((pattern :: rest).map .text) =
        if matchesPattern path pattern then .ok true else isIgnored path (rest.map .text) := rfl
    rw [hpattern, ih, List.any_cons]
    cases matchesPattern path pattern <;> rfl

/-- Patterns that are texts always give a verdict. -/
theorem verdict_texts (patterns : List String) (path : Path) :
    verdict (.texts patterns) path = .ok (patterns.any (matchesPattern path)) :=
  isIgnored_texts path patterns

/-! ## Patterns and places -/

/-- Whether a pattern is looked for in whole paths, and not only at the ends of names. -/
def isPlain (pattern : String) : Bool := pattern.toList.head? != some '*'

/-- Whether a pattern that is looked for in whole paths stands in one of the names that lead to a
place. -/
def taints (patterns : List String) (location : Path) : Bool :=
  patterns.any fun pattern => isPlain pattern && location.parts.any (Text.contains · pattern)

theorem matchesPattern_eq (path : Path) (pattern : String) :
    matchesPattern path pattern =
      if isPlain pattern then Text.contains path.text pattern
      else pattern.toList.tail.isSuffixOf path.name.toList := by
  rw [matchesPattern, isPlain]
  split
  · next ending hstar => simp [hstar]
  · next hplain =>
    have hhead : pattern.toList.head? ≠ some '*' := by
      intro hhead
      obtain ⟨ending, hstar⟩ := List.head?_eq_some_iff.1 hhead
      exact hplain ending hstar
    simp [hhead]

/-- A pattern without slashes leaves out a file at a place when it leaves it out by the names in the
repository, or when it stands in a name of the place and is looked for there. -/
theorem matchesPattern_join {location : Path} {names : List String} {pattern : String}
    (hnames : names ≠ []) (hslash : '/' ∉ pattern.toList) :
    matchesPattern (location.join (.ofNames names)) pattern =
      (matchesPattern (.ofNames names) pattern ||
        isPlain pattern && location.parts.any (Text.contains · pattern)) := by
  rw [matchesPattern_eq, matchesPattern_eq]
  cases hplain : isPlain pattern with
  | false => simp [Path.name_join (q := .ofNames names) hnames]
  | true =>
    have hfull := (location.join (.ofNames names)).contains_text_iff
      (List.append_ne_nil_of_right_ne_nil _ hnames) hslash
    have hown := (Path.ofNames names).contains_text_iff hnames hslash
    rw [Path.parts_join_ofNames] at hfull
    rw [Bool.eq_iff_iff]
    simp only [if_true, Bool.true_and, Bool.or_eq_true, hfull, hown, List.any_eq_true,
      List.mem_append, or_and_right, exists_or]
    exact or_comm

/-- A place has no part in what patterns without slashes leave out, or it leaves out everything. -/
theorem any_matchesPattern_join {patterns : List String}
    (hslash : ∀ pattern ∈ patterns, '/' ∉ pattern.toList) (location : Path) {names : List String}
    (hnames : names ≠ []) :
    patterns.any (matchesPattern (location.join (.ofNames names))) =
      (patterns.any (matchesPattern (.ofNames names)) || taints patterns location) := by
  induction patterns with
  | nil => rfl
  | cons pattern rest ih =>
    obtain ⟨hpattern, hrest⟩ := List.forall_mem_cons.1 hslash
    rw [taints, List.any_cons, List.any_cons, List.any_cons, ← taints, ih hrest,
      matchesPattern_join hnames hpattern]
    simp only [Bool.or_assoc, Bool.or_left_comm]

/-! ## The files at a place -/

/-- In the session a repository is found at a place with some content, and git lists no files. -/
structure Placed (session : Session) (repository location : Path) (content : Entry) : Prop where
  resolved : session.world.disk.resolve repository = .ok location
  entry : session.world.disk.entryAt location = .ok (some content)
  unlisted : ∀ answer, session.world.git.files = .ok answer → answer.code ≠ 0

/-- Git need not be asked, or it may be run. -/
def MayAsk (session : Session) (includeIgnored : Bool) : Prop :=
  includeIgnored = true ∨ ∀ reason, session.world.git.files ≠ .error (.denied reason)

section Places

variable {s t : Session} {repository location : Path} {content : Entry}

/-- When git lists no files, none are tracked, or discovery ends because git may not be run. -/
theorem trackedFiles_of_unlisted {location : Path} {includeIgnored : Bool}
    (hshown : (trackedFiles location includeIgnored).Unrefused s)
    (hunlisted : ∀ answer, s.world.git.files = .ok answer → answer.code ≠ 0) :
    (MayAsk s includeIgnored ∧ (trackedFiles location includeIgnored s).1 = .ok none) ∨
      (¬MayAsk s includeIgnored ∧
        ∃ fault, (trackedFiles location includeIgnored s).1 = .error fault) := by
  rw [(yields_trackedFiles location includeIgnored).fst_eq s hshown]
  cases includeIgnored with
  | true => exact .inl ⟨.inl rfl, rfl⟩
  | false =>
    rw [if_neg Bool.false_ne_true, tracked]
    cases hgit : s.world.git.files with
    | ok answer =>
      refine .inl ⟨.inr fun reason => by simp [hgit], ?_⟩
      exact if_neg (hunlisted answer hgit)
    | error stop =>
      cases stop with
      | denied reason =>
        refine .inr ⟨?_, _, rfl⟩
        rintro (hignored | hallowed)
        · cases hignored
        · exact hallowed reason hgit
      | _ => exact .inl ⟨.inr fun _ => by simp [hgit], rfl⟩

/-- What discovery finds at a place, by the names that lead there from the place. -/
def Finds (session : Session) (repository : Path) (includeIgnored : Bool) (location : Path)
    (found : List (List String)) : Prop :=
  (discover repository includeIgnored session).1 =
    .ok (found.map fun names => location.join (.ofNames names))

theorem Placed.requireRepository (h : Placed s repository location content) :
    requireRepository location s = (.ok (), s) := by
  have hthere : Run.onDisk (·.hasEntry location) s = (.ok true, s) := by
    rw [Run.onDisk_apply, Disk.hasEntry, h.entry]
    rfl
  rw [Discovery.requireRepository, bind_of_ok hthere]
  rfl

/-- Where discovery is unrefused, so is asking for the tracked files. -/
theorem Placed.unrefused_trackedFiles {includeIgnored : Bool}
    (h : Placed s repository location content)
    (hshown : (discover repository includeIgnored).Unrefused s) :
    (trackedFiles location includeIgnored).Unrefused s := by
  have hresolve : Run.onDisk (·.resolve repository) s = (.ok location, s) := by
    rw [Run.onDisk_apply, h.resolved]
    rfl
  have hlisting (place : Path) := looks_listing place includeIgnored
  have hplace (place : Path) := (looks_requireRepository place).bind fun _ => hlisting place
  have hfound := ((Run.looks_onDisk _).unrefused_of_bind hplace hshown).2 location s hresolve
  have hlisted := ((looks_requireRepository location).unrefused_of_bind
    (fun _ => hlisting location) hfound).2 () s h.requireRepository
  exact ((looks_trackedFiles location includeIgnored).unrefused_of_bind
    (fun tracked => (yields_chooseFiles location tracked).looks) hlisted).1

/-- At a place, discovery asks for the tracked files, and for all files when none are tracked. -/
theorem Placed.discover_fst {includeIgnored : Bool} (h : Placed s repository location content)
    (hshown : (discover repository includeIgnored).Unrefused s) :
    (discover repository includeIgnored s).1 = (trackedFiles location includeIgnored s).1 >>=
      fun tracked => tracked.elim (diskFiles location s).1 .ok := by
  rw [(yields_discover repository includeIgnored).fst_eq s hshown,
    except_mapError_eq_ok.2 h.resolved]
  change (Discovery.requireRepository location s).1 >>= _ = _
  rw [h.requireRepository]
  rfl

/-- When git may be run and lists no files, those at the place are taken that the patterns of the
catalogue keep. -/
theorem discover_of_untracked {includeIgnored : Bool} {found : List Path}
    (h : Placed s repository location content)
    (hshown : (discover repository includeIgnored).Unrefused s)
    (htracked : (trackedFiles location includeIgnored s).1 = .ok none) :
    (discover repository includeIgnored s).1 = .ok found ↔
      content.Within location ∧ ∃ catalogue, s.currentCatalogue = .ok catalogue ∧
        keepFiles catalogue.ignorePatterns
          (content.files.map fun names => location.join (.ofNames names)) = .ok found := by
  have hdiscover : (discover repository includeIgnored s).1 = (diskFiles location s).1 := by
    rw [h.discover_fst hshown, htracked]
    rfl
  rw [hdiscover, diskFiles_fst_eq_ok_iff]
  constructor
  · rintro ⟨catalogue, files, hcatalogue, hfiles, hkept⟩
    obtain ⟨hwithin, rfl⟩ := (Disk.filesBelow_of_entryAt h.entry).1 hfiles
    exact ⟨hwithin, catalogue, hcatalogue, hkept⟩
  · rintro ⟨hwithin, catalogue, hcatalogue, hkept⟩
    exact ⟨catalogue, _, hcatalogue, (Disk.filesBelow_of_entryAt h.entry).2 ⟨hwithin, rfl⟩, hkept⟩

/-- What is found at a place, and when anything is. -/
theorem finds_iff {includeIgnored : Bool} {found : List (List String)}
    (h : Placed s repository location content)
    (hshown : (discover repository includeIgnored).Unrefused s) :
    Finds s repository includeIgnored location found ↔
      MayAsk s includeIgnored ∧ content.Within location ∧
        ∃ catalogue, s.currentCatalogue = .ok catalogue ∧
          (∀ names ∈ content.files, ∃ ignored,
            verdict catalogue.ignorePatterns (location.join (.ofNames names)) = .ok ignored) ∧
          found = content.files.filter fun names =>
            stays catalogue.ignorePatterns (location.join (.ofNames names)) := by
  rcases trackedFiles_of_unlisted (h.unrefused_trackedFiles hshown) h.unlisted with
    ⟨hask, htracked⟩ | ⟨hask, fault, htracked⟩
  · rw [Finds, discover_of_untracked h hshown htracked, and_iff_right hask]
    refine and_congr_right fun _ => exists_congr fun catalogue => and_congr_right fun _ => ?_
    rw [keepFiles_eq_ok_iff, List.filter_map, List.forall_mem_map]
    exact and_congr_right' (List.map_injective_iff.2 location.join_ofNames_injective).eq_iff
  · have hdiscover : (discover repository includeIgnored s).1 = .error fault := by
      rw [h.discover_fst hshown, htracked]
      rfl
    rw [Finds, hdiscover]
    exact ⟨fun hfinds => (nomatch hfinds), fun hfinds => absurd hfinds.1 hask⟩

/-! ## Two places -/

variable {p q here there : Path} {includeIgnored : Bool}

/-- The same files are found at two places exactly when all paths are short enough there and there
are the same verdicts on them. -/
theorem finds_same_iff (hs : Placed s p here content) (ht : Placed t q there content)
    (hshown : (discover p includeIgnored).Unrefused s)
    (hshown' : (discover q includeIgnored).Unrefused t)
    (hcatalogue : s.currentCatalogue = t.currentCatalogue) :
    (∃ found, Finds s p includeIgnored here found ∧ Finds t q includeIgnored there found) ↔
      MayAsk s includeIgnored ∧ MayAsk t includeIgnored ∧
        content.Within here ∧ content.Within there ∧
        ∃ catalogue, s.currentCatalogue = .ok catalogue ∧ ∀ names ∈ content.files, ∃ ignored,
          verdict catalogue.ignorePatterns (here.join (.ofNames names)) = .ok ignored ∧
          verdict catalogue.ignorePatterns (there.join (.ofNames names)) = .ok ignored := by
  simp only [finds_iff hs hshown, finds_iff ht hshown']
  constructor
  · rintro ⟨found, ⟨hask, hwithin, c, hc, hverdicts, hfound⟩,
      ⟨hask', hwithin', c', hc', hverdicts', hfound'⟩⟩
    obtain rfl : c = c' := Except.ok.inj (hc.symm.trans (hcatalogue.trans hc'))
    refine ⟨hask, hask', hwithin, hwithin', c, hc, fun names hnames => ?_⟩
    obtain ⟨ignored, hignored⟩ := hverdicts names hnames
    obtain ⟨ignored', hignored'⟩ := hverdicts' names hnames
    -- The file stays at one place exactly when it stays at the other one.
    have hstays : stays c.ignorePatterns (here.join (.ofNames names)) =
        stays c.ignorePatterns (there.join (.ofNames names)) := by
      have hmem : names ∈ found ↔ _ := hfound ▸ List.mem_filter.trans (and_iff_right hnames)
      have hmem' : names ∈ found ↔ _ := hfound' ▸ List.mem_filter.trans (and_iff_right hnames)
      exact Bool.eq_iff_iff.2 (hmem.symm.trans hmem')
    rw [stays_of_verdict hignored, stays_of_verdict hignored'] at hstays
    rw [Bool.not_inj hstays] at hignored
    exact ⟨ignored', hignored, hignored'⟩
  · rintro ⟨hask, hask', hwithin, hwithin', c, hc, hverdicts⟩
    refine ⟨_, ⟨hask, hwithin, c, hc, ?_, rfl⟩, hask', hwithin', c, hcatalogue ▸ hc, ?_, ?_⟩
    · intro names hnames
      obtain ⟨ignored, hignored, -⟩ := hverdicts names hnames
      exact ⟨ignored, hignored⟩
    · intro names hnames
      obtain ⟨ignored, -, hignored⟩ := hverdicts names hnames
      exact ⟨ignored, hignored⟩
    · refine List.filter_congr fun names hnames => ?_
      obtain ⟨ignored, hignored, hignored'⟩ := hverdicts names hnames
      rw [stays_of_verdict hignored, stays_of_verdict hignored']

/-- The files of an entry that no pattern leaves out by the names in the entry alone. -/
def ownFiles (patterns : List String) (content : Entry) : List (List String) :=
  content.files.filter fun names => !patterns.any (matchesPattern (.ofNames names))

/-- With patterns that have no slash a place has no part in what is found, or nothing is found. -/
theorem finds_of_texts {catalogue : Catalogue} {patterns : List String}
    (hs : Placed s p here content) (hshown : (discover p includeIgnored).Unrefused s)
    (hask : MayAsk s includeIgnored) (hwithin : content.Within here)
    (hcatalogue : s.currentCatalogue = .ok catalogue)
    (hpatterns : catalogue.ignorePatterns = .texts patterns)
    (hslash : ∀ pattern ∈ patterns, '/' ∉ pattern.toList) :
    Finds s p includeIgnored here
      (if taints patterns here then [] else ownFiles patterns content) := by
  refine (finds_iff hs hshown).2 ⟨hask, hwithin, catalogue, hcatalogue, ?_, ?_⟩
  · intro names _
    rw [hpatterns]
    exact ⟨_, verdict_texts patterns _⟩
  · have hstays : ∀ names ∈ content.files, stays (.texts patterns) (here.join (.ofNames names)) =
        (!patterns.any (matchesPattern (.ofNames names)) && !taints patterns here) := by
      intro names hnames
      rw [stays_of_verdict (verdict_texts patterns _),
        any_matchesPattern_join hslash here (Entry.ne_nil_of_mem_files hnames), Bool.not_or]
    rw [hpatterns, List.filter_congr hstays]
    cases taints patterns here with
    | true => simp
    | false => simp [ownFiles]

theorem Finds.unique {found found' : List (List String)}
    (h : Finds s p includeIgnored here found) (h' : Finds s p includeIgnored here found') :
    found = found' :=
  List.map_injective_iff.2 here.join_ofNames_injective (Except.ok.inj (h.symm.trans h'))

/-- Where the console shows what it is told, two places of the same content give the same files
exactly when all paths are short enough and there are the same verdicts on the files. With patterns
that have no slash, this is so exactly when both places leave out everything, or neither place does,
or the patterns leave out everything anyway. -/
theorem discover_same_iff (hs : Placed s p here content) (ht : Placed t q there content)
    (hshown : (discover p includeIgnored).Unrefused s)
    (hshown' : (discover q includeIgnored).Unrefused t)
    (hcatalogue : s.currentCatalogue = t.currentCatalogue) :
    ((∃ found, Finds s p includeIgnored here found ∧ Finds t q includeIgnored there found) ↔
      MayAsk s includeIgnored ∧ MayAsk t includeIgnored ∧
        content.Within here ∧ content.Within there ∧
        ∃ catalogue, s.currentCatalogue = .ok catalogue ∧ ∀ names ∈ content.files, ∃ ignored,
          verdict catalogue.ignorePatterns (here.join (.ofNames names)) = .ok ignored ∧
          verdict catalogue.ignorePatterns (there.join (.ofNames names)) = .ok ignored) ∧
    ∀ catalogue patterns, s.currentCatalogue = .ok catalogue →
      catalogue.ignorePatterns = .texts patterns → (∀ pattern ∈ patterns, '/' ∉ pattern.toList) →
      MayAsk s includeIgnored → MayAsk t includeIgnored →
      content.Within here → content.Within there →
      Finds s p includeIgnored here
          (if taints patterns here then [] else ownFiles patterns content) ∧
        Finds t q includeIgnored there
          (if taints patterns there then [] else ownFiles patterns content) ∧
        ((∃ found, Finds s p includeIgnored here found ∧ Finds t q includeIgnored there found) ↔
          taints patterns here = taints patterns there ∨ ownFiles patterns content = []) := by
  refine ⟨finds_same_iff hs ht hshown hshown' hcatalogue, ?_⟩
  intro catalogue patterns hc hpatterns hslash hask hask' hwithin hwithin'
  have hhere := finds_of_texts hs hshown hask hwithin hc hpatterns hslash
  have hthere := finds_of_texts ht hshown' hask' hwithin' (hcatalogue ▸ hc) hpatterns hslash
  refine ⟨hhere, hthere, ?_, ?_⟩
  · rintro ⟨found, hfound, hfound'⟩
    have hsame := (hhere.unique hfound).trans (hfound'.unique hthere)
    rcases htaints : taints patterns here with _ | _ <;>
      rcases htaints' : taints patterns there with _ | _
    · exact .inl rfl
    · rw [htaints, htaints'] at hsame
      exact .inr hsame
    · rw [htaints, htaints'] at hsame
      exact .inr hsame.symm
    · exact .inl rfl
  · intro hcases
    refine ⟨_, hhere, ?_⟩
    rcases hcases with hsame | hnone
    · rw [hsame]
      exact hthere
    · simpa only [hnone, ite_self] using hthere

end Places

/-- The standard patterns. -/
def standardPatterns : List String :=
  ["__pycache__", "node_modules", ".git", "dist", "build", "target", "*.pyc", "*.class"]

/-- The standard patterns have no slash. -/
theorem slash_not_mem_standardPatterns :
    Catalogue.standard.ignorePatterns = .texts standardPatterns ∧
      ∀ pattern ∈ standardPatterns, '/' ∉ pattern.toList := ⟨rfl, by decide +kernel⟩

namespace Moved

/-- A repository with a file, and one in a folder that the standard patterns leave out. -/
def content : Entry := .folder [("a.py", .file ⟨#[]⟩), ("dist", .folder [("b.py", .file ⟨#[]⟩)])]

/-- A session in which the repository lies at a place, and git knows nothing. -/
def session (location : Path) : Session :=
  .start {
    disk := ⟨Entry.insert content location.parts (.folder []), ⟨.root, []⟩⟩
    git := {}
    packages := []
    answers := []
    modules := []
    console := .lenient
    parserProblem? := fun _ => some "no parser"
    parsed := []
    catalogue := .standard }

/-- A place outside of all folders that the standard patterns leave out. -/
def clear : Path := ⟨.root, ["home", "r"]⟩

/-- Another such place. -/
def other : Path := ⟨.root, ["srv", "s"]⟩

/-- A place in a folder that the standard patterns leave out. -/
def within : Path := ⟨.root, ["home", "build", "r"]⟩

theorem placed {location : Path} (h : location ∈ [clear, other, within]) :
    Placed (session location) location location content := by
  simp only [List.mem_cons, List.not_mem_nil, or_false] at h
  rcases h with rfl | rfl | rfl <;>
    exact ⟨rfl, rfl, fun _ hanswer => Except.ok.inj hanswer ▸ by decide⟩

theorem mayAsk (location : Path) : MayAsk (session location) false :=
  .inr fun _ h => nomatch h

theorem within_clear : content.Within clear ∧ content.Within other := by
  unfold Entry.Within
  decide +kernel

end Moved

theorem discover_same_iff_clear :
    Placed (Moved.session Moved.clear) Moved.clear Moved.clear Moved.content ∧
    Placed (Moved.session Moved.other) Moved.other Moved.other Moved.content ∧
    Finds (Moved.session Moved.clear) Moved.clear false Moved.clear [["a.py"]] ∧
    Finds (Moved.session Moved.other) Moved.other false Moved.other [["a.py"]] := by
  obtain ⟨hpatterns, hslash⟩ := slash_not_mem_standardPatterns
  have hplaced : Placed (Moved.session Moved.clear) Moved.clear Moved.clear Moved.content :=
    Moved.placed (by simp)
  have hplaced' : Placed (Moved.session Moved.other) Moved.other Moved.other Moved.content :=
    Moved.placed (by simp)
  have hshown (location : Path) :
      (discover location false).Unrefused (Moved.session location) :=
    Run.unrefused_of_lenient _ rfl
  obtain ⟨hclear, hother, -⟩ := (discover_same_iff hplaced hplaced' (hshown _) (hshown _) rfl).2
    Catalogue.standard standardPatterns rfl hpatterns hslash (Moved.mayAsk _) (Moved.mayAsk _)
    Moved.within_clear.1 Moved.within_clear.2
  have hfound : ownFiles standardPatterns Moved.content = [["a.py"]] := by decide +kernel
  have htaints : taints standardPatterns Moved.clear = false := by decide +kernel
  have htaints' : taints standardPatterns Moved.other = false := by decide +kernel
  rw [hfound, htaints] at hclear
  rw [hfound, htaints'] at hother
  exact ⟨hplaced, hplaced', hclear, hother⟩

/-- A repository in which a file is found has none under a folder with the name `build`. -/
theorem discover_differs_within_build :
    Placed (Moved.session Moved.clear) Moved.clear Moved.clear Moved.content ∧
    Placed (Moved.session Moved.within) Moved.within Moved.within Moved.content ∧
    (Moved.session Moved.clear).currentCatalogue = (Moved.session Moved.within).currentCatalogue ∧
    Finds (Moved.session Moved.clear) Moved.clear false Moved.clear [["a.py"]] ∧
    Finds (Moved.session Moved.within) Moved.within false Moved.within [] ∧
    ¬∃ found, Finds (Moved.session Moved.clear) Moved.clear false Moved.clear found ∧
      Finds (Moved.session Moved.within) Moved.within false Moved.within found := by
  have hclear : Finds (Moved.session Moved.clear) Moved.clear false Moved.clear [["a.py"]] := by
    rw [Finds]
    decide +kernel
  have hwithin : Finds (Moved.session Moved.within) Moved.within false Moved.within [] := by
    rw [Finds]
    decide +kernel
  refine ⟨Moved.placed (by simp), Moved.placed (by simp), rfl, hclear, hwithin, ?_⟩
  rintro ⟨found, hfound, hfound'⟩
  have hsame : [["a.py"]] = [] := (hclear.unique hfound).trans (hfound'.unique hwithin)
  cases hsame

end Discovery

end SourceOutline
