import SourceOutline.Proofs.Displacement
import SourceOutline.Proofs.Steps

/-!
# The parameters in a signature

The text of a parameter list comes with its brackets. All round brackets at its two ends are taken
away, and a signature is written with one pair around what is left. So brackets of the first or the
last parameter get lost together with those of the list (`Text.trimBrackets_enclosed`), and the list
is shown as it is written exactly when what stands between its brackets neither starts nor ends with
one (`Text.trimBrackets_eq_self_iff`).
-/

namespace SourceOutline

namespace Text

/-! ## Characters at the two ends -/

section Ends

variable {p : Char → Bool} {cs : List Char}

theorem dropWhile_of_head (h : ∀ c ∈ cs.head?, p c = false) : cs.dropWhile p = cs := by
  cases cs with
  | nil => rfl
  | cons c cs => exact List.dropWhile_cons_of_neg (by simp [h c rfl])

theorem head_dropWhile (cs : List Char) : ∀ c ∈ (cs.dropWhile p).head?, p c = false := by
  intro c hc
  have h := List.head?_dropWhile_not p cs
  rw [hc] at h
  exact h

theorem dropEndWhile_of_last (h : ∀ c ∈ cs.getLast?, p c = false) : dropEndWhile p cs = cs := by
  rw [dropEndWhile, dropWhile_of_head (by rwa [List.head?_reverse]), List.reverse_reverse]

theorem last_dropEndWhile (cs : List Char) : ∀ c ∈ (dropEndWhile p cs).getLast?, p c = false := by
  rw [dropEndWhile, List.getLast?_reverse]
  exact head_dropWhile _

theorem dropEndWhile_append {tail : List Char} (h : ∀ c ∈ tail, p c = true) :
    dropEndWhile p (cs ++ tail) = dropEndWhile p cs := by
  rw [dropEndWhile, List.reverse_append,
    List.dropWhile_append_of_pos fun c hc => h c (List.mem_reverse.1 hc), dropEndWhile]

/-- What is taken from the end stands behind what is left. -/
theorem exists_dropEndWhile_append (p : Char → Bool) (cs : List Char) :
    ∃ tail, (∀ c ∈ tail, p c = true) ∧ cs = dropEndWhile p cs ++ tail := by
  refine ⟨(cs.reverse.takeWhile p).reverse, fun c hc => ?_, ?_⟩
  · exact List.all_eq_true.1 List.all_takeWhile c (List.mem_reverse.1 hc)
  · rw [dropEndWhile, ← List.reverse_append, List.takeWhile_append_dropWhile, List.reverse_reverse]

theorem exists_dropWhile_append_cons {c : Char} (hc : p c = false) (xs ys : List Char) :
    ∃ left, (xs ++ c :: ys).dropWhile p = left ++ c :: ys := by
  induction xs with
  | nil => exact ⟨[], List.dropWhile_cons_of_neg (by simp [hc])⟩
  | cons x xs ih =>
    by_cases hx : p x = true
    · obtain ⟨left, hleft⟩ := ih
      exact ⟨left, by rw [List.cons_append, List.dropWhile_cons_of_pos hx, hleft]⟩
    · exact ⟨x :: xs, List.dropWhile_cons_of_neg hx⟩

/-- Nothing is taken from before a character that stays. -/
theorem exists_dropEndWhile_append_cons {c : Char} (hc : p c = false) (cs rest : List Char) :
    ∃ left, dropEndWhile p (cs ++ c :: rest) = cs ++ c :: left := by
  obtain ⟨left, hleft⟩ := exists_dropWhile_append_cons hc rest.reverse cs.reverse
  refine ⟨left.reverse, ?_⟩
  have hreverse : (cs ++ c :: rest).reverse = rest.reverse ++ c :: cs.reverse := by simp
  rw [dropEndWhile, hreverse, hleft]
  simp

end Ends

section Trim

variable (p : Char → Bool) (s : String)

/-- What is taken away stands around what is left. -/
theorem exists_append_trimBy :
    ∃ opening closing, (∀ c ∈ opening, p c = true) ∧ (∀ c ∈ closing, p c = true) ∧
      s.toList = opening ++ (trimBy p s).toList ++ closing := by
  obtain ⟨closing, hclosing, hsplit⟩ := exists_dropEndWhile_append p (s.toList.dropWhile p)
  refine ⟨s.toList.takeWhile p, closing, List.all_eq_true.1 List.all_takeWhile, hclosing, ?_⟩
  rw [trimBy, String.toList_ofList, List.append_assoc, ← hsplit, List.takeWhile_append_dropWhile]

theorem head_trimBy : ∀ c ∈ (trimBy p s).toList.head?, p c = false := by
  intro c hc
  obtain ⟨closing, -, hsplit⟩ := exists_dropEndWhile_append p (s.toList.dropWhile p)
  refine head_dropWhile s.toList c ?_
  rw [trimBy, String.toList_ofList] at hc
  rw [hsplit, List.head?_append, hc]
  rfl

theorem last_trimBy : ∀ c ∈ (trimBy p s).toList.getLast?, p c = false := by
  rw [trimBy, String.toList_ofList]
  exact last_dropEndWhile _

end Trim

/-! ## Pieces of a text -/

section Pieces

variable {s t piece : String}

theorem contains_self (s : String) : contains s s = true :=
  occursIn_iff.2 (List.infix_refl _)

theorem contains_append_left (h : contains s piece = true) (t : String) :
    contains (s ++ t) piece = true := by
  rw [contains, String.toList_append]
  exact occursIn_iff.2 ((occursIn_iff.1 h).trans (List.prefix_append _ _).isInfix)

theorem contains_append_right (h : contains t piece = true) (s : String) :
    contains (s ++ t) piece = true := by
  rw [contains, String.toList_append]
  exact occursIn_iff.2 ((occursIn_iff.1 h).trans (List.suffix_append _ _).isInfix)

/-- What ends with a bracket is still there when blanks are taken from the end. -/
theorem contains_trimEnd (h : contains (s ++ ")") piece = true) (t : String) :
    contains (trimEnd (s ++ ")" ++ t)) piece = true := by
  have hlist : (s ++ ")" ++ t).toList = s.toList ++ ')' :: t.toList := by simp
  have hstays : isBlank ')' = false := by decide
  obtain ⟨left, hleft⟩ := exists_dropEndWhile_append_cons hstays s.toList t.toList
  have htrim : trimEnd (s ++ ")" ++ t) = s ++ ")" ++ String.ofList left := by
    rw [← String.toList_inj, trimEnd, trimEndBy, String.toList_ofList, hlist, hleft]
    simp
  rw [htrim]
  exact contains_append_left h _

end Pieces

/-! ## Round brackets -/

/-- The text neither starts nor ends with a round bracket. -/
def Bare (s : String) : Prop :=
  (∀ c ∈ s.toList.head?, isRoundBracket c = false) ∧
    ∀ c ∈ s.toList.getLast?, isRoundBracket c = false

instance (s : String) : Decidable (Bare s) :=
  decidable_of_iff
    (s.toList.head?.all (!isRoundBracket ·) = true ∧
      s.toList.getLast?.all (!isRoundBracket ·) = true)
    (by simp [Bare, Option.all_eq_true])

/-- A text keeps all its brackets when it neither starts nor ends with one. -/
theorem trimBrackets_eq_self_iff {s : String} : trimBrackets s = s ↔ Bare s := by
  constructor
  · intro h
    rw [← h]
    exact ⟨head_trimBy _ s, last_trimBy _ s⟩
  · rintro ⟨hhead, hlast⟩
    rw [trimBrackets, trimBy, dropWhile_of_head hhead, dropEndWhile_of_last hlast,
      String.ofList_toList]

/-- The brackets of a list are not told from those at the ends of what they enclose. -/
theorem trimBrackets_enclosed (s : String) : trimBrackets ("(" ++ s ++ ")") = trimBrackets s := by
  have hlist : ("(" ++ s ++ ")").toList = '(' :: (s.toList ++ [')']) := by simp
  have hopen : isRoundBracket '(' = true := by decide
  have hclose : ∀ c ∈ [')'], isRoundBracket c = true := List.forall_mem_singleton.2 rfl
  rw [trimBrackets, trimBy, hlist, List.dropWhile_cons_of_pos hopen, List.dropWhile_append,
    trimBrackets, trimBy]
  split
  · next hempty =>
    rw [List.isEmpty_iff] at hempty
    rw [hempty, List.dropWhile_cons_of_pos (hclose _ (List.mem_singleton_self _))]
    rfl
  · rw [dropEndWhile_append hclose]

/-- The number of round brackets in a text. -/
def brackets (s : String) : Nat := s.toList.countP isRoundBracket

@[simp] theorem brackets_append (s t : String) : brackets (s ++ t) = brackets s + brackets t := by
  rw [brackets, String.toList_append, List.countP_append]
  rfl

theorem brackets_le_of_contains {hay needle : String} (h : contains hay needle = true) :
    brackets needle ≤ brackets hay :=
  (occursIn_iff.1 h).sublist.countP_le

theorem brackets_trimEnd_le (s : String) : brackets (trimEnd s) ≤ brackets s := by
  obtain ⟨tail, -, hsplit⟩ := exists_dropEndWhile_append isBlank s.toList
  have hcount := congrArg (List.countP isRoundBracket) hsplit
  rw [List.countP_append] at hcount
  rw [brackets, trimEnd, trimEndBy, String.toList_ofList, brackets]
  omega

/-- A text that starts or ends with a bracket loses brackets. -/
theorem brackets_trimBrackets_lt {s : String} (h : ¬Bare s) :
    brackets (trimBrackets s) < brackets s := by
  obtain ⟨opening, closing, hopening, hclosing, hsplit⟩ := exists_append_trimBy isRoundBracket s
  have hcount := congrArg (List.countP isRoundBracket) hsplit
  rw [List.countP_append, List.countP_append, List.countP_eq_length.2 hopening,
    List.countP_eq_length.2 hclosing] at hcount
  have htaken : 0 < opening.length + closing.length := by
    refine Nat.pos_of_ne_zero fun hzero => h (trimBrackets_eq_self_iff.1 ?_)
    have hnone : opening = [] := List.length_eq_zero_iff.1 (by omega)
    have hnone' : closing = [] := List.length_eq_zero_iff.1 (by omega)
    rw [hnone, hnone', List.nil_append, List.append_nil] at hsplit
    exact String.toList_inj.1 hsplit.symm
  rw [brackets, trimBrackets, brackets]
  omega

end Text

namespace Dialect

variable {d : Dialect} {source : Source} {site : Site} {parts : CallableParts}

/-! ## Signatures -/

/-- The parameters among the parts of a function are those at the node of its parameters. -/
theorem parameters_of_readCallable (h : d.readCallable source site = .ok parts) :
    d.parameters source site.node = .ok parts.parameters := by
  unfold readCallable at h
  split at h
  · obtain ⟨qualifiers, -, h⟩ := except_bind_eq_ok.1 h
    obtain ⟨result, -, h⟩ := except_bind_eq_ok.1 h
    obtain ⟨name, -, h⟩ := except_bind_eq_ok.1 h
    obtain ⟨parameters, hparameters, h⟩ := except_bind_eq_ok.1 h
    cases h
    exact hparameters
  · obtain ⟨name, -, h⟩ := except_bind_eq_ok.1 h
    obtain ⟨parameters, hparameters, h⟩ := except_bind_eq_ok.1 h
    dsimp only at h
    split at h
    · obtain ⟨shown, -, h⟩ := except_bind_eq_ok.1 h
      cases h
      exact hparameters
    · cases h
      exact hparameters
  · obtain ⟨qualifiers, -, h⟩ := except_bind_eq_ok.1 h
    obtain ⟨receiver, -, h⟩ := except_bind_eq_ok.1 h
    obtain ⟨name, -, h⟩ := except_bind_eq_ok.1 h
    obtain ⟨parameters, hparameters, h⟩ := except_bind_eq_ok.1 h
    obtain ⟨result, -, h⟩ := except_bind_eq_ok.1 h
    cases h
    exact hparameters

/-- How the parameters of a function are shown: in a pair of brackets, which Ruby leaves out when
there are none. -/
def bracketed (d : Dialect) (parameters : String) : String :=
  if d = .ruby ∧ parameters = "" then "" else "(" ++ parameters ++ ")"

/-- A function is written with its parameters in brackets. -/
theorem contains_writeCallable (d : Dialect) (kind : String) (parts : CallableParts) :
    Text.contains (d.writeCallable kind parts) (d.bracketed parts.parameters) = true := by
  have hcall : Text.contains (parts.name ++ "(" ++ parts.parameters ++ ")")
      ("(" ++ parts.parameters ++ ")") = true := by
    have hassoc : parts.name ++ "(" ++ parts.parameters ++ ")" =
        parts.name ++ ("(" ++ parts.parameters ++ ")") := by simp only [String.append_assoc]
    rw [hassoc]
    exact Text.contains_append_right (Text.contains_self _) _
  have hplain (hruby : d ≠ .ruby) :
      d.bracketed parts.parameters = "(" ++ parts.parameters ++ ")" :=
    if_neg fun h => hruby h.1
  cases d with
  | python | typescript | rust =>
    rw [hplain (by decide)]
    exact Text.contains_append_left (Text.contains_append_right hcall _) _
  | java | csharp | c | cpp | php =>
    rw [hplain (by decide)]
    exact Text.contains_append_right hcall _
  | go =>
    have hend : Dialect.writeCallable .go kind parts = Text.trimEnd (("func " ++
        around "(" ") " parts.receiver ++ (parts.name ++ "(" ++ parts.parameters)) ++ ")" ++
          (" " ++ parts.result.getD "")) := by
      simp only [writeCallable, String.append_assoc]
    rw [hplain (by decide), hend]
    refine Text.contains_trimEnd ?_ _
    rw [String.append_assoc]
    exact Text.contains_append_right hcall _
  | javascript =>
    rw [hplain (by decide), writeCallable]
    split
    · exact hcall
    · split
      · -- The brackets of an arrow function stand in the texts around its parameters.
        have harrow : parts.name ++ " = (" ++ parts.parameters ++ ") => \x7b\x7d" =
            parts.name ++ " = " ++ ("(" ++ parts.parameters ++ ")") ++ " => \x7b\x7d" := by
          have hopen : " = (" = " = " ++ "(" := by decide
          have hclose : ") => \x7b\x7d" = ")" ++ " => \x7b\x7d" := by decide
          rw [hopen, hclose]
          simp only [String.append_assoc]
        rw [harrow]
        exact Text.contains_append_left (Text.contains_append_right (Text.contains_self _) _) _
      · exact Text.contains_append_right hcall _
  | ruby =>
    by_cases hnone : parts.parameters = ""
    · rw [bracketed, if_pos ⟨rfl, hnone⟩]
      exact Text.occursIn_iff.2 List.nil_infix
    · rw [bracketed, if_neg fun h => hnone h.2, writeCallable,
        if_neg fun h => hnone (String.isEmpty_iff.1 h)]
      exact Text.contains_append_right hcall _

/-- A signature shows what is left of a parameter list. -/
theorem contains_of_callable {node : Node} {t signature : String}
    (hnode : d.parametersNode? site.node = some node)
    (htext : source.nodeText node = .ok ("(" ++ t ++ ")"))
    (h : d.callable source site = .ok signature) :
    Text.contains signature (d.bracketed (Text.trimBrackets t)) = true := by
  obtain ⟨parts, hparts, rfl⟩ := except_map_eq_ok.1 h
  have hparameters := parameters_of_readCallable hparts
  rw [parameters, hnode, Source.textOr, htext] at hparameters
  have hleft : Text.trimBrackets t = parts.parameters := by
    rw [← Text.trimBrackets_enclosed]
    exact Except.ok.inj hparameters
  rw [hleft]
  exact contains_writeCallable d site.node.kind parts

/-! ## A function with nothing but parameters -/

/-- The kind of the node of a function's parameters. -/
def parametersKind : Dialect → String
  | .python | .rust | .go => "parameters"
  | .typescript | .java | .javascript | .php => "formal_parameters"
  | .c | .cpp | .csharp => "parameter_list"
  | .ruby => "method_parameters"

/-- A node that covers `stop` bytes from the start of a source. -/
def leading (kind : String) (stop : Nat) (children : List Node) : Node :=
  ⟨kind, 0, stop, 0, children, [("parameters", 0)]⟩

/-- A function that has parameters and nothing else. -/
def lone (d : Dialect) (stop : Nat) : Node :=
  let list := leading d.parametersKind stop []
  leading "function_definition" stop [match d with
    | .c | .cpp => leading "function_declarator" stop [list]
    | _ => list]

theorem parametersNode?_lone (d : Dialect) (stop : Nat) :
    d.parametersNode? (d.lone stop) = some (leading d.parametersKind stop []) := by
  cases d <;> rfl

/-- The signature of such a function has what is left of its parameters, and no name. -/
theorem callable_lone (d : Dialect) {stop : Nat} {t : String}
    (htext : source.nodeText (leading d.parametersKind stop []) = .ok ("(" ++ t ++ ")")) :
    d.callable source (.ofRoot (d.lone stop)) = .ok (d.writeCallable "function_definition"
      ⟨none, none, d.unnamedCallable, Text.trimBrackets t, none⟩) := by
  have hparameters : d.parameters source (d.lone stop) = .ok (Text.trimBrackets t) := by
    rw [parameters, parametersNode?_lone, Source.textOr, htext, ← Text.trimBrackets_enclosed]
    rfl
  have hqualifiers : d.qualifiers source (d.lone stop) = .ok none := by
    cases d <;> rfl
  have hreceiver : d.receiver source (d.lone stop) = .ok none := by
    cases d <;> rfl
  have hname : d.callableName source (d.lone stop) = .ok d.unnamedCallable := by
    cases d <;> rfl
  have hresult : d.result source (d.lone stop) = .ok none := by
    cases d with
    | rust =>
      -- The parameters are read in search of an arrow.
      have hnode : resultNode .rust source (lone .rust stop) = .ok none := by
        change afterArrow source [leading (parametersKind .rust) stop []] = _
        rw [afterArrow, htext]
        rfl
      rw [result, hnode]
      rfl
    | _ => rfl
  have hread : d.readCallable source (.ofRoot (d.lone stop)) =
      .ok ⟨none, none, d.unnamedCallable, Text.trimBrackets t, none⟩ := by
    unfold readCallable
    dsimp only [Site.ofRoot]
    split
    · rw [hqualifiers, hname, hparameters, hresult]
      rfl
    · rw [hname, hparameters]
      rfl
    · rw [hqualifiers, hreceiver, hname, hparameters, hresult]
      rfl
  rw [callable, hread]
  rfl

/-- Such a signature has no brackets but those of its parameters. -/
theorem brackets_writeCallable_lone (d : Dialect) (parameters : String) :
    Text.brackets (d.writeCallable "function_definition"
      ⟨none, none, d.unnamedCallable, parameters, none⟩) ≤ Text.brackets parameters + 2 := by
  have hname : Text.brackets d.unnamedCallable = 0 := by
    cases d <;> decide
  have hwords : Text.brackets "" = 0 ∧ Text.brackets " " = 0 ∧ Text.brackets "def " = 0 ∧
      Text.brackets "function " = 0 ∧ Text.brackets "func " = 0 ∧ Text.brackets "fn " = 0 ∧
      Text.brackets "(" = 1 ∧ Text.brackets ")" = 1 := by decide
  cases d with
  | go =>
    refine Nat.le_trans (Text.brackets_trimEnd_le _) ?_
    simp only [around, Option.getD_none, Text.brackets_append, hname, hwords]
    omega
  | ruby =>
    rw [writeCallable]
    split
    · simp only [Text.brackets_append, hname, hwords]
      omega
    · simp only [Text.brackets_append, hname, hwords]
      omega
  | typescript | javascript =>
    have hkinds : ("function_definition" == "method_definition") = false ∧
      ("function_definition" == "arrow_function") = false := by decide
    simp only [writeCallable, hkinds, Bool.false_eq_true, if_false, around, Text.brackets_append,
      hname, hwords]
    omega
  | python | java | rust | c | cpp | csharp | php =>
    simp only [writeCallable, around, Text.brackets_append, hname, hwords]
    omega

/-- The dialect gives this signature for some function with this parameter list. -/
def Gives (d : Dialect) (list signature : String) : Prop :=
  ∃ source site node template, d.parametersNode? site.node = some node ∧
    source.nodeText node = .ok list ∧
    (Extractor.dialect d).callable source site template = .ok signature

theorem Gives.contains {t signature : String} (h : d.Gives ("(" ++ t ++ ")") signature) :
    Text.contains signature (d.bracketed (Text.trimBrackets t)) = true := by
  obtain ⟨source, site, node, template, hnode, htext, hsignature⟩ := h
  exact contains_of_callable hnode htext hsignature

/-- A signature is given for every parameter list, with no more brackets than are left of it. -/
theorem exists_gives (d : Dialect) (t : String) :
    ∃ signature, d.Gives ("(" ++ t ++ ")") signature ∧
      Text.brackets signature ≤ Text.brackets (Text.trimBrackets t) + 2 := by
  have htext : (Source.text ("(" ++ t ++ ")")).nodeText
      (leading d.parametersKind ("(" ++ t ++ ")").utf8ByteSize []) = .ok ("(" ++ t ++ ")") := by
    have hwhole := Source.between_append "" ("(" ++ t ++ ")") ""
    rwa [String.empty_append, String.append_empty, String.utf8ByteSize_empty] at hwhole
  exact ⟨_, ⟨_, .ofRoot _, _, .null, d.parametersNode?_lone _, htext, d.callable_lone htext⟩,
    brackets_writeCallable_lone d _⟩

/-- A parameter list is shown as it is written in every signature that a dialect gives, exactly when
what stands between its brackets neither starts nor ends with a bracket. In any case what is left of
it is shown. -/
theorem parameters_shown_iff (d : Dialect) {t : String} (ht : t ≠ "") :
    ((∀ signature, d.Gives ("(" ++ t ++ ")") signature →
      Text.contains signature ("(" ++ t ++ ")") = true) ↔ Text.Bare t) ∧
    ∀ signature, d.Gives ("(" ++ t ++ ")") signature →
      Text.contains signature (d.bracketed (Text.trimBrackets t)) = true := by
  refine ⟨⟨fun h => Decidable.by_contra fun hbare => ?_, fun hbare signature hgives => ?_⟩,
    fun _ => Gives.contains⟩
  · obtain ⟨signature, hgives, hle⟩ := d.exists_gives t
    have hshown := Text.brackets_le_of_contains (h signature hgives)
    have hlost := Text.brackets_trimBrackets_lt hbare
    have hpair : Text.brackets "(" = 1 ∧ Text.brackets ")" = 1 := by decide
    rw [Text.brackets_append, Text.brackets_append, hpair.1, hpair.2] at hshown
    omega
  · have hshown := hgives.contains
    rwa [Text.trimBrackets_eq_self_iff.2 hbare, bracketed, if_neg fun h => ht h.2] at hshown

namespace Sample

/-- The function `g` with a parameter whose type has brackets inside. -/
def callbackFunction : Site :=
  .ofRoot ⟨"function_declaration", 0, 28, 0, [⟨"function", 0, 8, 0, [], []⟩,
    ⟨"identifier", 9, 10, 0, [], []⟩, ⟨"formal_parameters", 10, 25, 0, [], []⟩,
    ⟨"statement_block", 26, 28, 0, [], []⟩], []⟩

theorem gives_callback :
    Dialect.typescript.Gives "(f: () => void)" "function g(f: () => void)" :=
  ⟨.text "function g(f: () => void) \x7b\x7d", callbackFunction, _, .null, rfl,
    rfl, rfl⟩

/-- The function `f` whose only parameter is an empty tuple unless it is given. -/
def tupleFunction : Site :=
  .ofRoot ⟨"function_definition", 0, 17, 0, [⟨"def", 0, 3, 0, [], []⟩,
    ⟨"identifier", 4, 5, 0, [], []⟩, ⟨"parameters", 5, 11, 0, [], []⟩, ⟨":", 11, 12, 0, [], []⟩,
    ⟨"block", 13, 17, 0, [], []⟩], []⟩

theorem gives_tuple : Dialect.python.Gives "(a=())" "def f(a=)" :=
  ⟨.text "def f(a=()): pass", tupleFunction, _, .null, rfl, rfl, rfl⟩

end Sample

theorem parameters_shown_iff_callback :
    "f: () => void" ≠ "" ∧ Text.Bare "f: () => void" ∧
    Dialect.typescript.Gives "(f: () => void)" "function g(f: () => void)" ∧
    Text.contains "function g(f: () => void)" "(f: () => void)" = true := by
  have hne : "f: () => void" ≠ "" := by decide
  have hbare : Text.Bare "f: () => void" := by decide
  exact ⟨hne, hbare, Sample.gives_callback,
    (parameters_shown_iff .typescript hne).1.2 hbare _ Sample.gives_callback⟩

/-- The last parameter loses its brackets when they stand at the end of the list. -/
theorem parameters_lose_brackets :
    Dialect.python.Gives "(a=())" "def f(a=)" ∧ Text.contains "def f(a=)" "(a=())" = false :=
  ⟨Sample.gives_tuple, by decide⟩

end Dialect

end SourceOutline
