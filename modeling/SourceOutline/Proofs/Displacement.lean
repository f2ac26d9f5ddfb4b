import SourceOutline.Catalogue.Standard
import SourceOutline.Extraction
import SourceOutline.Proofs.Ascii

/-!
# Names that are displaced

The nodes of a syntax tree count bytes, but the name of a declaration is cut out of the source text
by counting characters. A byte that is not the first of its character moves the cut: each such byte
before the name moves both ends by one character, and each one in the name moves its end
(`Text.toList_slice_append`).

So the name is the text of its node in every source text that goes on after the node in some way,
exactly when all characters up to the end of the node are ASCII (`Text.forall_slice_eq_iff`). In a
single source text the name can also be right because what stands further on looks the same
(`Text.slice_eq_iff`). And a declaration is lost when its name would start beyond the last
character.
-/

namespace SourceOutline

namespace Text

/-! ## Bytes that are not the first of their character -/

theorem size_utf8Encode_cons (c : Char) (cs : List Char) :
    (c :: cs).utf8Encode.size = c.utf8Size + cs.utf8Encode.size := by
  rw [List.utf8Encode_cons, ByteArray.size_append, List.utf8Encode_singleton,
    List.size_toByteArray, String.length_utf8EncodeChar]

theorem length_le_size_utf8Encode (cs : List Char) : cs.length ≤ cs.utf8Encode.size := by
  induction cs with
  | nil => exact Nat.zero_le _
  | cons c cs ih =>
    have hc := c.utf8Size_pos
    rw [size_utf8Encode_cons, List.length_cons]
    omega

theorem utf8Size_eq_one_iff {c : Char} : c.utf8Size = 1 ↔ c.toNat < 128 := by
  constructor
  · intro h
    have hle := UInt32.le_iff_toNat_le.1 (Char.utf8Size_eq_one_iff.1 h)
    have hbound : (127 : UInt32).toNat = 127 := rfl
    have hc : c.toNat = c.val.toNat := rfl
    omega
  · exact utf8Size_of_ascii

/-- Each character takes one byte exactly when all are ASCII. -/
theorem size_utf8Encode_eq_length_iff (cs : List Char) :
    cs.utf8Encode.size = cs.length ↔ ∀ c ∈ cs, c.toNat < 128 := by
  induction cs with
  | nil => simp
  | cons c cs ih =>
    have hc := c.utf8Size_pos
    have hcs := length_le_size_utf8Encode cs
    rw [size_utf8Encode_cons, List.length_cons, List.forall_mem_cons, ← ih, ← utf8Size_eq_one_iff]
    omega

theorem utf8ByteSize_eq (text : String) : text.utf8ByteSize = text.toList.utf8Encode.size := by
  rw [String.utf8Encode_toList]
  rfl

/-- The number of bytes of a text that are not the first of their character. -/
def surplus (text : String) : Nat := text.utf8ByteSize - text.length

theorem length_add_surplus (text : String) : text.length + surplus text = text.utf8ByteSize := by
  have h := length_le_size_utf8Encode text.toList
  rw [← utf8ByteSize_eq, String.length_toList] at h
  rw [surplus]
  omega

@[simp] theorem surplus_append (s t : String) : surplus (s ++ t) = surplus s + surplus t := by
  have hs := length_add_surplus s
  have ht := length_add_surplus t
  have hst := length_add_surplus (s ++ t)
  rw [String.length_append, String.utf8ByteSize_append] at hst
  omega

theorem surplus_eq_zero_iff {text : String} : surplus text = 0 ↔ IsAscii text := by
  have h := length_add_surplus text
  rw [IsAscii, ← size_utf8Encode_eq_length_iff, ← utf8ByteSize_eq, String.length_toList]
  omega

/-! ## What is cut out -/

section Cut

variable (before text after : String)

/-- What is cut out at the offsets of a piece of text stands further on by the surplus of what comes
before, and is longer by the surplus of the piece. -/
theorem toList_slice_append :
    (slice (before ++ text ++ after) before.utf8ByteSize (before ++ text).utf8ByteSize).toList =
      ((text ++ after).toList.drop (surplus before)).take text.utf8ByteSize := by
  have hbefore := length_add_surplus before
  have hlength : before.toList.length ≤ before.utf8ByteSize := by
    rw [String.length_toList]
    omega
  rw [slice, String.toList_ofList, List.drop_take, String.utf8ByteSize_append,
    Nat.add_sub_cancel_left, String.append_assoc, String.toList_append, List.drop_append,
    List.drop_eq_nil_of_le hlength, List.nil_append, String.length_toList]
  have hsurplus : before.utf8ByteSize - before.length = surplus before := rfl
  rw [hsurplus]

variable {text}

/-- When a piece of text is cut out: it stands again as far on as the cut is moved, and the cut ends
where it ends. -/
theorem slice_eq_iff (hne : text ≠ "") :
    slice (before ++ text ++ after) before.utf8ByteSize (before ++ text).utf8ByteSize = text ↔
      text.toList <+: (text ++ after).toList.drop (surplus before) ∧
        (IsAscii text ∨ after.length = surplus before) := by
  have hbytes := length_add_surplus text
  have hsize : text.toList.length = text.length := String.length_toList
  have hpos : 0 < text.toList.length :=
    List.length_pos_iff.2 fun hnil => hne (String.toList_eq_nil_iff.1 hnil)
  have hrest : ((text ++ after).toList.drop (surplus before)).length =
      text.length + after.length - surplus before := by
    rw [List.length_drop, String.length_toList, String.length_append]
  rw [← String.toList_inj, toList_slice_append, ← surplus_eq_zero_iff]
  constructor
  · intro h
    have hstands : text.toList <+: (text ++ after).toList.drop (surplus before) := by
      rw [← h]
      exact List.take_prefix _ _
    have hlength := congrArg List.length h
    rw [List.length_take, hrest] at hlength
    exact ⟨hstands, by omega⟩
  · rintro ⟨hstands, hend⟩
    have hle := hstands.length_le
    rw [hrest] at hle
    -- The cut is as long as the piece, or what is left of the text is.
    have htake : ((text ++ after).toList.drop (surplus before)).take text.utf8ByteSize =
        ((text ++ after).toList.drop (surplus before)).take text.toList.length := by
      rcases hend with hascii | hafter
      · rw [show text.utf8ByteSize = text.toList.length by omega]
      · rw [List.take_of_length_le (by omega), List.take_of_length_le (by omega)]
    rw [htake]
    exact (List.prefix_iff_eq_take.1 hstands).symm

/-- A piece of text is cut out however the text goes on exactly when all characters up to its end
are ASCII. -/
theorem forall_slice_eq_iff (hne : text ≠ "") :
    (∀ rest, slice (before ++ text ++ rest) before.utf8ByteSize (before ++ text).utf8ByteSize =
      text) ↔ IsAscii (before ++ text) := by
  have hpos : 0 < text.toList.length :=
    List.length_pos_iff.2 fun hnil => hne (String.toList_eq_nil_iff.1 hnil)
  simp only [slice_eq_iff before _ hne, ← surplus_eq_zero_iff, surplus_append, Nat.add_eq_zero_iff]
  constructor
  · intro h
    -- With nothing after it the piece cannot stand further on, and with one character after it the
    -- cut cannot be longer.
    have hbefore : surplus before = 0 := by
      have hle := (h "").1.length_le
      rw [String.append_empty, List.length_drop] at hle
      omega
    have hx : ("x" : String).length = 1 := by decide
    refine ⟨hbefore, (h "x").2.resolve_right ?_⟩
    rw [hx, hbefore]
    omega
  · rintro ⟨hbefore, htext⟩ rest
    rw [hbefore, List.drop_zero, String.toList_append]
    exact ⟨List.prefix_append _ _, .inl htext⟩

end Cut

/-- Nothing is cut out when the cut ends where it starts, or starts beyond the last character. -/
theorem slice_eq_empty_iff {text : String} {start stop : Nat} :
    slice text start stop = "" ↔ stop ≤ start ∨ text.length ≤ start := by
  rw [← String.toList_eq_nil_iff, slice, String.toList_ofList, List.drop_eq_nil_iff,
    List.length_take, String.length_toList]
  omega

end Text

/-- Two boundaries of characters, in their order, are the offsets of a piece of the text. -/
theorem Text.exists_append_of_isValid {whole : String} {start stop : Nat}
    (hstart : String.Pos.Raw.IsValid whole ⟨start⟩) (hstop : String.Pos.Raw.IsValid whole ⟨stop⟩)
    (hle : start ≤ stop) :
    ∃ before text after, whole = before ++ text ++ after ∧ start = before.utf8ByteSize ∧
      stop = (before ++ text).utf8ByteSize := by
  obtain ⟨before, rest, hrest, hbefore⟩ := String.Pos.Raw.isValid_iff_exists_append.1 hstart
  obtain ⟨head, after, hafter, hhead⟩ := String.Pos.Raw.isValid_iff_exists_append.1 hstop
  have hstart : start = before.utf8ByteSize := congrArg String.Pos.Raw.byteIdx hbefore
  have hstop : stop = head.utf8ByteSize := congrArg String.Pos.Raw.byteIdx hhead
  have hlists : before.toList ++ rest.toList = head.toList ++ after.toList := by
    rw [← String.toList_append, ← String.toList_append, ← hrest, hafter]
  rcases List.append_eq_append_iff.1 hlists with ⟨text, hsplit, -⟩ | ⟨more, hsplit, -⟩
  · have hjoined : head = before ++ String.ofList text := by
      rw [← String.toList_inj, String.toList_append, String.toList_ofList, hsplit]
    exact ⟨before, String.ofList text, after, hjoined ▸ hafter, hstart, hjoined ▸ hstop⟩
  · -- The later boundary cannot lie before the earlier one, so they are the same.
    have hjoined : before = head ++ String.ofList more := by
      rw [← String.toList_inj, String.toList_append, String.toList_ofList, hsplit]
    have hsize : before.utf8ByteSize = head.utf8ByteSize + (String.ofList more).utf8ByteSize := by
      rw [hjoined, String.utf8ByteSize_append]
    have hnone : String.ofList more = "" := String.utf8ByteSize_eq_zero_iff.1 (by omega)
    rw [hnone, String.append_empty] at hjoined
    refine ⟨before, "", after, ?_, hstart, ?_⟩
    · rw [String.append_empty, hjoined, hafter]
    · rw [String.append_empty, hjoined, hstop]

namespace Source

/-- What stands at the offsets of a piece of text is the piece. -/
theorem between_append (before text after : String) :
    (Source.text (before ++ text ++ after)).between before.utf8ByteSize
      (before ++ text).utf8ByteSize = .ok text := by
  have hbytes : (Source.text (before ++ text ++ after)).toBytes =
      before.toByteArray ++ text.toByteArray ++ after.toByteArray := by
    rw [toBytes, String.toUTF8_eq_toByteArray, String.toByteArray_append,
      String.toByteArray_append]
  have hend : (before ++ text).utf8ByteSize = (before.toByteArray ++ text.toByteArray).size := by
    rw [ByteArray.size_append, String.utf8ByteSize_append]
    rfl
  have hcut : (before.toByteArray ++ text.toByteArray ++ after.toByteArray).extract
      before.utf8ByteSize (before ++ text).utf8ByteSize = text.toList.utf8Encode := by
    rw [hend, ByteArray.extract_append_size_left, String.utf8Encode_toList]
    exact ByteArray.extract_append_eq_right rfl ByteArray.size_append
  have hdecode := Text.Utf8.decode_utf8Encode text.toList
  rw [String.ofList_toList, ← hcut, ← extract_min] at hdecode
  rw [between, hbytes, hdecode]
  rfl

/-- There is nothing between an offset and an earlier one. -/
theorem between_of_lt (whole : String) {start stop : Nat} (h : stop < start) :
    (Source.text whole).between start stop = .ok "" := by
  have hcut : (Source.text whole).toBytes.extract start stop = [].utf8Encode := by
    rw [List.utf8Encode_nil]
    exact ByteArray.extract_eq_empty_iff.2 (by omega)
  have hdecode := Text.Utf8.decode_utf8Encode []
  rw [← hcut, ← extract_min] at hdecode
  rw [between, hdecode]
  rfl

/-- Between boundaries of characters there is a text, and it is a piece of the whole. -/
theorem between_of_isValid {whole : String} {start stop : Nat}
    (hstart : String.Pos.Raw.IsValid whole ⟨start⟩)
    (hstop : String.Pos.Raw.IsValid whole ⟨stop⟩) :
    ∃ text, (Source.text whole).between start stop = .ok text ∧ (text ≠ "" ↔ start < stop) ∧
      (start < stop → ∃ before after, whole = before ++ text ++ after ∧
        start = before.utf8ByteSize ∧ stop = (before ++ text).utf8ByteSize) := by
  rcases Nat.lt_or_ge stop start with hlt | hle
  · exact ⟨"", between_of_lt whole hlt, by simp; omega, by omega⟩
  · obtain ⟨before, text, after, rfl, rfl, rfl⟩ := Text.exists_append_of_isValid hstart hstop hle
    refine ⟨text, between_append before text after, ?_, fun _ => ⟨before, after, rfl, rfl, rfl⟩⟩
    have hempty : text.utf8ByteSize = 0 ↔ text = "" := String.utf8ByteSize_eq_zero_iff
    rw [ne_eq, ← hempty, String.utf8ByteSize_append]
    omega

end Source

namespace Grammar

variable {g : Grammar} {node child : Node}

/-- A declaration is called what is cut out at its name node, if that is anything. -/
theorem nameOf_of_nameNode (h : nameNode g.entry node.children = .ok (some child)) :
    g.nameOf node = .ok (if Text.slice g.text child.start child.stop = "" then none
      else some (Text.slice g.text child.start child.stop)) := by
  rw [nameOf, h]
  change Except.ok _ = _
  simp only [String.isEmpty_iff]

theorem nameOf_eq_some_iff (h : nameNode g.entry node.children = .ok (some child)) {text : String}
    (hne : text ≠ "") :
    g.nameOf node = .ok (some text) ↔ Text.slice g.text child.start child.stop = text := by
  rw [nameOf_of_nameNode h, Except.ok.injEq]
  split
  · next hempty =>
    rw [hempty]
    simp [hne.symm]
  · exact Option.some_inj

/-- What a declaration is called when its name node starts and ends at boundaries of characters. It
has a name exactly when the node has a text and starts, counted in characters, inside the source.
The name is the text of the node if this text stands again as many characters after the node as
there are surplus bytes before it, and the cut ends where the text ends there. That the name is
right however the source goes on needs ASCII characters up to the end of the node. -/
theorem nameOf_eq_text_iff (hchild : nameNode g.entry node.children = .ok (some child))
    (hstart : String.Pos.Raw.IsValid g.text ⟨child.start⟩)
    (hstop : String.Pos.Raw.IsValid g.text ⟨child.stop⟩) :
    ∃ text name, (Source.text g.text).nodeText child = .ok text ∧ g.nameOf node = .ok name ∧
      (name.isSome ↔ text ≠ "" ∧ child.start < g.text.length) ∧
      (text ≠ "" → ∃ before after, g.text = before ++ text ++ after ∧
        child.start = before.utf8ByteSize ∧
        (name = some text ↔
          text.toList <+: (text ++ after).toList.drop (Text.surplus before) ∧
            (Text.IsAscii text ∨ after.length = Text.surplus before)) ∧
        ((∀ rest, nameOf { g with text := before ++ text ++ rest } node = .ok (some text)) ↔
          Text.IsAscii (before ++ text))) := by
  obtain ⟨text, htext, hne, hpiece⟩ := Source.between_of_isValid hstart hstop
  have hname := nameOf_of_nameNode hchild
  refine ⟨text, _, htext, hname, ?_, fun hwritten => ?_⟩
  · rw [hne]
    split
    · next hempty =>
      have hor := Text.slice_eq_empty_iff.1 hempty
      simp only [Option.isSome_none, Bool.false_eq_true, false_iff]
      omega
    · next hfull =>
      have hor := mt Text.slice_eq_empty_iff.2 hfull
      simp only [Option.isSome_some, true_iff]
      omega
  · obtain ⟨before, after, hwhole, hbefore, hend⟩ := hpiece (hne.1 hwritten)
    refine ⟨before, after, hwhole, hbefore, ?_, ?_⟩
    · rw [← Text.slice_eq_iff before after hwritten, ← hbefore, ← hend, ← hwhole,
        ← nameOf_eq_some_iff hchild hwritten, hname, Except.ok.injEq]
    · rw [← Text.forall_slice_eq_iff before hwritten, ← hbefore, ← hend]
      refine forall_congr' fun rest => ?_
      exact nameOf_eq_some_iff (g := { g with text := before ++ text ++ rest }) hchild hwritten

namespace Sample

/-- A class of two letters after a comment with one letter of two bytes. -/
def accented : Grammar where
  language := "python"
  entry := some Catalogue.Standard.python
  extractor := .dialect .python
  text := "# é\nclass Ab: pass"

def accentedName : Node := ⟨"identifier", 11, 13, 1, [], []⟩

def accentedClass : Node :=
  ⟨"class_definition", 5, 19, 1, [⟨"class", 5, 10, 1, [], []⟩, accentedName,
    ⟨":", 13, 14, 1, [], []⟩, ⟨"block", 15, 19, 1, [], []⟩], []⟩

theorem nameNode_accented :
    nameNode accented.entry accentedClass.children = .ok (some accentedName) := rfl

theorem isValid_start_accented :
    String.Pos.Raw.IsValid accented.text ⟨accentedName.start⟩ :=
  String.Pos.Raw.isValid_iff_exists_append.2 ⟨"# é\nclass ", "Ab: pass", by decide, by decide⟩

theorem isValid_stop_accented :
    String.Pos.Raw.IsValid accented.text ⟨accentedName.stop⟩ :=
  String.Pos.Raw.isValid_iff_exists_append.2 ⟨"# é\nclass Ab", ": pass", by decide, by decide⟩

theorem nodeText_accented :
    (Source.text accented.text).nodeText accentedName = .ok "Ab" :=
  Source.between_append "# é\nclass " "Ab" ": pass"

end Sample

theorem nameOf_eq_text_iff_accented :
    nameNode Sample.accented.entry Sample.accentedClass.children = .ok (some Sample.accentedName) ∧
    String.Pos.Raw.IsValid Sample.accented.text ⟨Sample.accentedName.start⟩ ∧
    String.Pos.Raw.IsValid Sample.accented.text ⟨Sample.accentedName.stop⟩ ∧
    ∃ name, Sample.accented.nameOf Sample.accentedClass = .ok (some name) := by
  refine ⟨Sample.nameNode_accented, Sample.isValid_start_accented, Sample.isValid_stop_accented, ?_⟩
  obtain ⟨text, name, htext, hname, hsome, -⟩ := nameOf_eq_text_iff Sample.nameNode_accented
    Sample.isValid_start_accented Sample.isValid_stop_accented
  cases Sample.nodeText_accented.symm.trans htext
  obtain ⟨name, rfl⟩ := Option.isSome_iff_exists.1 (hsome.2 ⟨by decide, by decide⟩)
  exact ⟨name, hname⟩

/-- The class `Ab` is called `b:` when the comment before it has one byte more than characters. -/
theorem nameOf_displaced :
    nameNode Sample.accented.entry Sample.accentedClass.children = .ok (some Sample.accentedName) ∧
    String.Pos.Raw.IsValid Sample.accented.text ⟨Sample.accentedName.start⟩ ∧
    String.Pos.Raw.IsValid Sample.accented.text ⟨Sample.accentedName.stop⟩ ∧
    (Source.text Sample.accented.text).nodeText Sample.accentedName = .ok "Ab" ∧
    Sample.accented.nameOf Sample.accentedClass = .ok (some "b:") :=
  ⟨Sample.nameNode_accented, Sample.isValid_start_accented, Sample.isValid_stop_accented,
    Sample.nodeText_accented,
    (nameOf_eq_some_iff Sample.nameNode_accented (by decide)).2 (by decide)⟩

end Grammar

end SourceOutline
