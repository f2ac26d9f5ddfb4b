import SourceOutline.Proofs.Displacement
import SourceOutline.Proofs.Steps
import SourceOutline.Proofs.Utf8

/-!
# Texts between offsets

The offsets of a node count bytes, and nothing keeps them from lying inside characters or beyond the
end of a source text. An offset in a text is a boundary between characters or lies inside one
(`Text.isBoundary_or_inside`), so for bytes that are cut out of a text there are three cases: no
byte is cut out or both ends are boundaries, and the bytes are read; the cut starts inside a
character, and its first byte is refused; it starts at a boundary and ends inside a character, and
what there is of that character is refused (`Source.nodeText_at_boundaries`).
-/

namespace SourceOutline

namespace Text

open Utf8

/-! ## Boundaries -/

/-- No character of the text stands on both sides of the offset. -/
def IsBoundary (text : String) (offset : Nat) : Prop :=
  ∃ before after, text = before ++ after ∧ before.utf8ByteSize = offset

/-- The last boundary up to an offset. -/
structure IsLastBoundary (text : String) (boundary offset : Nat) : Prop where
  isBoundary : IsBoundary text boundary
  le : boundary ≤ offset
  last : ∀ other, IsBoundary text other → other ≤ offset → other ≤ boundary

theorem length_encode_toList (text : String) :
    (encode text.toList).length = text.utf8ByteSize :=
  congrArg List.length (Text.toList_toUTF8 text).symm

theorem isBoundary_iff {text : String} {offset : Nat} :
    IsBoundary text offset ↔
      ∃ before after, text.toList = before ++ after ∧ (encode before).length = offset := by
  constructor
  · rintro ⟨before, after, rfl, rfl⟩
    exact ⟨before.toList, after.toList, String.toList_append, length_encode_toList before⟩
  · rintro ⟨before, after, htext, rfl⟩
    refine ⟨String.ofList before, String.ofList after, ?_, ?_⟩
    · rw [← String.toList_inj, String.toList_append, String.toList_ofList, String.toList_ofList,
        htext]
    · rw [← length_encode_toList, String.toList_ofList]

theorem isBoundary_iff_isValid {text : String} {offset : Nat} :
    IsBoundary text offset ↔ String.Pos.Raw.IsValid text ⟨offset⟩ := by
  rw [String.Pos.Raw.isValid_iff_exists_append]
  constructor
  · rintro ⟨before, after, htext, rfl⟩
    exact ⟨before, after, htext, rfl⟩
  · rintro ⟨before, after, htext, hbefore⟩
    exact ⟨before, after, htext, congrArg String.Pos.Raw.byteIdx hbefore.symm⟩

/-- The offset lies inside a character: `size` bytes of `c` stand before it. -/
structure Inside (text : String) (offset : Nat) (before : List Char) (c : Char) (after : List Char)
    (size : Nat) : Prop where
  toList_eq : text.toList = before ++ c :: after
  offset_eq : offset = (encode before).length + size
  pos : 0 < size
  lt : size < c.utf8Size

theorem exists_cut (cs : List Char) {offset : Nat} (h : offset ≤ (encode cs).length) :
    (∃ before after, cs = before ++ after ∧ (encode before).length = offset) ∨
      ∃ before c after size, cs = before ++ c :: after ∧
        offset = (encode before).length + size ∧ 0 < size ∧ size < c.utf8Size := by
  induction cs generalizing offset with
  | nil => exact .inl ⟨[], [], rfl, (Nat.le_zero.1 h).symm⟩
  | cons c cs ih =>
    have hsize := String.length_utf8EncodeChar c
    rw [encode_cons, List.length_append, hsize] at h
    rcases Nat.lt_or_ge offset c.utf8Size with hlt | hge
    · rcases Nat.eq_zero_or_pos offset with rfl | hpos
      · exact .inl ⟨[], c :: cs, rfl, rfl⟩
      · exact .inr ⟨[], c, cs, offset, rfl, (Nat.zero_add _).symm, hpos, hlt⟩
    · -- The offset is looked for behind the first character.
      have hbehind : offset - c.utf8Size ≤ (encode cs).length := by omega
      rcases ih hbehind with
        ⟨before, after, rfl, hbefore⟩ | ⟨before, d, after, size, rfl, hoffset, hpos, hlt⟩
      · refine .inl ⟨c :: before, after, rfl, ?_⟩
        rw [encode_cons, List.length_append, hsize]
        omega
      · refine .inr ⟨c :: before, d, after, size, rfl, ?_, hpos, hlt⟩
        rw [encode_cons, List.length_append, hsize]
        omega

theorem isBoundary_or_inside {text : String} {offset : Nat} (h : offset ≤ text.utf8ByteSize) :
    IsBoundary text offset ∨ ∃ before c after size, Inside text offset before c after size := by
  rw [← length_encode_toList] at h
  rcases exists_cut text.toList h with hcut | ⟨before, c, after, size, htext, hoffset, hpos, hlt⟩
  · exact .inl (isBoundary_iff.2 hcut)
  · exact .inr ⟨before, c, after, size, htext, hoffset, hpos, hlt⟩

/-- What comes before a boundary ends before a character or holds it whole. -/
theorem exists_middle {before after head rest : List Char} {c : Char}
    (h : before ++ c :: after = head ++ rest) :
    (∃ middle, before = head ++ middle) ∨ ∃ middle, head = before ++ c :: middle := by
  rcases List.append_eq_append_iff.1 h with ⟨middle, hhead, hrest⟩ | ⟨middle, hbefore, -⟩
  · cases middle with
    | nil => exact .inl ⟨[], by rw [hhead, List.append_nil, List.append_nil]⟩
    | cons d middle =>
      obtain ⟨rfl, -⟩ := List.cons.inj hrest
      exact .inr ⟨middle, hhead⟩
  · exact .inl ⟨middle, hbefore⟩

section Inside

variable {text : String} {offset : Nat} {before : List Char} {c : Char} {after : List Char}
  {size : Nat}

/-- An offset inside a character has its last boundary before the character. -/
theorem Inside.isLastBoundary (h : Inside text offset before c after size) :
    IsLastBoundary text (encode before).length offset := by
  refine ⟨isBoundary_iff.2 ⟨before, c :: after, h.toList_eq, rfl⟩, ?_, ?_⟩
  · rw [h.offset_eq]
    omega
  · intro other hother hle
    obtain ⟨head, rest, hhead, rfl⟩ := isBoundary_iff.1 hother
    rcases exists_middle (h.toList_eq.symm.trans hhead) with ⟨middle, rfl⟩ | ⟨middle, rfl⟩
    · simp
    · -- The whole character would stand before the offset.
      have hlt := h.lt
      rw [h.offset_eq, encode_append, encode_cons, List.length_append, List.length_append,
        String.length_utf8EncodeChar] at hle
      omega

theorem Inside.not_isBoundary (h : Inside text offset before c after size) :
    ¬IsBoundary text offset := by
  intro hboundary
  have hle := h.isLastBoundary.last offset hboundary (Nat.le_refl _)
  have hoffset := h.offset_eq
  have hpos := h.pos
  omega

end Inside

end Text

namespace Source

open Text Utf8

/-! ## What is cut out -/

/-- The offset, or the end of the text when the offset lies beyond it. -/
def clamp (whole : String) (offset : Nat) : Nat := min offset whole.utf8ByteSize

/-- The bytes of a text that lie between two offsets. -/
def covered (whole : String) (start stop : Nat) : ByteArray :=
  whole.toUTF8.extract (clamp whole start) (clamp whole stop)

section Covered

variable {whole : String} {start stop : Nat}

theorem clamp_le (whole : String) (offset : Nat) : clamp whole offset ≤ whole.utf8ByteSize :=
  Nat.min_le_right _ _

theorem toList_covered (whole : String) (start stop : Nat) :
    (covered whole start stop).data.toList =
      ((encode whole.toList).take (clamp whole stop)).drop (clamp whole start) := by
  rw [covered, ByteArray.data_extract, Array.toList_extract, Text.toList_toUTF8, List.drop_take]
  rfl

theorem covered_eq_empty_iff :
    covered whole start stop = .empty ↔ clamp whole stop ≤ clamp whole start := by
  have hstop : clamp whole stop ≤ whole.toUTF8.size := clamp_le whole stop
  rw [covered, ByteArray.extract_eq_empty_iff, Nat.min_eq_left hstop]

theorem between_eq (whole : String) (start stop : Nat) :
    (Source.text whole).between start stop =
      (decode (covered whole start stop)).mapError .undecodable := rfl

theorem between_eq_ok_iff {text : String} :
    (Source.text whole).between start stop = .ok text ↔ text.toUTF8 = covered whole start stop := by
  rw [between_eq, except_mapError_eq_ok, decode_eq_ok_iff]

theorem between_of_clamp_le (h : clamp whole stop ≤ clamp whole start) :
    (Source.text whole).between start stop = .ok "" := by
  rw [between_eq_ok_iff, covered_eq_empty_iff.2 h]
  rfl

theorem between_clamp (whole : String) (start stop : Nat) :
    (Source.text whole).between (clamp whole start) (clamp whole stop) =
      (Source.text whole).between start stop := by
  have hclamp (offset : Nat) : clamp whole (clamp whole offset) = clamp whole offset :=
    Nat.min_eq_left (clamp_le whole offset)
  rw [between_eq, between_eq, covered, covered, hclamp, hclamp]

/-- Between two boundaries there is a text. -/
theorem between_of_isBoundary (hstart : IsBoundary whole (clamp whole start))
    (hstop : IsBoundary whole (clamp whole stop)) :
    ∃ text, (Source.text whole).between start stop = .ok text := by
  rw [isBoundary_iff_isValid] at hstart hstop
  obtain ⟨text, htext, -⟩ := between_of_isValid hstart hstop
  exact ⟨text, (between_clamp whole start stop).symm.trans htext⟩

theorem clamp_lt_of_covered (hne : covered whole start stop ≠ .empty) :
    clamp whole start < clamp whole stop :=
  Nat.lt_of_not_le fun hle => hne (covered_eq_empty_iff.2 hle)

/-- A cut that starts inside a character starts with a byte that is refused. -/
theorem between_of_start_inside (hne : covered whole start stop ≠ .empty)
    (hstart : ¬IsBoundary whole (clamp whole start)) :
    ∃ b, (covered whole start stop).data.toList.head? = some b ∧
      (Source.text whole).between start stop = .error (.undecodable ⟨0, [b], .startByte⟩) := by
  have hlt := clamp_lt_of_covered hne
  obtain ⟨before, c, after, size, h⟩ :=
    (isBoundary_or_inside (clamp_le whole start)).resolve_left hstart
  have hsize := h.lt
  rw [← String.length_utf8EncodeChar c] at hsize
  obtain ⟨b, rest, hrest⟩ : ∃ b rest, (String.utf8EncodeChar c).drop size = b :: rest :=
    ⟨_, _, List.drop_eq_getElem_cons hsize⟩
  have htail : IsTail b := isTail_of_mem_drop h.pos (hrest ▸ List.mem_cons_self)
  have hdrop : (encode whole.toList).drop (clamp whole start) = b :: (rest ++ encode after) := by
    rw [h.toList_eq, encode_append, encode_cons, h.offset_eq, List.drop_length_add_append,
      List.drop_append_of_le_length (Nat.le_of_lt hsize), hrest]
    rfl
  obtain ⟨n, hn⟩ : ∃ n, clamp whole stop - clamp whole start = n + 1 :=
    ⟨clamp whole stop - clamp whole start - 1, by omega⟩
  have hcovered : (covered whole start stop).data.toList = b :: (rest ++ encode after).take n := by
    rw [toList_covered, List.drop_take, hdrop, hn, List.take_succ_cons]
  refine ⟨b, by rw [hcovered]; rfl, ?_⟩
  rw [between_eq, decode_tail hcovered htail]
  rfl

/-- A cut that starts at a boundary and ends inside a character ends with bytes that are refused. -/
theorem between_of_stop_inside (hne : covered whole start stop ≠ .empty)
    (hstart : IsBoundary whole (clamp whole start))
    (hstop : ¬IsBoundary whole (clamp whole stop)) :
    ∃ position, IsLastBoundary whole (clamp whole start + position) (clamp whole stop) ∧
      (Source.text whole).between start stop = .error (.undecodable
        ⟨position, (covered whole start stop).data.toList.drop position, .endOfData⟩) := by
  obtain ⟨before, c, after, size, h⟩ :=
    (isBoundary_or_inside (clamp_le whole stop)).resolve_left hstop
  have hlast := h.isLastBoundary
  have hle := hlast.last _ hstart (Nat.le_of_lt (clamp_lt_of_covered hne))
  obtain ⟨head, rest, hhead, hlength⟩ := isBoundary_iff.1 hstart
  rcases exists_middle (h.toList_eq.symm.trans hhead) with ⟨middle, rfl⟩ | ⟨middle, rfl⟩
  · have hcovered : (covered whole start stop).data.toList =
        encode middle ++ (String.utf8EncodeChar c).take size := by
      have hsize : size ≤ (String.utf8EncodeChar c).length := by
        rw [String.length_utf8EncodeChar]
        exact Nat.le_of_lt h.lt
      rw [toList_covered, h.toList_eq, h.offset_eq, encode_append (head ++ middle),
        List.take_length_add_append, encode_cons, List.take_append_of_le_length hsize,
        encode_append, ← hlength, List.append_assoc, List.drop_left]
    refine ⟨(encode middle).length, ?_, ?_⟩
    · rw [← hlength, ← List.length_append, ← encode_append]
      exact hlast
    · rw [between_eq, decode_cut hcovered h.pos h.lt, hcovered, List.drop_left]
      rfl
  · -- The character would end before the start.
    have hpos := c.utf8Size_pos
    rw [← hlength, encode_append, encode_cons, List.length_append, List.length_append,
      String.length_utf8EncodeChar] at hle
    omega

/-- When there is a text between two offsets. -/
theorem exists_between_iff :
    (∃ text, (Source.text whole).between start stop = .ok text) ↔
      covered whole start stop = .empty ∨
        IsBoundary whole (clamp whole start) ∧ IsBoundary whole (clamp whole stop) := by
  constructor
  · rintro ⟨text, htext⟩
    by_cases hempty : covered whole start stop = .empty
    · exact .inl hempty
    have hstart : IsBoundary whole (clamp whole start) := by
      refine Classical.byContradiction fun hinside => ?_
      obtain ⟨b, -, herror⟩ := between_of_start_inside hempty hinside
      cases htext.symm.trans herror
    have hstop : IsBoundary whole (clamp whole stop) := by
      refine Classical.byContradiction fun hinside => ?_
      obtain ⟨position, -, herror⟩ := between_of_stop_inside hempty hstart hinside
      cases htext.symm.trans herror
    exact .inr ⟨hstart, hstop⟩
  · rintro (hempty | ⟨hstart, hstop⟩)
    · exact ⟨"", between_of_clamp_le (covered_eq_empty_iff.1 hempty)⟩
    · exact between_of_isBoundary hstart hstop

/-- Spans that meet cover the bytes of the span from the start of the first to the end of the
second. -/
theorem covered_append (whole : String) {start middle stop : Nat} (hstart : start ≤ middle)
    (hstop : middle ≤ stop) :
    covered whole start middle ++ covered whole middle stop = covered whole start stop := by
  symm
  apply ByteArray.extract_eq_extract_append_extract
  · simp only [clamp]
    omega
  · simp only [clamp]
    omega

end Covered

/-! ## The text of a node -/

/-- The text of a node can be read exactly when the node covers no byte of the source text or both
its ends, moved to the end of the text where they lie beyond it, are boundaries; it is then the text
whose bytes the node covers. Otherwise it is said which bytes are refused: the first byte of a node
that starts inside a character, or the bytes from the last boundary on. It makes no difference
whether the source is given as a text or as its bytes, and the texts of two nodes that meet make up
the text of a node that covers both. -/
theorem nodeText_at_boundaries (whole : String) (node : Node) :
    ((∃ text, (Source.text whole).nodeText node = .ok text) ↔
      covered whole node.start node.stop = .empty ∨
        IsBoundary whole (clamp whole node.start) ∧ IsBoundary whole (clamp whole node.stop)) ∧
    (∀ text, (Source.text whole).nodeText node = .ok text ↔
      text.toUTF8 = covered whole node.start node.stop) ∧
    (covered whole node.start node.stop ≠ .empty → ¬IsBoundary whole (clamp whole node.start) →
      ∃ b, (covered whole node.start node.stop).data.toList.head? = some b ∧
        (Source.text whole).nodeText node = .error (.undecodable ⟨0, [b], .startByte⟩)) ∧
    (covered whole node.start node.stop ≠ .empty → IsBoundary whole (clamp whole node.start) →
      ¬IsBoundary whole (clamp whole node.stop) →
      ∃ position, IsLastBoundary whole (clamp whole node.start + position) (clamp whole node.stop) ∧
        (Source.text whole).nodeText node = .error (.undecodable ⟨position,
          (covered whole node.start node.stop).data.toList.drop position, .endOfData⟩)) ∧
    (Source.bytes whole.toUTF8).nodeText node = (Source.text whole).nodeText node ∧
    ∀ (next : Node) (text rest : String), node.start ≤ node.stop → node.stop = next.start →
      next.start ≤ next.stop → (Source.text whole).nodeText node = .ok text →
      (Source.text whole).nodeText next = .ok rest →
      (Source.text whole).nodeText { node with stop := next.stop } = .ok (text ++ rest) := by
  refine ⟨exists_between_iff, fun text => between_eq_ok_iff, between_of_start_inside,
    between_of_stop_inside, rfl, ?_⟩
  intro next text rest hfirst hmeet hsecond htext hrest
  -- Texts are joined as their bytes are.
  apply between_eq_ok_iff.2
  have hbytes := between_eq_ok_iff.1 htext
  have hrestBytes := between_eq_ok_iff.1 hrest
  rw [← hmeet] at hsecond hrestBytes
  rw [← covered_append whole hfirst hsecond, ← hbytes, ← hrestBytes]
  exact String.toByteArray_append

/-! ### A text of three bytes -/

namespace Accented

/-- A letter of one byte and one of two bytes. -/
def accentedPair : String := "aé"

/-- A node between two offsets. -/
def span (start stop : Nat) : Node := ⟨"identifier", start, stop, 0, [], []⟩

theorem isBoundary_one : IsBoundary accentedPair (clamp accentedPair 1) :=
  ⟨"a", "é", by decide, by decide⟩

theorem isBoundary_end : IsBoundary accentedPair (clamp accentedPair 7) :=
  ⟨"aé", "", by decide, by decide⟩

theorem not_isBoundary_two : ¬IsBoundary accentedPair (clamp accentedPair 2) := by
  have h : Inside accentedPair (clamp accentedPair 2) ['a'] 'é' [] 1 :=
    ⟨by decide, by decide, by decide, by decide⟩
  exact h.not_isBoundary

end Accented

open Accented

/-- The second letter can be read from its first byte to any offset from its end on, and not from
its second byte, nor up to it. -/
theorem nodeText_at_boundaries_accentedPair :
    (∃ text, (Source.text accentedPair).nodeText (span 1 7) = .ok text) ∧
    (Source.text accentedPair).nodeText (span 2 7) =
      .error (.undecodable ⟨0, [0xa9], .startByte⟩) ∧
    (∃ position refused, (Source.text accentedPair).nodeText (span 0 2) =
      .error (.undecodable ⟨position, refused, .endOfData⟩)) ∧
    (Source.text accentedPair).nodeText (span 0 7) = .ok ("a" ++ "é") := by
  have hne : covered accentedPair 2 7 ≠ .empty := fun h =>
    absurd (covered_eq_empty_iff.1 h) (by decide)
  have hcut : covered accentedPair 0 2 ≠ .empty := fun h =>
    absurd (covered_eq_empty_iff.1 h) (by decide)
  have hzero : IsBoundary accentedPair (clamp accentedPair 0) := ⟨"", "aé", by decide, by decide⟩
  refine ⟨?_, ?_, ?_, ?_⟩
  · obtain ⟨hread, -⟩ := nodeText_at_boundaries accentedPair (span 1 7)
    exact hread.2 (.inr ⟨isBoundary_one, isBoundary_end⟩)
  · obtain ⟨-, -, hstart, -⟩ := nodeText_at_boundaries accentedPair (span 2 7)
    obtain ⟨b, hhead, hb⟩ := hstart hne not_isBoundary_two
    have hfirst : (covered accentedPair 2 7).data.toList.head? = some 0xa9 := by decide
    obtain rfl := Option.some.inj (hfirst.symm.trans hhead)
    exact hb
  · obtain ⟨-, -, -, hstop, -⟩ := nodeText_at_boundaries accentedPair (span 0 2)
    obtain ⟨position, -, hposition⟩ := hstop hcut hzero not_isBoundary_two
    exact ⟨position, _, hposition⟩
  · obtain ⟨-, -, -, -, -, hmeet⟩ := nodeText_at_boundaries accentedPair (span 0 1)
    exact hmeet (span 1 7) "a" "é" (by decide) rfl (by decide)
      (between_eq_ok_iff.2 (by decide)) (between_eq_ok_iff.2 (by decide))

end Source

end SourceOutline
