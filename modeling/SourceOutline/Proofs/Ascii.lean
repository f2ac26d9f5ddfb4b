import SourceOutline.Source
import SourceOutline.Text.Search

/-!
# Texts of one byte per character

The nodes of a syntax tree count bytes, but names are cut out of a source text by counting
characters. In a text of ASCII characters the two are the same: what the bytes between two offsets
encode is what stands between the characters at these positions (`Source.between_of_isAscii`).
-/

namespace SourceOutline

namespace Text

/-- All characters of the text are ASCII. -/
def IsAscii (text : String) : Prop := ∀ c ∈ text.toList, c.toNat < 128

instance (text : String) : Decidable (IsAscii text) :=
  List.decidableBAll (fun c : Char => c.toNat < 128) text.toList

theorem utf8Size_of_ascii {c : Char} (h : c.toNat < 128) : c.utf8Size = 1 := by
  refine Char.utf8Size_eq_one_iff.2 (UInt32.le_iff_toNat_le.2 ?_)
  have hc : c.val.toNat < 128 := h
  have hbound : (127 : UInt32).toNat = 127 := rfl
  omega

theorem size_utf8Encode_singleton {c : Char} (h : c.toNat < 128) : [c].utf8Encode.size = 1 := by
  rw [List.utf8Encode_singleton, List.size_toByteArray, String.length_utf8EncodeChar,
    utf8Size_of_ascii h]

/-- Of ASCII characters each takes one byte, so positions of characters are offsets of bytes. -/
theorem extract_utf8Encode {cs : List Char} (h : ∀ c ∈ cs, c.toNat < 128) (start stop : Nat) :
    cs.utf8Encode.extract start stop = ((cs.take stop).drop start).utf8Encode := by
  induction cs generalizing start stop with
  | nil =>
    rw [List.take_nil, List.drop_nil, List.utf8Encode_nil]
    exact ByteArray.extract_eq_empty_iff.2 (Nat.le_trans (Nat.min_le_right _ _) (Nat.zero_le _))
  | cons c cs ih =>
    obtain ⟨hc, hcs⟩ := List.forall_mem_cons.1 h
    have hsize := size_utf8Encode_singleton hc
    rw [List.utf8Encode_cons, ByteArray.extract_append, hsize, ih hcs]
    cases stop with
    | zero =>
      have hnone : [c].utf8Encode.extract start 0 = ByteArray.empty :=
        ByteArray.extract_eq_empty_iff.2 (Nat.le_trans (Nat.min_le_left _ _) (Nat.zero_le _))
      simp [hnone]
    | succ stop =>
      cases start with
      | zero =>
        have hall : [c].utf8Encode.extract 0 (stop + 1) = [c].utf8Encode := by
          have hmax : max (stop + 1) [c].utf8Encode.size = stop + 1 := by omega
          rw [← hmax, ByteArray.extract_zero_max_size]
        rw [hall]
        exact List.utf8Encode_cons.symm
      | succ start =>
        have hnone : [c].utf8Encode.extract (start + 1) (stop + 1) = ByteArray.empty :=
          ByteArray.extract_eq_empty_iff.2 (by omega)
        simp [hnone]

theorem toList_toUTF8 (text : String) :
    text.toUTF8.data.toList = text.toList.flatMap String.utf8EncodeChar := by
  rw [String.toUTF8_eq_toByteArray, ← String.utf8Encode_toList]
  simp [List.utf8Encode]

/-- Reading what a text is written as gives the text back. -/
theorem Utf8.decode_utf8Encode (cs : List Char) :
    Utf8.decode cs.utf8Encode = .ok (String.ofList cs) := by
  have hread : String.fromUTF8? cs.utf8Encode = some (String.ofList cs) :=
    dif_pos ByteArray.isValidUTF8_utf8Encode
  rw [Utf8.decode, hread]

end Text

namespace Source

/-- Bytes are cut out as far as there are any. -/
theorem extract_min (bytes : ByteArray) (start stop : Nat) :
    bytes.extract (min start bytes.size) (min stop bytes.size) = bytes.extract start stop := by
  calc bytes.extract (min start bytes.size) (min stop bytes.size)
      = bytes.extract start (min stop bytes.size) :=
        ByteArray.extract_eq_extract_left.2 (by omega)
    _ = (bytes.extract 0 bytes.size).extract start stop := by
        rw [ByteArray.extract_extract, Nat.zero_add, Nat.zero_add]
    _ = bytes.extract start stop := by rw [ByteArray.extract_zero_size]

/-- The text between two offsets of an ASCII text is what stands between these positions. -/
theorem between_of_isAscii {text : String} (h : Text.IsAscii text) (start stop : Nat) :
    (Source.text text).between start stop = .ok (Text.slice text start stop) := by
  have hbytes : (Source.text text).toBytes = text.toList.utf8Encode :=
    String.toUTF8_eq_toByteArray.trans String.utf8Encode_toList.symm
  have hdecode := Text.Utf8.decode_utf8Encode ((text.toList.take stop).drop start)
  rw [← Text.extract_utf8Encode h, ← extract_min] at hdecode
  rw [between, hbytes, hdecode]
  rfl

/-- The text of a node of an ASCII text is what stands between its offsets. -/
theorem nodeText_of_isAscii {text : String} (h : Text.IsAscii text) (node : Node) :
    (Source.text text).nodeText node = .ok (Text.slice text node.start node.stop) :=
  between_of_isAscii h node.start node.stop

end Source

end SourceOutline
