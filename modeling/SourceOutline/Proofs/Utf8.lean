import SourceOutline.Proofs.Ascii

/-!
# Reading the bytes of texts

A character is written as one to four bytes. The first byte says how many there are, and all others
lie in a range in which no first byte lies (`IsTail`). So there are three ways in which bytes cut
out of a text can start: with a whole character, which is read (`pieces_char`); with a character
that is cut off, which is refused because the bytes end (`pieces_cut`); or inside a character, where
a single byte is refused because no character starts with it (`pieces_tail`).

The bytes of a text are all read, so bytes in which some are refused encode no text
(`decode_of_firstFlaw?`).
-/

namespace SourceOutline.Text.Utf8

/-! ## The bytes after the first -/

/-- Whether a byte goes on with a character. -/
def IsTail (b : UInt8) : Prop := 0x80 ≤ b.toNat ∧ b.toNat ≤ 0xbf

theorem isTail_iff {b : UInt8} : (0x80 ≤ b && b ≤ 0xbf) = true ↔ IsTail b := by
  simp only [Bool.and_eq_true, decide_eq_true_eq, UInt8.le_iff_toNat_le]
  rfl

/-- The number whose first bits are `code` and whose next bits some bytes give. -/
def extendCode (code : Nat) (tails : List UInt8) : Nat :=
  tails.foldl (fun code b => 64 * code + b.toNat % 64) code

theorem readTails_append {tails : List UInt8} (h : ∀ b ∈ tails, IsTail b) (size code : Nat)
    (rest : List UInt8) :
    readTails tails.length size code (tails ++ rest) =
      .char (Char.ofNat (extendCode code tails)) (size + tails.length) := by
  induction tails generalizing size code with
  | nil => rfl
  | cons b tails ih =>
    obtain ⟨hb, htails⟩ := List.forall_mem_cons.1 h
    rw [List.length_cons, List.cons_append, readTails, if_pos (isTail_iff.2 hb), ih htails,
      extendCode, extendCode, List.foldl_cons, Nat.add_right_comm, Nat.add_assoc]

/-- A character that is cut off after some of its bytes. -/
theorem readTails_of_lt {tails : List UInt8} (h : ∀ b ∈ tails, IsTail b) {needed : Nat}
    (hneeded : tails.length < needed) (size code : Nat) :
    readTails needed size code tails = .flaw .endOfData (size + tails.length) := by
  induction tails generalizing needed size code with
  | nil =>
    cases needed with
    | zero => simp at hneeded
    | succ needed => rfl
  | cons b tails ih =>
    obtain ⟨hb, htails⟩ := List.forall_mem_cons.1 h
    cases needed with
    | zero => simp at hneeded
    | succ needed =>
      rw [readTails, if_pos (isTail_iff.2 hb), ih htails (by simpa using hneeded),
        List.length_cons, Nat.add_right_comm, Nat.add_assoc]

/-- The second byte may follow the first one. -/
def Follows (lead second : UInt8) : Prop :=
  ((secondBounds lead).1 ≤ second && second ≤ (secondBounds lead).2) = true

theorem follows_of_isTail {lead second : UInt8} (h : IsTail second)
    (he0 : lead.toNat = 0xe0 → 0xa0 ≤ second.toNat) (hed : lead.toNat = 0xed → second.toNat ≤ 0x9f)
    (hf0 : lead.toNat = 0xf0 → 0x90 ≤ second.toNat)
    (hf4 : lead.toNat = 0xf4 → second.toNat ≤ 0x8f) : Follows lead second := by
  obtain ⟨hlow, hhigh⟩ := h
  have heq (n : UInt8) : (lead == n) = true ↔ lead.toNat = n.toNat := by
    rw [beq_iff_eq, UInt8.toNat_inj]
  simp only [Follows, secondBounds, heq, Bool.and_eq_true, decide_eq_true_eq, UInt8.le_iff_toNat_le]
  split
  · next h => exact ⟨he0 h, hhigh⟩
  split
  · next h => exact ⟨hlow, hed h⟩
  split
  · next h => exact ⟨hf0 h, hhigh⟩
  split
  · next h => exact ⟨hlow, hf4 h⟩
  · exact ⟨hlow, hhigh⟩

theorem readSecond_of_follows {lead second : UInt8} (h : Follows lead second) (needed code : Nat)
    (rest : List UInt8) :
    readSecond lead needed code (second :: rest) =
      readTails needed 2 (64 * code + second.toNat % 64) rest :=
  if_pos h

/-- What a first byte of a character with several bytes says about the others. -/
theorem step_of_lead {lead : UInt8} (hlow : 0xc2 ≤ lead.toNat) (hhigh : lead.toNat ≤ 0xf4)
    (rest : List UInt8) :
    step lead rest =
      if lead.toNat < 0xe0 then readSecond lead 0 (lead.toNat % 32) rest
      else if lead.toNat < 0xf0 then readSecond lead 1 (lead.toNat % 16) rest
      else readSecond lead 2 (lead.toNat % 8) rest := by
  have hlt (n : UInt8) : lead < n ↔ lead.toNat < n.toNat := UInt8.lt_iff_toNat_lt
  have hgt : 0xf4 < lead ↔ 0xf4 < lead.toNat := UInt8.lt_iff_toNat_lt
  have hascii : ¬lead < 0x80 := by
    rw [hlt, show (0x80 : UInt8).toNat = 0x80 from rfl]
    omega
  have hstart : ¬(lead < 0xc2 || 0xf4 < lead) = true := by
    simp only [Bool.or_eq_true, decide_eq_true_eq, hgt]
    rw [hlt, show (0xc2 : UInt8).toNat = 0xc2 from rfl]
    omega
  rw [step, if_neg hascii, if_neg hstart]
  simp only [hlt]
  rfl

/-! ## How characters are written -/

/-- A character is written as several bytes, and the first two tell the reader what to read. -/
structure Written (c : Char) (lead second : UInt8) (tails : List UInt8) : Prop where
  bytes : String.utf8EncodeChar c = lead :: second :: tails
  code : ∃ code, (∀ rest, step lead rest = readSecond lead tails.length code rest) ∧
    extendCode (64 * code + second.toNat % 64) tails = c.toNat
  isTail_second : IsTail second
  follows : Follows lead second
  isTail_tails : ∀ b ∈ tails, IsTail b

theorem toNat_ofNat {n : Nat} (h : n < 256) : (UInt8.ofNat n).toNat = n := by
  rw [UInt8.toNat_ofNat']
  omega

theorem isTail_ofNat (n : Nat) : IsTail (.ofNat (n % 64 + 128)) := by
  rw [IsTail, toNat_ofNat (by omega)]
  omega

section Written

variable {c : Char}

theorem written_two (hlow : 0x80 ≤ c.toNat) (hhigh : c.toNat ≤ 0x7ff) :
    Written c (.ofNat (c.toNat / 64 % 32 + 192)) (.ofNat (c.toNat % 64 + 128)) [] := by
  have hlead := toNat_ofNat (n := c.toNat / 64 % 32 + 192) (by omega)
  have hsecond := toNat_ofNat (n := c.toNat % 64 + 128) (by omega)
  refine ⟨?_, ⟨c.toNat / 64, ?_, ?_⟩, isTail_ofNat _, ?_, List.forall_mem_nil _⟩
  · rw [String.utf8EncodeChar]
    exact (if_neg (by change ¬c.toNat ≤ 127; omega)).trans (if_pos hhigh)
  · intro rest
    rw [step_of_lead (by omega) (by omega), if_pos (by omega), hlead]
    congr 1
    omega
  · rw [hsecond, extendCode, List.foldl_nil]
    omega
  · refine follows_of_isTail (isTail_ofNat _) ?_ ?_ ?_ ?_ <;> omega

theorem written_three (hlow : 0x800 ≤ c.toNat) (hhigh : c.toNat ≤ 0xffff) :
    Written c (.ofNat (c.toNat / 4096 % 16 + 224)) (.ofNat (c.toNat / 64 % 64 + 128))
      [.ofNat (c.toNat % 64 + 128)] := by
  have hvalid : c.toNat < 0xd800 ∨ 0xdfff < c.toNat ∧ c.toNat < 0x110000 := c.valid
  have hlead := toNat_ofNat (n := c.toNat / 4096 % 16 + 224) (by omega)
  have hsecond := toNat_ofNat (n := c.toNat / 64 % 64 + 128) (by omega)
  have hthird := toNat_ofNat (n := c.toNat % 64 + 128) (by omega)
  refine ⟨?_, ⟨c.toNat / 4096, ?_, ?_⟩, isTail_ofNat _, ?_,
    List.forall_mem_singleton.2 (isTail_ofNat _)⟩
  · rw [String.utf8EncodeChar]
    exact (if_neg (by change ¬c.toNat ≤ 127; omega)).trans
      ((if_neg (by change ¬c.toNat ≤ 2047; omega)).trans (if_pos hhigh))
  · intro rest
    rw [step_of_lead (by omega) (by omega), if_neg (by omega), if_pos (by omega), hlead]
    congr 1
    omega
  · rw [hsecond, extendCode, List.foldl_cons, List.foldl_nil, hthird]
    omega
  · refine follows_of_isTail (isTail_ofNat _) ?_ ?_ ?_ ?_ <;> omega

theorem written_four (hlow : 0x10000 ≤ c.toNat) :
    Written c (.ofNat (c.toNat / 262144 % 8 + 240)) (.ofNat (c.toNat / 4096 % 64 + 128))
      [.ofNat (c.toNat / 64 % 64 + 128), .ofNat (c.toNat % 64 + 128)] := by
  have hvalid : c.toNat < 0xd800 ∨ 0xdfff < c.toNat ∧ c.toNat < 0x110000 := c.valid
  have hlead := toNat_ofNat (n := c.toNat / 262144 % 8 + 240) (by omega)
  have hsecond := toNat_ofNat (n := c.toNat / 4096 % 64 + 128) (by omega)
  have hthird := toNat_ofNat (n := c.toNat / 64 % 64 + 128) (by omega)
  have hfourth := toNat_ofNat (n := c.toNat % 64 + 128) (by omega)
  refine ⟨?_, ⟨c.toNat / 262144, ?_, ?_⟩, isTail_ofNat _, ?_, ?_⟩
  · rw [String.utf8EncodeChar]
    exact (if_neg (by change ¬c.toNat ≤ 127; omega)).trans
      ((if_neg (by change ¬c.toNat ≤ 2047; omega)).trans
        (if_neg (by change ¬c.toNat ≤ 65535; omega)))
  · intro rest
    rw [step_of_lead (by omega) (by omega), if_neg (by omega), if_neg (by omega), hlead]
    congr 1
    omega
  · rw [hsecond, extendCode, List.foldl_cons, List.foldl_cons, List.foldl_nil, hthird, hfourth]
    omega
  · refine follows_of_isTail (isTail_ofNat _) ?_ ?_ ?_ ?_ <;> omega
  · simp only [List.forall_mem_cons]
    exact ⟨isTail_ofNat _, isTail_ofNat _, List.forall_mem_nil _⟩

end Written

theorem utf8EncodeChar_cases (c : Char) :
    (c.toNat < 0x80 ∧ String.utf8EncodeChar c = [.ofNat c.toNat]) ∨
      ∃ lead second tails, Written c lead second tails := by
  by_cases hone : c.toNat < 0x80
  · left
    refine ⟨hone, ?_⟩
    rw [String.utf8EncodeChar]
    exact if_pos (by change c.toNat ≤ 127; omega)
  by_cases htwo : c.toNat ≤ 0x7ff
  · exact .inr ⟨_, _, _, written_two (by omega) htwo⟩
  by_cases hthree : c.toNat ≤ 0xffff
  · exact .inr ⟨_, _, _, written_three (by omega) hthree⟩
  · exact .inr ⟨_, _, _, written_four (by omega)⟩

/-- Every byte of a character after its first one goes on with it. -/
theorem isTail_of_mem_drop {c : Char} {size : Nat} (hpos : 0 < size) {b : UInt8}
    (hb : b ∈ (String.utf8EncodeChar c).drop size) : IsTail b := by
  obtain ⟨n, rfl⟩ : ∃ n, size = n + 1 := ⟨size - 1, by omega⟩
  rcases utf8EncodeChar_cases c with ⟨-, hbytes⟩ | ⟨lead, second, tails, h⟩
  · rw [hbytes, List.drop_succ_cons, List.drop_nil] at hb
    exact absurd hb List.not_mem_nil
  · rw [h.bytes, List.drop_succ_cons] at hb
    rcases List.mem_cons.1 (List.mem_of_mem_drop hb) with rfl | htail
    · exact h.isTail_second
    · exact h.isTail_tails b htail

/-! ## What is read -/

/-- A whole character is read. -/
theorem pieces_char (position : Nat) (c : Char) (rest : List UInt8) :
    pieces position (String.utf8EncodeChar c ++ rest) =
      .inl c :: pieces (position + c.utf8Size) rest := by
  have hsize := String.length_utf8EncodeChar c
  rcases utf8EncodeChar_cases c with ⟨hascii, hbytes⟩ | ⟨lead, second, tails, h⟩
  · rw [hbytes] at hsize ⊢
    have hstep : step (.ofNat c.toNat) rest = .char c 1 := by
      have hlead := toNat_ofNat (n := c.toNat) (by omega)
      have hlt : UInt8.ofNat c.toNat < 0x80 := by
        rw [UInt8.lt_iff_toNat_lt, hlead]
        exact hascii
      rw [step, if_pos hlt, hlead, Char.ofNat_toNat]
    rw [List.singleton_append, pieces, hstep, ← hsize]
    rfl
  · obtain ⟨code, hstep, hcode⟩ := h.code
    rw [h.bytes, List.length_cons, List.length_cons] at hsize
    have hread : step lead (second :: (tails ++ rest)) = .char c c.utf8Size := by
      rw [hstep, readSecond_of_follows h.follows, readTails_append h.isTail_tails, hcode,
        Char.ofNat_toNat, ← hsize, Nat.add_comm]
    rw [h.bytes, List.cons_append, List.cons_append, pieces, hread, ← hsize]
    dsimp only
    rw [Nat.add_sub_cancel, ← List.cons_append, ← List.length_cons, List.drop_left]

/-- A character that is cut off is refused. -/
theorem pieces_cut (position : Nat) (c : Char) {size : Nat} (hpos : 0 < size)
    (hlt : size < c.utf8Size) :
    pieces position ((String.utf8EncodeChar c).take size) =
      [.inr ⟨position, (String.utf8EncodeChar c).take size, .endOfData⟩] := by
  have hsize := String.length_utf8EncodeChar c
  rcases utf8EncodeChar_cases c with ⟨-, hbytes⟩ | ⟨lead, second, tails, h⟩
  · rw [hbytes, List.length_singleton] at hsize
    omega
  · obtain ⟨code, hstep, -⟩ := h.code
    rw [h.bytes, List.length_cons, List.length_cons] at hsize
    obtain ⟨n, rfl⟩ : ∃ n, size = n + 1 := ⟨size - 1, by omega⟩
    have hread : step lead ((second :: tails).take n) = .flaw .endOfData (n + 1) := by
      rw [hstep]
      cases n with
      | zero => rfl
      | succ n =>
        have hlength : (tails.take n).length = n := by
          rw [List.length_take]
          omega
        rw [List.take_succ_cons, readSecond_of_follows h.follows,
          readTails_of_lt (fun b hb => h.isTail_tails b (List.mem_of_mem_take hb)) (by omega),
          hlength]
        congr 1
        omega
    rw [h.bytes, List.take_succ_cons, pieces, hread]
    dsimp only
    rw [← List.take_succ_cons, List.take_take, Nat.min_self, Nat.add_sub_cancel,
      List.drop_eq_nil_of_le (by rw [List.length_take]; omega), pieces]

/-- A byte that goes on with a character starts none. -/
theorem pieces_tail (position : Nat) {b : UInt8} (h : IsTail b) (rest : List UInt8) :
    pieces position (b :: rest) =
      .inr ⟨position, [b], .startByte⟩ :: pieces (position + 1) rest := by
  obtain ⟨hlow, hhigh⟩ := h
  have hlt (n : UInt8) : b < n ↔ b.toNat < n.toNat := UInt8.lt_iff_toNat_lt
  have hstep : step b rest = .flaw .startByte 1 := by
    have hascii : ¬b < 0x80 := by
      rw [hlt, show (0x80 : UInt8).toNat = 0x80 from rfl]
      omega
    have hstart : b < 0xc2 := by
      rw [hlt, show (0xc2 : UInt8).toNat = 0xc2 from rfl]
      omega
    rw [step, if_neg hascii, if_pos (by simp [hstart])]
  rw [pieces, hstep]
  rfl

/-- The bytes of some characters. -/
def encode (cs : List Char) : List UInt8 := cs.flatMap String.utf8EncodeChar

@[simp] theorem encode_nil : encode [] = [] := rfl

@[simp] theorem encode_cons (c : Char) (cs : List Char) :
    encode (c :: cs) = String.utf8EncodeChar c ++ encode cs := rfl

@[simp] theorem encode_append (cs ds : List Char) : encode (cs ++ ds) = encode cs ++ encode ds :=
  List.flatMap_append

/-- Whole characters are read one after the other. -/
theorem pieces_encode_append (position : Nat) (cs : List Char) (rest : List UInt8) :
    pieces position (encode cs ++ rest) =
      cs.map .inl ++ pieces (position + (encode cs).length) rest := by
  induction cs generalizing position with
  | nil => rfl
  | cons c cs ih =>
    rw [encode_cons, List.append_assoc, pieces_char, ih, List.length_append,
      String.length_utf8EncodeChar, Nat.add_assoc]
    rfl

/-! ## Byte arrays -/

theorem toList_loop (bytes : ByteArray) (i : Nat) (done : List UInt8) :
    ByteArray.toList.loop bytes i done = done.reverse ++ bytes.data.toList.drop i := by
  fun_induction ByteArray.toList.loop bytes i done with
  | case1 i done h ih =>
    have hlt : i < bytes.data.toList.length := h
    have hget : bytes.get! i = bytes.data.toList[i] := getElem!_pos bytes.data i h
    rw [ih, List.drop_eq_getElem_cons hlt, hget, List.reverse_cons, List.append_assoc]
    rfl
  | case2 i done h =>
    rw [List.drop_eq_nil_of_le (by simpa using Nat.le_of_not_lt h), List.append_nil]

theorem toList_eq (bytes : ByteArray) : bytes.toList = bytes.data.toList := by
  rw [ByteArray.toList, toList_loop]
  rfl

theorem toList_toUTF8 (text : String) : text.toUTF8.toList = encode text.toList :=
  (toList_eq _).trans (Text.toList_toUTF8 text)

theorem firstFlaw?_toUTF8 (text : String) : firstFlaw? text.toUTF8 = none := by
  have hpieces : pieces 0 text.toUTF8.toList = text.toList.map .inl := by
    rw [toList_toUTF8]
    simpa [pieces] using pieces_encode_append 0 text.toList []
  rw [firstFlaw?, hpieces, List.findSome?_eq_none_iff]
  intro piece hpiece
  obtain ⟨c, -, rfl⟩ := List.mem_map.1 hpiece
  rfl

variable {bytes : ByteArray}

theorem decode_eq_ok_iff {text : String} : decode bytes = .ok text ↔ text.toUTF8 = bytes := by
  constructor
  · intro h
    rw [decode, String.fromUTF8?] at h
    split at h
    · next read hread =>
      split at hread
      · rw [← Except.ok.inj h, ← Option.some.inj hread]
        rfl
      · cases hread
    · cases h
  · rintro rfl
    rw [String.toUTF8_eq_toByteArray, ← String.utf8Encode_toList, decode_utf8Encode,
      String.ofList_toList]

/-- Bytes of which some are refused encode no text. -/
theorem decode_of_firstFlaw? {flaw : Flaw} (h : firstFlaw? bytes = some flaw) :
    decode bytes = .error flaw := by
  cases hread : decode bytes with
  | ok text =>
    rw [← decode_eq_ok_iff.1 hread, firstFlaw?_toUTF8] at h
    cases h
  | error other =>
    rw [decode] at hread
    split at hread
    · cases hread
    · rw [h] at hread
      exact hread.symm

theorem decode_tail {b : UInt8} {rest : List UInt8} (hbytes : bytes.data.toList = b :: rest)
    (h : IsTail b) : decode bytes = .error ⟨0, [b], .startByte⟩ := by
  apply decode_of_firstFlaw?
  rw [firstFlaw?, toList_eq, hbytes, pieces_tail 0 h]
  rfl

theorem decode_cut {cs : List Char} {c : Char} {size : Nat}
    (hbytes : bytes.data.toList = encode cs ++ (String.utf8EncodeChar c).take size)
    (hpos : 0 < size) (hlt : size < c.utf8Size) :
    decode bytes =
      .error ⟨(encode cs).length, (String.utf8EncodeChar c).take size, .endOfData⟩ := by
  apply decode_of_firstFlaw?
  rw [firstFlaw?, toList_eq, hbytes, pieces_encode_append, pieces_cut _ c hpos hlt,
    List.findSome?_append]
  have hnone : (cs.map (Sum.inl : Char → Char ⊕ Flaw)).findSome? Sum.getRight? = none := by
    simp
  rw [hnone, Nat.zero_add]
  rfl

end SourceOutline.Text.Utf8
