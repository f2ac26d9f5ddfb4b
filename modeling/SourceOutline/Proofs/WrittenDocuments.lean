import SourceOutline.Json.Printer
import SourceOutline.Json.Reader

/-!
# Written documents are read back

The reader gives back every document that the printer writes, whatever the layout and whether
characters outside ASCII are escaped or not (`Json.read?_render`). So a text is the written form of
at most one document.

A text is read character by character: what `escapeChar` writes for a character is read as this
character (`Json.readText_escapeChar`). A number ends where no digit follows, so a document is read
back before anything that does not start with a digit (`Json.Ends`).
-/

namespace SourceOutline

namespace Text

/-- The four digits of a number of sixteen bits. -/
theorem hexDigits_four {n : Nat} (h : n < 65536) :
    hexDigits 4 n = [(n / 4096).digitChar, (n / 256 % 16).digitChar, (n / 16 % 16).digitChar,
      (n % 16).digitChar] := by
  -- Every digit more splits off the last one; the zeros in front stand for digits of value zero.
  have hsplit : ∀ {m : Nat}, 16 ≤ m →
      Nat.toDigits 16 m = Nat.toDigits 16 (m / 16) ++ [(m % 16).digitChar] := by
    intro m hm
    have happend := Nat.toDigits_append_toDigits (b := 16) (n := m / 16) (d := m % 16)
      (by omega) (by omega) (by omega)
    rw [Nat.toDigits_of_lt_base (b := 16) (n := m % 16) (by omega)] at happend
    rw [happend, Nat.div_add_mod]
  rw [hexDigits]
  by_cases h₁ : n < 16
  · rw [Nat.toDigits_of_lt_base h₁]
    have hzero : n / 4096 = 0 ∧ n / 256 % 16 = 0 ∧ n / 16 % 16 = 0 ∧ n % 16 = n := by omega
    simp only [hzero]
    rfl
  · rw [hsplit (by omega)]
    by_cases h₂ : n / 16 < 16
    · rw [Nat.toDigits_of_lt_base h₂]
      have hzero : n / 4096 = 0 ∧ n / 256 % 16 = 0 ∧ n / 16 % 16 = n / 16 := by omega
      simp only [hzero]
      rfl
    · rw [hsplit (by omega)]
      by_cases h₃ : n / 16 / 16 < 16
      · rw [Nat.toDigits_of_lt_base h₃]
        have hzero : n / 4096 = 0 ∧ n / 256 % 16 = n / 16 / 16 := by omega
        simp only [hzero]
        rfl
      · rw [hsplit (by omega), Nat.toDigits_of_lt_base (by omega)]
        have hdigits : n / 16 / 16 / 16 = n / 4096 ∧ n / 16 / 16 % 16 = n / 256 % 16 := by omega
        simp only [hdigits]
        rfl

end Text

namespace Json

/-! ## Escapes -/

theorem hexValue?_digitChar : ∀ d < 16, hexValue? d.digitChar = some d := by decide

/-- The four digits of a unit are read as the unit. -/
theorem unitValue?_digits {n : Nat} (h : n < 65536) :
    unitValue? (n / 4096).digitChar (n / 256 % 16).digitChar (n / 16 % 16).digitChar
      (n % 16).digitChar = some n := by
  rw [unitValue?, hexValue?_digitChar _ (by omega), hexValue?_digitChar _ (by omega),
    hexValue?_digitChar _ (by omega), hexValue?_digitChar _ (by omega)]
  have hsum : ((n / 4096 * 16 + n / 256 % 16) * 16 + n / 16 % 16) * 16 + n % 16 = n := by omega
  exact congrArg some hsum

/-- No character has the code of a surrogate. -/
theorem not_surrogate (c : Char) : c.toNat < 0xd800 ∨ 0xe000 ≤ c.toNat := by
  rcases c.valid with h | h
  · exact .inl h
  · exact .inr h.1

/-- A unit that is no surrogate is read as its character. -/
theorem readText_escapeUnit {c : Char} (h : c.toNat < 0x10000) (rest : List Char) :
    readText (escapeUnit c.toNat ++ rest) =
      (readText rest).map fun (cs, rest) => (c :: cs, rest) := by
  have hhigh : isHighSurrogate c.toNat = false := by
    have hc := not_surrogate c
    simp only [isHighSurrogate, Bool.and_eq_false_imp, decide_eq_true_eq, decide_eq_false_iff_not]
    omega
  rw [escapeUnit, Text.hexDigits_four h]
  simp only [List.cons_append, List.nil_append]
  rw [readText, unitValue?_digits h]
  simp only [hhigh, Bool.false_eq_true, if_false, Char.ofNat_toNat]

/-- A pair of surrogates is read as the character that it stands for. -/
theorem readText_escapePair {c : Char} (h : 0x10000 ≤ c.toNat) (rest : List Char) :
    readText (escapeUnit (0xd800 + (c.toNat - 0x10000) / 0x400) ++
        escapeUnit (0xdc00 + (c.toNat - 0x10000) % 0x400) ++ rest) =
      (readText rest).map fun (cs, rest) => (c :: cs, rest) := by
  have hbound : c.toNat < 0x110000 := by
    rcases c.valid with hc | hc
    · have : c.toNat < 0xd800 := hc
      omega
    · exact hc.2
  have hhigh : isHighSurrogate (0xd800 + (c.toNat - 0x10000) / 0x400) = true := by
    simp only [isHighSurrogate, Bool.and_eq_true, decide_eq_true_eq]
    omega
  have hlow : isLowSurrogate (0xdc00 + (c.toNat - 0x10000) % 0x400) = true := by
    simp only [isLowSurrogate, Bool.and_eq_true, decide_eq_true_eq]
    omega
  have hcode : 0x10000 + (0xd800 + (c.toNat - 0x10000) / 0x400 - 0xd800) * 0x400 +
      (0xdc00 + (c.toNat - 0x10000) % 0x400 - 0xdc00) = c.toNat := by omega
  rw [escapeUnit, escapeUnit, Text.hexDigits_four (by omega), Text.hexDigits_four (by omega)]
  simp only [List.cons_append, List.nil_append]
  rw [readText, unitValue?_digits (by omega)]
  simp only [hhigh, if_true]
  rw [unitValue?_digits (by omega)]
  simp only [hlow, if_true, hcode, Char.ofNat_toNat]

/-- A character that is not escaped is read as it is. -/
theorem readText_cons {c : Char} (hquote : c ≠ '\x22') (hbackslash : c ≠ '\\')
    (rest : List Char) :
    readText (c :: rest) = (readText rest).map fun (cs, rest) => (c :: cs, rest) := by
  rw [readText.eq_def]
  split
  · next heq => cases heq
  · next heq => exact absurd (List.cons.inj heq).1 hquote
  · next heq => exact absurd (List.cons.inj heq).1 hbackslash
  · next heq => exact absurd (List.cons.inj heq).1 hbackslash
  · next heq =>
    obtain ⟨rfl, rfl⟩ := List.cons.inj heq
    rfl

/-- What is written for a character is read as this character. -/
theorem readText_escapeChar (ascii : Bool) (c : Char) (rest : List Char) :
    readText (escapeChar ascii c ++ rest) =
      (readText rest).map fun (cs, rest) => (c :: cs, rest) := by
  rw [escapeChar]
  split
  · next h =>
    rcases (by simpa using h : c = '\x22' ∨ c = '\\') with rfl | rfl
    · rfl
    · rfl
  · next h =>
    simp only [Bool.or_eq_true, beq_iff_eq, not_or] at h
    split
    · next hc =>
      obtain rfl : c = '\n' := by simpa using hc
      rfl
    split
    · next hc =>
      obtain rfl : c = '\r' := by simpa using hc
      rfl
    split
    · next hc =>
      obtain rfl : c = '\t' := by simpa using hc
      rfl
    split
    · next hc =>
      obtain rfl : c = '\x0c' := by simpa using hc
      rfl
    split
    · next hc =>
      obtain rfl : c = '\x08' := by simpa using hc
      rfl
    split
    · next hc => exact readText_escapeUnit (by omega) rest
    split
    · rw [escapeUnits]
      split
      · next hc => exact readText_escapeUnit hc rest
      · next hc => exact readText_escapePair (by omega) rest
    · exact readText_cons h.1 h.2 rest

/-- A written text is read back, and the reading ends at its closing quote. -/
theorem readText_flatMap (ascii : Bool) (cs rest : List Char) :
    readText (cs.flatMap (escapeChar ascii) ++ '\x22' :: rest) = some (cs, rest) := by
  induction cs with
  | nil => rfl
  | cons c cs ih =>
    rw [List.flatMap_cons, List.append_assoc, readText_escapeChar, ih, Option.map_some]

/-! ## Numbers -/

/-- No digit follows. -/
def Ends (rest : List Char) : Prop := ∀ c ∈ rest.head?, c.isDigit = false

theorem ends_cons {c : Char} (h : c.isDigit = false) (rest : List Char) : Ends (c :: rest) := by
  intro d hd
  obtain rfl : c = d := by simpa using hd
  exact h

/-- The digits of a number are read as the number, when they end where they should. -/
theorem readNat_toDigits (n : Nat) {rest : List Char} (h : Ends rest) :
    readNat (Nat.toDigits 10 n ++ rest) = some (n, rest) := by
  have hdigits : ∀ c ∈ Nat.toDigits 10 n, c.isDigit = true := fun c hc =>
    Nat.isDigit_of_mem_toDigits (by omega) (by omega) hc
  have htake : rest.takeWhile Char.isDigit = [] := by
    cases rest with
    | nil => rfl
    | cons c rest => simp [h c rfl]
  have hdrop : rest.dropWhile Char.isDigit = rest := by
    cases rest with
    | nil => rfl
    | cons c rest => simp [h c rfl]
  have hvalue : digitsValue 0 (Nat.toDigits 10 n) = n :=
    Nat.ofDigitChars_toDigits (b := 10) (by omega) (by omega)
  rw [readNat, List.takeWhile_append_of_pos hdigits, List.dropWhile_append_of_pos hdigits, htake,
    hdrop, List.append_nil]
  split
  · next hnil => exact absurd hnil Nat.toDigits_ne_nil
  · rw [hvalue]

/-- A digit starts a number. -/
theorem exists_digit_toDigits (n : Nat) :
    ∃ c cs, Nat.toDigits 10 n = c :: cs ∧ c.isDigit = true := by
  cases hdigits : Nat.toDigits 10 n with
  | nil => exact absurd hdigits Nat.toDigits_ne_nil
  | cons c cs =>
    refine ⟨c, cs, rfl, Nat.isDigit_of_mem_toDigits (b := 10) (n := n) (by omega) (by omega) ?_⟩
    simp [hdigits]

/-! ## Blanks -/

theorem skipSpaces_append {gap : List Char} (h : ∀ c ∈ gap, isSpace c = true) (cs : List Char) :
    skipSpaces (gap ++ cs) = skipSpaces cs := List.dropWhile_append_of_pos h

theorem skipSpaces_cons {c : Char} (h : isSpace c = false) (cs : List Char) :
    skipSpaces (c :: cs) = c :: cs := by
  simp [skipSpaces, h]

/-- A new line is blank. -/
theorem isSpace_of_mem_newline {style : Style} {depth : Nat} :
    ∀ c ∈ style.newline depth, isSpace c = true := by
  intro c hc
  rw [Style.newline] at hc
  split at hc
  · cases hc
  · rcases List.mem_cons.1 hc with rfl | hc
    · rfl
    · rw [(List.mem_replicate.1 hc).2]
      rfl

/-- After the comma of a separator there are only blanks. -/
theorem exists_gap (style : Style) (depth : Nat) :
    ∃ gap, style.separator depth = ',' :: gap ∧ ∀ c ∈ gap, isSpace c = true := by
  rw [Style.separator]
  split
  · exact ⟨[' '], rfl, by simp [isSpace]⟩
  · exact ⟨_, rfl, isSpace_of_mem_newline⟩

/-! ## Documents -/

/-- A digit is no blank. -/
theorem isSpace_of_isDigit {c : Char} (h : c.isDigit = true) : isSpace c = false := by
  have hcode : 48 ≤ c.toNat := by
    simp only [Char.isDigit, Bool.and_eq_true, decide_eq_true_eq] at h
    exact UInt32.le_iff_toNat_le.1 h.1
  have hne : ∀ d : Char, d.toNat < 48 → c ≠ d := by
    rintro d hd rfl
    omega
  simp [isSpace, hne ' ' (by decide), hne '\n' (by decide), hne '\r' (by decide),
    hne '\t' (by decide)]

/-- A number may be followed by blanks and something that is no digit. -/
theorem ends_gap {gap : List Char} (hgap : ∀ c ∈ gap, isSpace c = true) {c : Char}
    (h : c.isDigit = false) (rest : List Char) : Ends (gap ++ c :: rest) := by
  cases gap with
  | nil => exact ends_cons h rest
  | cons d gap =>
    refine ends_cons ?_ _
    have hd := hgap d List.mem_cons_self
    cases hdigit : d.isDigit with
    | false => rfl
    | true =>
      rw [isSpace_of_isDigit hdigit] at hd
      cases hd

/-- A document starts with a character that is neither blank nor a closing bracket. -/
theorem exists_start (style : Style) (depth : Nat) (doc : Json) :
    ∃ c cs, doc.chars style depth = c :: cs ∧ isSpace c = false ∧ c ≠ ']' := by
  cases doc with
  | null => exact ⟨_, _, by rw [chars], rfl, by decide⟩
  | bool b => cases b <;> exact ⟨_, _, by rw [chars], rfl, by decide⟩
  | int n =>
    cases n with
    | ofNat n =>
      obtain ⟨c, cs, hcs, hc⟩ := exists_digit_toDigits n
      refine ⟨c, cs, by rw [chars, intChars, hcs], isSpace_of_isDigit hc, ?_⟩
      rintro rfl
      cases hc
    | negSucc n => exact ⟨_, _, by rw [chars, intChars], rfl, by decide⟩
  | text s => exact ⟨_, _, by rw [chars, textChars]; rfl, rfl, by decide⟩
  | list items =>
    cases items with
    | nil => exact ⟨'[', [']'], by rw [chars], rfl, by decide⟩
    | cons item items => exact ⟨'[', _, by rw [chars]; rfl, rfl, by decide⟩
  | table fields =>
    cases fields with
    | nil => exact ⟨'\x7b', ['\x7d'], by rw [chars], rfl, by decide⟩
    | cons field fields => exact ⟨'\x7b', _, by rw [chars]; rfl, rfl, by decide⟩

theorem skipSpaces_chars (style : Style) (depth : Nat) (doc : Json) (rest : List Char) :
    skipSpaces (doc.chars style depth ++ rest) = doc.chars style depth ++ rest := by
  obtain ⟨c, cs, hcs, hspace, -⟩ := exists_start style depth doc
  rw [hcs, List.cons_append, skipSpaces_cons hspace]

/-- What starts with a digit is read as a number. -/
theorem readValue_of_digit {fuel : Nat} {c : Char} {cs : List Char} (h : c.isDigit = true) :
    readValue (fuel + 1) (c :: cs) =
      (readNat (c :: cs)).map fun (n, rest) => (.int n, rest) := by
  rw [readValue, skipSpaces_cons (isSpace_of_isDigit h)]
  split
  case h_8 => rfl
  all_goals
    next heq =>
      obtain ⟨rfl, -⟩ := List.cons.inj heq
      cases h

/-- What starts with a quote is read as a text. -/
theorem readValue_quote (fuel : Nat) (cs : List Char) :
    readValue (fuel + 1) ('\x22' :: cs) =
      (readText cs).map fun (s, rest) => (.text (String.ofList s), rest) := rfl

theorem readValue_minus (fuel : Nat) (cs : List Char) :
    readValue (fuel + 1) ('-' :: cs) =
      (readNat cs).map fun (n, rest) => (.int (-(n : Int)), rest) := rfl

/-- A list whose bracket is not closed at once is read item by item. -/
theorem readValue_bracket {fuel : Nat} {cs ds after rest : List Char} {c : Char} {item : Json}
    {items : List Json} (hcs : skipSpaces cs = c :: ds) (hc : c ≠ ']')
    (hitem : readValue fuel (c :: ds) = some (item, after))
    (hitems : readItems fuel after = some (items, rest)) :
    readValue (fuel + 1) ('[' :: cs) = some (.list (item :: items), rest) := by
  rw [readValue, skipSpaces_cons rfl]
  split
  case h_6 heq =>
    obtain ⟨-, rfl⟩ := List.cons.inj heq
    rw [hcs]
    split
    · next heq => exact absurd (List.cons.inj heq).1 hc
    · change (readValue fuel (c :: ds)).bind _ = _
      rw [hitem]
      change (readItems fuel after).bind _ = _
      rw [hitems]
      rfl
  case h_8 hne _ => exact absurd rfl (hne cs)
  all_goals
    next heq => exact absurd (List.cons.inj heq).1 (by decide)

/-- A table whose brace is not closed at once is read field by field. -/
theorem readValue_brace {fuel : Nat} {cs ds after rest : List Char} {c : Char}
    {field : String × Json} {fields : List (String × Json)} (hcs : skipSpaces cs = c :: ds)
    (hc : c ≠ '\x7d') (hfield : readField fuel (c :: ds) = some (field, after))
    (hfields : readFields fuel after = some (fields, rest)) :
    readValue (fuel + 1) ('\x7b' :: cs) = some (.table (field :: fields), rest) := by
  rw [readValue, skipSpaces_cons rfl]
  split
  case h_7 heq =>
    obtain ⟨-, rfl⟩ := List.cons.inj heq
    rw [hcs]
    split
    · next heq => exact absurd (List.cons.inj heq).1 hc
    · change (readField fuel (c :: ds)).bind _ = _
      rw [hfield]
      change (readFields fuel after).bind _ = _
      rw [hfields]
      rfl
  case h_8 hne => exact absurd rfl (hne cs)
  all_goals
    next heq => exact absurd (List.cons.inj heq).1 (by decide)

/-- A written number is read back. -/
theorem readValue_intChars (n : Int) (fuel : Nat) {rest : List Char} (h : Ends rest) :
    readValue (fuel + 1) (intChars n ++ rest) = some (.int n, rest) := by
  cases n with
  | ofNat n =>
    obtain ⟨c, cs, hcs, hc⟩ := exists_digit_toDigits n
    have hread := readNat_toDigits n h
    rw [intChars]
    rw [hcs, List.cons_append] at hread ⊢
    rw [readValue_of_digit hc, hread]
    rfl
  | negSucc n =>
    rw [intChars, List.cons_append, readValue_minus, readNat_toDigits (n + 1) h]
    rfl

/-- Blanks before a document make no difference. -/
theorem readValue_gap {gap : List Char} (hgap : ∀ c ∈ gap, isSpace c = true) (fuel : Nat)
    (cs : List Char) : readValue fuel (gap ++ cs) = readValue fuel cs := by
  cases fuel with
  | zero => rw [readValue, readValue]
  | succ fuel => rw [readValue, readValue, skipSpaces_append hgap]

/-- A field is read back when its value is. -/
theorem readField_chars {gap : List Char} (hgap : ∀ c ∈ gap, isSpace c = true) {fuel : Nat}
    (ascii : Bool) (name : String) {value : Json} {cs rest : List Char}
    (hvalue : readValue fuel cs = some (value, rest)) :
    readField (fuel + 1) (gap ++ (textChars ascii name ++ (nameMark ++ cs))) =
      some ((name, value), rest) := by
  have hblank : ∀ c ∈ [' '], isSpace c = true := by simp [isSpace]
  have hquote : skipSpaces (gap ++ (textChars ascii name ++ (nameMark ++ cs))) =
      '\x22' :: (name.toList.flatMap (escapeChar ascii) ++ '\x22' :: ':' :: ([' '] ++ cs)) := by
    rw [skipSpaces_append hgap, textChars, nameMark]
    simp only [List.cons_append, List.append_assoc, List.nil_append]
    exact skipSpaces_cons rfl _
  rw [readField, hquote]
  change (readText _).bind _ = _
  rw [readText_flatMap]
  change (readValue fuel ([' '] ++ cs)).bind _ = _
  rw [readValue_gap hblank, hvalue]
  simp

/-- The list ends when its bracket is closed, perhaps after blanks. -/
theorem readItems_close {gap : List Char} (hgap : ∀ c ∈ gap, isSpace c = true) (fuel : Nat)
    (rest : List Char) : readItems (fuel + 1) (gap ++ ']' :: rest) = some ([], rest) := by
  rw [readItems, skipSpaces_append hgap, skipSpaces_cons rfl]
  rfl

/-- After a comma comes the next item. -/
theorem readItems_comma {fuel : Nat} {cs after rest : List Char} {item : Json} {items : List Json}
    (hitem : readValue fuel cs = some (item, after))
    (hitems : readItems fuel after = some (items, rest)) :
    readItems (fuel + 1) (',' :: cs) = some (item :: items, rest) := by
  rw [readItems, skipSpaces_cons rfl]
  change (readValue fuel cs).bind _ = _
  rw [hitem]
  change (readItems fuel after).bind _ = _
  rw [hitems]
  rfl

/-- The table ends when its brace is closed, perhaps after blanks. -/
theorem readFields_close {gap : List Char} (hgap : ∀ c ∈ gap, isSpace c = true) (fuel : Nat)
    (rest : List Char) : readFields (fuel + 1) (gap ++ '\x7d' :: rest) = some ([], rest) := by
  rw [readFields, skipSpaces_append hgap, skipSpaces_cons rfl]
  rfl

/-- After a comma comes the next field. -/
theorem readFields_comma {fuel : Nat} {cs after rest : List Char} {field : String × Json}
    {fields : List (String × Json)} (hfield : readField fuel cs = some (field, after))
    (hfields : readFields fuel after = some (fields, rest)) :
    readFields (fuel + 1) (',' :: cs) = some (field :: fields, rest) := by
  rw [readFields, skipSpaces_cons rfl]
  change (readField fuel cs).bind _ = _
  rw [hfield]
  change (readFields fuel after).bind _ = _
  rw [hfields]
  rfl

/-- What follows an item is no digit. -/
theorem ends_itemChars (style : Style) (depth : Nat) (items : List Json) {cs : List Char}
    (h : Ends cs) : Ends (itemChars style depth items ++ cs) := by
  cases items with
  | nil => rwa [itemChars]
  | cons item items =>
    obtain ⟨gap, hgap, -⟩ := exists_gap style depth
    rw [itemChars, hgap]
    exact ends_cons rfl _

/-- What follows a field is no digit. -/
theorem ends_fieldChars (style : Style) (depth : Nat) (fields : List (String × Json))
    {cs : List Char} (h : Ends cs) : Ends (fieldChars style depth fields ++ cs) := by
  cases fields with
  | nil => rwa [fieldChars]
  | cons field fields =>
    obtain ⟨gap, hgap, -⟩ := exists_gap style depth
    rw [fieldChars, hgap]
    exact ends_cons rfl _

mutual

/-- A written document is read back. Each step of the reader takes a character, so that the number
of characters is enough fuel. -/
theorem readValue_chars (style : Style) (depth : Nat) {rest : List Char} (hrest : Ends rest) :
    (doc : Json) → (fuel : Nat) → (doc.chars style depth).length < fuel →
      readValue fuel (doc.chars style depth ++ rest) = some (doc, rest)
  | _, 0, h => absurd h (Nat.not_lt_zero _)
  | .null, fuel + 1, _ => by
    rw [chars]
    rfl
  | .bool true, fuel + 1, _ => by
    rw [chars]
    rfl
  | .bool false, fuel + 1, _ => by
    rw [chars]
    rfl
  | .int n, fuel + 1, _ => by
    rw [chars]
    exact readValue_intChars n fuel hrest
  | .text s, fuel + 1, _ => by
    rw [chars, textChars]
    simp only [List.cons_append, List.append_assoc, List.nil_append]
    rw [readValue_quote, readText_flatMap]
    simp
  | .list [], fuel + 1, _ => by
    rw [chars]
    rfl
  | .list (item :: items), fuel + 1, h => by
    rw [chars] at h ⊢
    simp only [List.cons_append, List.append_assoc, List.nil_append, List.length_cons,
      List.length_append] at h ⊢
    have hblank : ∀ c ∈ style.newline depth, isSpace c = true := isSpace_of_mem_newline
    have hends := ends_itemChars style (depth + 1) items (ends_gap hblank (c := ']') rfl rest)
    have hitem := readValue_chars style (depth + 1) hends item fuel (by omega)
    have hitems := readItems_chars style (depth + 1) hblank rest items fuel (by omega)
    obtain ⟨c, cs, hcs, -, hc⟩ := exists_start style (depth + 1) item
    have hskip := skipSpaces_chars style (depth + 1) item
      (itemChars style (depth + 1) items ++ (style.newline depth ++ ']' :: rest))
    rw [hcs, List.cons_append] at hitem hskip
    refine readValue_bracket ?_ hc hitem hitems
    rw [skipSpaces_append isSpace_of_mem_newline, hcs, List.cons_append, hskip]
  | .table [], fuel + 1, _ => by
    rw [chars]
    rfl
  | .table ((name, value) :: fields), fuel + 1, h => by
    rw [chars] at h ⊢
    simp only [List.cons_append, List.append_assoc, List.nil_append, List.length_cons,
      List.length_append] at h ⊢
    have hblank : ∀ c ∈ style.newline depth, isSpace c = true := isSpace_of_mem_newline
    have hends := ends_fieldChars style (depth + 1) fields (ends_gap hblank (c := '\x7d') rfl rest)
    cases fuel with
    | zero => omega
    | succ fuel =>
      have hvalue := readValue_chars style (depth + 1) hends value fuel (by omega)
      have hfields := readFields_chars style (depth + 1) hblank rest fields (fuel + 1) (by omega)
      have hfield := readField_chars (List.forall_mem_nil _) style.ascii name hvalue
      refine readValue_brace (c := '\x22') ?_ (by decide) hfield hfields
      rw [skipSpaces_append isSpace_of_mem_newline]
      exact skipSpaces_cons rfl _

theorem readItems_chars (style : Style) (depth : Nat) {gap : List Char}
    (hgap : ∀ c ∈ gap, isSpace c = true) (rest : List Char) :
    (items : List Json) → (fuel : Nat) → (itemChars style depth items).length < fuel →
      readItems fuel (itemChars style depth items ++ (gap ++ ']' :: rest)) = some (items, rest)
  | _, 0, h => absurd h (Nat.not_lt_zero _)
  | [], fuel + 1, _ => by
    rw [itemChars]
    exact readItems_close hgap fuel rest
  | item :: items, fuel + 1, h => by
    obtain ⟨between, hbetween, hblank⟩ := exists_gap style depth
    rw [itemChars, hbetween] at h ⊢
    simp only [List.cons_append, List.append_assoc, List.length_cons, List.length_append] at h ⊢
    have hends := ends_itemChars style depth items (ends_gap hgap (c := ']') rfl rest)
    have hitem := readValue_chars style depth hends item fuel (by omega)
    have hitems := readItems_chars style depth hgap rest items fuel (by omega)
    rw [← readValue_gap hblank] at hitem
    exact readItems_comma hitem hitems

theorem readFields_chars (style : Style) (depth : Nat) {gap : List Char}
    (hgap : ∀ c ∈ gap, isSpace c = true) (rest : List Char) :
    (fields : List (String × Json)) → (fuel : Nat) →
      (fieldChars style depth fields).length < fuel →
      readFields fuel (fieldChars style depth fields ++ (gap ++ '\x7d' :: rest)) =
        some (fields, rest)
  | _, 0, h => absurd h (Nat.not_lt_zero _)
  | [], fuel + 1, _ => by
    rw [fieldChars]
    exact readFields_close hgap fuel rest
  | (name, value) :: fields, fuel + 1, h => by
    obtain ⟨between, hbetween, hblank⟩ := exists_gap style depth
    rw [fieldChars, hbetween] at h ⊢
    simp only [List.cons_append, List.append_assoc, List.length_cons, List.length_append] at h ⊢
    have hends := ends_fieldChars style depth fields (ends_gap hgap (c := '\x7d') rfl rest)
    have hmark : nameMark.length = 2 := rfl
    cases fuel with
    | zero => omega
    | succ fuel =>
      have hvalue := readValue_chars style depth hends value fuel (by omega)
      have hfields := readFields_chars style depth hgap rest fields (fuel + 1) (by omega)
      exact readFields_comma (readField_chars hblank style.ascii name hvalue) hfields

end

/-- A written document is read back, in every layout. -/
theorem read?_render (style : Style) (doc : Json) : read? (doc.render style) = some doc := by
  have hends : Ends [] := fun c hc => by cases hc
  have hread := readValue_chars style 0 hends doc (2 * (doc.chars style 0).length + 2) (by omega)
  rw [List.append_nil] at hread
  rw [read?, render, String.toList_ofList, String.length_ofList, hread]
  rfl

end Json

end SourceOutline
