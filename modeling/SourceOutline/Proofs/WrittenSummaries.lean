import SourceOutline.Summary
import SourceOutline.Proofs.WrittenDocuments

/-!
# A written summary tells everything

Summaries that differ anywhere have different documents (`Summary.document_injective`), and
documents are read back from what is written. So summaries that are written alike are the same, at
every depth: in a layout of the caller's choice as well as in the one of the command line
(`Summary.written_same_iff`).
-/

namespace SourceOutline

theorem Json.optionalText_injective {a b : Option String}
    (h : Json.optionalText a = Json.optionalText b) : a = b := by
  cases a with
  | none =>
    cases b with
    | none => rfl
    | some t => cases h
  | some s =>
    cases b with
    | none => cases h
    | some t => rw [Json.text.inj h]

theorem SymbolKind.word_injective {a b : SymbolKind} (h : a.word = b.word) : a = b := by
  have hread := ofWord_word a
  rw [h, ofWord_word] at hread
  exact (Except.ok.inj hread).symm

namespace Symbol

mutual

/-- Different symbols have different documents. -/
theorem document_injective : (a b : Symbol) → a.document = b.document → a = b
  | ⟨name, kind, line, signature, language, children⟩,
    ⟨name', kind', line', signature', language', children'⟩, h => by
    rw [document, document] at h
    simp only [Json.table.injEq, Json.text.injEq, Json.int.injEq, Json.list.injEq, List.cons.injEq,
      Prod.mk.injEq, true_and, and_true] at h
    obtain ⟨hname, hkind, hline, hsignature, hlanguage, hchildren⟩ := h
    rw [hname, SymbolKind.word_injective hkind, hline, Json.optionalText_injective hsignature,
      Json.optionalText_injective hlanguage, documents_injective children children' hchildren]

/-- Different forests have different documents. -/
theorem documents_injective : (xs ys : List Symbol) → documents xs = documents ys → xs = ys
  | [], [], _ => rfl
  | [], _ :: _, h => by
    rw [documents, documents] at h
    cases h
  | _ :: _, [], h => by
    rw [documents, documents] at h
    cases h
  | x :: xs, y :: ys, h => by
    rw [documents, documents] at h
    obtain ⟨hfirst, hrest⟩ := List.cons.inj h
    rw [document_injective x y hfirst, documents_injective xs ys hrest]

end

end Symbol

/-- Different records of files have different documents. -/
theorem FileRecord.document_injective {a b : FileRecord} (h : a.document = b.document) : a = b := by
  obtain ⟨path, language, lines, symbols, support⟩ := a
  obtain ⟨path', language', lines', symbols', support'⟩ := b
  simp only [document, Json.table.injEq, Json.text.injEq, Json.int.injEq, Json.bool.injEq,
    Json.list.injEq, List.cons.injEq, Prod.mk.injEq, true_and, and_true] at h
  obtain ⟨hpath, hlanguage, hlines, hsupport, hsymbols⟩ := h
  rw [hpath, hlanguage, hlines, hsupport, Symbol.documents_injective symbols symbols' hsymbols]

/-- A table whose values are all written in the same way tells the values, in their order. -/
theorem table_map_injective {α : Type} {write : α → Json}
    (hwrite : ∀ a b, write a = write b → a = b) {xs ys : List (String × α)}
    (h : Json.table (xs.map fun (name, a) => (name, write a)) =
      Json.table (ys.map fun (name, a) => (name, write a))) : xs = ys := by
  refine (List.map_inj_right ?_).1 (Json.table.inj h)
  rintro ⟨name, a⟩ ⟨name', a'⟩ heq
  obtain ⟨hname, ha⟩ := Prod.mk.inj heq
  rw [hname, hwrite a a' ha]

theorem countsDocument_injective {xs ys : List (String × Int)}
    (h : countsDocument xs = countsDocument ys) : xs = ys :=
  table_map_injective (fun _ _ => Json.int.inj) h

namespace Folder

mutual

/-- Different folders have different documents. -/
theorem document_injective : (a b : Folder) → a.document = b.document → a = b
  | ⟨path, name, files, folders, counts⟩, ⟨path', name', files', folders', counts'⟩, h => by
    rw [document, document] at h
    simp only [Json.table.injEq, Json.text.injEq, Json.list.injEq, List.cons.injEq, Prod.mk.injEq,
      true_and, and_true] at h
    obtain ⟨hpath, hname, hfiles, hfolders, hcounts⟩ := h
    have hrecords : files = files' :=
      (List.map_inj_right fun _ _ => FileRecord.document_injective).1 hfiles
    rw [hpath, hname, hrecords, documents_injective folders folders' hfolders,
      countsDocument_injective hcounts]

theorem documents_injective : (xs ys : List Folder) → documents xs = documents ys → xs = ys
  | [], [], _ => rfl
  | [], _ :: _, h => by
    rw [documents, documents] at h
    cases h
  | _ :: _, [], h => by
    rw [documents, documents] at h
    cases h
  | x :: xs, y :: ys, h => by
    rw [documents, documents] at h
    obtain ⟨hfirst, hrest⟩ := List.cons.inj h
    rw [document_injective x y hfirst, documents_injective xs ys hrest]

end

end Folder

namespace Summary

/-- Different summaries have different documents. -/
theorem document_injective {a b : Summary} (h : a.document = b.document) : a = b := by
  obtain ⟨name, rootPath, folder, languages, supported, totalFiles, totalLines⟩ := a
  obtain ⟨name', rootPath', folder', languages', supported', totalFiles', totalLines'⟩ := b
  simp only [document, Json.table.injEq, Json.text.injEq, Json.int.injEq, List.cons.injEq,
    Prod.mk.injEq, true_and, and_true] at h
  obtain ⟨⟨hname, hroot, hfiles, hlines, hlanguages, hsupported⟩, hfolder⟩ := h
  have hsupport : supported = supported' :=
    table_map_injective (fun _ _ => Json.bool.inj) (congrArg Json.table hsupported)
  rw [hname, hroot, hfiles, hlines, countsDocument_injective hlanguages, hsupport,
    Folder.document_injective folder folder' hfolder]

/-- What is written in any layout comes from one summary at most. -/
theorem eq_of_render_eq {summary other : Summary} {style style' : Json.Style}
    (h : summary.document.render style = other.document.render style') : summary = other := by
  have hread := Json.read?_render style summary.document
  rw [h, Json.read?_render] at hread
  exact document_injective (Option.some.inj hread).symm

/-- What is written is the rendered document. -/
theorem write_eq_ok {summary : Summary} {indent : Option Int} {text : String}
    (h : summary.write indent = .ok text) : summary.render indent = text := by
  rw [write] at h
  rcases hcheck : checkIndent indent with fault | _
  · rw [hcheck] at h
    cases h
  · rw [hcheck] at h
    exact Except.ok.inj h

/-- Two summaries are the same in all their parts exactly when some indentations let the same text
be written for both, and exactly when the command line writes the same text for both. -/
theorem written_same_iff (summary other : Summary) :
    ((∃ indent indent' text,
      summary.write indent = .ok text ∧ other.write indent' = .ok text) ↔ summary = other) ∧
    (summary.renderAscii = other.renderAscii ↔ summary = other) := by
  refine ⟨⟨?_, ?_⟩, eq_of_render_eq, fun h => h ▸ rfl⟩
  · rintro ⟨indent, indent', text, hsummary, hother⟩
    exact eq_of_render_eq ((write_eq_ok hsummary).trans (write_eq_ok hother).symm)
  · rintro rfl
    exact ⟨none, none, _, rfl, rfl⟩

end Summary

end SourceOutline
