import Lanewise.Proofs.Document.Codec
import Lanewise.Proofs.Toml.Outline

namespace Lanewise.Toml

variable {outline : Outline} {outlines : List Outline} {path key : String}
  {entry : String × Document} {lines entries : List (String × Document)}
  {lists : List (String × List (List (String × Document)))}

theorem below_empty (key : String) : below "" key = key := if_pos rfl

theorem below_bareKey (bare : isBareKey key) (inner : String) :
    below key inner = key ++ "." ++ inner := by
  refine if_neg ?_
  rintro rfl
  cases bare

theorem hasHeader_tables {elements : List (List (String × Document))} (filled : elements ≠ []) :
    hasHeader (.seq (elements.map .map)) := by
  obtain ⟨element, elements, rfl⟩ := List.exists_cons_of_ne_nil filled
  simp [hasHeader, isMap]

theorem plainLines_lists (filled : ∀ list ∈ lists, list.2 ≠ []) :
    plainLines (lines ++ lists.map listEntry) = plainLines lines := by
  have dropped : (lists.map listEntry).filter (fun entry => !hasHeader entry.2) = [] := by
    refine List.filter_eq_nil_iff.2 fun entry listed => ?_
    obtain ⟨list, member, rfl⟩ := List.mem_map.1 listed
    simp [listEntry, hasHeader_tables (filled list member)]
  rw [plainLines, List.filter_append, dropped, List.append_nil, plainLines]

theorem tableBlocks_line (flat : entry.2.isFlat) (rest : List (String × Document)) :
    tableBlocks path (entry :: rest) = tableBlocks path rest := by
  have no_header := hasHeader_of_isFlat flat
  obtain ⟨key, value⟩ := entry
  cases value with
  | map entries => cases flat
  | sections items => cases flat
  | seq items => simp [tableBlocks, no_header]
  | _ => simp [tableBlocks]

theorem tableBlocks_lines (flat : ∀ entry ∈ lines, entry.2.isFlat)
    (rest : List (String × Document)) :
    tableBlocks path (lines ++ rest) = tableBlocks path rest := by
  induction lines with
  | nil => rfl
  | cons entry lines ih =>
      rw [List.cons_append, tableBlocks_line (flat entry List.mem_cons_self)]
      exact ih fun entry listed => flat entry (List.mem_cons_of_mem _ listed)

theorem isFlat_of_isLine (line : isLine entry) : entry.2.isFlat := (Bool.and_eq_true_iff.1 line).2

theorem elementBlocks_elements (bare : isBareKey key) (inner : String)
    {elements : List (List (String × Document))}
    (fine : ∀ element ∈ elements, ∀ entry ∈ element, isLine entry) :
    (elementBlocks (below key inner) (elements.map .map)).map String.toList =
      elements.map fun element => (Block.element key inner element).text := by
  induction elements with
  | nil => simp [elementBlocks]
  | cons element elements ih =>
      have flat : ∀ entry ∈ element, entry.2.isFlat := fun entry listed =>
        isFlat_of_isLine (fine element List.mem_cons_self entry listed)
      have no_tables : tableBlocks (below key inner) element = [] := by
        rw [← List.append_nil element, tableBlocks_lines flat, tableBlocks]
      have later := ih fun element listed => fine element (List.mem_cons_of_mem _ listed)
      rw [List.map_cons, elementBlocks, no_tables, List.singleton_append, List.map_cons, later,
        List.map_cons]
      refine congrArg (· :: _) ?_
      simp [Block.text, Block.header, Block.lines, plainLines_eq flat, below_bareKey bare]

theorem tableBlocks_lists (bare : isBareKey key) (filled : ∀ list ∈ lists, list.2 ≠ [])
    (fine : ∀ list ∈ lists, ∀ element ∈ list.2, ∀ entry ∈ element, isLine entry) :
    (tableBlocks key (lists.map listEntry)).map String.toList =
      (lists.flatMap fun list => list.2.map (.element key list.1)).map Block.text := by
  induction lists with
  | nil => simp [tableBlocks]
  | cons list lists ih =>
      have later := ih (fun list listed => filled list (List.mem_cons_of_mem _ listed))
        (fun list listed => fine list (List.mem_cons_of_mem _ listed))
      have first := elementBlocks_elements bare list.1 (fine list List.mem_cons_self)
      have header := hasHeader_tables (filled list List.mem_cons_self)
      rw [List.map_cons, listEntry, tableBlocks, if_pos header, List.map_append, first, later,
        List.flatMap_cons, List.map_append, List.map_map]
      rfl

theorem tableBlocks_entry (fine : outline.Fine) (rest : List (String × Document)) :
    (tableBlocks "" (outline.entry :: rest)).map String.toList =
      outline.blocks.map Block.text ++ (tableBlocks "" rest).map String.toList := by
  have filled := fun list listed => (fine.lists list listed).2
  have flat : ∀ entry ∈ outline.lines, entry.2.isFlat := fun entry listed =>
    isFlat_of_isLine (fine.lines entry listed)
  have lists := tableBlocks_lists fine.key filled
    fun list listed element member => (fine.elements list listed element member).1
  have first : ("[" ++ outline.key ++ "]\n" ++ plainLines outline.entries).toList =
      (Block.table outline.key outline.lines).text := by
    rw [Outline.entries, plainLines_lists filled]
    simp [Block.text, Block.header, Block.lines, plainLines_eq flat]
  rw [Outline.entry, tableBlocks, below_empty, List.cons_append, List.map_cons, List.map_append,
    first, Outline.entries, tableBlocks_lines flat, lists, Outline.blocks, List.map_cons,
    List.cons_append]

theorem tableBlocks_outlines (fine : ∀ outline ∈ outlines, outline.Fine) :
    (tableBlocks "" (outlines.map Outline.entry)).map String.toList =
      (outlines.flatMap Outline.blocks).map Block.text := by
  induction outlines with
  | nil => simp [tableBlocks]
  | cons outline outlines ih =>
      have later := ih fun outline listed => fine outline (List.mem_cons_of_mem _ listed)
      rw [List.map_cons, tableBlocks_entry (fine outline List.mem_cons_self), later,
        List.flatMap_cons, List.map_append]

theorem plainLines_outlines (outlines : List Outline) :
    plainLines (outlines.map Outline.entry) = "" := by
  have dropped : (outlines.map Outline.entry).filter (fun entry => !hasHeader entry.2) = [] := by
    refine List.filter_eq_nil_iff.2 fun entry listed => ?_
    obtain ⟨outline, -, rfl⟩ := List.mem_map.1 listed
    simp [Outline.entry, hasHeader]
  rw [plainLines, dropped]
  rfl

theorem write_outlines (fine : ∀ outline ∈ outlines, outline.Fine) :
    (write (outlines.map Outline.entry)).toList =
      ['\n'].intercalate ((outlines.flatMap Outline.blocks).map Block.text) := by
  simp [write, plainLines_outlines, String.toList_intercalate, tableBlocks_outlines fine]

theorem fine_blocks (fine : outline.Fine) : ∀ block ∈ outline.blocks, block.Fine := by
  intro block listed
  obtain rfl | listed := List.mem_cons.1 listed
  · exact ⟨fine.key, fine.lines⟩
  · obtain ⟨list, list_listed, member⟩ := List.mem_flatMap.1 listed
    obtain ⟨element, element_listed, rfl⟩ := List.mem_map.1 member
    exact ⟨Bool.and_eq_true_iff.2 ⟨fine.key, (fine.lists list list_listed).1⟩,
      (fine.elements list list_listed element element_listed).1⟩

theorem read?_write (fine : ∀ outline ∈ outlines, outline.Fine)
    (apart : (outlines.map (·.key)).Nodup) :
    read? (write (outlines.map Outline.entry)) = some (outlines.map Outline.again) := by
  have blocks_fine : ∀ block ∈ outlines.flatMap Outline.blocks, block.Fine := by
    intro block listed
    obtain ⟨outline, member, listed⟩ := List.mem_flatMap.1 listed
    exact fine_blocks (fine outline member) block listed
  have parsed := wholeText_blocks blocks_fine
  rw [← write_outlines fine] at parsed
  simp [read?, Parser.parseAll_of_some parsed, tabulate_blocks fine apart, entryDocuments_node]

theorem isPlain_of_isScalar {document : Document} (scalar : document.isScalar) :
    document.isPlain := by
  cases document with
  | bool value => rfl
  | text value => rfl
  | int value => exact scalar
  | _ => cases scalar

theorem isPlain_of_isFlat {document : Document} (flat : document.isFlat) : document.isPlain := by
  cases document with
  | seq items =>
      exact Document.allPlain_iff.2 fun item listed =>
        isPlain_of_isScalar (List.all_eq_true.1 flat item listed)
  | _ => exact isPlain_of_isScalar flat

theorem similarEntries_lines (fine : ∀ entry ∈ lines, isLine entry) :
    Document.SimilarEntries lines lines :=
  Document.similarEntries_self lines (Document.entriesPlain_iff.2 fun entry listed =>
    isPlain_of_isFlat (isFlat_of_isLine (fine entry listed)))

theorem similar_again (fine : outline.Fine) :
    outline.entry.2.Similar outline.again.2 := by
  refine .map (Document.similarEntries_append (similarEntries_lines fine.lines) ?_)
  refine Document.similarEntries_map _ fun list listed => .sections ?_
  exact Document.similarItems_map fun element member =>
    .map (similarEntries_lines (fine.elements list listed element member).1)

theorem similarEntries_again (fine : ∀ outline ∈ outlines, outline.Fine) :
    Document.SimilarEntries (outlines.map Outline.entry) (outlines.map Outline.again) :=
  Document.similarEntries_map Outline.key fun outline listed =>
    similar_again (fine outline listed)

end Lanewise.Toml
