import Lanewise.Proofs.Toml.Lines

namespace Lanewise.Toml

def listEntry (list : String × List (List (String × Document))) : String × Document :=
  (list.1, .seq (list.2.map .map))

def lineNode (entry : String × Document) : String × Node := (entry.1, .value entry.2)

def listNode (list : String × List (List (String × Document))) : String × Node :=
  (list.1, .tables (list.2.map (·.map lineNode)))

structure Outline where
  key : String
  lines : List (String × Document)
  lists : List (String × List (List (String × Document)))

namespace Outline

def entries (outline : Outline) : List (String × Document) :=
  outline.lines ++ outline.lists.map listEntry

def entry (outline : Outline) : String × Document := (outline.key, .map outline.entries)

def again (outline : Outline) : String × Document :=
  (outline.key, .map (outline.lines ++ outline.lists.map fun list =>
    (list.1, .sections (list.2.map .map))))

def blocks (outline : Outline) : List Block :=
  .table outline.key outline.lines ::
    outline.lists.flatMap fun list => list.2.map (.element outline.key list.1)

def node (outline : Outline) : String × Node :=
  (outline.key, .table .header (outline.lines.map lineNode ++ outline.lists.map listNode))

structure Fine (outline : Outline) : Prop where
  key : isBareKey outline.key
  lines : ∀ entry ∈ outline.lines, isLine entry
  lists : ∀ list ∈ outline.lists, isBareKey list.1 ∧ list.2 ≠ []
  elements : ∀ list ∈ outline.lists, ∀ element ∈ list.2,
    (∀ entry ∈ element, isLine entry) ∧ (element.map (·.1)).Nodup
  apart : (outline.lines.map (·.1) ++ outline.lists.map (·.1)).Nodup

end Outline

variable {outline : Outline} {outlines : List Outline} {entries : Entries} {key : String}
  {node old : Node}

theorem find?_eq_none_of_absent (absent : key ∉ entries.map (·.1)) :
    entries.find? (·.1 == key) = none := by
  rw [List.find?_eq_none]
  rintro entry listed found
  exact absent (List.mem_map.2 ⟨entry, listed, by simpa using found⟩)

theorem get?_eq_none (absent : key ∉ entries.map (·.1)) : entries.get? key = none := by
  rw [Entries.get?, find?_eq_none_of_absent absent]
  rfl

theorem get?_concat (absent : key ∉ entries.map (·.1)) :
    Entries.get? key (entries ++ [(key, node)]) = some node := by
  rw [Entries.get?, List.find?_append, find?_eq_none_of_absent absent]
  simp

theorem replace_concat (absent : key ∉ entries.map (·.1)) :
    Entries.replace key node (entries ++ [(key, old)]) = entries ++ [(key, node)] := by
  have kept :
      entries.map (fun entry => if entry.1 == key then (key, node) else entry) = entries := by
    refine (List.map_congr_left fun entry listed => ?_).trans (List.map_id entries)
    rw [if_neg]
    · rfl
    · intro same
      exact absent (List.mem_map.2 ⟨entry, listed, by simpa using same⟩)
  rw [Entries.replace, List.map_append, kept]
  simp

theorem descend_last (change : Origin → Entries → Option Entries) {inner changed : Entries}
    (absent : key ∉ entries.map (·.1)) (done : change .header inner = some changed) (own : Origin) :
    descend .passed change [key] own (entries ++ [(key, .table .header inner)]) =
      some (entries ++ [(key, .table .header changed)]) := by
  rw [descend, get?_concat absent]
  simp only [descend, done]
  rw [if_neg (by simp)]
  exact congrArg some (replace_concat absent)

theorem not_mem_of_nodup {before after : List String}
    (nodup : (before ++ key :: after).Nodup) : key ∉ before :=
  fun listed => (List.nodup_append.1 nodup).2.2 key listed key List.mem_cons_self rfl

theorem foldlM_assign {lines : List (String × Document)}
    (nodup : (entries.map (·.1) ++ lines.map (·.1)).Nodup) :
    (lines.map entryAssignment).foldlM assign entries = some (entries ++ lines.map lineNode) := by
  induction lines generalizing entries with
  | nil => simp
  | cons line lines ih =>
      have added : assign entries (entryAssignment line) = some (entries ++ [lineNode line]) := by
        have absent := get?_eq_none (not_mem_of_nodup nodup)
        simp [assign, entryAssignment, descend, putValue, absent, lineNode]
      have apart : ((entries ++ [lineNode line]).map (·.1) ++ lines.map (·.1)).Nodup := by
        simpa [lineNode] using nodup
      rw [List.map_cons, List.foldlM_cons, added]
      exact (ih apart).trans (by simp)

theorem foldlM_assign_nil {lines : List (String × Document)} (nodup : (lines.map (·.1)).Nodup) :
    (lines.map entryAssignment).foldlM assign [] = some (lines.map lineNode) :=
  foldlM_assign nodup

theorem addSection_table {lines : List (String × Document)} (absent : key ∉ entries.map (·.1))
    (nodup : (lines.map (·.1)).Nodup) :
    addSection entries (Block.table key lines).part =
      some (entries ++ [(key, .table .header (lines.map lineNode))]) := by
  simp [addSection, Block.part, Block.path, Block.isElement, Block.lines, descend, putTable,
    get?_eq_none absent, foldlM_assign_nil nodup]

theorem foldlM_addSection_elements {inner : Entries} {list : String}
    {elements : List (List (String × Document))} (tables : List Entries)
    (absent : key ∉ entries.map (·.1)) (fresh : list ∉ inner.map (·.1))
    (nodup : ∀ element ∈ elements, (element.map (·.1)).Nodup) :
    (elements.map fun element => (Block.element key list element).part).foldlM addSection
        (entries ++ [(key, .table .header (inner ++ [(list, .tables tables)]))]) =
      some (entries ++ [(key, .table .header
        (inner ++ [(list, .tables (tables ++ elements.map (·.map lineNode)))]))]) := by
  induction elements generalizing tables with
  | nil => simp
  | cons element elements ih =>
      have put : putElement ⟨[key], list⟩ (element.map entryAssignment)
          (inner ++ [(list, .tables tables)]) =
            some (inner ++ [(list, .tables (tables ++ [element.map lineNode]))]) := by
        simp [putElement, get?_concat fresh,
          foldlM_assign_nil (nodup element List.mem_cons_self), replace_concat fresh]
      have added : addSection
          (entries ++ [(key, .table .header (inner ++ [(list, .tables tables)]))])
          (Block.element key list element).part =
            some (entries ++ [(key, .table .header
              (inner ++ [(list, .tables (tables ++ [element.map lineNode]))]))]) :=
        descend_last _ absent put .header
      have later := ih (tables ++ [element.map lineNode])
        fun element listed => nodup element (List.mem_cons_of_mem _ listed)
      rw [List.map_cons, List.foldlM_cons, added]
      exact later.trans (by simp)

theorem foldlM_addSection_list {inner : Entries} {list : String}
    {elements : List (List (String × Document))} (filled : elements ≠ [])
    (absent : key ∉ entries.map (·.1)) (fresh : list ∉ inner.map (·.1))
    (nodup : ∀ element ∈ elements, (element.map (·.1)).Nodup) :
    (elements.map fun element => (Block.element key list element).part).foldlM addSection
        (entries ++ [(key, .table .header inner)]) =
      some (entries ++ [(key, .table .header
        (inner ++ [(list, .tables (elements.map (·.map lineNode)))]))]) := by
  obtain ⟨element, elements, rfl⟩ := List.exists_cons_of_ne_nil filled
  have put : putElement ⟨[key], list⟩ (element.map entryAssignment) inner =
      some (inner ++ [(list, .tables [element.map lineNode])]) := by
    simp [putElement, get?_eq_none fresh, foldlM_assign_nil (nodup element List.mem_cons_self)]
  have added : addSection (entries ++ [(key, .table .header inner)])
      (Block.element key list element).part =
        some (entries ++ [(key, .table .header
          (inner ++ [(list, .tables [element.map lineNode])]))]) :=
    descend_last _ absent put .header
  rw [List.map_cons, List.foldlM_cons, added]
  exact foldlM_addSection_elements [element.map lineNode] absent fresh
    fun element listed => nodup element (List.mem_cons_of_mem _ listed)

theorem foldlM_addSection_lists {inner : Entries}
    {lists : List (String × List (List (String × Document)))} (absent : key ∉ entries.map (·.1))
    (filled : ∀ list ∈ lists, list.2 ≠ [])
    (nodup : ∀ list ∈ lists, ∀ element ∈ list.2, (element.map (·.1)).Nodup)
    (apart : (inner.map (·.1) ++ lists.map (·.1)).Nodup) :
    ((lists.flatMap fun list => list.2.map (Block.element key list.1)).map Block.part).foldlM
        addSection (entries ++ [(key, .table .header inner)]) =
      some (entries ++ [(key, .table .header (inner ++ lists.map listNode))]) := by
  induction lists generalizing inner with
  | nil => simp
  | cons list lists ih =>
      have first := foldlM_addSection_list (filled list List.mem_cons_self) absent
        (not_mem_of_nodup apart) (nodup list List.mem_cons_self)
      have kept : ((inner ++ [listNode list]).map (·.1) ++ lists.map (·.1)).Nodup := by
        simpa [listNode] using apart
      have later := ih (fun list listed => filled list (List.mem_cons_of_mem _ listed))
        (fun list listed => nodup list (List.mem_cons_of_mem _ listed)) kept
      rw [List.flatMap_cons, List.map_append, List.map_map, List.foldlM_append]
      simp only [Function.comp_def, first]
      exact later.trans (by simp)

theorem foldlM_addSection_blocks (fine : outline.Fine)
    (absent : outline.key ∉ entries.map (·.1)) :
    (outline.blocks.map Block.part).foldlM addSection entries =
      some (entries ++ [outline.node]) := by
  obtain ⟨lines_apart, -, -⟩ := List.nodup_append.1 fine.apart
  have apart : ((outline.lines.map lineNode).map (·.1) ++ outline.lists.map (·.1)).Nodup := by
    simpa [lineNode, Function.comp_def] using fine.apart
  rw [Outline.blocks, List.map_cons, List.foldlM_cons, addSection_table absent lines_apart]
  exact foldlM_addSection_lists absent (fun list listed => (fine.lists list listed).2)
    (fun list listed element member => (fine.elements list listed element member).2) apart

theorem foldlM_addSection_outlines (fine : ∀ outline ∈ outlines, outline.Fine)
    (apart : (entries.map (·.1) ++ outlines.map (·.key)).Nodup) :
    ((outlines.flatMap Outline.blocks).map Block.part).foldlM addSection entries =
      some (entries ++ outlines.map Outline.node) := by
  induction outlines generalizing entries with
  | nil => simp
  | cons outline outlines ih =>
      have first := foldlM_addSection_blocks (fine outline List.mem_cons_self)
        (not_mem_of_nodup apart)
      have kept : ((entries ++ [outline.node]).map (·.1) ++ outlines.map (·.key)).Nodup := by
        simpa [Outline.node] using apart
      have later := ih (fun outline listed => fine outline (List.mem_cons_of_mem _ listed)) kept
      rw [List.flatMap_cons, List.map_append, List.foldlM_append, first]
      exact later.trans (by simp)

theorem tabulate_blocks (fine : ∀ outline ∈ outlines, outline.Fine)
    (apart : (outlines.map (·.key)).Nodup) :
    tabulate [] ((outlines.flatMap Outline.blocks).map Block.part) =
      some (outlines.map Outline.node) :=
  foldlM_addSection_outlines fine apart

theorem entryDocuments_eq (entries : Entries) :
    entryDocuments entries = entries.map fun entry => (entry.1, entry.2.document) := by
  induction entries with
  | nil => rfl
  | cons entry entries ih => rw [entryDocuments, ih, List.map_cons]

theorem elementDocuments_eq (elements : List Entries) :
    elementDocuments elements = elements.map fun entries => .map (entryDocuments entries) := by
  induction elements with
  | nil => rfl
  | cons element elements ih => rw [elementDocuments, ih, List.map_cons]

theorem entryDocuments_lineNode (lines : List (String × Document)) :
    entryDocuments (lines.map lineNode) = lines := by
  simp [entryDocuments_eq, lineNode, Node.document, Function.comp_def]

theorem document_listNode (list : String × List (List (String × Document))) :
    (listNode list).2.document = .sections (list.2.map .map) := by
  simp [listNode, Node.document, elementDocuments_eq, Function.comp_def, entryDocuments_lineNode]

theorem entryDocuments_node (outlines : List Outline) :
    entryDocuments (outlines.map Outline.node) = outlines.map Outline.again := by
  rw [entryDocuments_eq, List.map_map]
  refine List.map_congr_left fun outline _ => ?_
  have lines := entryDocuments_lineNode outline.lines
  rw [entryDocuments_eq] at lines
  have lists : (outline.lists.map listNode).map (fun entry => (entry.1, entry.2.document)) =
      outline.lists.map fun list => (list.1, .sections (list.2.map .map)) := by
    rw [List.map_map]
    exact List.map_congr_left fun list _ => congrArg (list.1, ·) (document_listNode list)
  simp only [Function.comp_def, Outline.node, Outline.again, Node.document]
  rw [entryDocuments_eq, List.map_append, lines, lists]

end Lanewise.Toml
