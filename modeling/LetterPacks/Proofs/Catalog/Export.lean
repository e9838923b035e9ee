import LetterPacks.Proofs.Catalog.AuditTable
import LetterPacks.Proofs.Text.Split

/-!
# The exported decision table

Nothing is lost when rows of the decision table are exported.  None of their values has a character
that would have to stand between quotes, so a line falls apart at its commas into the values of its
row.  No value is empty unless it is absent, and no two values of one kind share a name, so the
values tell the row and the text tells the rows.
-/

namespace LetterPacks

/-- A value that is exported as it is and cannot be taken for an absent one. -/
structure IsPlain (value : String) : Prop where
  nonempty : value ≠ ""
  unquoted : needsQuotes value = false

private theorem isPlain_ofList {first : Char} {rest : List Char}
    (unquoted : ((first :: rest).any fun character =>
      character = ',' || character = '"' || character = '\n' || character = '\r') = false) :
    IsPlain (String.ofList (first :: rest)) := by
  refine ⟨by simp, ?_⟩
  rw [needsQuotes, String.toList_ofList]
  exact unquoted

private theorem needsQuotes_empty : needsQuotes "" = false := by
  decide

private theorem exportedField_of_unquoted {field : String} (unquoted : needsQuotes field = false) :
    exportedField field = field.toList := by
  rw [exportedField, unquoted]
  rfl

private theorem not_mem_of_unquoted {field : String} (unquoted : needsQuotes field = false) :
    ',' ∉ field.toList ∧ '"' ∉ field.toList ∧ '\n' ∉ field.toList ∧ '\r' ∉ field.toList := by
  rw [needsQuotes, List.any_eq_false] at unquoted
  have allowed : ∀ character ∈ field.toList,
      character ≠ ',' ∧ character ≠ '"' ∧ character ≠ '\n' ∧ character ≠ '\r' := by
    intro character member
    simpa [and_assoc] using unquoted character member
  exact ⟨fun member => (allowed _ member).1 rfl, fun member => (allowed _ member).2.1 rfl,
    fun member => (allowed _ member).2.2.1 rfl, fun member => (allowed _ member).2.2.2 rfl⟩

private theorem Letter.isPlain_name (letter : Letter) : IsPlain letter.name := by
  cases letter <;> exact isPlain_ofList rfl

private theorem PackKey.isPlain_name (key : PackKey) : IsPlain key.name := by
  cases key <;> exact isPlain_ofList rfl

private theorem DocumentType.isPlain_name
    (documentType : DocumentType) : IsPlain documentType.name := by
  cases documentType <;> exact isPlain_ofList rfl

private theorem Template.isPlain_name (template : Template) : IsPlain template.name := by
  cases template <;> exact isPlain_ofList rfl

private theorem DocumentType.isPlain_of_postedName?
    {documentType : DocumentType} {name : String} (posted : documentType.postedName? = some name) :
    IsPlain name := by
  revert posted
  cases documentType <;> rintro ⟨⟩ <;> exact isPlain_ofList rfl

private theorem PackKey.isPlain_of_firstName?
    {key : PackKey} {template : Template} {name : String}
    (named : key.descriptor.firstName? template = some name) : IsPlain name := by
  rw [Descriptor.firstName?, Option.map_eq_some_iff] at named
  obtain ⟨entry, found, rfl⟩ := named
  obtain ⟨slot, _, listed⟩ := List.mem_filterMap.1 (List.mem_of_find?_eq_some found)
  obtain ⟨_, _, listed⟩ := Option.bind_eq_some_iff.1 listed
  obtain ⟨name, posted, rfl⟩ := Option.map_eq_some_iff.1 listed
  exact DocumentType.isPlain_of_postedName? posted

namespace DecisionRow

variable {row other : DecisionRow} {line : String}

def IsNamedPlainly (row : DecisionRow) : Prop :=
  ∀ name, row.documentName = some name → IsPlain name

private theorem isNamedPlainly_of_mem_decisionTable
    {catalog : Catalog} (member : row ∈ catalog.decisionTable) : row.IsNamedPlainly := by
  obtain ⟨rule, _, member⟩ := List.mem_flatMap.1 member
  obtain ⟨key, _, member⟩ := List.mem_flatMap.1 member
  obtain ⟨slot, _, rfl⟩ := List.mem_map.1 member
  intro name named
  obtain ⟨template, _, named⟩ := Option.bind_eq_some_iff.1 named
  exact PackKey.isPlain_of_firstName? named

private theorem unquoted_of_mem_fields (plain : row.IsNamedPlainly) :
    ∀ field ∈ row.fields, needsQuotes field = false := by
  have template : needsQuotes ((row.template.map Template.name).getD "") = false := by
    cases row.template with
    | none => exact needsQuotes_empty
    | some template => exact template.isPlain_name.unquoted
  have documentName : needsQuotes (row.documentName.getD "") = false := by
    cases named : row.documentName with
    | none => exact needsQuotes_empty
    | some name => exact (plain name named).unquoted
  simp [fields, row.letter.isPlain_name.unquoted, row.pack.isPlain_name.unquoted,
    row.documentType.isPlain_name.unquoted, template, documentName]

private theorem eq_of_getD_eq
    {name? other? : Option String} (nonempty : ∀ name, name? = some name → name ≠ "")
    (otherNonempty : ∀ name, other? = some name → name ≠ "")
    (same : name?.getD "" = other?.getD "") : name? = other? := by
  cases name? with
  | none =>
      cases other? with
      | none => rfl
      | some name => exact absurd same.symm (otherNonempty name rfl)
  | some name =>
      cases other? with
      | none => exact absurd same (nonempty name rfl)
      | some other => exact congrArg some same

private theorem eq_of_fields_eq
    (plain : row.IsNamedPlainly) (otherPlain : other.IsNamedPlainly)
    (same : row.fields = other.fields) : row = other := by
  have named (template? : Option Template) :
      ∀ name, template?.map Template.name = some name → name ≠ "" := by
    intro name named
    obtain ⟨template, _, rfl⟩ := Option.map_eq_some_iff.1 named
    exact template.isPlain_name.nonempty
  simp only [fields, List.cons.injEq, and_true] at same
  obtain ⟨sameLetter, samePack, sameType, sameTemplate, sameName⟩ := same
  have template := eq_of_getD_eq (named row.template) (named other.template) sameTemplate
  have documentName := eq_of_getD_eq (fun name posted => (plain name posted).nonempty)
    (fun name posted => (otherPlain name posted).nonempty) sameName
  have injective : Function.Injective Template.name :=
    fun _ _ same => Template.vocabulary.name_injective same
  obtain ⟨letter, pack, documentType, _, _⟩ := row
  obtain ⟨otherLetter, otherPack, otherType, _, _⟩ := other
  obtain rfl : letter = otherLetter := Letter.vocabulary.name_injective sameLetter
  obtain rfl : pack = otherPack := PackKey.vocabulary.name_injective samePack
  obtain rfl : documentType = otherType := DocumentType.vocabulary.name_injective sameType
  obtain rfl := Option.map_injective injective template
  obtain rfl := documentName
  rfl

/-- A line shows a row: without any quotes, it falls apart at its commas into the five values of the
row, and an absent value is empty. -/
structure ShownIn (row : DecisionRow) (line : String) : Prop where
  split : ∃ content, line = content ++ "\n" ∧ Text.split ',' content =
    [row.letter.name, row.pack.name, row.documentType.name,
      (row.template.map Template.name).getD "", row.documentName.getD ""]
  unquoted : '"' ∉ line.toList
  single : Text.IsLine line

private theorem shownIn_exportedLine (plain : row.IsNamedPlainly) :
    row.ShownIn (exportedLine row.fields) := by
  have unquoted := unquoted_of_mem_fields plain
  have written : row.fields.map exportedField = row.fields.map String.toList :=
    List.map_congr_left fun field member => exportedField_of_unquoted (unquoted field member)
  have free (character : Char) (absent : ∀ field ∈ row.fields, character ∉ field.toList) :
      ∀ part ∈ row.fields.map String.toList, character ∉ part := by
    simpa using absent
  have commas := free ',' fun field member => (not_mem_of_unquoted (unquoted field member)).1
  have quotes := free '"' fun field member => (not_mem_of_unquoted (unquoted field member)).2.1
  have feeds := free '\n' fun field member => (not_mem_of_unquoted (unquoted field member)).2.2.1
  rw [exportedLine, written]
  refine ⟨⟨String.ofList (List.intercalate [','] (row.fields.map String.toList)), ?_, ?_⟩, ?_,
    ⟨_, Text.not_mem_intercalate (by decide) feeds, String.toList_ofList⟩⟩
  · rw [String.ofList_append]
  · rw [Text.split, String.toList_ofList, Text.splitChars_intercalate (by simp [fields]) commas,
      List.map_map]
    simp [fields]
  · rw [String.toList_ofList, List.mem_append, not_or]
    exact ⟨Text.not_mem_intercalate (by decide) quotes, by decide⟩

private theorem eq_of_shownIn
    (plain : row.IsNamedPlainly) (otherPlain : other.IsNamedPlainly) (shown : row.ShownIn line)
    (otherShown : other.ShownIn line) : row = other := by
  obtain ⟨content, written, values⟩ := shown.split
  obtain ⟨otherContent, otherWritten, otherValues⟩ := otherShown.split
  obtain rfl : content = otherContent :=
    (String.append_left_inj "\n").1 (written.symm.trans otherWritten)
  exact eq_of_fields_eq plain otherPlain (values.symm.trans otherValues)

end DecisionRow

private theorem eq_of_forall₂_shownIn
    {rows others : List DecisionRow} (plain : ∀ row ∈ rows, row.IsNamedPlainly)
    (otherPlain : ∀ row ∈ others, row.IsNamedPlainly) {lines : List String}
    (shown : List.Forall₂ DecisionRow.ShownIn rows lines)
    (otherShown : List.Forall₂ DecisionRow.ShownIn others lines) : rows = others := by
  induction shown generalizing others with
  | nil =>
      cases otherShown
      rfl
  | cons here _ ih =>
      cases otherShown with
      | cons there later =>
          rw [List.forall_mem_cons] at plain otherPlain
          rw [DecisionRow.eq_of_shownIn plain.1 otherPlain.1 here there,
            ih plain.2 otherPlain.2 later]

namespace Catalog

variable {catalog : Catalog} {rows others : List DecisionRow}

private theorem exportedLine_headings :
    exportedLine DecisionRow.headings =
      "letter_id,pack,document_type,template,document_name\n" := by
  decide +kernel

private theorem exportedTable_of_ne_nil (nonempty : rows ≠ []) :
    exportedTable rows = "letter_id,pack,document_type,template,document_name\n" ::
      rows.map fun row => exportedLine row.fields := by
  rw [exportedTable, List.isEmpty_eq_false_iff.2 nonempty, exportedLine_headings]
  rfl

private theorem forall₂_shownIn (plain : ∀ row ∈ rows, row.IsNamedPlainly) :
    List.Forall₂ DecisionRow.ShownIn rows (rows.map fun row => exportedLine row.fields) := by
  rw [List.forall₂_map_right_iff, List.forall₂_same]
  exact fun row member => DecisionRow.shownIn_exportedLine (plain row member)

private theorem lines_exportedTable (plain : ∀ row ∈ rows, row.IsNamedPlainly) :
    Text.lines (String.join (exportedTable rows)) = exportedTable rows := by
  apply Text.lines_join
  by_cases nonempty : rows = []
  · subst nonempty
    exact List.forall_mem_nil _
  · rw [exportedTable_of_ne_nil nonempty, List.forall_mem_cons, List.forall_mem_map]
    refine ⟨⟨"letter_id,pack,document_type,template,document_name".toList, ?_, ?_⟩, ?_⟩
    · decide
    · decide
    · exact fun row member => (DecisionRow.shownIn_exportedLine (plain row member)).single

private theorem eq_of_exportedTable_eq
    (plain : ∀ row ∈ rows, row.IsNamedPlainly) (otherPlain : ∀ row ∈ others, row.IsNamedPlainly)
    (same : exportedTable rows = exportedTable others) : rows = others := by
  by_cases empty : rows = [] <;> by_cases otherEmpty : others = []
  · rw [empty, otherEmpty]
  · rw [exportedTable_of_ne_nil otherEmpty, empty] at same
    cases same
  · rw [exportedTable_of_ne_nil empty, otherEmpty] at same
    cases same
  · rw [exportedTable_of_ne_nil empty, exportedTable_of_ne_nil otherEmpty] at same
    have shown := forall₂_shownIn plain
    rw [(List.cons.inj same).2] at shown
    exact eq_of_forall₂_shownIn plain otherPlain shown (forall₂_shownIn otherPlain)

/-- The exported text of some rows of the decision table says all that the rows say. -/
structure ExportsAll (catalog : Catalog) (rows : List DecisionRow) : Prop where
  silent : rows = [] → String.join (exportedTable rows) = ""
  shown : rows ≠ [] → ∃ lines,
    exportedTable rows = "letter_id,pack,document_type,template,document_name\n" :: lines ∧
      List.Forall₂ DecisionRow.ShownIn rows lines
  lines : Text.lines (String.join (exportedTable rows)) = exportedTable rows
  told : ∀ row ∈ rows, ∀ other ∈ catalog.decisionTable, ∀ line,
    row.ShownIn line → other.ShownIn line → other = row
  distinct : ∀ others, others ⊆ catalog.decisionTable →
    String.join (exportedTable others) = String.join (exportedTable rows) → others = rows

theorem exportsAll_of_subset (listed : rows ⊆ catalog.decisionTable) : catalog.ExportsAll rows := by
  have plain {row : DecisionRow} (member : row ∈ catalog.decisionTable) : row.IsNamedPlainly :=
    DecisionRow.isNamedPlainly_of_mem_decisionTable member
  have allPlain : ∀ row ∈ rows, row.IsNamedPlainly := fun _ member => plain (listed member)
  constructor
  · rintro rfl
    rfl
  · intro nonempty
    exact ⟨_, exportedTable_of_ne_nil nonempty, forall₂_shownIn allPlain⟩
  · exact lines_exportedTable allPlain
  · intro row member other among line shown otherShown
    exact DecisionRow.eq_of_shownIn (plain among) (allPlain row member) otherShown shown
  · intro others otherListed same
    have otherPlain : ∀ row ∈ others, row.IsNamedPlainly := fun _ member =>
      plain (otherListed member)
    have sameLines := congrArg Text.lines same
    rw [lines_exportedTable otherPlain, lines_exportedTable allPlain] at sameLines
    exact eq_of_exportedTable_eq otherPlain allPlain sameLines

theorem exportsAll_of_subset_of_repeated :
    let refusal : DecisionRow :=
      ⟨.conditionalOrderRefused, .clarificationSolJs, .conditionalOrderRefusal, none, none⟩
    let coversheet : DecisionRow :=
      ⟨.aosOverdue, .aosOverdueJs, .coversheet, some .coversheetApplicant, some "Coversheet"⟩
    let rows := [refusal, coversheet, refusal]
    rows ⊆ decisionTable ⟨standardRules⟩ ∧ ExportsAll ⟨standardRules⟩ rows ∧
      exportedTable rows = [
        "letter_id,pack,document_type,template,document_name\n",
        "conditional-order-refused,CLARIFICATION_SOL_JS_PACK,CONDITIONAL_ORDER_REFUSAL,,\n",
        "aos-overdue-letter,AOS_OVERDUE_JS_PACK,COVERSHEET,COVERSHEET_APPLICANT,Coversheet\n",
        "conditional-order-refused,CLARIFICATION_SOL_JS_PACK,CONDITIONAL_ORDER_REFUSAL,,\n"] := by
  intro refusal coversheet rows
  have listed : rows ⊆ decisionTable ⟨standardRules⟩ := by decide +kernel
  exact ⟨listed, exportsAll_of_subset listed, by decide +kernel⟩

end Catalog

end LetterPacks
