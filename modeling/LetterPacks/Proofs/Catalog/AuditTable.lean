import LetterPacks.Proofs.Dispatch.Recording
import LetterPacks.Proofs.Printing.Assembly

/-!
# The decision table as an audit

The decision table of the standard catalog shows for every letter what its recipients can get.  The
rows of a letter and a pack that its rule selects are the slots of the pack in their order, with the
names under which they are posted.
-/

namespace LetterPacks

private theorem flatMap_eq_of_unique
    {α β : Type} {items : List α} (distinct : items.Nodup) {give : α → List β} {item : α}
    (member : item ∈ items) (others : ∀ other, other ≠ item → give other = []) :
    items.flatMap give = give item := by
  induction items with
  | nil =>
      cases member
  | cons head items ih =>
      rw [List.nodup_cons] at distinct
      rw [List.flatMap_cons]
      rcases List.mem_cons.1 member with rfl | member
      · have nothing : items.flatMap give = [] := by
          rw [List.flatMap_eq_nil_iff]
          intro other later
          exact others other fun same => distinct.1 (same ▸ later)
        rw [nothing, List.append_nil]
      · have different : head ≠ item := fun same => distinct.1 (same ▸ member)
        rw [others head different, List.nil_append]
        exact ih distinct.2 member

theorem of_mem_rows_descriptor
    {letter : Letter} {key : PackKey} {row : DecisionRow}
    (member : row ∈ key.descriptor.rows letter) :
    row.letter = letter ∧ row.pack = key := by
  obtain ⟨slot, _, rfl⟩ := List.mem_map.1 member
  exact ⟨rfl, key.key_toPack⟩

namespace Catalog

def rowsFor (catalog : Catalog) (letter : Letter) (key : PackKey) : List DecisionRow :=
  catalog.decisionTable.filter fun row => row.letter = letter ∧ row.pack = key

/-- A pack that a standard rule declares has the rows of its own descriptor, and no others. -/
theorem rowsFor_of_standard
    {catalog : Catalog} (built : standard = .ok catalog) {letter : Letter} {key : PackKey}
    (declared : key ∈ letter.rule.packs) :
    catalog.rowsFor letter key = key.descriptor.rows letter := by
  let shown (row : DecisionRow) : Bool := row.letter = letter ∧ row.pack = key
  have otherLetters : ∀ other : Letter, other ≠ letter → other.rule.rows.filter shown = [] := by
    intro other different
    rw [List.filter_eq_nil_iff]
    intro row member shows
    obtain ⟨listed, _, member⟩ := List.mem_flatMap.1 member
    rw [Letter.letter_rule] at member
    have same : row.letter = letter := (of_decide_eq_true shows).1
    exact different ((of_mem_rows_descriptor member).1.symm.trans same)
  have otherPacks : ∀ other : PackKey, other ≠ key →
      (other.descriptor.rows letter).filter shown = [] := by
    intro other different
    rw [List.filter_eq_nil_iff]
    intro row member shows
    have same : row.pack = key := (of_decide_eq_true shows).2
    exact different ((of_mem_rows_descriptor member).2.symm.trans same)
  calc catalog.rowsFor letter key
      = Letter.all.flatMap fun other => other.rule.rows.filter shown := by
        rw [rowsFor, decisionTable, rules_of_standard built, Letter.standardRules_eq_map_rule,
          List.flatMap_map, List.filter_flatMap]
    _ = letter.rule.rows.filter shown :=
        flatMap_eq_of_unique (Letter.vocabulary.distinct.of_map _)
          (Letter.vocabulary.complete letter) otherLetters
    _ = letter.rule.packs.flatMap fun other => (other.descriptor.rows letter).filter shown := by
        rw [SelectionRule.rows, Letter.letter_rule, List.filter_flatMap]
    _ = (key.descriptor.rows letter).filter shown :=
        flatMap_eq_of_unique letter.nodup_packs_rule declared otherPacks
    _ = key.descriptor.rows letter := by
        rw [List.filter_eq_self]
        intro row member
        exact decide_eq_true (of_mem_rows_descriptor member)

end Catalog

/-- A printed document is what a row of the table shows. -/
structure DecisionRow.Shows (row : DecisionRow) (document : PrintDocument) : Prop where
  documentType : document.documentType = row.documentType
  template : document.template = row.template
  /-- A document rendered from a template is printed under the name that the row shows. -/
  documentName : row.template.isSome → row.documentName = some document.fileName

private theorem shows_of_documentFor?
    {key : PackKey} {facts : CaseFacts} {slot : Slot} (member : slot ∈ key.toPack.slots)
    {document : PrintDocument}
    (found : PrintRequest.documentFor? key.toPack facts slot = some document) (letter : Letter) :
    DecisionRow.Shows
      ⟨letter, key, slot.documentType, slot.template,
        slot.template.bind key.descriptor.firstName?⟩ document := by
  obtain ⟨sameType, sameTemplate⟩ := PrintRequest.of_documentFor?_eq_some found
  refine ⟨sameType, sameTemplate, fun templated => ?_⟩
  obtain ⟨template, used⟩ := Option.isSome_iff_exists.1 templated
  change slot.template = some template at used
  have named := PrintRequest.templateName?_of_documentFor?_eq_some used
    (key.isSome_templateName?_toPack member used) found
  rw [PackKey.templateName?_toPack] at named
  change slot.template.bind key.descriptor.firstName? = some document.fileName
  rw [used]
  exact named

private theorem forall₂_shows_of_documentsFor
    {key : PackKey} {facts : CaseFacts} {documents : List PrintDocument}
    (assembled : PrintRequest.documentsFor key.toPack facts key.toPack.slots = .ok documents)
    (letter : Letter) :
    List.Forall₂ DecisionRow.Shows (key.descriptor.rows letter) documents := by
  have slotted := PrintRequest.forall₂_of_documentsFor_eq_ok assembled
  have listed : List.Forall₂ (fun slot document => slot ∈ key.toPack.slots ∧
      PrintRequest.documentFor? key.toPack facts slot = some document)
      key.toPack.slots documents :=
    (List.forall₂_and_left _ _).2 ⟨fun _ member => member, slotted⟩
  rw [Descriptor.rows, List.forall₂_map_left_iff]
  exact listed.imp fun slot document ⟨member, found⟩ => shows_of_documentFor? member found letter

private theorem map_rows_descriptor (key : PackKey) (letter : Letter) :
    ((key.descriptor.rows letter).map fun row =>
        (row.documentType, row.template, row.documentName)) =
      key.toPack.slots.map fun slot =>
        (slot.documentType, slot.template, slot.template.bind key.toPack.templateName?) := by
  have sameNames : key.toPack.templateName? = key.descriptor.firstName? :=
    funext key.templateName?_toPack
  rw [Descriptor.rows, List.map_map, sameNames]
  rfl

private theorem exists_row_of_templateName?
    {key : PackKey} {template : Template} {name : String}
    (named : key.toPack.templateName? template = some name) (letter : Letter) :
    ∃ row ∈ key.descriptor.rows letter,
      row.template = some template ∧ row.documentName = some name := by
  obtain ⟨slot, member, used⟩ := key.exists_slot_of_templateName?_toPack named
  refine ⟨_, List.mem_map_of_mem member, used, ?_⟩
  change slot.template.bind key.descriptor.firstName? = some name
  rw [used, ← named, PackKey.templateName?_toPack]
  rfl

theorem rows_descriptor_ne_nil (key : PackKey) (letter : Letter) :
    key.descriptor.rows letter ≠ [] := by
  rw [Descriptor.rows, Ne, List.map_eq_nil_iff]
  exact key.slots_descriptor_ne_nil

namespace Catalog

variable {catalog : Catalog} {letter : Letter} {rule : SelectionRule} {caseFile : CaseFile}
  {party : Party} {pack : Pack}

private theorem declared_of_resolved
    (built : standard = .ok catalog) (found : catalog.lookup letter = .ok rule)
    (resolved : rule.resolve caseFile.facts party = .ok pack) :
    ∃ key ∈ letter.rule.packs, pack = key.toPack := by
  obtain ⟨key, selected, same⟩ := selected_of_resolved built found resolved
  exact ⟨key, letter.rule_selectsDeclared selected, same⟩

/-- The table shows all of a pack, and of every letter that is printed with it. -/
structure ShowsPack
    (catalog : Catalog) (letter : Letter) (party : Party) (caseFile : CaseFile) (pack : Pack) :
    Prop where
  listed : catalog.rowsFor letter pack.key ≠ []
  slots : ((catalog.rowsFor letter pack.key).map fun row =>
      (row.documentType, row.template, row.documentName)) =
    pack.slots.map fun slot =>
      (slot.documentType, slot.template, slot.template.bind pack.templateName?)
  names : ∀ template name, pack.templateName? template = some name →
    ∃ row ∈ catalog.rowsFor letter pack.key,
      row.template = some template ∧ row.documentName = some name
  /-- The printer is given one request, with one document for every row. -/
  printed : ∀ (σ τ : Type) (service : Service σ τ) (state : σ) (queue : τ) (receipt : Receipt),
    service.catalog = catalog →
    (service.print letter party caseFile state queue).outcome = .ok receipt →
      ∃ calls request,
        service.recorded.print letter party caseFile (state, []) (queue, []) =
            (service.print letter party caseFile state queue).recorded calls [request] ∧
          request.letter = letter ∧ request.pack = pack.key ∧
          List.Forall₂ DecisionRow.Shows (catalog.rowsFor letter pack.key) request.documents

/-- The decision table shows every pack that a party can get and every letter that is printed. -/
theorem decisionTable_shows_pack
    (built : standard = .ok catalog) (found : catalog.lookup letter = .ok rule)
    (resolved : rule.resolve caseFile.facts party = .ok pack) :
    catalog.ShowsPack letter party caseFile pack := by
  obtain ⟨key, declared, rfl⟩ := declared_of_resolved built found resolved
  have rows : catalog.rowsFor letter key.toPack.key = key.descriptor.rows letter :=
    rowsFor_of_standard built declared
  refine ⟨?_, ?_, ?_, ?_⟩ <;> rw [rows]
  · exact rows_descriptor_ne_nil key letter
  · exact map_rows_descriptor key letter
  · intro template name named
    exact exists_row_of_templateName? named letter
  · intro σ τ service state queue receipt same posted
    subst same
    obtain ⟨calls, requests, _, recorded, made, given⟩ :=
      Service.print_recorded_of_resolved found resolved state queue
    obtain ⟨request, rfl⟩ := given receipt posted
    have assembled := made request List.mem_cons_self
    obtain ⟨sameLetter, samePack, _, documents⟩ := PrintRequest.of_ofPack_eq_ok assembled
    exact ⟨calls, request, recorded, sameLetter, samePack,
      forall₂_shows_of_documentsFor documents letter⟩

theorem decisionTable_shows_application :
    standard = .ok ⟨standardRules⟩ ∧
      lookup ⟨standardRules⟩ .applyForConditionalOrder = .ok applicationRule ∧
      applicationRule.resolve (CaseFile.bare 7).facts .applicant1 =
        .ok PackKey.applyForCoSole.toPack ∧
      ShowsPack ⟨standardRules⟩ .applyForConditionalOrder .applicant1 (CaseFile.bare 7)
        PackKey.applyForCoSole.toPack := by
  have found := lookup_of_standard standard_eq_ok .applyForConditionalOrder
  have resolved : applicationRule.resolve (CaseFile.bare 7).facts .applicant1 =
      .ok PackKey.applyForCoSole.toPack := rfl
  exact ⟨standard_eq_ok, found, resolved,
    decisionTable_shows_pack standard_eq_ok found resolved⟩

end Catalog

end LetterPacks
