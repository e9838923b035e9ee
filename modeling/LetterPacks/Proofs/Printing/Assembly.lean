import LetterPacks.Printing.Request
import LetterPacks.Proofs.Case.Attachment
import Mathlib.Data.List.Forall2

/-!
# Assembling print requests

A print request has one document for every slot of its pack, in the order of the slots.  It is
assembled exactly when every slot without a template finds a document in the case file.  Documents
of types that the pack does not hold make no difference to it.
-/

namespace LetterPacks

/-- A slot misses its document: it has no template, and the case has no document of its type. -/
def Slot.Misses (slot : Slot) (facts : CaseFacts) : Prop :=
  slot.template = none ∧
    ∀ document ∈ facts.documents, document.documentType ≠ slot.documentType

/-- A document type is that of the first slot in a list that misses its document. -/
inductive FirstMissing (facts : CaseFacts) : List Slot → DocumentType → Prop
  | here {slot : Slot} {slots : List Slot} :
      slot.Misses facts → FirstMissing facts (slot :: slots) slot.documentType
  | later {slot : Slot} {slots : List Slot} {documentType : DocumentType} :
      ¬ slot.Misses facts → FirstMissing facts slots documentType →
      FirstMissing facts (slot :: slots) documentType

private theorem firstMissing_cons_iff
    {facts : CaseFacts} {slot : Slot} {slots : List Slot} {documentType : DocumentType} :
    FirstMissing facts (slot :: slots) documentType ↔
      slot.Misses facts ∧ slot.documentType = documentType ∨
        ¬ slot.Misses facts ∧ FirstMissing facts slots documentType := by
  constructor
  · intro first
    cases first with
    | here misses => exact Or.inl ⟨misses, rfl⟩
    | later filled first => exact Or.inr ⟨filled, first⟩
  · rintro (⟨misses, rfl⟩ | ⟨filled, first⟩)
    · exact FirstMissing.here misses
    · exact FirstMissing.later filled first

theorem FirstMissing.exists_slot
    {facts : CaseFacts} {slots : List Slot} {documentType : DocumentType}
    (first : FirstMissing facts slots documentType) :
    ∃ slot ∈ slots, slot.Misses facts ∧ slot.documentType = documentType := by
  induction first with
  | here misses =>
      exact ⟨_, List.mem_cons_self, misses, rfl⟩
  | later _ _ ih =>
      obtain ⟨slot, member, misses, same⟩ := ih
      exact ⟨slot, List.mem_cons_of_mem _ member, misses, same⟩

theorem exists_firstMissing
    {facts : CaseFacts} {slots : List Slot} {slot : Slot} (member : slot ∈ slots)
    (misses : slot.Misses facts) : ∃ documentType, FirstMissing facts slots documentType := by
  induction slots with
  | nil =>
      cases member
  | cons head slots ih =>
      by_cases headMisses : head.Misses facts
      · exact ⟨head.documentType, FirstMissing.here headMisses⟩
      · rcases List.mem_cons.1 member with rfl | later
        · exact absurd misses headMisses
        · obtain ⟨documentType, first⟩ := ih later
          exact ⟨documentType, FirstMissing.later headMisses first⟩

theorem exists_firstMissing_iff {facts : CaseFacts} {slots : List Slot} :
    (∃ documentType, FirstMissing facts slots documentType) ↔
      ∃ slot ∈ slots, slot.Misses facts := by
  constructor
  · rintro ⟨documentType, first⟩
    obtain ⟨slot, member, misses, _⟩ := first.exists_slot
    exact ⟨slot, member, misses⟩
  · rintro ⟨slot, member, misses⟩
    exact exists_firstMissing member misses

namespace PrintRequest

variable {pack : Pack} {facts : CaseFacts} {slot : Slot} {slots : List Slot}

theorem documentFor?_of_rendered
    {template : Template} (rendered : slot.template = some template) :
    documentFor? pack facts slot =
      some ⟨slot.documentType, some template,
        (pack.templateName? template).getD template.name⟩ := by
  rw [documentFor?, rendered]

theorem documentFor?_of_derived (derived : slot.template = none) :
    documentFor? pack facts slot =
      (facts.document? slot.documentType).map fun document =>
        ⟨slot.documentType, none, document.fileName⟩ := by
  rw [documentFor?, derived]

private theorem documentFor?_eq_none_iff :
    documentFor? pack facts slot = none ↔ slot.Misses facts := by
  unfold Slot.Misses
  cases template : slot.template with
  | some template =>
      simp [documentFor?_of_rendered template]
  | none =>
      rw [documentFor?_of_derived template, Option.map_eq_none_iff,
        CaseFacts.document?_eq_none_iff]
      exact (and_iff_right rfl).symm

theorem of_documentFor?_eq_some
    {document : PrintDocument} (found : documentFor? pack facts slot = some document) :
    document.documentType = slot.documentType ∧ document.template = slot.template := by
  cases template : slot.template with
  | some template =>
      rw [documentFor?_of_rendered template] at found
      cases found
      exact ⟨rfl, rfl⟩
  | none =>
      rw [documentFor?_of_derived template, Option.map_eq_some_iff] at found
      obtain ⟨_, _, rfl⟩ := found
      exact ⟨rfl, rfl⟩

theorem templateName?_of_documentFor?_eq_some
    {template : Template} {document : PrintDocument} (used : slot.template = some template)
    (named : (pack.templateName? template).isSome = true)
    (found : documentFor? pack facts slot = some document) :
    pack.templateName? template = some document.fileName := by
  obtain ⟨name, sameName⟩ := Option.isSome_iff_exists.1 named
  rw [documentFor?_of_rendered used, sameName] at found
  obtain rfl := Option.some.inj found
  exact sameName

private theorem documentsFor_cons_of_some
    {document : PrintDocument} (found : documentFor? pack facts slot = some document) :
    documentsFor pack facts (slot :: slots) =
      (documentsFor pack facts slots).map fun documents => document :: documents := by
  rw [documentsFor, found]
  cases documentsFor pack facts slots <;> rfl

private theorem documentsFor_cons_of_none (missing : documentFor? pack facts slot = none) :
    documentsFor pack facts (slot :: slots) = .error slot.documentType := by
  rw [documentsFor, missing]
  rfl

private theorem documentsFor_cons_eq_ok_iff {documents : List PrintDocument} :
    documentsFor pack facts (slot :: slots) = .ok documents ↔
      ∃ document others, documentFor? pack facts slot = some document ∧
        documentsFor pack facts slots = .ok others ∧ document :: others = documents := by
  cases found : documentFor? pack facts slot with
  | none =>
      rw [documentsFor_cons_of_none found]
      simp
  | some document =>
      rw [documentsFor_cons_of_some found]
      cases documentsFor pack facts slots <;> simp [Except.map]

private theorem documentsFor_cons_eq_error_iff {documentType : DocumentType} :
    documentsFor pack facts (slot :: slots) = .error documentType ↔
      slot.Misses facts ∧ slot.documentType = documentType ∨
        ¬ slot.Misses facts ∧ documentsFor pack facts slots = .error documentType := by
  rw [← documentFor?_eq_none_iff]
  cases found : documentFor? pack facts slot with
  | none =>
      rw [documentsFor_cons_of_none found]
      simp
  | some document =>
      rw [documentsFor_cons_of_some found]
      cases documentsFor pack facts slots <;> simp [Except.map]

theorem forall₂_of_documentsFor_eq_ok
    {documents : List PrintDocument} (assembled : documentsFor pack facts slots = .ok documents) :
    List.Forall₂ (fun slot document => documentFor? pack facts slot = some document)
      slots documents := by
  induction slots generalizing documents with
  | nil =>
      cases assembled
      exact List.Forall₂.nil
  | cons slot slots ih =>
      obtain ⟨document, others, found, rest, rfl⟩ := documentsFor_cons_eq_ok_iff.1 assembled
      exact List.Forall₂.cons found (ih rest)

/-- Documents are missing from some slots just when one slot misses its own, and the first such slot
tells which. -/
private theorem documentsFor_eq_error_iff {documentType : DocumentType} :
    documentsFor pack facts slots = .error documentType ↔
      FirstMissing facts slots documentType := by
  induction slots with
  | nil =>
      constructor
      · rintro ⟨⟩
      · rintro ⟨⟩
  | cons slot slots ih =>
      rw [documentsFor_cons_eq_error_iff, firstMissing_cons_iff, ih]

theorem derived_of_documentsFor_eq_error
    {documentType : DocumentType}
    (missing : documentsFor pack facts slots = .error documentType) :
    ∃ slot ∈ slots, slot.template = none ∧ slot.documentType = documentType ∧
      facts.hasDocument documentType = false := by
  obtain ⟨slot, member, ⟨derived, absent⟩, rfl⟩ :=
    (documentsFor_eq_error_iff.1 missing).exists_slot
  exact ⟨slot, member, derived, rfl, CaseFacts.hasDocument_eq_false_iff.2 absent⟩

theorem documentsFor_eq_error_of_missing
    (member : slot ∈ slots) (missing : documentFor? pack facts slot = none) :
    ∃ documentType, documentsFor pack facts slots = .error documentType := by
  obtain ⟨documentType, first⟩ := exists_firstMissing member (documentFor?_eq_none_iff.1 missing)
  exact ⟨documentType, documentsFor_eq_error_iff.2 first⟩

theorem documentsFor_congr
    {other : CaseFacts}
    (agree : ∀ slot ∈ slots, documentFor? pack facts slot = documentFor? pack other slot) :
    documentsFor pack facts slots = documentsFor pack other slots := by
  induction slots with
  | nil =>
      rfl
  | cons slot slots ih =>
      rw [List.forall_mem_cons] at agree
      rw [documentsFor, documentsFor, agree.1, ih agree.2]

/-- Slots that give way to others of their types are filled by other documents when each of them
is. -/
theorem documentsFor_map
    {otherPack : Pack} {other : CaseFacts} {move : Slot → Slot}
    {change : PrintDocument → PrintDocument}
    (sameType : ∀ slot ∈ slots, (move slot).documentType = slot.documentType)
    (filled : ∀ slot ∈ slots,
      documentFor? otherPack other (move slot) = (documentFor? pack facts slot).map change) :
    documentsFor otherPack other (slots.map move) =
      (documentsFor pack facts slots).map (List.map change) := by
  induction slots with
  | nil =>
      rfl
  | cons slot slots ih =>
      rw [List.forall_mem_cons] at sameType filled
      have rest := ih sameType.2 filled.2
      have first := filled.1
      rw [List.map_cons]
      cases found : documentFor? pack facts slot with
      | none =>
          rw [found] at first
          rw [documentsFor_cons_of_none first, documentsFor_cons_of_none found, sameType.1]
          rfl
      | some document =>
          rw [found] at first
          rw [documentsFor_cons_of_some first, documentsFor_cons_of_some found, rest]
          cases documentsFor pack facts slots <;> rfl

variable {letter : Letter} {caseFile : CaseFile} {party : Party}

theorem ofPack_eq_map :
    ofPack letter pack caseFile party =
      (documentsFor pack caseFile.facts pack.slots).map fun documents => {
        letter := letter
        pack := pack.key
        caseId := caseFile.id
        recipient := party
        recipientName := addresseeName (caseFile.facts.applicant party)
        language := (caseFile.facts.applicant party).language
        documents := documents
        answeredOn := answeredOnFor letter caseFile.facts
        informationRequested := informationFor letter caseFile.facts } := by
  rw [ofPack]
  dsimp only
  cases documentsFor pack caseFile.facts pack.slots <;> rfl

theorem eq_of_ofPack_eq_ok
    {request : PrintRequest} (assembled : ofPack letter pack caseFile party = .ok request) :
    ∃ documents, documentsFor pack caseFile.facts pack.slots = .ok documents ∧
      request = {
        letter := letter
        pack := pack.key
        caseId := caseFile.id
        recipient := party
        recipientName := addresseeName (caseFile.facts.applicant party)
        language := (caseFile.facts.applicant party).language
        documents := documents
        answeredOn := answeredOnFor letter caseFile.facts
        informationRequested := informationFor letter caseFile.facts } := by
  cases found : documentsFor pack caseFile.facts pack.slots with
  | error documentType =>
      rw [ofPack, found] at assembled
      cases assembled
  | ok documents =>
      rw [ofPack, found] at assembled
      exact ⟨documents, rfl, (Except.ok.inj assembled).symm⟩

/-- A request names its letter, its pack and its case and holds the documents of the pack. -/
theorem of_ofPack_eq_ok
    {request : PrintRequest} (assembled : ofPack letter pack caseFile party = .ok request) :
    request.letter = letter ∧ request.pack = pack.key ∧ request.caseId = caseFile.id ∧
      documentsFor pack caseFile.facts pack.slots = .ok request.documents := by
  obtain ⟨documents, found, rfl⟩ := eq_of_ofPack_eq_ok assembled
  exact ⟨rfl, rfl, rfl, found⟩

theorem recipientName_of_ofPack_eq_ok
    {request : PrintRequest} (assembled : ofPack letter pack caseFile party = .ok request) :
    request.recipientName = addresseeName (caseFile.facts.applicant party) := by
  obtain ⟨_, _, rfl⟩ := eq_of_ofPack_eq_ok assembled
  rfl

theorem documentsFor_of_ofPack_eq_error
    {documentType : DocumentType}
    (missing : ofPack letter pack caseFile party = .error documentType) :
    documentsFor pack caseFile.facts pack.slots = .error documentType := by
  cases found : documentsFor pack caseFile.facts pack.slots with
  | error other =>
      rw [ofPack, found] at missing
      obtain rfl := Except.error.inj missing
      rfl
  | ok documents =>
      rw [ofPack, found] at missing
      cases missing

/-- A request is kept from being made by the first slot that misses its document. -/
theorem ofPack_eq_error_iff {documentType : DocumentType} :
    ofPack letter pack caseFile party = .error documentType ↔
      FirstMissing caseFile.facts pack.slots documentType := by
  rw [← documentsFor_eq_error_iff]
  constructor
  · exact documentsFor_of_ofPack_eq_error
  · intro unassembled
    rw [ofPack, unassembled]
    rfl

theorem ofPack_congr
    {left right : CaseFile} (id : left.id = right.id)
    (applicant : left.facts.applicant party = right.facts.applicant party)
    (acknowledgement : left.facts.acknowledgement = right.facts.acknowledgement)
    (informationRequest : left.facts.informationRequest = right.facts.informationRequest)
    (agree : ∀ slot ∈ pack.slots,
      documentFor? pack left.facts slot = documentFor? pack right.facts slot) :
    ofPack letter pack left party = ofPack letter pack right party := by
  have documents := documentsFor_congr agree
  have answered : answeredOnFor letter left.facts = answeredOnFor letter right.facts := by
    unfold answeredOnFor
    rw [acknowledgement]
  have asked : informationFor letter left.facts = informationFor letter right.facts := by
    unfold informationFor
    rw [informationRequest]
  rw [ofPack_eq_map, ofPack_eq_map, documents, id, applicant, answered, asked]

theorem ofPack_attach_of_not_contains
    {documents : List CaseDocument}
    (foreign : ∀ document ∈ documents, pack.contains document.documentType = false) :
    ofPack letter pack (caseFile.attach documents) party =
      ofPack letter pack caseFile party := by
  have agree : ∀ slot ∈ pack.slots,
      documentFor? pack (caseFile.attach documents).facts slot =
        documentFor? pack caseFile.facts slot := by
    intro slot member
    have absent : ∀ document ∈ documents, document.documentType ≠ slot.documentType := by
      intro document attached same
      have held : slot.documentType ∈ pack.documentTypes := List.mem_map_of_mem member
      have unheld := foreign document attached
      rw [same, Pack.contains, List.contains_eq_mem, decide_eq_false_iff_not] at unheld
      exact unheld held
    rw [documentFor?, documentFor?, CaseFile.document?_attach_of_absent absent]
  exact ofPack_congr rfl (CaseFile.applicant_attach _ _ _) rfl rfl agree

end PrintRequest

end LetterPacks
