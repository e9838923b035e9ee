import LetterPacks.Proofs.Dispatch.Independence

/-!
# Further documents on file

A letter that can be printed can still be printed when more documents have come into the case file.
The oldest document of a type stays the oldest, so the same documents are printed; only an
application form that has come in is printed in place of a blank one.  A letter that lacked a
document goes out once one of its type is there, since no pack takes documents of two types from the
case file.
-/

namespace LetterPacks

/-- The application form that comes into a case file with further documents: the first one among
them, unless the case file holds one already. -/
def CaseFile.newForm? (caseFile : CaseFile) (extra : List CaseDocument) : Option CaseDocument :=
  if caseFile.facts.hasDocument d84Form.documentType then none
  else extra.find? fun document => document.documentType == d84Form.documentType

/-- The document as it is printed when a form has come in: an application form has its file name. -/
def PrintDocument.refiled (document : PrintDocument) : Option CaseDocument → PrintDocument
  | some form =>
      if document.documentType = d84Form.documentType then
        { document with fileName := form.fileName }
      else document
  | none => document

def PrintRequest.refiled (request : PrintRequest) (form? : Option CaseDocument) : PrintRequest :=
  { request with documents := request.documents.map fun document => document.refiled form? }

private theorem PrintDocument.refiled_of_ne
    {document : PrintDocument} (other : document.documentType ≠ d84Form.documentType)
    (form? : Option CaseDocument) : document.refiled form? = document := by
  cases form? with
  | none => rfl
  | some form => exact if_neg other

namespace PackKey

variable {key : PackKey} {slot : Slot}

private theorem derived_of_form
    (member : slot ∈ key.toPack.slots) (form : slot.documentType = d84Form.documentType) :
    slot.template = none := by
  revert slot
  cases key <;> decide

private theorem documentType_eq_of_derived
    {other : Slot} (member : slot ∈ key.toPack.slots) (memberOther : other ∈ key.toPack.slots)
    (derived : slot.template = none) (derivedOther : other.template = none) :
    slot.documentType = other.documentType := by
  have single : ∀ slot ∈ key.toPack.slots, slot.template = none →
      ∀ other ∈ key.toPack.slots, other.template = none →
        slot.documentType = other.documentType := by
    cases key <;> decide
  exact single slot member derived other memberOther derivedOther

end PackKey

namespace Service

variable {letter : Letter} {party : Party} {caseFile : CaseFile} {key : PackKey} {slot : Slot}
  {documentType : DocumentType}

private theorem document?_withForm_attach
    {form : CaseDocument} (extra : List CaseDocument)
    (found : caseFile.withForm.facts.document? d84Form.documentType = some form) :
    (caseFile.attach extra).withForm.facts.document? d84Form.documentType =
      some ((caseFile.newForm? extra).getD form) := by
  have looked := caseFile.document?_attach extra d84Form.documentType
  cases held : caseFile.facts.hasDocument d84Form.documentType with
  | true =>
      have heldLater : (caseFile.attach extra).facts.hasDocument d84Form.documentType = true := by
        rw [CaseFile.hasDocument_attach, held, Bool.true_or]
      rw [CaseFile.withForm_of_held held] at found
      rw [CaseFile.withForm_of_held heldLater, looked, found, CaseFile.newForm?, held]
      rfl
  | false =>
      have lacks : caseFile.facts.document? d84Form.documentType = none := by
        rw [CaseFacts.hasDocument, Option.isSome_eq_false_iff, Option.isNone_iff_eq_none] at held
        exact held
      rw [CaseFile.withForm_of_absent held, CaseFile.document?_attach, lacks] at found
      obtain rfl : caseFile.blankForm = form := Option.some.inj found
      rw [lacks, Option.none_or] at looked
      rw [CaseFile.newForm?, held]
      cases came : extra.find? fun document => document.documentType == d84Form.documentType with
      | none =>
          rw [came] at looked
          have lacksLater :
              (caseFile.attach extra).facts.hasDocument d84Form.documentType = false := by
            rw [CaseFacts.hasDocument, looked]
            rfl
          rw [CaseFile.withForm_of_absent lacksLater, CaseFile.document?_attach, looked]
          rfl
      | some form =>
          rw [came] at looked
          have heldLater :
              (caseFile.attach extra).facts.hasDocument d84Form.documentType = true := by
            rw [CaseFacts.hasDocument, looked]
            rfl
          rw [CaseFile.withForm_of_held heldLater, looked]
          rfl

private theorem leaves_eq_attach (letter : Letter) (caseFile : CaseFile) :
    ∃ forms, leaves letter caseFile caseFile = caseFile.attach forms ∧
      ∀ form ∈ forms, form.documentType = d84Form.documentType := by
  have reached : caseFile.Reached (leaves letter caseFile caseFile) :=
    reached_leaves (Or.inl rfl) letter
  exact reached.eq_attach

private theorem document?_leaves_of_ne
    (other : documentType ≠ d84Form.documentType) (letter : Letter) (caseFile : CaseFile) :
    (leaves letter caseFile caseFile).facts.document? documentType =
      caseFile.facts.document? documentType := by
  obtain ⟨forms, added, onlyForms⟩ := leaves_eq_attach letter caseFile
  rw [added]
  apply CaseFile.document?_attach_of_absent
  intro form member
  rw [onlyForms form member]
  exact other.symm

private theorem documentFor?_leaves_attach
    (selected : key ∈ letter.rule.packs) (member : slot ∈ key.toPack.slots)
    {document : PrintDocument} (extra : List CaseDocument)
    (found : PrintRequest.documentFor? key.toPack (leaves letter caseFile caseFile).facts slot =
      some document) :
    PrintRequest.documentFor? key.toPack
        (leaves letter (caseFile.attach extra) (caseFile.attach extra)).facts slot =
      some (document.refiled (caseFile.newForm? extra)) := by
  obtain ⟨sameType, _⟩ := PrintRequest.of_documentFor?_eq_some found
  by_cases form : slot.documentType = d84Form.documentType
  · have derived : slot.template = none := PackKey.derived_of_form member form
    have encloses : letter.enclosesForm = true := by
      rw [← letter.contains_form_of_mem_packs selected, Pack.contains, List.contains_iff_mem]
      exact List.mem_map.2 ⟨slot, member, form⟩
    rw [PrintRequest.documentFor?_of_derived derived, leaves, if_pos encloses, form,
      Option.map_eq_some_iff] at found
    obtain ⟨source, oldest, rfl⟩ := found
    rw [PrintRequest.documentFor?_of_derived derived, leaves, if_pos encloses, form,
      document?_withForm_attach extra oldest]
    cases caseFile.newForm? extra <;> rfl
  · have others : document.documentType ≠ d84Form.documentType := by
      rw [sameType]
      exact form
    rw [PrintDocument.refiled_of_ne others]
    cases used : slot.template with
    | some template =>
        rw [PrintRequest.documentFor?_of_rendered used] at found ⊢
        exact found
    | none =>
        rw [PrintRequest.documentFor?_of_derived used, document?_leaves_of_ne form,
          Option.map_eq_some_iff] at found
        obtain ⟨source, oldest, rfl⟩ := found
        rw [PrintRequest.documentFor?_of_derived used, document?_leaves_of_ne form,
          CaseFile.document?_attach, oldest]
        rfl

private theorem ofPack_leaves_attach
    (selected : key ∈ letter.rule.packs) {request : PrintRequest} (extra : List CaseDocument)
    (assembled : PrintRequest.ofPack letter key.toPack (leaves letter caseFile caseFile) party =
      .ok request) :
    PrintRequest.ofPack letter key.toPack
        (leaves letter (caseFile.attach extra) (caseFile.attach extra)) party =
      .ok (request.refiled (caseFile.newForm? extra)) := by
  obtain ⟨documents, filled, rfl⟩ := PrintRequest.eq_of_ofPack_eq_ok assembled
  have filledLater : PrintRequest.documentsFor key.toPack
        (leaves letter (caseFile.attach extra) (caseFile.attach extra)).facts
        (key.toPack.slots.map id) =
      (PrintRequest.documentsFor key.toPack (leaves letter caseFile caseFile).facts
        key.toPack.slots).map
          (List.map fun document => document.refiled (caseFile.newForm? extra)) := by
    apply PrintRequest.documentsFor_map
    · intro slot _
      rfl
    · intro slot member
      cases found : PrintRequest.documentFor? key.toPack
          (leaves letter caseFile caseFile).facts slot with
      | none =>
          obtain ⟨_, missing⟩ := PrintRequest.documentsFor_eq_error_of_missing member found
          cases filled.symm.trans missing
      | some document =>
          exact documentFor?_leaves_attach selected member extra found
  obtain ⟨forms, added, _⟩ := leaves_eq_attach letter caseFile
  obtain ⟨formsLater, addedLater, _⟩ := leaves_eq_attach letter (caseFile.attach extra)
  rw [List.map_id, filled] at filledLater
  rw [PrintRequest.ofPack_eq_map, filledLater, addedLater, added]
  simp only [Except.map, CaseFile.applicant_attach, CaseFile.id_attach]
  rfl

private theorem enclosesForm_of_missing
    (selected : key ∈ letter.rule.packs)
    (missing : PrintRequest.ofPack letter key.toPack (leaves letter caseFile caseFile) party =
      .error documentType) : letter.enclosesForm = false := by
  rw [Bool.eq_false_iff]
  intro encloses
  obtain ⟨slot, member, misses, rfl⟩ := (PrintRequest.ofPack_eq_error_iff.1 missing).exists_slot
  have enclosed : key.toPack.contains .conditionalOrderApplicationForm = true := by
    rw [letter.contains_form_of_mem_packs selected, encloses]
  have form : slot.documentType = d84Form.documentType :=
    PackKey.documentType_of_contains_form enclosed member misses.1
  have held := caseFile.hasDocument_withForm
  rw [leaves, if_pos encloses, Slot.Misses, form, ← CaseFacts.hasDocument_eq_false_iff,
    held] at misses
  cases misses.2

private theorem documentType_eq_of_missing
    {facts : CaseFacts} (first : FirstMissing facts key.toPack.slots documentType)
    (member : slot ∈ key.toPack.slots) (derived : slot.template = none) :
    slot.documentType = documentType := by
  obtain ⟨other, memberOther, misses, rfl⟩ := first.exists_slot
  exact PackKey.documentType_eq_of_derived member memberOther derived misses.1

private theorem exists_ofPack_attach_of_mem
    (missing : PrintRequest.ofPack letter key.toPack caseFile party = .error documentType)
    {extra : List CaseDocument} {document : CaseDocument} (member : document ∈ extra)
    (sameType : document.documentType = documentType) :
    ∃ request, PrintRequest.ofPack letter key.toPack (caseFile.attach extra) party =
      .ok request := by
  have first := PrintRequest.ofPack_eq_error_iff.1 missing
  cases assembled : PrintRequest.ofPack letter key.toPack (caseFile.attach extra) party with
  | ok request =>
      exact ⟨request, rfl⟩
  | error other =>
      obtain ⟨slot, slotMember, ⟨derived, absent⟩, _⟩ :=
        (PrintRequest.ofPack_eq_error_iff.1 assembled).exists_slot
      have slotType := documentType_eq_of_missing first slotMember derived
      have attached : document ∈ (caseFile.attach extra).facts.documents :=
        List.mem_append_right _ member
      exact absurd (sameType.trans slotType.symm) (absent document attached)

private theorem ofPack_attach_of_absent
    (missing : PrintRequest.ofPack letter key.toPack caseFile party = .error documentType)
    {extra : List CaseDocument}
    (absent : ∀ document ∈ extra, document.documentType ≠ documentType) :
    PrintRequest.ofPack letter key.toPack (caseFile.attach extra) party = .error documentType := by
  have first := PrintRequest.ofPack_eq_error_iff.1 missing
  have agree : ∀ slot ∈ key.toPack.slots,
      PrintRequest.documentFor? key.toPack (caseFile.attach extra).facts slot =
        PrintRequest.documentFor? key.toPack caseFile.facts slot := by
    intro slot member
    cases used : slot.template with
    | some template =>
        rw [PrintRequest.documentFor?_of_rendered used, PrintRequest.documentFor?_of_rendered used]
    | none =>
        have slotType := documentType_eq_of_missing first member used
        rw [PrintRequest.documentFor?_of_derived used, PrintRequest.documentFor?_of_derived used,
          slotType, CaseFile.document?_attach_of_absent absent]
  rw [← missing]
  exact PrintRequest.ofPack_congr rfl (CaseFile.applicant_attach _ _ _) rfl rfl agree

/-! ## Printing -/

variable {catalog : Catalog}

private theorem print_inMemory_of_refused
    (built : Catalog.standard = .ok catalog) {refusal : Refusal}
    (refused : letter.rule.select caseFile.facts party = .error refusal)
    (state : List CaseDocument) (queue : List PrintRequest) :
    ((inMemory catalog).print letter party caseFile state queue).outcome =
      .error (.refused refusal) := by
  have unresolved := resolve_inMemory_of_refused built (Or.inl rfl) refused state
  rw [print_of_unresolved unresolved]

private theorem print_inMemory_of_missing
    (built : Catalog.standard = .ok catalog)
    (selected : letter.rule.select caseFile.facts party = .ok key)
    (missing : PrintRequest.ofPack letter key.toPack (leaves letter caseFile caseFile) party =
      .error documentType) (state : List CaseDocument) (queue : List PrintRequest) :
    ((inMemory catalog).print letter party caseFile state queue).outcome =
      .error (.missingDocument letter documentType) := by
  obtain ⟨later, resolved⟩ := resolve_inMemory_of_selected built (Or.inl rfl) selected state
  rw [print_of_resolved resolved, post_of_missing missing]

private theorem print_inMemory_of_assembled
    (built : Catalog.standard = .ok catalog)
    (selected : letter.rule.select caseFile.facts party = .ok key) {request : PrintRequest}
    (assembled : PrintRequest.ofPack letter key.toPack (leaves letter caseFile caseFile) party =
      .ok request) (state : List CaseDocument) (queue : List PrintRequest) :
    let printed := (inMemory catalog).print letter party caseFile state queue
    printed.outcome = .ok ⟨Printer.reference request.caseId (queue.length + 1),
        request.documents.length⟩ ∧
      printed.printer = queue ++ [request] := by
  obtain ⟨later, resolved⟩ := resolve_inMemory_of_selected built (Or.inl rfl) selected state
  have asked : (inMemory catalog).printer.print queue request =
      (.ok ⟨Printer.reference request.caseId (queue.length + 1), request.documents.length⟩,
        queue ++ [request]) := rfl
  rw [print_of_resolved resolved, post_of_assembled assembled asked]
  exact ⟨rfl, rfl⟩

/-- What further documents on file do to the printing of a letter. -/
structure Endures
    (catalog : Catalog) (letter : Letter) (party : Party) (caseFile : CaseFile)
    (extra : List CaseDocument) (state : List CaseDocument) (queue : List PrintRequest) :
    Prop where
  /-- A letter that was posted still is; the file name of its form may be that of a new one. -/
  posted :
    let before := (inMemory catalog).print letter party caseFile state queue
    let after := (inMemory catalog).print letter party (caseFile.attach extra) state queue
    ∀ receipt, before.outcome = .ok receipt →
      after.outcome = .ok receipt ∧
        ∃ request, before.printer = queue ++ [request] ∧
          after.printer = queue ++ [request.refiled (caseFile.newForm? extra)]
  /-- A letter that lacked a document is posted just when one of its type has come in. -/
  supplied :
    let before := (inMemory catalog).print letter party caseFile state queue
    let after := (inMemory catalog).print letter party (caseFile.attach extra) state queue
    ∀ named documentType, before.outcome = .error (.missingDocument named documentType) →
      ((∃ receipt, after.outcome = .ok receipt) ↔
        ∃ document ∈ extra, document.documentType = documentType) ∧
      ((∀ document ∈ extra, document.documentType ≠ documentType) →
        after.outcome = before.outcome)
  failed :
    let before := (inMemory catalog).print letter party caseFile state queue
    let after := (inMemory catalog).print letter party (caseFile.attach extra) state queue
    ∀ fault, before.outcome = .error fault →
      (∀ named documentType, fault ≠ .missingDocument named documentType) →
      after.outcome = .error fault

private theorem endures_of_refused
    (built : Catalog.standard = .ok catalog) {refusal : Refusal}
    (refused : letter.rule.select caseFile.facts party = .error refusal)
    (extra : List CaseDocument) (state : List CaseDocument) (queue : List PrintRequest) :
    Endures catalog letter party caseFile extra state queue := by
  have refusedLater := (letter.select_rule_attach caseFile extra party).trans refused
  have before := print_inMemory_of_refused built refused state queue
  have after := print_inMemory_of_refused built refusedLater state queue
  constructor
  · intro _ _ receipt posted
    cases before.symm.trans posted
  · intro _ _ named documentType missing
    cases before.symm.trans missing
  · intro _ _ fault failed _
    rw [after, ← before, failed]

private theorem endures_of_assembled
    (built : Catalog.standard = .ok catalog)
    (selected : letter.rule.select caseFile.facts party = .ok key) {request : PrintRequest}
    (assembled : PrintRequest.ofPack letter key.toPack (leaves letter caseFile caseFile) party =
      .ok request) (extra : List CaseDocument) (state : List CaseDocument)
    (queue : List PrintRequest) :
    Endures catalog letter party caseFile extra state queue := by
  have selectedLater := (letter.select_rule_attach caseFile extra party).trans selected
  have assembledLater :=
    ofPack_leaves_attach (letter.rule_selectsDeclared selected) extra assembled
  obtain ⟨before, printed⟩ :=
    print_inMemory_of_assembled built selected assembled state queue
  obtain ⟨after, printedLater⟩ :=
    print_inMemory_of_assembled built selectedLater assembledLater state queue
  have sameCount :
      (request.refiled (caseFile.newForm? extra)).documents.length = request.documents.length :=
    List.length_map _
  rw [sameCount] at after
  constructor
  · intro _ _ receipt posted
    exact ⟨after.trans (before.symm.trans posted), request, printed, printedLater⟩
  · intro _ _ named documentType missing
    cases before.symm.trans missing
  · intro _ _ fault failed _
    cases before.symm.trans failed

private theorem endures_of_missing
    (built : Catalog.standard = .ok catalog)
    (selected : letter.rule.select caseFile.facts party = .ok key)
    (missing : PrintRequest.ofPack letter key.toPack (leaves letter caseFile caseFile) party =
      .error documentType) (extra : List CaseDocument) (state : List CaseDocument)
    (queue : List PrintRequest) :
    Endures catalog letter party caseFile extra state queue := by
  have selectedLater := (letter.select_rule_attach caseFile extra party).trans selected
  have encloses := enclosesForm_of_missing (letter.rule_selectsDeclared selected) missing
  have unchanged : ∀ filed, leaves letter filed filed = filed := by
    intro filed
    rw [leaves, encloses]
    rfl
  have before := print_inMemory_of_missing built selected missing state queue
  rw [unchanged] at missing
  constructor
  · intro _ _ receipt posted
    cases before.symm.trans posted
  · intro _ _ named other failed
    obtain rfl : documentType = other := by
      cases before.symm.trans failed
      rfl
    have stays : (∀ document ∈ extra, document.documentType ≠ documentType) →
        ((inMemory catalog).print letter party (caseFile.attach extra) state queue).outcome =
          .error (.missingDocument letter documentType) := by
      intro absent
      have missingLater := ofPack_attach_of_absent missing absent
      rw [← unchanged (caseFile.attach extra)] at missingLater
      exact print_inMemory_of_missing built selectedLater missingLater state queue
    refine ⟨⟨?_, ?_⟩, fun absent => (stays absent).trans before.symm⟩
    · rintro ⟨receipt, posted⟩
      by_contra none
      have absent : ∀ document ∈ extra, document.documentType ≠ documentType :=
        fun document member same => none ⟨document, member, same⟩
      cases (stays absent).symm.trans posted
    · rintro ⟨document, member, sameType⟩
      obtain ⟨request, assembled⟩ := exists_ofPack_attach_of_mem missing member sameType
      rw [← unchanged (caseFile.attach extra)] at assembled
      exact ⟨_, (print_inMemory_of_assembled built selectedLater assembled state queue).1⟩
  · intro _ _ fault failed notMissing
    obtain rfl := Except.error.inj (before.symm.trans failed)
    exact absurd rfl (notMissing letter documentType)

/-- More documents on file never break a letter. -/
theorem endures_inMemory
    (built : Catalog.standard = .ok catalog) (letter : Letter) (party : Party)
    (caseFile : CaseFile) (extra : List CaseDocument) (state : List CaseDocument)
    (queue : List PrintRequest) :
    Endures catalog letter party caseFile extra state queue := by
  cases selected : letter.rule.select caseFile.facts party with
  | error refusal =>
      exact endures_of_refused built selected extra state queue
  | ok key =>
      cases assembled :
          PrintRequest.ofPack letter key.toPack (leaves letter caseFile caseFile) party with
      | error documentType => exact endures_of_missing built selected assembled extra state queue
      | ok request => exact endures_of_assembled built selected assembled extra state queue

/-- A signed form and a final order come in.  The form is sent back to the applicant in place of a
blank one, and the final order goes out, which could not be printed before. -/
theorem endures_inMemory_of_signed_form :
    let form : CaseDocument :=
      ⟨.conditionalOrderApplicationForm, "Signed form", "signed.pdf", "memory://signed"⟩
    let order : CaseDocument := ⟨.finalOrderGranted, "Final order", "order.pdf", "memory://order"⟩
    let caseFile := CaseFile.bare 7
    let later := caseFile.attach [order, form]
    let print (letter : Letter) (caseFile : CaseFile) :=
      (inMemory ⟨standardRules⟩).print letter .applicant1 caseFile [] []
    let fileNames (caseFile : CaseFile) :=
      (print .applyForConditionalOrder caseFile).printer.map fun request =>
        request.documents.map PrintDocument.fileName
    Catalog.standard = .ok ⟨standardRules⟩ ∧
      (∀ letter, Endures ⟨standardRules⟩ letter .applicant1 caseFile [order, form] [] []) ∧
      fileNames caseFile = [["Coversheet", "ApplyForConditionalOrderLetter", "D84-7.pdf"]] ∧
      fileNames later = [["Coversheet", "ApplyForConditionalOrderLetter", "signed.pdf"]] ∧
      (print .finalOrderGranted caseFile).outcome =
        .error (.missingDocument .finalOrderGranted .finalOrderGranted) ∧
      (print .finalOrderGranted later).outcome = .ok ⟨"7-0001", 3⟩ := by
  intro form order caseFile later print fileNames
  exact ⟨Catalog.standard_eq_ok,
    fun letter => endures_inMemory Catalog.standard_eq_ok letter .applicant1 caseFile _ [] [],
    by decide +kernel, by decide +kernel, by decide +kernel, by decide +kernel⟩

end Service

end LetterPacks
