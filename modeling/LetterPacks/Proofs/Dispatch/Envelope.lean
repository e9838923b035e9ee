import LetterPacks.Proofs.Dispatch.Recording
import LetterPacks.Proofs.Printing.Assembly

/-!
# What lies in the envelope

A letter is printed from the selected pack slot by slot.  Once the pack has been resolved, nothing
but a missing document keeps the request from being made, and it is never the application form that
is missing.  The request that is made is faithful to the pack, to the case file as it was left, and
to the call.
-/

namespace LetterPacks

/-- A document fills a slot of a pack.  It is rendered from the template of the slot under the name
that the pack has for it, or it is the oldest one of its type in the case. -/
structure Slot.FilledBy
    (pack : Pack) (facts : CaseFacts) (slot : Slot) (document : PrintDocument) : Prop where
  documentType : document.documentType = slot.documentType
  template : document.template = slot.template
  rendered : ∀ template, slot.template = some template →
    pack.templateName? template = some document.fileName
  taken : slot.template = none →
    ∃ source, facts.IsOldest source ∧ source.documentType = slot.documentType ∧
      document.fileName = source.fileName

/-- A request posts a pack by a call for a letter, a party and a case file; `filed` is the case
file with the document that the pack needs. -/
structure PrintRequest.Posts
    (request : PrintRequest) (pack : Pack) (letter : Letter) (party : Party)
    (caseFile filed : CaseFile) : Prop where
  letter_eq : request.letter = letter
  pack_eq : request.pack = pack.key
  caseId_eq : request.caseId = caseFile.id
  recipient_eq : request.recipient = party
  language_eq : request.language =
    if (caseFile.facts.applicant party).prefersWelsh then .welsh else .english
  documentTypes : request.documents.map PrintDocument.documentType = pack.documentTypes
  documents : List.Forall₂ (Slot.FilledBy pack filed.facts) pack.slots request.documents

namespace Service

variable {σ τ : Type}

/-- A resolved pack is printed from the case file as it was left, unless that misses a document. -/
structure FillsEnvelope
    (service : Service σ τ) (letter : Letter) (party : Party) (caseFile : CaseFile) (state : σ)
    (pack : Pack) (filed : CaseFile) : Prop where
  resolved : ∃ next, service.resolve letter party caseFile state = ⟨.ok pack, filed, next⟩
  unmade_iff :
    (∃ documentType, PrintRequest.ofPack letter pack filed party = .error documentType) ↔
      ∃ slot ∈ pack.slots, slot.Misses filed.facts
  unmade : ∀ documentType, PrintRequest.ofPack letter pack filed party = .error documentType ↔
    FirstMissing filed.facts pack.slots documentType
  /-- The application form is there for every slot that takes it from the case file. -/
  form : ∀ slot ∈ pack.slots, slot.documentType = .conditionalOrderApplicationForm →
    ¬ slot.Misses filed.facts
  made : ∀ request, PrintRequest.ofPack letter pack filed party = .ok request →
    request.Posts pack letter party caseFile filed
  /-- Without a request the printer is given nothing, and the fault names the missing document. -/
  withheld : ∀ documentType, PrintRequest.ofPack letter pack filed party = .error documentType →
    ∀ queue,
      let printed := service.print letter party caseFile state queue
      printed.outcome = .error (.missingDocument letter documentType) ∧
        ∃ calls, service.recorded.print letter party caseFile (state, []) (queue, []) =
          printed.recorded calls []
  /-- A request that is made is what the printer is given. -/
  printed : ∀ request, PrintRequest.ofPack letter pack filed party = .ok request →
    ∀ queue, ∃ calls,
      service.recorded.print letter party caseFile (state, []) (queue, []) =
        (service.print letter party caseFile state queue).recorded calls [request]

variable {service : Service σ τ} {letter : Letter} {party : Party} {caseFile filed : CaseFile}
  {state next : σ} {pack : Pack}

private theorem resolve_eq_ok_of_chosen
    {form? : Option OnDemandDocument}
    (chosen : service.choose letter party caseFile.facts = .ok (pack, form?))
    (supplied : ∀ fault,
      (service.resolve letter party caseFile state).outcome ≠ .error (.generation fault)) :
    (service.resolve letter party caseFile state).outcome = .ok pack := by
  cases form? with
  | none =>
      rw [resolve_of_chosen chosen]
  | some form =>
      rcases ensured : service.generator.ensure form caseFile state with ⟨fault | added, _, _⟩
      · rw [resolve_of_failed chosen ensured] at supplied
        exact absurd rfl (supplied fault)
      · rw [resolve_of_ensured chosen ensured]

private theorem hasDocument_form_of_resolved
    (built : Catalog.standard = .ok service.catalog) (faithful : service.generator.Faithful)
    (resolved : service.resolve letter party caseFile state = ⟨.ok pack, filed, next⟩)
    (enclosed : pack.contains .conditionalOrderApplicationForm = true) :
    filed.facts.hasDocument .conditionalOrderApplicationForm = true := by
  obtain ⟨form?, chosen⟩ := chosen_of_resolve_eq_ok (congrArg Resolved.outcome resolved)
  obtain ⟨key, selected, rfl, sameForm⟩ := selected_of_choose_eq_ok built chosen
  have encloses : letter.enclosesForm = true := by
    rw [← letter.contains_form_of_mem_packs (letter.rule_selectsDeclared selected)]
    exact enclosed
  rw [sameForm, Letter.form?, if_pos encloses] at chosen
  rcases ensured : service.generator.ensure d84Form caseFile state with ⟨fault | added, left, _⟩
  · rw [resolve_of_failed chosen ensured] at resolved
    cases resolved
  · rw [resolve_of_ensured chosen ensured] at resolved
    obtain rfl : left = filed := congrArg Resolved.caseFile resolved
    have held := faithful.hasDocument_ensure (congrArg Ensured.outcome ensured)
    rw [ensured] at held
    exact held

end Service

namespace PrintRequest

variable {key : PackKey} {letter : Letter} {party : Party} {caseFile filed : CaseFile}
  {facts : CaseFacts}

private theorem filledBy_of_documentFor?
    {slot : Slot} (member : slot ∈ key.toPack.slots) {document : PrintDocument}
    (found : documentFor? key.toPack facts slot = some document) :
    slot.FilledBy key.toPack facts document := by
  obtain ⟨sameType, sameTemplate⟩ := of_documentFor?_eq_some found
  refine ⟨sameType, sameTemplate, ?_, ?_⟩
  · intro template used
    have named := key.isSome_templateName?_toPack member used
    exact templateName?_of_documentFor?_eq_some used named found
  · intro derived
    rw [documentFor?_of_derived derived, Option.map_eq_some_iff] at found
    obtain ⟨source, oldest, rfl⟩ := found
    obtain ⟨sourceType, first⟩ := CaseFacts.document?_eq_some_iff.1 oldest
    exact ⟨source, first, sourceType, rfl⟩

private theorem forall₂_filledBy_of_documentsFor
    {documents : List PrintDocument}
    (assembled : documentsFor key.toPack facts key.toPack.slots = .ok documents) :
    List.Forall₂ (Slot.FilledBy key.toPack facts) key.toPack.slots documents := by
  have found := forall₂_of_documentsFor_eq_ok assembled
  have listed : List.Forall₂ (fun slot document => slot ∈ key.toPack.slots ∧
      documentFor? key.toPack facts slot = some document) key.toPack.slots documents :=
    (List.forall₂_and_left _ _).2 ⟨fun _ member => member, found⟩
  exact listed.imp fun slot document ⟨member, found⟩ => filledBy_of_documentFor? member found

private theorem posts_of_ofPack_eq_ok
    {request : PrintRequest} (documents : List CaseDocument)
    (made : ofPack letter key.toPack (caseFile.attach documents) party = .ok request) :
    request.Posts key.toPack letter party caseFile (caseFile.attach documents) := by
  obtain ⟨printed, assembled, rfl⟩ := eq_of_ofPack_eq_ok made
  have filled := forall₂_filledBy_of_documentsFor assembled
  have sameTypes : List.Forall₂ Eq
      (key.toPack.slots.map Slot.documentType) (printed.map PrintDocument.documentType) := by
    rw [List.forall₂_map_left_iff, List.forall₂_map_right_iff]
    exact filled.imp fun _ _ fills => fills.documentType.symm
  rw [List.forall₂_eq_eq_eq] at sameTypes
  have sameParty := CaseFile.applicant_attach caseFile documents party
  refine ⟨rfl, rfl, rfl, rfl, ?_, sameTypes.symm, filled⟩
  rw [sameParty]
  rfl

end PrintRequest

namespace Service

variable {σ τ : Type} {service : Service σ τ} {letter : Letter} {party : Party}
  {caseFile filed : CaseFile} {state next : σ} {pack : Pack}

private theorem print_of_unmade
    (resolved : service.resolve letter party caseFile state = ⟨.ok pack, filed, next⟩)
    {documentType : DocumentType}
    (unmade : PrintRequest.ofPack letter pack filed party = .error documentType) (queue : τ) :
    let printed := service.print letter party caseFile state queue
    printed.outcome = .error (.missingDocument letter documentType) ∧
      ∃ calls, service.recorded.print letter party caseFile (state, []) (queue, []) =
        printed.recorded calls [] := by
  obtain ⟨calls, requests, _, recorded, _, outcome⟩ :=
    service.print_recorded letter party caseFile state queue [] []
  rw [resolved] at outcome
  rcases outcome with ⟨_, ⟨⟩, _⟩ | ⟨_, other, ⟨⟩, missing, failed, rfl⟩ | ⟨_, _, ⟨⟩, made, _⟩
  · obtain rfl : other = documentType := Except.error.inj (missing.symm.trans unmade)
    exact ⟨failed, calls, recorded⟩
  · cases made.symm.trans unmade

private theorem print_of_made
    (resolved : service.resolve letter party caseFile state = ⟨.ok pack, filed, next⟩)
    {request : PrintRequest}
    (made : PrintRequest.ofPack letter pack filed party = .ok request) (queue : τ) :
    ∃ calls, service.recorded.print letter party caseFile (state, []) (queue, []) =
      (service.print letter party caseFile state queue).recorded calls [request] := by
  obtain ⟨calls, requests, _, recorded, _, outcome⟩ :=
    service.print_recorded letter party caseFile state queue [] []
  rw [resolved] at outcome
  rcases outcome with ⟨_, ⟨⟩, _⟩ | ⟨_, _, ⟨⟩, missing, _⟩ | ⟨_, other, ⟨⟩, assembled, _, rfl⟩
  · cases missing.symm.trans made
  · obtain rfl : other = request := Except.ok.inj (assembled.symm.trans made)
    exact ⟨calls, recorded⟩

/-- Once a selected pack of the standard catalog has been resolved, it is printed faithfully unless
a document is missing. -/
theorem fillsEnvelope_of_selected
    (built : Catalog.standard = .ok service.catalog) (faithful : service.generator.Faithful)
    {rule : SelectionRule} (found : service.catalog.lookup letter = .ok rule)
    (selected : rule.resolve caseFile.facts party = .ok pack)
    (supplied : ∀ fault,
      (service.resolve letter party caseFile state).outcome ≠ .error (.generation fault)) :
    service.FillsEnvelope letter party caseFile state pack
      (service.resolve letter party caseFile state).caseFile := by
  obtain ⟨key, _, rfl⟩ := Catalog.selected_of_resolved built found selected
  obtain ⟨form?, chosen⟩ := choose_of_resolved found selected
  have outcome := resolve_eq_ok_of_chosen chosen supplied
  obtain ⟨documents, attached⟩ := service.exists_attach_of_resolve letter party caseFile state
  rcases resolved : service.resolve letter party caseFile state with ⟨answer, filed, next⟩
  rw [resolved] at outcome attached
  obtain rfl : answer = .ok key.toPack := outcome
  obtain rfl : filed = caseFile.attach documents := attached
  refine {
    resolved := ⟨next, resolved⟩
    unmade_iff := ?_
    unmade := fun documentType => PrintRequest.ofPack_eq_error_iff
    form := ?_
    made := fun request made => PrintRequest.posts_of_ofPack_eq_ok documents made
    withheld := fun documentType unmade queue => print_of_unmade resolved unmade queue
    printed := fun request made queue => print_of_made resolved made queue }
  · simp only [PrintRequest.ofPack_eq_error_iff]
    constructor
    · rintro ⟨documentType, first⟩
      obtain ⟨slot, member, misses, _⟩ := first.exists_slot
      exact ⟨slot, member, misses⟩
    · rintro ⟨slot, member, misses⟩
      exact exists_firstMissing member misses
  · intro slot member same misses
    have enclosed : key.toPack.contains .conditionalOrderApplicationForm = true := by
      rw [Pack.contains, List.contains_iff_mem, ← same]
      exact List.mem_map_of_mem member
    have held := hasDocument_form_of_resolved built faithful resolved enclosed
    have absent := CaseFacts.hasDocument_eq_false_iff.2 misses.2
    rw [same, held] at absent
    cases absent

theorem fillsEnvelope_of_selected_of_rendered :
    let caseFile := CaseFile.bare 7
    let pack := PackKey.applyForCoSole.toPack
    let resolved := unsteady.resolve .applyForConditionalOrder .applicant1 caseFile (0, [])
    Catalog.standard = .ok unsteady.catalog ∧ unsteady.generator.Faithful ∧
      unsteady.catalog.lookup .applyForConditionalOrder = .ok applicationRule ∧
      applicationRule.resolve caseFile.facts .applicant1 = .ok pack ∧
      resolved.outcome = .ok pack ∧
      unsteady.FillsEnvelope .applyForConditionalOrder .applicant1 caseFile (0, []) pack
        resolved.caseFile ∧
      ((PrintRequest.ofPack .applyForConditionalOrder pack resolved.caseFile .applicant1).map
        fun request => request.documents.map PrintDocument.fileName) =
          .ok ["Coversheet", "ApplyForConditionalOrderLetter", "D84-7.pdf"] := by
  intro caseFile pack resolved
  have found : unsteady.catalog.lookup .applyForConditionalOrder = .ok applicationRule :=
    Catalog.lookup_of_standard Catalog.standard_eq_ok .applyForConditionalOrder
  have selected : applicationRule.resolve caseFile.facts .applicant1 = .ok pack := rfl
  have outcome : resolved.outcome = .ok pack := rfl
  have supplied : ∀ fault, resolved.outcome ≠ .error (.generation fault) := by
    intro fault failed
    cases outcome.symm.trans failed
  exact ⟨Catalog.standard_eq_ok, faithful_unsteady, found, selected, outcome,
    fillsEnvelope_of_selected Catalog.standard_eq_ok faithful_unsteady found selected supplied,
    by decide +kernel⟩

end Service

end LetterPacks
