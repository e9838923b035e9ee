import LetterPacks.Proofs.Dispatch.Confidentiality
import LetterPacks.Proofs.Selection.Exchange

/-!
# Equal treatment of joint applicants

What one of two joint applicants gets, the other one gets when they have changed places.  A case
file and the exchanged one are followed side by side through the stages of a dispatch.  The same
form is rendered, since rendering does not ask about the applicants; the request is the same but for
the recipient, and with the final order the two packs and their cover letters are counterparts.
-/

namespace LetterPacks

def CaseFile.swapped (caseFile : CaseFile) : CaseFile :=
  { caseFile with facts := caseFile.facts.swapped }

private theorem CaseFile.swapped_attach (caseFile : CaseFile) (documents : List CaseDocument) :
    (caseFile.attach documents).swapped = caseFile.swapped.attach documents :=
  rfl

/-- The template for the other applicant, where it is another one. -/
def Template.counterpart : Template → Template
  | .foGrantedCoverLetterApp1 => .foGrantedCoverLetterApp2
  | .foGrantedCoverLetterApp2 => .foGrantedCoverLetterApp1
  | template => template

def Slot.counterpart (slot : Slot) : Slot :=
  { slot with template := slot.template.map Template.counterpart }

/-- The pack for the other applicant: the templates in which the two differ are exchanged. -/
def Pack.counterpart (pack : Pack) : Pack :=
  { pack with
    key := pack.key.counterpart
    slots := pack.slots.map Slot.counterpart
    names := pack.names.map fun entry => (entry.1.counterpart, entry.2) }

def PrintDocument.counterpart (document : PrintDocument) : PrintDocument :=
  { document with template := document.template.map Template.counterpart }

def PrintRequest.counterpart (request : PrintRequest) : PrintRequest :=
  { request with
    pack := request.pack.counterpart
    documents := request.documents.map PrintDocument.counterpart }

def PrintRequest.addressedTo (party : Party) (request : PrintRequest) : PrintRequest :=
  { request with recipient := party }

def DispatchFault.swapped : DispatchFault → DispatchFault
  | .refused refusal => .refused refusal.swapped
  | fault => fault

private theorem Template.counterpart_involutive : Function.Involutive counterpart := by
  intro template
  cases template <;> rfl

private theorem PackKey.toPack_counterpart (key : PackKey) :
    key.counterpart.toPack = key.toPack.counterpart := by
  cases key <;> rfl

namespace PrintRequest

variable {letter : Letter} {pack : Pack} {facts : CaseFacts} {caseFile : CaseFile} {party : Party}

private theorem templateName?_counterpart (pack : Pack) (template : Template) :
    pack.counterpart.templateName? template.counterpart = pack.templateName? template := by
  have sameEntry : ((fun entry : Template × String => entry.1 == template.counterpart) ∘
      fun entry : Template × String => (entry.1.counterpart, entry.2)) =
      fun entry => entry.1 == template := by
    funext entry
    have injective := Template.counterpart_involutive.injective
    exact Bool.eq_iff_iff.2 (by simp [injective.eq_iff])
  rw [Pack.templateName?, Pack.counterpart, List.find?_map, sameEntry, Option.map_map]
  rfl

private theorem documentFor?_counterpart
    {slot : Slot} (named : ∀ template, slot.template = some template →
      (pack.templateName? template).isSome = true) :
    documentFor? pack.counterpart facts slot.counterpart =
      (documentFor? pack facts slot).map PrintDocument.counterpart := by
  cases used : slot.template with
  | none =>
      have derived : slot.counterpart.template = none := by
        rw [Slot.counterpart, used]
        rfl
      rw [documentFor?_of_derived used, documentFor?_of_derived derived, Option.map_map]
      rfl
  | some template =>
      have usedOther : slot.counterpart.template = some template.counterpart := by
        rw [Slot.counterpart, used]
        rfl
      obtain ⟨name, sameName⟩ := Option.isSome_iff_exists.1 (named template used)
      rw [documentFor?_of_rendered used, documentFor?_of_rendered usedOther,
        templateName?_counterpart, sameName]
      rfl

private theorem ofPack_counterpart (letter : Letter) (key : PackKey) (caseFile : CaseFile)
    (party : Party) :
    ofPack letter key.toPack.counterpart caseFile party =
      (ofPack letter key.toPack caseFile party).map counterpart := by
  have filled : documentsFor key.toPack.counterpart caseFile.facts
        (key.toPack.slots.map Slot.counterpart) =
      (documentsFor key.toPack caseFile.facts key.toPack.slots).map
        (List.map PrintDocument.counterpart) := by
    apply documentsFor_map
    · intro slot _
      rfl
    · intro slot member
      exact documentFor?_counterpart fun template => key.isSome_templateName?_toPack member
  rw [ofPack_eq_map, ofPack_eq_map, show key.toPack.counterpart.slots =
    key.toPack.slots.map Slot.counterpart from rfl, filled]
  cases documentsFor key.toPack caseFile.facts key.toPack.slots <;> rfl

private theorem ofPack_swapped
    (letter : Letter) (pack : Pack) (caseFile : CaseFile) (party : Party) :
    ofPack letter pack caseFile.swapped party.other =
      (ofPack letter pack caseFile party).map (addressedTo party.other) := by
  have sameDocuments : documentsFor pack caseFile.swapped.facts pack.slots =
      documentsFor pack caseFile.facts pack.slots := documentsFor_congr fun _ _ => rfl
  have sameApplicant : caseFile.swapped.facts.applicant party.other =
      caseFile.facts.applicant party := caseFile.facts.applicant_swapped party
  have sameDetails : informationFor letter caseFile.swapped.facts =
      informationFor letter caseFile.facts := by
    have asked : caseFile.swapped.facts.informationRequest =
        caseFile.facts.informationRequest.map InformationRequest.swapped := rfl
    unfold informationFor
    rw [asked]
    cases caseFile.facts.informationRequest <;> rfl
  rw [ofPack_eq_map, ofPack_eq_map, sameDocuments, sameApplicant, sameDetails]
  cases documentsFor pack caseFile.facts pack.slots <;> rfl

end PrintRequest

/-- The packs of a letter and their requests for the one applicant and for the other. -/
structure Letter.Pairs
    (letter : Letter) (changePack : Pack → Pack)
    (changeRequest : PrintRequest → PrintRequest) : Prop where
  pack : ∀ key ∈ letter.rule.packs, key.counterpart.toPack = changePack key.toPack
  request : ∀ key ∈ letter.rule.packs, ∀ caseFile party,
    PrintRequest.ofPack letter (changePack key.toPack) caseFile party =
      (PrintRequest.ofPack letter key.toPack caseFile party).map changeRequest

private theorem Letter.pairs_counterpart (letter : Letter) :
    letter.Pairs Pack.counterpart PrintRequest.counterpart where
  pack := fun key _ => key.toPack_counterpart
  request := fun key _ caseFile party =>
    PrintRequest.ofPack_counterpart letter key caseFile party

private theorem Letter.pairs_id {letter : Letter} (unlike : letter ≠ .finalOrderGranted) :
    letter.Pairs id id where
  pack := by
    intro key member
    rw [counterpart_of_mem_packs unlike member]
    rfl
  request := by
    intro key _ caseFile party
    cases assembled : PrintRequest.ofPack letter key.toPack caseFile party with
    | error documentType => exact assembled
    | ok request => exact assembled

private theorem Letter.Pairs.ofPack_swapped
    {letter : Letter} {changePack : Pack → Pack} {changeRequest : PrintRequest → PrintRequest}
    (pairs : letter.Pairs changePack changeRequest) {key : PackKey}
    (member : key ∈ letter.rule.packs) (caseFile : CaseFile) (party : Party) :
    PrintRequest.ofPack letter (changePack key.toPack) caseFile.swapped party.other =
      ((PrintRequest.ofPack letter key.toPack caseFile party).map changeRequest).map
        (PrintRequest.addressedTo party.other) := by
  rw [PrintRequest.ofPack_swapped, pairs.request key member]

namespace Service

variable {σ τ : Type} {service : Service σ τ} {letter : Letter} {party : Party}
  {caseFile : CaseFile} {changePack : Pack → Pack} {changeRequest : PrintRequest → PrintRequest}

/-- A party to a case and the other party to the exchanged case are served alike: what becomes of
packs and requests is given. -/
structure Mirrors
    (service : Service σ τ) (letter : Letter) (party : Party) (caseFile : CaseFile)
    (changePack : Pack → Pack) (changeRequest : PrintRequest → PrintRequest) : Prop where
  resolved : ∀ state, ∃ outcome documents next,
    service.resolve letter party caseFile state = ⟨outcome, caseFile.attach documents, next⟩ ∧
      service.resolve letter party.other caseFile.swapped state =
        ⟨(outcome.map changePack).mapError DispatchFault.swapped,
          caseFile.swapped.attach documents, next⟩
  /-- Either the printer is given nothing for the same reason, or one request each. -/
  printed : ∀ state queue,
    let recorded : Service σ (τ × List PrintRequest) :=
      ⟨service.catalog, service.generator, service.printer.recorded⟩
    ∃ documents next,
      (∃ fault,
        recorded.print letter party caseFile state (queue, []) =
            ⟨.error fault, caseFile.attach documents, next, queue, []⟩ ∧
          recorded.print letter party.other caseFile.swapped state (queue, []) =
            ⟨.error fault.swapped, caseFile.swapped.attach documents, next, queue, []⟩) ∨
      ∃ posted,
        let answer := service.printer.print queue posted
        let other := (changeRequest posted).addressedTo party.other
        let answerOther := service.printer.print queue other
        recorded.print letter party caseFile state (queue, []) =
            ⟨answer.1.mapError .printing, caseFile.attach documents, next, answer.2, [posted]⟩ ∧
          recorded.print letter party.other caseFile.swapped state (queue, []) =
            ⟨answerOther.1.mapError .printing, caseFile.swapped.attach documents, next,
              answerOther.2, [other]⟩

/-- A pack that is resolved for one applicant is one of the letter's, and the other applicant gets
its counterpart. -/
private theorem resolve_swapped
    (built : Catalog.standard = .ok service.catalog) (discreet : service.generator.Discreet)
    (joint : caseFile.facts.applicationKind = .joint) (unlike : letter ≠ .noticeOfProceedings)
    (state : σ) :
    (∃ fault documents next,
      service.resolve letter party caseFile state =
          ⟨.error fault, caseFile.attach documents, next⟩ ∧
        service.resolve letter party.other caseFile.swapped state =
          ⟨.error fault.swapped, caseFile.swapped.attach documents, next⟩) ∨
    ∃ key documents next, key ∈ letter.rule.packs ∧
      service.resolve letter party caseFile state =
          ⟨.ok key.toPack, caseFile.attach documents, next⟩ ∧
        service.resolve letter party.other caseFile.swapped state =
          ⟨.ok key.counterpart.toPack, caseFile.swapped.attach documents, next⟩ := by
  have found := Catalog.lookup_of_standard built letter
  have sameNumber : caseFile.id = caseFile.swapped.id := rfl
  have sameDocuments : caseFile.facts.documents = caseFile.swapped.facts.documents := rfl
  have exchanges : letter.rule.select caseFile.swapped.facts party.other =
      exchanged (letter.rule.select caseFile.facts party) :=
    CaseFacts.rule_exchanges joint unlike
  cases selected : letter.rule.select caseFile.facts party with
  | error refusal =>
      rw [selected] at exchanges
      refine Or.inl ⟨.refused refusal, [], state, ?_, ?_⟩
      · rw [CaseFile.attach_nil]
        exact resolve_of_unchosen (choose_of_refused found selected)
      · rw [CaseFile.attach_nil]
        exact resolve_of_unchosen (choose_of_refused found exchanges)
  | ok key =>
      rw [selected] at exchanges
      have chosen := choose_of_standard built selected
      have chosenOther := choose_of_standard built exchanges
      have member : key ∈ letter.rule.packs := letter.rule_selectsDeclared selected
      cases needed : letter.form? with
      | none =>
          rw [needed] at chosen chosenOther
          refine Or.inr ⟨key, [], state, member, ?_, ?_⟩
          · rw [CaseFile.attach_nil]
            exact resolve_of_chosen chosen
          · rw [CaseFile.attach_nil]
            exact resolve_of_chosen chosenOther
      | some form =>
          rw [needed] at chosen chosenOther
          obtain ⟨outcome, documents, next, ensured, ensuredOther⟩ :=
            discreet.ensure sameNumber sameDocuments form state
          cases outcome with
          | error fault =>
              refine Or.inl ⟨.generation fault, documents, next, ?_, ?_⟩
              · exact resolve_of_failed chosen ensured
              · exact resolve_of_failed chosenOther ensuredOther
          | ok added =>
              refine Or.inr ⟨key, documents, next, member, ?_, ?_⟩
              · exact resolve_of_ensured chosen ensured
              · exact resolve_of_ensured chosenOther ensuredOther

private theorem mirrors_of_pairs
    (built : Catalog.standard = .ok service.catalog) (discreet : service.generator.Discreet)
    (joint : caseFile.facts.applicationKind = .joint) (unlike : letter ≠ .noticeOfProceedings)
    (pairs : letter.Pairs changePack changeRequest) :
    Mirrors service letter party caseFile changePack changeRequest where
  resolved := by
    intro state
    rcases resolve_swapped built discreet joint unlike state with
      ⟨fault, documents, next, refused, refusedOther⟩ |
      ⟨key, documents, next, member, resolved, resolvedOther⟩
    · exact ⟨.error fault, documents, next, refused, refusedOther⟩
    · rw [pairs.pack key member] at resolvedOther
      exact ⟨.ok key.toPack, documents, next, resolved, resolvedOther⟩
  printed := by
    intro state queue recorded
    have builtRecorded : Catalog.standard = .ok recorded.catalog := built
    rcases resolve_swapped builtRecorded discreet joint unlike state with
      ⟨fault, documents, next, refused, refusedOther⟩ |
      ⟨key, documents, next, member, resolved, resolvedOther⟩
    · exact ⟨documents, next, Or.inl ⟨fault, print_of_unresolved refused,
        print_of_unresolved refusedOther⟩⟩
    · refine ⟨documents, next, ?_⟩
      rw [pairs.pack key member] at resolvedOther
      rw [print_of_resolved resolved, print_of_resolved resolvedOther]
      have assembledOther := pairs.ofPack_swapped member (caseFile.attach documents) party
      rw [CaseFile.swapped_attach] at assembledOther
      cases assembled :
          PrintRequest.ofPack letter key.toPack (caseFile.attach documents) party with
      | error documentType =>
          rw [assembled] at assembledOther
          rw [post_of_missing assembled, post_of_missing assembledOther]
          exact Or.inl ⟨.missingDocument letter documentType, rfl, rfl⟩
      | ok posted =>
          rw [assembled] at assembledOther
          have asked := Printer.print_recorded
            (rfl : service.printer.print queue posted = _) []
          have askedOther := Printer.print_recorded
            (rfl : service.printer.print queue
              ((changeRequest posted).addressedTo party.other) = _) []
          rw [post_of_assembled assembled asked, post_of_assembled assembledOther askedOther]
          exact Or.inr ⟨posted, rfl, rfl⟩

/-- The applicants of a joint case are served alike by every letter but the notice of proceedings,
and with the final order they get counterparts. -/
structure TreatsAlike
    (service : Service σ τ) (party : Party) (caseFile : CaseFile) : Prop where
  same : ∀ letter, letter ≠ .noticeOfProceedings → letter ≠ .finalOrderGranted →
    Mirrors service letter party caseFile id id
  finalOrder :
    Mirrors service .finalOrderGranted party caseFile Pack.counterpart PrintRequest.counterpart

theorem treatsAlike_inMemory
    {catalog : Catalog} (built : Catalog.standard = .ok catalog)
    (joint : caseFile.facts.applicationKind = .joint) (printer : Printer τ) (party : Party) :
    TreatsAlike ⟨catalog, Generator.inMemory, printer⟩ party caseFile where
  same := by
    intro letter noNotice noFinalOrder
    exact mirrors_of_pairs built Generator.discreet_inMemory joint noNotice
      (Letter.pairs_id noFinalOrder)
  finalOrder :=
    mirrors_of_pairs built Generator.discreet_inMemory joint (by decide)
      (Letter.pairs_counterpart _)

/-- Only one of two applicants has a solicitor, and the other one has carried on alone.  The latter
gets the final order under the cover letter of either place, and is refused in either place the
letter that tells the other one of it. -/
theorem treatsAlike_inMemory_of_one_represented :
    let solicitor : Solicitor := ⟨"Kay Moss", none, none⟩
    let represented : Applicant := { solicitorRepresented := true, solicitor := some solicitor }
    let order : CaseDocument := ⟨.finalOrderGranted, "Final order", "order.pdf", "memory://order"⟩
    let bare := CaseFile.bare 7
    let caseFile : CaseFile := { bare with
      facts := { bare.facts with
        applicationKind := .joint
        applicant1 := { firstName := "Ann" }
        applicant2 := represented
        finalOrder := { switchedToSole := true, applyingParty := some .applicant1 }
        documents := [order] } }
    let service := inMemory ⟨standardRules⟩
    let posted (party : Party) (caseFile : CaseFile) :=
      (service.print .finalOrderGranted party caseFile [] []).printer.map PrintRequest.pack
    let refused (party : Party) (caseFile : CaseFile) :=
      (service.resolve .switchToSoleFinalOrder party caseFile []).outcome
    Catalog.standard = .ok ⟨standardRules⟩ ∧ caseFile.facts.applicationKind = .joint ∧
      TreatsAlike ⟨⟨standardRules⟩, Generator.inMemory, Printer.inMemory⟩ .applicant1 caseFile ∧
      posted .applicant1 caseFile = [.foGrantedApplicant1] ∧
      posted .applicant2 caseFile.swapped = [.foGrantedApplicant2] ∧
      refused .applicant1 caseFile = .error
        (.refused (.notApplicable .switchToSoleFinalOrder .applicant1 .switchedParty)) ∧
      refused .applicant2 caseFile.swapped = .error
        (.refused (.notApplicable .switchToSoleFinalOrder .applicant2 .switchedParty)) := by
  intro solicitor represented order bare caseFile service posted refused
  have joint : caseFile.facts.applicationKind = .joint := rfl
  exact ⟨Catalog.standard_eq_ok, joint,
    treatsAlike_inMemory Catalog.standard_eq_ok joint Printer.inMemory .applicant1,
    by decide +kernel, by decide +kernel, by decide +kernel, by decide +kernel⟩

end Service

end LetterPacks
