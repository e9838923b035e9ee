import LetterPacks.Proofs.Dispatch.Recording
import LetterPacks.Proofs.Printing.Assembly
import LetterPacks.Proofs.Selection.Conditions
import LetterPacks.Proofs.Selection.Suitability

/-!
# The standard letters suit case and recipient

Over the standard catalog the family of a pack goes by the case and its audience by the recipient.
The coversheet is the one for the audience, and a letter bears the name of the solicitor on record
only where the pack is written for a solicitor.
-/

namespace LetterPacks

private theorem CaseFacts.track_eq_judicialSeparation_iff (facts : CaseFacts) :
    facts.track = .judicialSeparation ↔ facts.AsksSeparation := by
  rw [asksSeparation_iff, track]
  cases facts.isSeparation <;> decide

private theorem CaseFacts.track_eq_divorce_iff (facts : CaseFacts) :
    facts.track = .divorce ↔ ¬ facts.AsksSeparation := by
  rw [not_asksSeparation_iff, track]
  cases facts.isSeparation <;> decide

private theorem Letter.track_of_ne {letter : Letter} (other : letter ≠ .requestForInformation) :
    letter.track = CaseFacts.track := by
  funext facts
  exact if_neg other

/-- The packs of a letter belong to the family that the case asks for.  Requests for information
know no separation, and the letters about the final order do not go out in a separation case. -/
structure Letter.KeepsTrack
    (letter : Letter) (resolve : CaseFacts → Party → Except Refusal Pack) : Prop where
  follows : letter ≠ .requestForInformation →
    ∀ facts party pack, resolve facts party = .ok pack →
      (pack.track = .judicialSeparation ↔ facts.AsksSeparation) ∧
        (pack.track = .divorce ↔ ¬ facts.AsksSeparation)
  withheld : letter = .finalOrderGranted ∨ letter = .switchToSoleFinalOrder →
    ∀ facts party, facts.AsksSeparation → ∀ pack, resolve facts party ≠ .ok pack
  information : letter = .requestForInformation →
    ∀ facts party pack, resolve facts party = .ok pack → pack.track = .divorce

namespace Catalog

variable {catalog : Catalog} {letter : Letter} {rule : SelectionRule}

private theorem track_of_resolved
    {facts : CaseFacts} {party : Party} {pack : Pack} (built : standard = .ok catalog)
    (found : catalog.lookup letter = .ok rule) (resolved : rule.resolve facts party = .ok pack) :
    pack.track = letter.track facts := by
  obtain ⟨key, selected, rfl⟩ := selected_of_resolved built found resolved
  have suits := letter.rule_selectsSuitable selected
  exact suits.track_eq

theorem keepsTrack_of_lookup
    (built : standard = .ok catalog) (found : catalog.lookup letter = .ok rule) :
    letter.KeepsTrack rule.resolve where
  follows := by
    intro other facts party pack resolved
    have track : pack.track = facts.track := by
      rw [track_of_resolved built found resolved, Letter.track_of_ne other]
    rw [track]
    exact ⟨facts.track_eq_judicialSeparation_iff, facts.track_eq_divorce_iff⟩
  withheld := by
    intro final facts party asked pack resolved
    obtain ⟨key, selected, _⟩ := selected_of_resolved built found resolved
    have goes := Letter.goesTo_of_selected selected
    rcases final with rfl | rfl
    · exact goes asked
    · obtain ⟨_, _, divorce⟩ := goes
      exact divorce asked
  information := by
    rintro rfl facts party pack resolved
    exact track_of_resolved built found resolved

theorem keepsTrack_of_lookup_of_separation :
    let facts := { (CaseFile.bare 7).facts with separationKind := .separation }
    standard = .ok ⟨standardRules⟩ ∧
      lookup ⟨standardRules⟩ .conditionalOrderGranted = .ok grantedRule ∧
      Letter.conditionalOrderGranted.KeepsTrack grantedRule.resolve ∧
      facts.AsksSeparation ∧
      grantedRule.resolve facts .applicant2 = .ok PackKey.coGrantedSeparation.toPack ∧
      PackKey.coGrantedSeparation.toPack.track = .judicialSeparation ∧
      finalOrderRule.resolve facts .applicant2 =
        .error (.notApplicable .finalOrderGranted .applicant2 .separationOrder) := by
  have found := lookup_of_standard standard_eq_ok .conditionalOrderGranted
  exact ⟨standard_eq_ok, found, keepsTrack_of_lookup standard_eq_ok found,
    Or.inr rfl, rfl, rfl, rfl⟩

end Catalog

namespace Audience

def coversheet : Audience → Template
  | .citizen => .coversheetApplicant
  | .solicitor => .coversheetSolicitor

def addressee (audience : Audience) (recipient : Applicant) : String :=
  match audience, recipient.solicitor with
  | .solicitor, some onRecord => onRecord.name
  | .solicitor, none | .citizen, _ => recipient.fullName

end Audience

namespace Applicant

private theorem audience_eq_solicitor_iff (applicant : Applicant) :
    applicant.audience = .solicitor ↔ applicant.solicitorRepresented = true := by
  rw [audience, isRepresented]
  cases applicant.solicitorRepresented <;> decide

private theorem addresseeName_eq (applicant : Applicant) :
    PrintRequest.addresseeName applicant = applicant.audience.addressee applicant := by
  unfold PrintRequest.addresseeName audience Audience.addressee
  cases applicant.solicitor <;> cases applicant.isRepresented <;> rfl

end Applicant

private theorem PackKey.template_of_coversheet
    {key : PackKey} {slot : Slot} (member : slot ∈ key.toPack.slots)
    (cover : slot.documentType = .coversheet) :
    slot.template = some key.toPack.audience.coversheet := by
  revert slot
  cases key <;> decide

/-- A pack suits its recipient when it is written for the solicitor of a represented party and for
any other party itself, and so are its coversheet and the letters that are printed from it. -/
structure Pack.SuitsRecipient
    (pack : Pack) (catalog : Catalog) (letter : Letter) (party : Party) (caseFile : CaseFile) :
    Prop where
  audience :
    pack.audience = .solicitor ↔ (caseFile.facts.applicant party).solicitorRepresented = true
  coversheet : ∀ slot ∈ pack.slots, slot.documentType = .coversheet →
    slot.template = some pack.audience.coversheet
  /-- Every letter that the printer is given bears the name, and a posted letter was given to it. -/
  addressed : ∀ (σ τ : Type) (service : Service σ τ) (state : σ) (queue : τ),
    service.catalog = catalog →
      let printed := service.print letter party caseFile state queue
      ∃ calls requests,
        service.recorded.print letter party caseFile (state, []) (queue, []) =
            printed.recorded calls requests ∧
          (∀ request ∈ requests, request.recipientName =
            pack.audience.addressee (caseFile.facts.applicant party)) ∧
          ∀ receipt, printed.outcome = .ok receipt → ∃ request, requests = [request]

namespace Catalog

variable {catalog : Catalog} {letter : Letter} {rule : SelectionRule} {party : Party}
  {caseFile : CaseFile} {pack : Pack}

theorem suitsRecipient_of_resolved
    (built : standard = .ok catalog) (found : catalog.lookup letter = .ok rule)
    (resolved : rule.resolve caseFile.facts party = .ok pack) :
    pack.SuitsRecipient catalog letter party caseFile := by
  obtain ⟨key, selected, rfl⟩ := selected_of_resolved built found resolved
  have suits := letter.rule_selectsSuitable selected
  have audience : key.toPack.audience = (caseFile.facts.applicant party).audience :=
    suits.audience_eq
  refine ⟨?_, ?_, ?_⟩
  · rw [audience]
    exact Applicant.audience_eq_solicitor_iff _
  · intro slot member cover
    exact PackKey.template_of_coversheet member cover
  · rintro σ τ service state queue rfl
    obtain ⟨calls, requests, documents, recorded, made, given⟩ :=
      Service.print_recorded_of_resolved found resolved state queue
    refine ⟨calls, requests, recorded, ?_, given⟩
    intro request member
    rw [PrintRequest.recipientName_of_ofPack_eq_ok (made request member),
      CaseFile.applicant_attach, Applicant.addresseeName_eq, audience]

theorem suitsRecipient_of_resolved_of_solicitor_on_file :
    let recipient : Applicant := {
      firstName := " Ann"
      lastName := "Lee "
      solicitor := some ⟨"Kay Moss", none, none⟩ }
    let caseFile : CaseFile := ⟨7, { (CaseFile.bare 7).facts with applicant2 := recipient }⟩
    let pack := PackKey.coPronouncedRespondent.toPack
    standard = .ok ⟨standardRules⟩ ∧
      lookup ⟨standardRules⟩ .conditionalOrderPronounced = .ok pronouncedRule ∧
      pronouncedRule.resolve caseFile.facts .applicant2 = .ok pack ∧
      pack.SuitsRecipient ⟨standardRules⟩ .conditionalOrderPronounced .applicant2 caseFile ∧
      pack.audience = .citizen ∧ pack.audience.addressee recipient = "Ann Lee" := by
  intro recipient caseFile pack
  have found := lookup_of_standard standard_eq_ok .conditionalOrderPronounced
  have resolved : pronouncedRule.resolve caseFile.facts .applicant2 = .ok pack := rfl
  exact ⟨standard_eq_ok, found, resolved,
    suitsRecipient_of_resolved standard_eq_ok found resolved, rfl, by decide +kernel⟩

end Catalog

end LetterPacks
