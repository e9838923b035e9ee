import LetterPacks.Proofs.Selection.Declaration

/-!
# What the selection depends on

The rules ask few questions about a case, and about the parties none but those about the recipient.
Two cases in which these questions have the same answers are alike for the recipient, and every
rule selects the same in both.
-/

namespace LetterPacks

/-- The rules cannot tell two cases apart when they select for a party. -/
structure CaseFacts.Alike (party : Party) (left right : CaseFacts) : Prop where
  applicationKind : left.applicationKind = right.applicationKind
  separationKind : left.separationKind = right.separationKind
  isCourtService : left.application.isCourtService = right.application.isCourtService
  isReissuedOffline : left.application.isReissuedOffline = right.application.isReissuedOffline
  isDisputed : left.acknowledgement.map Acknowledgement.isDisputed =
    right.acknowledgement.map Acknowledgement.isDisputed
  conditionalOrder : left.conditionalOrder = right.conditionalOrder
  finalOrder : left.finalOrder = right.finalOrder
  addressee : left.informationRequest.map InformationRequest.addressee =
    right.informationRequest.map InformationRequest.addressee
  isRepresented : (left.applicant party).isRepresented = (right.applicant party).isRepresented
  hasOrganisation :
    (left.applicant party).hasOrganisation = (right.applicant party).hasOrganisation
  isOffline : (left.applicant party).isOffline = (right.applicant party).isOffline
  addressOverseas :
    (left.applicant party).addressOverseas = (right.applicant party).addressOverseas

section

variable {α β γ : Type}

private theorem require_bind_congr
    {flag other : Bool} {refusal : Refusal} {next after : Unit → Except Refusal α}
    (same : flag = other) (rest : flag = true → next () = after ()) :
    (require flag refusal >>= next) = (require other refusal >>= after) := by
  subst same
  cases flag with
  | true => exact rest rfl
  | false => rfl

private theorem demand_bind_congr
    {letter : Letter} {fact : MissingFact} {known other : Option β} {view : β → γ}
    {next after : β → Except Refusal α} (same : known.map view = other.map view)
    (rest : ∀ found similar, view found = view similar → next found = after similar) :
    (demand letter fact known >>= next) = (demand letter fact other >>= after) := by
  cases known with
  | none =>
      cases other with
      | none => rfl
      | some similar => cases same
  | some found =>
      cases other with
      | none => cases same
      | some similar => exact rest found similar (Option.some.inj same)

end

namespace CaseFacts.Alike

variable {party : Party} {left right : CaseFacts}

private theorem isSole (alike : Alike party left right) : left.isSole = right.isSole := by
  unfold CaseFacts.isSole
  rw [alike.applicationKind]

private theorem isSeparation (alike : Alike party left right) :
    left.isSeparation = right.isSeparation := by
  unfold CaseFacts.isSeparation
  rw [alike.separationKind]

private theorem isSoleRespondent (alike : Alike party left right) :
    left.isSoleRespondent party = right.isSoleRespondent party := by
  unfold CaseFacts.isSoleRespondent
  rw [alike.isSole]

private theorem separationNotice_eq (alike : Alike party left right) :
    separationNotice left party = separationNotice right party := by
  unfold separationNotice
  rw [alike.applicationKind, alike.isRepresented, alike.isCourtService]

private theorem soleApplicantNotice_eq (alike : Alike .applicant1 left right) :
    soleApplicantNotice left = soleApplicantNotice right := by
  have represented : left.applicant1.isRepresented = right.applicant1.isRepresented :=
    alike.isRepresented
  unfold soleApplicantNotice
  rw [represented, alike.isCourtService]

private theorem soleRespondentNotice_eq (alike : Alike .applicant2 left right) :
    soleRespondentNotice left = soleRespondentNotice right := by
  have represented : left.applicant2.isRepresented = right.applicant2.isRepresented :=
    alike.isRepresented
  have organisation : left.applicant2.hasOrganisation = right.applicant2.hasOrganisation :=
    alike.hasOrganisation
  have offline : left.applicant2.isOffline = right.applicant2.isOffline := alike.isOffline
  have overseas : left.applicant2.addressOverseas = right.applicant2.addressOverseas :=
    alike.addressOverseas
  unfold soleRespondentNotice
  dsimp only
  rw [represented, organisation, overseas, offline, alike.isReissuedOffline,
    alike.isCourtService]

private theorem jointNotice_eq (alike : Alike party left right) :
    jointNotice left party = jointNotice right party := by
  cases party with
  | applicant1 =>
      have represented : left.applicant1.isRepresented = right.applicant1.isRepresented :=
        alike.isRepresented
      unfold jointNotice
      rw [represented]
  | applicant2 =>
      have represented : left.applicant2.isRepresented = right.applicant2.isRepresented :=
        alike.isRepresented
      have offline : left.applicant2.isOffline = right.applicant2.isOffline := alike.isOffline
      unfold jointNotice
      rw [represented, offline]

private theorem notice_eq
    (alike : Alike party left right) : notice left party = notice right party := by
  unfold notice
  rw [alike.isSeparation, alike.separationNotice_eq, alike.applicationKind]
  cases right.applicationKind with
  | sole =>
      cases party with
      | applicant1 => rw [alike.soleApplicantNotice_eq]
      | applicant2 => rw [alike.soleRespondentNotice_eq]
  | joint =>
      dsimp only
      rw [alike.jointNotice_eq]

private theorem overdueRule_eq (alike : Alike party left right) :
    overdueRule.select left party = overdueRule.select right party := by
  apply require_bind_congr alike.isSole
  intro _
  apply require_bind_congr rfl
  intro _
  apply require_bind_congr (congrArg not alike.isRepresented)
  intro _
  rw [alike.isSeparation]

private theorem responseRule_eq (alike : Alike party left right) :
    responseRule.select left party = responseRule.select right party := by
  apply require_bind_congr alike.isSole
  intro _
  apply require_bind_congr rfl
  intro first
  obtain rfl : party = .applicant1 := eq_of_beq first
  have represented : left.applicant1.isRepresented = right.applicant1.isRepresented :=
    alike.isRepresented
  apply demand_bind_congr alike.isDisputed
  intro acknowledgement similar disputed
  rw [alike.isSeparation, represented, disputed]

private theorem entitlementRule_eq (alike : Alike party left right) :
    entitlementRule.select left party = entitlementRule.select right party := by
  unfold entitlementRule
  dsimp only
  rw [alike.isSeparation, alike.isRepresented, alike.isSoleRespondent]

private theorem grantedRule_eq (alike : Alike party left right) :
    grantedRule.select left party = grantedRule.select right party := by
  unfold grantedRule
  dsimp only
  rw [alike.isSeparation, alike.isRepresented, alike.separationKind, alike.isSole]

private theorem refusedRule_eq (alike : Alike party left right) :
    refusedRule.select left party = refusedRule.select right party := by
  unfold refusedRule
  dsimp only
  rw [alike.conditionalOrder, alike.isSeparation, alike.isRepresented]

private theorem pronouncedRule_eq (alike : Alike party left right) :
    pronouncedRule.select left party = pronouncedRule.select right party := by
  unfold pronouncedRule
  dsimp only
  rw [alike.isSeparation, alike.isRepresented, alike.isSoleRespondent]

private theorem finalOrderRule_eq (alike : Alike party left right) :
    finalOrderRule.select left party = finalOrderRule.select right party := by
  unfold finalOrderRule
  dsimp only
  rw [alike.isSeparation, alike.isRepresented]

private theorem switchedConditionalOrderRule_eq (alike : Alike party left right) :
    switchedConditionalOrderRule.select left party =
      switchedConditionalOrderRule.select right party := by
  unfold switchedConditionalOrderRule
  dsimp only
  rw [alike.conditionalOrder, alike.isSeparation, alike.isRepresented]

private theorem switchedFinalOrderRule_eq (alike : Alike party left right) :
    switchedFinalOrderRule.select left party = switchedFinalOrderRule.select right party := by
  unfold switchedFinalOrderRule
  dsimp only
  rw [alike.finalOrder, alike.isSeparation, alike.isRepresented]

private theorem checkAddressee_eq (alike : Alike party left right) (addressee : Addressee) :
    checkAddressee left addressee party = checkAddressee right addressee party := by
  unfold checkAddressee
  rw [alike.applicationKind]

private theorem informationRule_eq (alike : Alike party left right) :
    informationRule.select left party = informationRule.select right party := by
  apply demand_bind_congr alike.addressee
  intro request similar addressee
  have addresses : request.addresses party = similar.addresses party := by
    unfold InformationRequest.addresses
    rw [addressee]
  dsimp only
  rw [addressee, alike.checkAddressee_eq, addresses, alike.isRepresented, alike.isOffline,
    alike.isSole]

private theorem applicationRule_eq (alike : Alike party left right) :
    applicationRule.select left party = applicationRule.select right party := by
  apply require_bind_congr (congrArg not alike.isRepresented)
  intro _
  rw [alike.isSeparation, alike.isSole]

private theorem reminderRule_eq (alike : Alike party left right) :
    reminderRule.select left party = reminderRule.select right party := by
  apply require_bind_congr (congrArg not alike.isRepresented)
  intro _
  rw [alike.isSeparation, alike.isSole]

theorem select_rule_eq (alike : Alike party left right) (letter : Letter) :
    letter.rule.select left party = letter.rule.select right party := by
  cases letter with
  | noticeOfProceedings => exact congrArg Except.ok alike.notice_eq
  | aosOverdue => exact alike.overdueRule_eq
  | aosResponseLetter => exact alike.responseRule_eq
  | aosResponse => rfl
  | regenerateCourtOrders => rfl
  | certificateOfEntitlement => exact alike.entitlementRule_eq
  | conditionalOrderGranted => exact alike.grantedRule_eq
  | conditionalOrderRefused => exact alike.refusedRule_eq
  | conditionalOrderPronounced => exact alike.pronouncedRule_eq
  | finalOrderGranted => exact alike.finalOrderRule_eq
  | switchToSoleConditionalOrder => exact alike.switchedConditionalOrderRule_eq
  | switchToSoleFinalOrder => exact alike.switchedFinalOrderRule_eq
  | requestForInformation => exact alike.informationRule_eq
  | applyForConditionalOrder => exact alike.applicationRule_eq
  | awaitingConditionalOrderReminder => exact alike.reminderRule_eq

end CaseFacts.Alike

end LetterPacks
