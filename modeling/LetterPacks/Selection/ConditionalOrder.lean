import LetterPacks.Selection.Rule

/-!
# Letters on the way to the conditional order

The parties are invited to apply for a conditional order and reminded of it, each time with a blank
application form.  A certificate of entitlement announces the hearing; then the order is refused, or
granted and pronounced.
-/

namespace LetterPacks

def applicationRule : SelectionRule where
  letter := .applyForConditionalOrder
  packs := [.applyForCoSole, .applyForCoJoint, .applyForCoJs]
  select := fun facts party => do
    requireUnrepresented .applyForConditionalOrder facts party
    .ok (
      if facts.isSeparation then .applyForCoJs
      else if facts.isSole then .applyForCoSole
      else .applyForCoJoint)
  onDemand := fun _ _ => some d84Form

def reminderRule : SelectionRule where
  letter := .awaitingConditionalOrderReminder
  packs := [.coReminderSole, .coReminderJoint, .coReminderJs]
  select := fun facts party => do
    requireUnrepresented .awaitingConditionalOrderReminder facts party
    .ok (
      if facts.isSeparation then .coReminderJs
      else if facts.isSole then .coReminderSole
      else .coReminderJoint)
  onDemand := fun _ _ => some d84Form

def entitlementRule : SelectionRule where
  letter := .certificateOfEntitlement
  packs := [
    .certificateOfEntitlementApplicant, .certificateOfEntitlementRespondent,
    .certificateOfEntitlementSolicitor, .certificateOfEntitlementJs,
    .certificateOfEntitlementJsSolicitor]
  select := fun facts party =>
    let represented := (facts.applicant party).isRepresented
    .ok (
      if facts.isSeparation then
        if represented then .certificateOfEntitlementJsSolicitor else .certificateOfEntitlementJs
      else if represented then .certificateOfEntitlementSolicitor
      else if facts.isSoleRespondent party then .certificateOfEntitlementRespondent
      else .certificateOfEntitlementApplicant)

/-- The pack that explains a refusal, unless nobody is written to. -/
def refusalPack? (decision : RefusalDecision) (separation represented : Bool) : Option PackKey :=
  match decision, separation, represented with
  | .administrativeError, _, _ => none
  | .moreInformation, true, true => some .clarificationSolJs
  | .moreInformation, true, false => some .clarificationJs
  | .moreInformation, false, true => some .clarificationSol
  | .moreInformation, false, false => some .clarification
  | .rejected, true, true => some .amendmentSolJs
  | .rejected, true, false => some .amendmentJs
  | .rejected, false, true => some .amendmentSol
  | .rejected, false, false => some .amendment

def refusedRule : SelectionRule where
  letter := .conditionalOrderRefused
  packs := [
    .clarification, .clarificationSol, .clarificationJs, .clarificationSolJs, .amendment,
    .amendmentSol, .amendmentJs, .amendmentSolJs]
  select := fun facts party => do
    let decision ←
      demand .conditionalOrderRefused .refusalDecision facts.conditionalOrder.refusalDecision
    match refusalPack? decision facts.isSeparation (facts.applicant party).isRepresented with
    | some pack => .ok pack
    | none => .error (.notApplicable .conditionalOrderRefused party .administrativeError)

def grantedRule : SelectionRule where
  letter := .conditionalOrderGranted
  packs := [
    .coGrantedApplicant1, .coGrantedApplicant2, .coGrantedJoint, .coGrantedSolicitor,
    .coGrantedJs, .coGrantedJsSolicitor, .coGrantedSeparation]
  select := fun facts party =>
    let represented := (facts.applicant party).isRepresented
    .ok (
      if facts.isSeparation then
        if represented then .coGrantedJsSolicitor
        else if facts.separationKind == .separation then .coGrantedSeparation
        else .coGrantedJs
      else if represented then .coGrantedSolicitor
      else if facts.isSole then
        match party with
        | .applicant1 => .coGrantedApplicant1
        | .applicant2 => .coGrantedApplicant2
      else .coGrantedJoint)

/-- The rule of the letter that a conditional order is pronounced. -/
def pronouncedRule : SelectionRule where
  letter := .conditionalOrderPronounced
  packs := [
    .coPronouncedApplicant, .coPronouncedRespondent, .coPronouncedSolicitor, .coPronouncedJs,
    .coPronouncedJsSolicitor]
  select := fun facts party =>
    let represented := (facts.applicant party).isRepresented
    .ok (
      if facts.isSeparation then
        if represented then .coPronouncedJsSolicitor else .coPronouncedJs
      else if represented then .coPronouncedSolicitor
      else if facts.isSoleRespondent party then .coPronouncedRespondent
      else .coPronouncedApplicant)

end LetterPacks
