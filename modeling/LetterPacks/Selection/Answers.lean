import LetterPacks.Selection.Rule

/-!
# Letters about answers

These letters report or ask for an answer: that the respondent has not acknowledged service, how the
respondent answered, and what the court still wants to know.
-/

namespace LetterPacks

/-- The rule of the reminder to the only applicant that the respondent has not acknowledged
service. -/
def overdueRule : SelectionRule where
  letter := .aosOverdue
  packs := [.aosOverdue, .aosOverdueJs]
  select := fun facts party => do
    requireSole .aosOverdue facts party
    requireFirstApplicant .aosOverdue party
    requireUnrepresented .aosOverdue facts party
    .ok (if facts.isSeparation then .aosOverdueJs else .aosOverdue)

/-- The rule of the letter that tells the only applicant how the respondent answered. -/
def responseRule : SelectionRule where
  letter := .aosResponseLetter
  packs := [
    .aosResponseDisputed, .aosResponseUndisputed, .aosResponseJsDisputed,
    .aosResponseJsUndisputed, .aosResponseJsSolicitor]
  select := fun facts party => do
    requireSole .aosResponseLetter facts party
    requireFirstApplicant .aosResponseLetter party
    let acknowledgement ← demand .aosResponseLetter .acknowledgement facts.acknowledgement
    let disputed := acknowledgement.isDisputed
    let represented := facts.applicant1.isRepresented
    if facts.isSeparation then
      .ok (
        if represented then .aosResponseJsSolicitor
        else if disputed then .aosResponseJsDisputed
        else .aosResponseJsUndisputed)
    else do
      require (!represented) (.notApplicable .aosResponseLetter party .answeredOnline)
      .ok (if disputed then .aosResponseDisputed else .aosResponseUndisputed)

def checkAddressee (facts : CaseFacts) (addressee : Addressee) (party : Party) :
    Except Refusal Unit :=
  match facts.applicationKind, addressee with
  | .sole, .both => .error (.notApplicable .requestForInformation party .bothAddressed)
  | .sole, .applicant2 => .error (.notApplicable .requestForInformation party .respondentAddressed)
  | _, _ => .ok ()

def informationRule : SelectionRule where
  letter := .requestForInformation
  packs := [
    .requestForInformationSole, .requestForInformationJoint, .requestForInformationOffline,
    .requestForInformationSolicitor]
  select := fun facts party => do
    let request ← demand .requestForInformation .informationRequest facts.informationRequest
    checkAddressee facts request.addressee party
    require (request.addresses party) (.notApplicable .requestForInformation party .otherAddressed)
    let applicant := facts.applicant party
    .ok (
      if applicant.isRepresented then .requestForInformationSolicitor
      else if applicant.isOffline then .requestForInformationOffline
      else if facts.isSole then .requestForInformationSole
      else .requestForInformationJoint)

end LetterPacks
