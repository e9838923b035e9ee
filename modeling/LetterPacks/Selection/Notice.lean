import LetterPacks.Selection.Rule

/-!
# Notice of proceedings

Both parties are told that a case has begun.  Every party to every case receives a pack.  A
respondent who cannot be reached online gets papers; so does one who lives overseas, even when the
court serves.
-/

namespace LetterPacks

def soleApplicantNotice (facts : CaseFacts) : PackKey :=
  if facts.applicant1.isRepresented then .nopSoleApp1Solicitor
  else if facts.application.isCourtService then .nopSoleApp1CitizenCs
  else .nopSoleApp1CitizenPs

/-- The notice to the respondent of an application that the other party made alone. -/
def soleRespondentNotice (facts : CaseFacts) : PackKey :=
  let respondent := facts.applicant2
  if respondent.isRepresented then
    if respondent.hasOrganisation then .nopSoleRespondentSolicitor
    else .nopSoleRespondentSolicitorOffline
  else if respondent.addressOverseas then .nopSoleRespondentOverseas
  else if facts.application.isReissuedOffline || respondent.isOffline then
    .nopSoleRespondentOffline
  else if facts.application.isCourtService then .nopSoleRespondentCitizen
  else .nopSoleRespondentOffline

def jointNotice (facts : CaseFacts) : Party → PackKey
  | .applicant1 =>
      if facts.applicant1.isRepresented then .nopJointApp1Solicitor else .nopJointApp1Citizen
  | .applicant2 =>
      if facts.applicant2.isRepresented then .nopJointApp2Solicitor
      else if facts.applicant2.isOffline then .nopJointApp2CitizenOffline
      else .nopJointApp2Citizen

def separationNotice (facts : CaseFacts) (party : Party) : PackKey :=
  let represented := (facts.applicant party).isRepresented
  match facts.applicationKind, party with
  | .sole, .applicant1 =>
      if represented then .nopJsSoleApp1Solicitor
      else if facts.application.isCourtService then .nopJsSoleApp1CitizenCs
      else .nopJsSoleApp1CitizenPs
  | .sole, .applicant2 =>
      if represented then .nopJsSoleRespondentSolicitor else .nopJsSoleRespondentCitizen
  | .joint, .applicant1 =>
      if represented then .nopJsJointApp1Solicitor else .nopJsJointApp1Citizen
  | .joint, .applicant2 =>
      if represented then .nopJsJointApp2Solicitor else .nopJsJointApp2Citizen

def notice (facts : CaseFacts) (party : Party) : PackKey :=
  if facts.isSeparation then separationNotice facts party
  else
    match facts.applicationKind, party with
    | .sole, .applicant1 => soleApplicantNotice facts
    | .sole, .applicant2 => soleRespondentNotice facts
    | .joint, party => jointNotice facts party

def noticeRule : SelectionRule where
  letter := .noticeOfProceedings
  packs := [
    .nopSoleApp1CitizenCs, .nopSoleApp1CitizenPs, .nopSoleApp1Solicitor,
    .nopSoleRespondentCitizen, .nopSoleRespondentOffline, .nopSoleRespondentOverseas,
    .nopSoleRespondentSolicitor, .nopSoleRespondentSolicitorOffline, .nopJointApp1Citizen,
    .nopJointApp2Citizen, .nopJointApp2CitizenOffline, .nopJointApp1Solicitor,
    .nopJointApp2Solicitor, .nopJsSoleApp1CitizenCs, .nopJsSoleApp1CitizenPs,
    .nopJsSoleApp1Solicitor, .nopJsSoleRespondentCitizen, .nopJsSoleRespondentSolicitor,
    .nopJsJointApp1Citizen, .nopJsJointApp2Citizen, .nopJsJointApp1Solicitor,
    .nopJsJointApp2Solicitor]
  select := fun facts party => .ok (notice facts party)

end LetterPacks
