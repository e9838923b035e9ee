import LetterPacks.Case.Party
import LetterPacks.Letter

/-!
# Refusals

A rule that selects no pack for a case says why: the letter is not for this party, a fact is missing
from the case, or the letter has no pack at all.
-/

namespace LetterPacks

inductive Reason where
  | soleOnly
  | firstApplicantOnly
  | represented
  | answeredOnline
  | administrativeError
  | conditionalOrderNotSwitched
  | finalOrderNotSwitched
  | switchedParty
  | noFinalOrder
  | separationOrder
  | bothAddressed
  | respondentAddressed
  | otherAddressed
  /-- A reason of a rule that is not among the standard ones. -/
  | stated (words : String)
deriving DecidableEq, Repr

def Reason.message : Reason → String
  | .soleOnly => "only sole applications receive this letter"
  | .firstApplicantOnly => "the letter is only sent to applicant 1"
  | .represented => "represented applicants are contacted through their solicitor"
  | .answeredOnline => "the solicitor is notified of the response online"
  | .administrativeError => "administrative errors are corrected without writing to the applicants"
  | .conditionalOrderNotSwitched =>
      "the conditional order application was not switched to sole"
  | .finalOrderNotSwitched => "the final order application was not switched to sole"
  | .switchedParty => "the applicant who switched to sole does not receive this letter"
  | .noFinalOrder => "separation cases have no final order"
  | .separationOrder => "separation cases end with the separation order"
  | .bothAddressed => "sole cases cannot address both applicants"
  | .respondentAddressed => "sole cases only request information from applicant 1"
  | .otherAddressed => "the request is addressed to the other applicant"
  | .stated words => words

/-- A fact without which no pack can be selected. -/
inductive MissingFact where
  | acknowledgement
  | refusalDecision
  | informationRequest
  | stated (words : String)
deriving DecidableEq, Repr

def MissingFact.message : MissingFact → String
  | .acknowledgement => "acknowledgement of service"
  | .refusalDecision => "conditional order refusal decision"
  | .informationRequest => "request for information"
  | .stated words => words

inductive Refusal where
  | notApplicable (letter : Letter) (party : Party) (reason : Reason)
  | missingFact (letter : Letter) (fact : MissingFact)
  | undefined (letter : Letter)
deriving DecidableEq, Repr

def Refusal.message : Refusal → String
  | .notApplicable letter party reason =>
      letter.name ++ " does not apply to " ++ party.name ++ ": " ++ reason.message
  | .missingFact letter fact => letter.name ++ " requires " ++ fact.message ++ " on the case"
  | .undefined letter => letter.name ++ " has no document pack defined"

end LetterPacks
