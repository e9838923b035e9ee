import LetterPacks.Selection.Rule

/-!
# Letters about the end of a joint application and of the case

A joint application for an order may be carried on by one applicant alone.  The other applicant is
told so; a party named on the paper form is the one who carries on.  The final order ends a case,
except that a separation case has none.
-/

namespace LetterPacks

def requireOtherParty (letter : Letter) (applyingParty : Option Party) (party : Party) :
    Except Refusal Unit :=
  require (applyingParty != some party) (.notApplicable letter party .switchedParty)

/-- The rule of the letter that a conditional order application is carried on by one applicant. -/
def switchedConditionalOrderRule : SelectionRule where
  letter := .switchToSoleConditionalOrder
  packs := [
    .switchToSoleCo, .switchToSoleCoSolicitor, .judicialSeparationSwitchToSoleCo,
    .judicialSeparationSwitchToSoleCoSolicitor]
  select := fun facts party => do
    let order := facts.conditionalOrder
    require order.switchedToSole
      (.notApplicable .switchToSoleConditionalOrder party .conditionalOrderNotSwitched)
    requireOtherParty .switchToSoleConditionalOrder order.applyingParty party
    let represented := (facts.applicant party).isRepresented
    .ok (
      if facts.isSeparation then
        if represented then .judicialSeparationSwitchToSoleCoSolicitor
        else .judicialSeparationSwitchToSoleCo
      else if represented then .switchToSoleCoSolicitor
      else .switchToSoleCo)

/-- The rule of the letter that a final order application is carried on by one applicant. -/
def switchedFinalOrderRule : SelectionRule where
  letter := .switchToSoleFinalOrder
  packs := [.switchToSoleFo, .switchToSoleFoSolicitor]
  select := fun facts party => do
    let order := facts.finalOrder
    require order.switchedToSole
      (.notApplicable .switchToSoleFinalOrder party .finalOrderNotSwitched)
    requireOtherParty .switchToSoleFinalOrder order.applyingParty party
    require (!facts.isSeparation) (.notApplicable .switchToSoleFinalOrder party .noFinalOrder)
    .ok (
      if (facts.applicant party).isRepresented then .switchToSoleFoSolicitor
      else .switchToSoleFo)

def finalOrderRule : SelectionRule where
  letter := .finalOrderGranted
  packs := [.foGrantedApplicant1, .foGrantedApplicant2, .foGrantedSolicitor]
  select := fun facts party => do
    require (!facts.isSeparation) (.notApplicable .finalOrderGranted party .separationOrder)
    .ok (
      if (facts.applicant party).isRepresented then .foGrantedSolicitor
      else
        match party with
        | .applicant1 => .foGrantedApplicant1
        | .applicant2 => .foGrantedApplicant2)

end LetterPacks
