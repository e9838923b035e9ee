import LetterPacks.Proofs.Dispatch.Session
import LetterPacks.Proofs.Selection.Declaration
import Mathlib.Data.List.Nodup
import Mathlib.Data.List.Pairwise

/-!
# Packs that somebody gets

Every pack that a rule declares is selected for some party to some case.  The cases are few: where
everything has happened of which the rules ask, a party gets one pack with almost every letter, and
the packs differ by the kind of the case and by what is known about the recipient.  Between them
the letters declare every pack once.
-/

namespace LetterPacks

namespace Applicant

def reachedOnline : Applicant :=
  { email := some "ann@example.com" }

def reachedByPost : Applicant :=
  {}

def reachedAbroad : Applicant :=
  { addressOverseas := true }

def reachedThroughSolicitor : Applicant :=
  { solicitorRepresented := true }

def reachedThroughFirm : Applicant :=
  { solicitorRepresented := true, solicitor := some ⟨"Kay Moss", none, some "Moss and Co"⟩ }

end Applicant

namespace CaseFacts

/-- A case that has come all the way, between two parties of whom the same is known. -/
def eventful (kind : ApplicationKind) (asked : SeparationKind) (known : Applicant) :
    CaseFacts :=
  { (CaseFile.bare 0).facts with
    applicationKind := kind
    separationKind := asked
    applicant1 := known
    applicant2 := known
    acknowledgement := some ⟨.withoutDispute, none⟩
    conditionalOrder := { refusalDecision := some .moreInformation, switchedToSole := true }
    finalOrder := { switchedToSole := true }
    informationRequest := some ⟨.applicant1, "the marriage certificate"⟩ }

/-- The case with a respondent who disputes it and an order that is rejected. -/
def opposed (facts : CaseFacts) : CaseFacts :=
  { facts with
    acknowledgement := some ⟨.disputed, none⟩
    conditionalOrder := { facts.conditionalOrder with refusalDecision := some .rejected } }

def servedPersonally (facts : CaseFacts) : CaseFacts :=
  { facts with application := { facts.application with serviceMethod := .personal } }

end CaseFacts

/-- A party to a case who is written to. -/
structure Occasion where
  facts : CaseFacts
  party : Party

namespace PackKey

open Applicant CaseFacts

def occasion : PackKey → Occasion
  | nopSoleApp1CitizenCs | aosOverdue | aosResponseUndisputed | certificateOfEntitlementApplicant
  | coGrantedApplicant1 | clarification | coPronouncedApplicant | foGrantedApplicant1
  | switchToSoleCo | switchToSoleFo | requestForInformationSole | applyForCoSole
  | coReminderSole =>
      ⟨eventful .sole .notApplicable reachedOnline, .applicant1⟩
  | nopSoleApp1CitizenPs =>
      ⟨(eventful .sole .notApplicable reachedOnline).servedPersonally, .applicant1⟩
  | aosResponseDisputed | amendment =>
      ⟨(eventful .sole .notApplicable reachedOnline).opposed, .applicant1⟩
  | requestForInformationOffline =>
      ⟨eventful .sole .notApplicable reachedByPost, .applicant1⟩
  | nopSoleApp1Solicitor | certificateOfEntitlementSolicitor | coGrantedSolicitor
  | clarificationSol | coPronouncedSolicitor | foGrantedSolicitor | switchToSoleCoSolicitor
  | switchToSoleFoSolicitor | requestForInformationSolicitor =>
      ⟨eventful .sole .notApplicable reachedThroughSolicitor, .applicant1⟩
  | amendmentSol =>
      ⟨(eventful .sole .notApplicable reachedThroughSolicitor).opposed, .applicant1⟩
  | nopSoleRespondentCitizen | certificateOfEntitlementRespondent | coGrantedApplicant2
  | coPronouncedRespondent | foGrantedApplicant2 =>
      ⟨eventful .sole .notApplicable reachedOnline, .applicant2⟩
  | nopSoleRespondentOffline =>
      ⟨eventful .sole .notApplicable reachedByPost, .applicant2⟩
  | nopSoleRespondentOverseas =>
      ⟨eventful .sole .notApplicable reachedAbroad, .applicant2⟩
  | nopSoleRespondentSolicitor =>
      ⟨eventful .sole .notApplicable reachedThroughFirm, .applicant2⟩
  | nopSoleRespondentSolicitorOffline =>
      ⟨eventful .sole .notApplicable reachedThroughSolicitor, .applicant2⟩
  | nopJointApp1Citizen | coGrantedJoint | requestForInformationJoint | applyForCoJoint
  | coReminderJoint =>
      ⟨eventful .joint .notApplicable reachedOnline, .applicant1⟩
  | nopJointApp1Solicitor =>
      ⟨eventful .joint .notApplicable reachedThroughSolicitor, .applicant1⟩
  | nopJointApp2Citizen =>
      ⟨eventful .joint .notApplicable reachedOnline, .applicant2⟩
  | nopJointApp2CitizenOffline =>
      ⟨eventful .joint .notApplicable reachedByPost, .applicant2⟩
  | nopJointApp2Solicitor =>
      ⟨eventful .joint .notApplicable reachedThroughSolicitor, .applicant2⟩
  | nopJsSoleApp1CitizenCs | aosOverdueJs | aosResponseJsUndisputed | certificateOfEntitlementJs
  | coGrantedJs | clarificationJs | coPronouncedJs | judicialSeparationSwitchToSoleCo
  | applyForCoJs | coReminderJs =>
      ⟨eventful .sole .judicialSeparation reachedOnline, .applicant1⟩
  | nopJsSoleApp1CitizenPs =>
      ⟨(eventful .sole .judicialSeparation reachedOnline).servedPersonally, .applicant1⟩
  | aosResponseJsDisputed | amendmentJs =>
      ⟨(eventful .sole .judicialSeparation reachedOnline).opposed, .applicant1⟩
  | nopJsSoleApp1Solicitor | aosResponseJsSolicitor | certificateOfEntitlementJsSolicitor
  | coGrantedJsSolicitor | clarificationSolJs | coPronouncedJsSolicitor
  | judicialSeparationSwitchToSoleCoSolicitor =>
      ⟨eventful .sole .judicialSeparation reachedThroughSolicitor, .applicant1⟩
  | amendmentSolJs =>
      ⟨(eventful .sole .judicialSeparation reachedThroughSolicitor).opposed, .applicant1⟩
  | nopJsSoleRespondentCitizen =>
      ⟨eventful .sole .judicialSeparation reachedOnline, .applicant2⟩
  | nopJsSoleRespondentSolicitor =>
      ⟨eventful .sole .judicialSeparation reachedThroughSolicitor, .applicant2⟩
  | nopJsJointApp1Citizen =>
      ⟨eventful .joint .judicialSeparation reachedOnline, .applicant1⟩
  | nopJsJointApp1Solicitor =>
      ⟨eventful .joint .judicialSeparation reachedThroughSolicitor, .applicant1⟩
  | nopJsJointApp2Citizen =>
      ⟨eventful .joint .judicialSeparation reachedOnline, .applicant2⟩
  | nopJsJointApp2Solicitor =>
      ⟨eventful .joint .judicialSeparation reachedThroughSolicitor, .applicant2⟩
  | coGrantedSeparation =>
      ⟨eventful .sole .separation reachedOnline, .applicant1⟩

end PackKey

namespace Letter

variable {letter other : Letter} {key : PackKey}

private theorem select_occasion (declared : key ∈ letter.rule.packs) :
    letter.rule.select key.occasion.facts key.occasion.party = .ok key := by
  have each : letter.rule.packs.map (fun key =>
        letter.rule.select key.occasion.facts key.occasion.party) =
      letter.rule.packs.map .ok := by
    cases letter <;> rfl
  exact List.map_inj_left.1 each key declared

theorem mem_packs_iff_selected :
    key ∈ letter.rule.packs ↔ ∃ facts party, letter.rule.select facts party = .ok key := by
  constructor
  · intro declared
    exact ⟨_, _, select_occasion declared⟩
  · rintro ⟨facts, party, selected⟩
    exact letter.rule_selectsDeclared selected

private theorem flatMap_packs_rule : (all.flatMap fun letter => letter.rule.packs) = PackKey.all :=
  rfl

theorem exists_mem_packs (key : PackKey) : ∃ letter : Letter, key ∈ letter.rule.packs := by
  have listed : key ∈ all.flatMap fun letter => letter.rule.packs := by
    rw [flatMap_packs_rule]
    exact PackKey.vocabulary.complete key
  obtain ⟨letter, _, declared⟩ := List.mem_flatMap.1 listed
  exact ⟨letter, declared⟩

theorem eq_of_mem_packs (here : key ∈ letter.rule.packs) (there : key ∈ other.rule.packs) :
    letter = other := by
  have distinct : (all.flatMap fun letter => letter.rule.packs).Nodup := by
    rw [flatMap_packs_rule]
    exact PackKey.vocabulary.distinct.of_map _
  have symmetric : Std.Symm (Function.onFun List.Disjoint fun letter : Letter =>
      letter.rule.packs) := ⟨fun _ _ apart _ right left => apart left right⟩
  by_contra different
  exact (List.nodup_flatMap.1 distinct).2.forall (vocabulary.complete letter)
    (vocabulary.complete other) different here there

end Letter

end LetterPacks
