import LetterPacks.Proofs.Selection.Declaration

/-!
# Packs that suit the case

A pack belongs to a family of letters and is written for an audience.  The rules select packs of the
family that the case asks for, written for the solicitor of a represented party and for the party
itself otherwise.  Requests for information are the same in every case, so their packs belong to
the family of divorce letters throughout.
-/

namespace LetterPacks

def CaseFacts.track (facts : CaseFacts) : Track :=
  if facts.isSeparation then .judicialSeparation else .divorce

def Applicant.audience (applicant : Applicant) : Audience :=
  if applicant.isRepresented then .solicitor else .citizen

/-- The pack belongs to a family of letters and is written for an audience. -/
structure PackKey.Suits (key : PackKey) (track : Track) (audience : Audience) : Prop where
  track_eq : key.contents.track = track
  audience_eq : key.contents.audience = audience

private theorem CaseFacts.track_of_divorce
    {facts : CaseFacts} (divorce : (!facts.isSeparation) = true) : facts.track = .divorce := by
  rw [Bool.not_eq_true'] at divorce
  rw [track, divorce]
  rfl

private theorem Applicant.audience_of_unrepresented
    {applicant : Applicant} (unrepresented : (!applicant.isRepresented) = true) :
    applicant.audience = .citizen := by
  rw [Bool.not_eq_true'] at unrepresented
  rw [audience, unrepresented]
  rfl

namespace PackKey.Suits

variable {first second : PackKey} {track : Track} {audience : Audience}

private theorem bySeparation
    {facts : CaseFacts} (separation : first.Suits .judicialSeparation audience)
    (divorce : second.Suits .divorce audience) :
    (if facts.isSeparation then first else second).Suits facts.track audience := by
  unfold CaseFacts.track
  split
  · exact separation
  · exact divorce

private theorem byRepresentation
    {applicant : Applicant} (represented : first.Suits track .solicitor)
    (unrepresented : second.Suits track .citizen) :
    (if applicant.isRepresented then first else second).Suits track applicant.audience := by
  unfold Applicant.audience
  split
  · exact represented
  · exact unrepresented

private theorem either
    {condition : Prop} [Decidable condition] (suits : first.Suits track audience)
    (otherSuits : second.Suits track audience) :
    (if condition then first else second).Suits track audience := by
  split
  · exact suits
  · exact otherSuits

end PackKey.Suits

open PackKey.Suits

namespace SelectionRule

/-- The rule selects only packs of a family that goes by the case, and for the audience that goes
by the recipient. -/
def SelectsSuitable (rule : SelectionRule) (track : CaseFacts → Track) : Prop :=
  ∀ ⦃facts party key⦄, rule.select facts party = .ok key →
    key.Suits (track facts) (facts.applicant party).audience

end SelectionRule

private theorem separationNotice_suits (facts : CaseFacts) (party : Party) :
    (separationNotice facts party).Suits .judicialSeparation
      (facts.applicant party).audience := by
  unfold separationNotice
  cases facts.applicationKind <;> cases party
  · apply byRepresentation ⟨rfl, rfl⟩
    exact either ⟨rfl, rfl⟩ ⟨rfl, rfl⟩
  · exact byRepresentation ⟨rfl, rfl⟩ ⟨rfl, rfl⟩
  · exact byRepresentation ⟨rfl, rfl⟩ ⟨rfl, rfl⟩
  · exact byRepresentation ⟨rfl, rfl⟩ ⟨rfl, rfl⟩

private theorem soleApplicantNotice_suits (facts : CaseFacts) :
    (soleApplicantNotice facts).Suits .divorce facts.applicant1.audience := by
  apply byRepresentation ⟨rfl, rfl⟩
  exact either ⟨rfl, rfl⟩ ⟨rfl, rfl⟩

private theorem soleRespondentNotice_suits (facts : CaseFacts) :
    (soleRespondentNotice facts).Suits .divorce facts.applicant2.audience := by
  apply byRepresentation
  · exact either ⟨rfl, rfl⟩ ⟨rfl, rfl⟩
  · apply either ⟨rfl, rfl⟩
    apply either ⟨rfl, rfl⟩
    exact either ⟨rfl, rfl⟩ ⟨rfl, rfl⟩

private theorem jointNotice_suits (facts : CaseFacts) (party : Party) :
    (jointNotice facts party).Suits .divorce (facts.applicant party).audience := by
  cases party with
  | applicant1 =>
      exact byRepresentation ⟨rfl, rfl⟩ ⟨rfl, rfl⟩
  | applicant2 =>
      apply byRepresentation ⟨rfl, rfl⟩
      exact either ⟨rfl, rfl⟩ ⟨rfl, rfl⟩

private theorem noticeRule_selectsSuitable : noticeRule.SelectsSuitable CaseFacts.track := by
  intro facts party key selected
  obtain rfl : notice facts party = key := by simpa [noticeRule] using selected
  apply bySeparation (separationNotice_suits facts party)
  cases facts.applicationKind <;> cases party
  · exact soleApplicantNotice_suits facts
  · exact soleRespondentNotice_suits facts
  · exact jointNotice_suits facts .applicant1
  · exact jointNotice_suits facts .applicant2

private theorem overdueRule_selectsSuitable : overdueRule.SelectsSuitable CaseFacts.track := by
  intro facts party key selected
  obtain ⟨_, _, unrepresented, rfl⟩ := of_overdueRule_eq_ok selected
  rw [Applicant.audience_of_unrepresented unrepresented]
  exact bySeparation ⟨rfl, rfl⟩ ⟨rfl, rfl⟩

private theorem responseRule_selectsSuitable : responseRule.SelectsSuitable CaseFacts.track := by
  intro facts party key selected
  obtain ⟨_, rfl, acknowledgement, _, chosen⟩ := of_responseRule_eq_ok selected
  rcases chosen with ⟨separation, rfl⟩ | ⟨divorce, unrepresented, rfl⟩
  · rw [CaseFacts.track, if_pos separation]
    apply byRepresentation ⟨rfl, rfl⟩
    exact either ⟨rfl, rfl⟩ ⟨rfl, rfl⟩
  · have citizen : (facts.applicant .applicant1).audience = .citizen :=
      Applicant.audience_of_unrepresented unrepresented
    rw [CaseFacts.track, if_neg divorce, citizen]
    exact either ⟨rfl, rfl⟩ ⟨rfl, rfl⟩

private theorem undefined_selectsSuitable (letter : Letter) (track : CaseFacts → Track) :
    (SelectionRule.undefined letter).SelectsSuitable track := by
  intro facts party key selected
  cases selected

private theorem entitlementRule_selectsSuitable :
    entitlementRule.SelectsSuitable CaseFacts.track := by
  intro facts party key selected
  obtain rfl := Except.ok.inj selected
  apply bySeparation
  · exact byRepresentation ⟨rfl, rfl⟩ ⟨rfl, rfl⟩
  · apply byRepresentation ⟨rfl, rfl⟩
    exact either ⟨rfl, rfl⟩ ⟨rfl, rfl⟩

private theorem grantedRule_selectsSuitable : grantedRule.SelectsSuitable CaseFacts.track := by
  intro facts party key selected
  obtain rfl := Except.ok.inj selected
  apply bySeparation
  · apply byRepresentation ⟨rfl, rfl⟩
    exact either ⟨rfl, rfl⟩ ⟨rfl, rfl⟩
  · apply byRepresentation ⟨rfl, rfl⟩
    apply either _ ⟨rfl, rfl⟩
    cases party <;> exact ⟨rfl, rfl⟩

private theorem refusalPack?_suits
    {decision : RefusalDecision} {separation represented : Bool} {key : PackKey}
    (chosen : refusalPack? decision separation represented = some key) :
    key.Suits (if separation then .judicialSeparation else .divorce)
      (if represented then .solicitor else .citizen) := by
  cases decision <;> cases separation <;> cases represented <;> cases chosen
  all_goals exact ⟨rfl, rfl⟩

private theorem refusedRule_selectsSuitable : refusedRule.SelectsSuitable CaseFacts.track := by
  intro facts party key selected
  obtain ⟨_, _, chosen⟩ := of_refusedRule_eq_ok selected
  exact refusalPack?_suits chosen

private theorem pronouncedRule_selectsSuitable :
    pronouncedRule.SelectsSuitable CaseFacts.track := by
  intro facts party key selected
  obtain rfl := Except.ok.inj selected
  apply bySeparation
  · exact byRepresentation ⟨rfl, rfl⟩ ⟨rfl, rfl⟩
  · apply byRepresentation ⟨rfl, rfl⟩
    exact either ⟨rfl, rfl⟩ ⟨rfl, rfl⟩

private theorem finalOrderRule_selectsSuitable :
    finalOrderRule.SelectsSuitable CaseFacts.track := by
  intro facts party key selected
  obtain ⟨divorce, rfl⟩ := of_finalOrderRule_eq_ok selected
  rw [CaseFacts.track_of_divorce divorce]
  apply byRepresentation ⟨rfl, rfl⟩
  exact either ⟨rfl, rfl⟩ ⟨rfl, rfl⟩

private theorem switchedConditionalOrderRule_selectsSuitable :
    switchedConditionalOrderRule.SelectsSuitable CaseFacts.track := by
  intro facts party key selected
  obtain ⟨_, _, rfl⟩ := of_switchedConditionalOrderRule_eq_ok selected
  apply bySeparation
  · exact byRepresentation ⟨rfl, rfl⟩ ⟨rfl, rfl⟩
  · exact byRepresentation ⟨rfl, rfl⟩ ⟨rfl, rfl⟩

private theorem switchedFinalOrderRule_selectsSuitable :
    switchedFinalOrderRule.SelectsSuitable CaseFacts.track := by
  intro facts party key selected
  obtain ⟨_, _, divorce, rfl⟩ := of_switchedFinalOrderRule_eq_ok selected
  rw [CaseFacts.track_of_divorce divorce]
  exact byRepresentation ⟨rfl, rfl⟩ ⟨rfl, rfl⟩

private theorem informationRule_selectsSuitable :
    informationRule.SelectsSuitable fun _ => .divorce := by
  intro facts party key selected
  obtain ⟨_, _, _, _, rfl⟩ := of_informationRule_eq_ok selected
  apply byRepresentation ⟨rfl, rfl⟩
  apply either ⟨rfl, rfl⟩
  exact either ⟨rfl, rfl⟩ ⟨rfl, rfl⟩

private theorem applicationRule_selectsSuitable :
    applicationRule.SelectsSuitable CaseFacts.track := by
  intro facts party key selected
  obtain ⟨unrepresented, rfl⟩ := of_applicationRule_eq_ok selected
  rw [Applicant.audience_of_unrepresented unrepresented]
  apply bySeparation ⟨rfl, rfl⟩
  exact either ⟨rfl, rfl⟩ ⟨rfl, rfl⟩

private theorem reminderRule_selectsSuitable : reminderRule.SelectsSuitable CaseFacts.track := by
  intro facts party key selected
  obtain ⟨unrepresented, rfl⟩ := of_reminderRule_eq_ok selected
  rw [Applicant.audience_of_unrepresented unrepresented]
  apply bySeparation ⟨rfl, rfl⟩
  exact either ⟨rfl, rfl⟩ ⟨rfl, rfl⟩

namespace Letter

def track (letter : Letter) (facts : CaseFacts) : Track :=
  if letter = .requestForInformation then .divorce else facts.track

theorem rule_selectsSuitable (letter : Letter) : letter.rule.SelectsSuitable letter.track := by
  cases letter with
  | noticeOfProceedings => exact noticeRule_selectsSuitable
  | aosOverdue => exact overdueRule_selectsSuitable
  | aosResponseLetter => exact responseRule_selectsSuitable
  | aosResponse => exact undefined_selectsSuitable _ _
  | regenerateCourtOrders => exact undefined_selectsSuitable _ _
  | certificateOfEntitlement => exact entitlementRule_selectsSuitable
  | conditionalOrderGranted => exact grantedRule_selectsSuitable
  | conditionalOrderRefused => exact refusedRule_selectsSuitable
  | conditionalOrderPronounced => exact pronouncedRule_selectsSuitable
  | finalOrderGranted => exact finalOrderRule_selectsSuitable
  | switchToSoleConditionalOrder => exact switchedConditionalOrderRule_selectsSuitable
  | switchToSoleFinalOrder => exact switchedFinalOrderRule_selectsSuitable
  | requestForInformation => exact informationRule_selectsSuitable
  | applyForConditionalOrder => exact applicationRule_selectsSuitable
  | awaitingConditionalOrderReminder => exact reminderRule_selectsSuitable

end Letter

end LetterPacks
