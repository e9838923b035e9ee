import LetterPacks.Catalog.Registry
import LetterPacks.Proofs.Case.Attachment

/-!
# What the standard rules select

Every letter has one standard rule.  What a rule with guards has found when it selects a pack is
stated once.  Every rule selects only packs that it declares, and none looks at the rendered
documents of the case.  The two letters that go out with a blank application form are those whose
rules name a document on demand.
-/

namespace LetterPacks

@[simp]
theorem require_bind_eq_ok_iff
    {α : Type} {condition : Bool} {refusal : Refusal} {next : Unit → Except Refusal α} {value : α} :
    (require condition refusal >>= next) = .ok value ↔
      condition = true ∧ next () = .ok value := by
  cases condition <;> simp [require, bind, Except.bind]

@[simp]
theorem demand_bind_eq_ok_iff
    {α β : Type} {letter : Letter} {fact : MissingFact} {known : Option α}
    {next : α → Except Refusal β} {value : β} :
    (demand letter fact known >>= next) = .ok value ↔
      ∃ found, known = some found ∧ next found = .ok value := by
  cases known <;> simp [demand, bind, Except.bind]

section

variable {facts : CaseFacts} {party : Party} {key : PackKey}

theorem of_overdueRule_eq_ok (selected : overdueRule.select facts party = .ok key) :
    facts.isSole = true ∧ party = .applicant1 ∧
      (!(facts.applicant party).isRepresented) = true ∧
      key = if facts.isSeparation then .aosOverdueJs else .aosOverdue := by
  simp only [overdueRule, requireSole, requireFirstApplicant, requireUnrepresented,
    require_bind_eq_ok_iff, Except.ok.injEq] at selected
  obtain ⟨sole, first, unrepresented, rfl⟩ := selected
  exact ⟨sole, eq_of_beq first, unrepresented, rfl⟩

theorem of_responseRule_eq_ok (selected : responseRule.select facts party = .ok key) :
    facts.isSole = true ∧ party = .applicant1 ∧
      ∃ acknowledgement, facts.acknowledgement = some acknowledgement ∧
        ((facts.isSeparation = true ∧
            key = if facts.applicant1.isRepresented then .aosResponseJsSolicitor
              else if acknowledgement.isDisputed then .aosResponseJsDisputed
              else .aosResponseJsUndisputed) ∨
          (¬ facts.isSeparation = true ∧ (!facts.applicant1.isRepresented) = true ∧
            key = if acknowledgement.isDisputed then .aosResponseDisputed
              else .aosResponseUndisputed)) := by
  simp only [responseRule, requireSole, requireFirstApplicant, require_bind_eq_ok_iff,
    demand_bind_eq_ok_iff] at selected
  obtain ⟨sole, first, acknowledgement, known, selected⟩ := selected
  refine ⟨sole, eq_of_beq first, acknowledgement, known, ?_⟩
  split at selected
  · next separation =>
      exact Or.inl ⟨separation, (Except.ok.inj selected).symm⟩
  · next divorce =>
      obtain ⟨unrepresented, selected⟩ := require_bind_eq_ok_iff.1 selected
      exact Or.inr ⟨divorce, unrepresented, (Except.ok.inj selected).symm⟩

theorem of_refusedRule_eq_ok (selected : refusedRule.select facts party = .ok key) :
    ∃ decision, facts.conditionalOrder.refusalDecision = some decision ∧
      refusalPack? decision facts.isSeparation (facts.applicant party).isRepresented =
        some key := by
  simp only [refusedRule, demand_bind_eq_ok_iff] at selected
  obtain ⟨decision, known, selected⟩ := selected
  split at selected
  · next chosen =>
      obtain rfl := Except.ok.inj selected
      exact ⟨decision, known, chosen⟩
  · cases selected

theorem of_finalOrderRule_eq_ok (selected : finalOrderRule.select facts party = .ok key) :
    (!facts.isSeparation) = true ∧
      key = if (facts.applicant party).isRepresented then .foGrantedSolicitor
        else if party = .applicant1 then .foGrantedApplicant1
        else .foGrantedApplicant2 := by
  simp only [finalOrderRule, require_bind_eq_ok_iff, Except.ok.injEq] at selected
  obtain ⟨divorce, rfl⟩ := selected
  refine ⟨divorce, ?_⟩
  cases party <;> rfl

theorem of_switchedConditionalOrderRule_eq_ok
    (selected : switchedConditionalOrderRule.select facts party = .ok key) :
    facts.conditionalOrder.switchedToSole = true ∧
      facts.conditionalOrder.applyingParty ≠ some party ∧
      key =
        if facts.isSeparation then
          if (facts.applicant party).isRepresented then .judicialSeparationSwitchToSoleCoSolicitor
          else .judicialSeparationSwitchToSoleCo
        else if (facts.applicant party).isRepresented then .switchToSoleCoSolicitor
        else .switchToSoleCo := by
  simp only [switchedConditionalOrderRule, requireOtherParty, require_bind_eq_ok_iff,
    Except.ok.injEq] at selected
  obtain ⟨switched, other, rfl⟩ := selected
  exact ⟨switched, bne_iff_ne.1 other, rfl⟩

theorem of_switchedFinalOrderRule_eq_ok
    (selected : switchedFinalOrderRule.select facts party = .ok key) :
    facts.finalOrder.switchedToSole = true ∧ facts.finalOrder.applyingParty ≠ some party ∧
      (!facts.isSeparation) = true ∧
      key = if (facts.applicant party).isRepresented then .switchToSoleFoSolicitor
        else .switchToSoleFo := by
  simp only [switchedFinalOrderRule, requireOtherParty, require_bind_eq_ok_iff,
    Except.ok.injEq] at selected
  obtain ⟨switched, other, divorce, rfl⟩ := selected
  exact ⟨switched, bne_iff_ne.1 other, divorce, rfl⟩

theorem of_informationRule_eq_ok (selected : informationRule.select facts party = .ok key) :
    ∃ request, facts.informationRequest = some request ∧
      checkAddressee facts request.addressee party = .ok () ∧
      request.addresses party = true ∧
      key = if (facts.applicant party).isRepresented then .requestForInformationSolicitor
        else if (facts.applicant party).isOffline then .requestForInformationOffline
        else if facts.isSole then .requestForInformationSole
        else .requestForInformationJoint := by
  simp only [informationRule, demand_bind_eq_ok_iff] at selected
  obtain ⟨request, known, selected⟩ := selected
  cases checked : checkAddressee facts request.addressee party with
  | error refusal =>
      rw [checked] at selected
      cases selected
  | ok _ =>
      rw [checked] at selected
      obtain ⟨addressed, selected⟩ := require_bind_eq_ok_iff.1 selected
      exact ⟨request, known, checked, addressed, (Except.ok.inj selected).symm⟩

theorem of_applicationRule_eq_ok (selected : applicationRule.select facts party = .ok key) :
    (!(facts.applicant party).isRepresented) = true ∧
      key = if facts.isSeparation then .applyForCoJs
        else if facts.isSole then .applyForCoSole
        else .applyForCoJoint := by
  simp only [applicationRule, requireUnrepresented, require_bind_eq_ok_iff,
    Except.ok.injEq] at selected
  obtain ⟨unrepresented, rfl⟩ := selected
  exact ⟨unrepresented, rfl⟩

theorem of_reminderRule_eq_ok (selected : reminderRule.select facts party = .ok key) :
    (!(facts.applicant party).isRepresented) = true ∧
      key = if facts.isSeparation then .coReminderJs
        else if facts.isSole then .coReminderSole
        else .coReminderJoint := by
  simp only [reminderRule, requireUnrepresented, require_bind_eq_ok_iff,
    Except.ok.injEq] at selected
  obtain ⟨unrepresented, rfl⟩ := selected
  exact ⟨unrepresented, rfl⟩

end

namespace SelectionRule

def SelectsDeclared (rule : SelectionRule) : Prop :=
  ∀ ⦃facts party key⦄, rule.select facts party = .ok key → key ∈ rule.packs

end SelectionRule

private theorem separationNotice_mem_packs (facts : CaseFacts) (party : Party) :
    separationNotice facts party ∈ noticeRule.packs := by
  unfold separationNotice
  cases facts.applicationKind <;> cases party <;> dsimp only <;>
    repeat' split
  all_goals decide

private theorem soleApplicantNotice_mem_packs (facts : CaseFacts) :
    soleApplicantNotice facts ∈ noticeRule.packs := by
  unfold soleApplicantNotice
  repeat' split
  all_goals decide

private theorem soleRespondentNotice_mem_packs (facts : CaseFacts) :
    soleRespondentNotice facts ∈ noticeRule.packs := by
  unfold soleRespondentNotice
  dsimp only
  repeat' split
  all_goals decide

private theorem jointNotice_mem_packs (facts : CaseFacts) (party : Party) :
    jointNotice facts party ∈ noticeRule.packs := by
  unfold jointNotice
  cases party <;> dsimp only <;> repeat' split
  all_goals decide

private theorem noticeRule_selectsDeclared : noticeRule.SelectsDeclared := by
  intro facts party key selected
  obtain rfl : notice facts party = key := by simpa [noticeRule] using selected
  unfold notice
  split
  · exact separationNotice_mem_packs facts party
  · split
    · exact soleApplicantNotice_mem_packs facts
    · exact soleRespondentNotice_mem_packs facts
    · exact jointNotice_mem_packs facts _

private theorem overdueRule_selectsDeclared : overdueRule.SelectsDeclared := by
  intro facts party key selected
  obtain ⟨_, _, _, rfl⟩ := of_overdueRule_eq_ok selected
  split <;> decide

private theorem responseRule_selectsDeclared : responseRule.SelectsDeclared := by
  intro facts party key selected
  obtain ⟨_, _, acknowledgement, _, chosen⟩ := of_responseRule_eq_ok selected
  rcases chosen with ⟨_, rfl⟩ | ⟨_, _, rfl⟩
  · repeat' split
    all_goals decide
  · split <;> decide

private theorem undefined_selectsDeclared (letter : Letter) :
    (SelectionRule.undefined letter).SelectsDeclared := by
  intro facts party key selected
  cases selected

private theorem entitlementRule_selectsDeclared : entitlementRule.SelectsDeclared := by
  intro facts party key selected
  obtain rfl := Except.ok.inj selected
  repeat' split
  all_goals decide

private theorem grantedRule_selectsDeclared : grantedRule.SelectsDeclared := by
  intro facts party key selected
  obtain rfl := Except.ok.inj selected
  repeat' split
  all_goals decide

private theorem refusalPack?_mem_packs
    (decision : RefusalDecision) (separation represented : Bool) :
    ∀ key ∈ refusalPack? decision separation represented, key ∈ refusedRule.packs := by
  cases decision <;> cases separation <;> cases represented <;> decide

private theorem refusedRule_selectsDeclared : refusedRule.SelectsDeclared := by
  intro facts party key selected
  obtain ⟨_, _, chosen⟩ := of_refusedRule_eq_ok selected
  exact refusalPack?_mem_packs _ _ _ _ chosen

private theorem pronouncedRule_selectsDeclared : pronouncedRule.SelectsDeclared := by
  intro facts party key selected
  obtain rfl := Except.ok.inj selected
  repeat' split
  all_goals decide

private theorem finalOrderRule_selectsDeclared : finalOrderRule.SelectsDeclared := by
  intro facts party key selected
  obtain ⟨_, rfl⟩ := of_finalOrderRule_eq_ok selected
  repeat' split
  all_goals decide

private theorem switchedConditionalOrderRule_selectsDeclared :
    switchedConditionalOrderRule.SelectsDeclared := by
  intro facts party key selected
  obtain ⟨_, _, rfl⟩ := of_switchedConditionalOrderRule_eq_ok selected
  repeat' split
  all_goals decide

private theorem switchedFinalOrderRule_selectsDeclared :
    switchedFinalOrderRule.SelectsDeclared := by
  intro facts party key selected
  obtain ⟨_, _, _, rfl⟩ := of_switchedFinalOrderRule_eq_ok selected
  split <;> decide

private theorem informationRule_selectsDeclared : informationRule.SelectsDeclared := by
  intro facts party key selected
  obtain ⟨_, _, _, _, rfl⟩ := of_informationRule_eq_ok selected
  repeat' split
  all_goals decide

private theorem applicationRule_selectsDeclared : applicationRule.SelectsDeclared := by
  intro facts party key selected
  obtain ⟨_, rfl⟩ := of_applicationRule_eq_ok selected
  repeat' split
  all_goals decide

private theorem reminderRule_selectsDeclared : reminderRule.SelectsDeclared := by
  intro facts party key selected
  obtain ⟨_, rfl⟩ := of_reminderRule_eq_ok selected
  repeat' split
  all_goals decide

namespace Letter

def rule : Letter → SelectionRule
  | .noticeOfProceedings => noticeRule
  | .aosOverdue => overdueRule
  | .aosResponseLetter => responseRule
  | .aosResponse => .undefined .aosResponse
  | .regenerateCourtOrders => .undefined .regenerateCourtOrders
  | .certificateOfEntitlement => entitlementRule
  | .conditionalOrderGranted => grantedRule
  | .conditionalOrderRefused => refusedRule
  | .conditionalOrderPronounced => pronouncedRule
  | .finalOrderGranted => finalOrderRule
  | .switchToSoleConditionalOrder => switchedConditionalOrderRule
  | .switchToSoleFinalOrder => switchedFinalOrderRule
  | .requestForInformation => informationRule
  | .applyForConditionalOrder => applicationRule
  | .awaitingConditionalOrderReminder => reminderRule

def enclosesForm : Letter → Bool
  | .applyForConditionalOrder | .awaitingConditionalOrderReminder => true
  | _ => false

def form? (letter : Letter) : Option OnDemandDocument :=
  if letter.enclosesForm then some d84Form else none

theorem of_form?_eq_some
    {letter : Letter} {form : OnDemandDocument} (needed : letter.form? = some form) :
    letter.enclosesForm = true ∧ form = d84Form := by
  cases encloses : letter.enclosesForm with
  | false =>
      simp [form?, encloses] at needed
  | true =>
      rw [form?, encloses] at needed
      exact ⟨rfl, (Option.some.inj needed).symm⟩

@[simp]
theorem letter_rule (letter : Letter) : letter.rule.letter = letter := by
  cases letter <;> rfl

theorem standardRules_eq_map_rule : standardRules = Letter.all.map rule :=
  rfl

theorem rule_selectsDeclared (letter : Letter) : letter.rule.SelectsDeclared := by
  cases letter with
  | noticeOfProceedings => exact noticeRule_selectsDeclared
  | aosOverdue => exact overdueRule_selectsDeclared
  | aosResponseLetter => exact responseRule_selectsDeclared
  | aosResponse => exact undefined_selectsDeclared _
  | regenerateCourtOrders => exact undefined_selectsDeclared _
  | certificateOfEntitlement => exact entitlementRule_selectsDeclared
  | conditionalOrderGranted => exact grantedRule_selectsDeclared
  | conditionalOrderRefused => exact refusedRule_selectsDeclared
  | conditionalOrderPronounced => exact pronouncedRule_selectsDeclared
  | finalOrderGranted => exact finalOrderRule_selectsDeclared
  | switchToSoleConditionalOrder => exact switchedConditionalOrderRule_selectsDeclared
  | switchToSoleFinalOrder => exact switchedFinalOrderRule_selectsDeclared
  | requestForInformation => exact informationRule_selectsDeclared
  | applyForConditionalOrder => exact applicationRule_selectsDeclared
  | awaitingConditionalOrderReminder => exact reminderRule_selectsDeclared

theorem nodup_packs_rule (letter : Letter) : letter.rule.packs.Nodup := by
  cases letter <;> decide

theorem select_rule_attach
    (letter : Letter) (caseFile : CaseFile) (documents : List CaseDocument) (party : Party) :
    letter.rule.select (caseFile.attach documents).facts party =
      letter.rule.select caseFile.facts party := by
  cases letter <;> rfl

/-- The rules of the letters with a form name it, and no other rule names a document. -/
theorem onDemand_rule (letter : Letter) (facts : CaseFacts) (party : Party) :
    letter.rule.onDemand facts party = letter.form? := by
  cases letter <;> rfl

theorem contains_form_of_mem_packs
    (letter : Letter) {key : PackKey} (member : key ∈ letter.rule.packs) :
    key.toPack.contains .conditionalOrderApplicationForm = letter.enclosesForm := by
  revert member key
  cases letter <;> decide

end Letter

end LetterPacks
