import LetterPacks.Proofs.Selection.Declaration

/-!
# Who receives a letter

A letter goes to a party on conditions, which are asked in a fixed order; a party who does not
receive it is refused for the first condition that is not met.  The conditions of every letter are
listed here apart from the rules, and the rules are shown to ask just these.
-/

namespace LetterPacks

/-- A condition on which a letter goes to a party, and the refusal where it is not met. -/
structure Condition where
  Met : Prop
  refusal : Refusal

/-- A refusal is that of the first condition in a list that is not met. -/
inductive FirstUnmet : List Condition → Refusal → Prop
  | here {condition : Condition} {conditions : List Condition} :
      ¬ condition.Met → FirstUnmet (condition :: conditions) condition.refusal
  | later {condition : Condition} {conditions : List Condition} {refusal : Refusal} :
      condition.Met → FirstUnmet conditions refusal → FirstUnmet (condition :: conditions) refusal

theorem FirstUnmet.exists_condition
    {conditions : List Condition} {refusal : Refusal} (first : FirstUnmet conditions refusal) :
    ∃ condition ∈ conditions, condition.refusal = refusal := by
  induction first with
  | here _ =>
      exact ⟨_, List.mem_cons_self, rfl⟩
  | later _ _ ih =>
      obtain ⟨condition, member, same⟩ := ih
      exact ⟨condition, List.mem_cons_of_mem _ member, same⟩

/-- An answer is given when all conditions are met, and is otherwise the refusal of the first one
that is not. -/
structure Decides {α : Type} (conditions : List Condition) (answer : Except Refusal α) : Prop where
  ok_iff : (∃ value, answer = .ok value) ↔ ∀ condition ∈ conditions, condition.Met
  error_iff : ∀ refusal, answer = .error refusal ↔ FirstUnmet conditions refusal

namespace Decides

variable {α β : Type} {conditions : List Condition} {Met : Prop} {refusal : Refusal}

private theorem ok (value : α) : Decides [] (.ok value : Except Refusal α) where
  ok_iff := by simp
  error_iff other := by
    constructor
    · rintro ⟨⟩
    · rintro ⟨⟩

private theorem cons_of_met
    {answer : Except Refusal α} (met : Met) (rest : Decides conditions answer) :
    Decides (⟨Met, refusal⟩ :: conditions) answer where
  ok_iff := by
    rw [rest.ok_iff, List.forall_mem_cons]
    exact (and_iff_right met).symm
  error_iff other := by
    rw [rest.error_iff]
    constructor
    · exact FirstUnmet.later met
    · intro unmet
      cases unmet with
      | here failed => exact absurd met failed
      | later _ later => exact later

private theorem cons_of_unmet (unmet : ¬ Met) :
    Decides (⟨Met, refusal⟩ :: conditions) (.error refusal : Except Refusal α) where
  ok_iff := by
    constructor
    · rintro ⟨_, ⟨⟩⟩
    · intro met
      exact absurd (met ⟨Met, refusal⟩ List.mem_cons_self) unmet
  error_iff other := by
    constructor
    · rintro ⟨⟩
      exact FirstUnmet.here unmet
    · intro first
      cases first with
      | here _ => rfl
      | later met _ => exact absurd met unmet

theorem map {answer : Except Refusal α} (decided : Decides conditions answer) (give : α → β) :
    Decides conditions (answer.map give) where
  ok_iff := by
    rw [← decided.ok_iff]
    cases answer <;> simp [Except.map]
  error_iff refused := by
    rw [← decided.error_iff]
    cases answer <;> simp [Except.map]

private theorem require_bind
    {flag : Bool} {next : Unit → Except Refusal α} (means : Met ↔ flag = true)
    (rest : Met → Decides conditions (next ())) :
    Decides (⟨Met, refusal⟩ :: conditions) (require flag refusal >>= next) := by
  cases flag with
  | true =>
      have met : Met := means.2 rfl
      exact cons_of_met met (rest met)
  | false =>
      have unmet : ¬ Met := fun met => Bool.false_ne_true (means.1 met)
      exact cons_of_unmet unmet

private theorem demand_bind
    {letter : Letter} {fact : MissingFact} {known : Option β} {next : β → Except Refusal α}
    (rest : ∀ found, known = some found → Decides conditions (next found)) :
    Decides (⟨known ≠ none, .missingFact letter fact⟩ :: conditions)
      (demand letter fact known >>= next) := by
  cases known with
  | some found => exact cons_of_met (Option.some_ne_none found) (rest found rfl)
  | none => exact cons_of_unmet fun met => met rfl

end Decides

namespace CaseFacts

/-- The case asks for a judicial separation or for a separation. -/
def AsksSeparation (facts : CaseFacts) : Prop :=
  facts.separationKind = .judicialSeparation ∨ facts.separationKind = .separation

/-- What the court asks for, if anything, is asked in an admitted way. -/
def RequestMeets (facts : CaseFacts) (Admitted : InformationRequest → Prop) : Prop :=
  ∀ request, facts.informationRequest = some request → Admitted request

variable {facts : CaseFacts} {party : Party}

theorem asksSeparation_iff : facts.AsksSeparation ↔ facts.isSeparation = true := by
  unfold AsksSeparation isSeparation
  cases facts.separationKind <;> decide

theorem not_asksSeparation_iff : ¬ facts.AsksSeparation ↔ (!facts.isSeparation) = true := by
  rw [asksSeparation_iff, Bool.not_eq_true', Bool.not_eq_true]

private theorem sole_iff : facts.applicationKind = .sole ↔ facts.isSole = true :=
  beq_iff_eq.symm

private theorem unrepresented_iff :
    (facts.applicant party).solicitorRepresented = false ↔
      (!(facts.applicant party).isRepresented) = true := by
  rw [Applicant.isRepresented, Bool.not_eq_true']

private theorem requestMeets_iff
    {Admitted : InformationRequest → Prop} {request : InformationRequest}
    (asked : facts.informationRequest = some request) :
    facts.RequestMeets Admitted ↔ Admitted request := by
  unfold RequestMeets
  rw [asked]
  simp

end CaseFacts

namespace Letter

/-- The conditions of a letter in the order in which they are asked. -/
def conditions (letter : Letter) (facts : CaseFacts) (party : Party) : List Condition :=
  let Sole := facts.applicationKind = .sole
  let Unrepresented := (facts.applicant party).solicitorRepresented = false
  let inapplicable := Refusal.notApplicable letter party
  match letter with
  | .noticeOfProceedings | .certificateOfEntitlement | .conditionalOrderGranted
  | .conditionalOrderPronounced => []
  | .aosResponse | .regenerateCourtOrders => [⟨False, .undefined letter⟩]
  | .aosOverdue => [
      ⟨Sole, inapplicable .soleOnly⟩,
      ⟨party = .applicant1, inapplicable .firstApplicantOnly⟩,
      ⟨Unrepresented, inapplicable .represented⟩]
  | .aosResponseLetter => [
      ⟨Sole, inapplicable .soleOnly⟩,
      ⟨party = .applicant1, inapplicable .firstApplicantOnly⟩,
      ⟨facts.acknowledgement ≠ none, .missingFact letter .acknowledgement⟩,
      ⟨facts.AsksSeparation ∨ Unrepresented, inapplicable .answeredOnline⟩]
  | .conditionalOrderRefused => [
      ⟨facts.conditionalOrder.refusalDecision ≠ none, .missingFact letter .refusalDecision⟩,
      ⟨facts.conditionalOrder.refusalDecision ≠ some .administrativeError,
        inapplicable .administrativeError⟩]
  | .finalOrderGranted => [⟨¬ facts.AsksSeparation, inapplicable .separationOrder⟩]
  | .switchToSoleConditionalOrder => [
      ⟨facts.conditionalOrder.switchedToSole = true, inapplicable .conditionalOrderNotSwitched⟩,
      ⟨facts.conditionalOrder.applyingParty ≠ some party, inapplicable .switchedParty⟩]
  | .switchToSoleFinalOrder => [
      ⟨facts.finalOrder.switchedToSole = true, inapplicable .finalOrderNotSwitched⟩,
      ⟨facts.finalOrder.applyingParty ≠ some party, inapplicable .switchedParty⟩,
      ⟨¬ facts.AsksSeparation, inapplicable .noFinalOrder⟩]
  | .requestForInformation => [
      ⟨facts.informationRequest ≠ none, .missingFact letter .informationRequest⟩,
      ⟨facts.RequestMeets fun request => Sole → request.addressee ≠ .both,
        inapplicable .bothAddressed⟩,
      ⟨facts.RequestMeets fun request => Sole → request.addressee ≠ .applicant2,
        inapplicable .respondentAddressed⟩,
      ⟨facts.RequestMeets fun request => request.addresses party = true,
        inapplicable .otherAddressed⟩]
  | .applyForConditionalOrder | .awaitingConditionalOrderReminder =>
      [⟨Unrepresented, inapplicable .represented⟩]

end Letter

/-! ## The rules ask these conditions -/

open Decides CaseFacts

section

variable {facts : CaseFacts} {party : Party}

private theorem undefined_decides (letter : Letter) :
    Decides [⟨False, .undefined letter⟩] ((SelectionRule.undefined letter).select facts party) :=
  cons_of_unmet id

private theorem overdueRule_decides :
    Decides (Letter.aosOverdue.conditions facts party) (overdueRule.select facts party) := by
  apply require_bind sole_iff
  intro _
  apply require_bind beq_iff_eq.symm
  intro _
  apply require_bind unrepresented_iff
  intro _
  exact ok _

private theorem responseRule_decides :
    Decides (Letter.aosResponseLetter.conditions facts party)
      (responseRule.select facts party) := by
  apply require_bind sole_iff
  intro _
  apply require_bind beq_iff_eq.symm
  rintro rfl
  apply demand_bind
  intro acknowledgement _
  dsimp only
  split
  · next separation =>
      exact cons_of_met (Or.inl (asksSeparation_iff.2 separation)) (ok _)
  · next divorce =>
      have noSeparation : ¬ facts.AsksSeparation :=
        fun asked => divorce (asksSeparation_iff.1 asked)
      apply require_bind ((or_iff_right noSeparation).trans unrepresented_iff)
      intro _
      exact ok _

private theorem refusalPack?_eq_none_iff
    {decision : RefusalDecision} {separation represented : Bool} :
    refusalPack? decision separation represented = none ↔ decision = .administrativeError := by
  cases decision <;> cases separation <;> cases represented <;> decide

private theorem refusedRule_decides :
    Decides (Letter.conditionalOrderRefused.conditions facts party)
      (refusedRule.select facts party) := by
  apply demand_bind
  intro decision decided
  split
  · next pack chosen =>
      refine cons_of_met (fun error => ?_) (ok pack)
      have same : decision = .administrativeError := Option.some.inj (decided.symm.trans error)
      cases (refusalPack?_eq_none_iff.2 same).symm.trans chosen
  · next unchosen =>
      refine cons_of_unmet fun met => met ?_
      rw [decided, refusalPack?_eq_none_iff.1 unchosen]

private theorem finalOrderRule_decides :
    Decides (Letter.finalOrderGranted.conditions facts party)
      (finalOrderRule.select facts party) := by
  apply require_bind not_asksSeparation_iff
  intro _
  exact ok _

private theorem switchedConditionalOrderRule_decides :
    Decides (Letter.switchToSoleConditionalOrder.conditions facts party)
      (switchedConditionalOrderRule.select facts party) := by
  apply require_bind Iff.rfl
  intro _
  apply require_bind bne_iff_ne.symm
  intro _
  exact ok _

private theorem switchedFinalOrderRule_decides :
    Decides (Letter.switchToSoleFinalOrder.conditions facts party)
      (switchedFinalOrderRule.select facts party) := by
  apply require_bind Iff.rfl
  intro _
  apply require_bind bne_iff_ne.symm
  intro _
  apply require_bind not_asksSeparation_iff
  intro _
  exact ok _

private theorem checkAddressee_bind
    {α : Type} {conditions : List Condition} {next : Unit → Except Refusal α}
    {request : InformationRequest} (asked : facts.informationRequest = some request)
    (rest : Decides conditions (next ())) :
    Decides
      (⟨facts.RequestMeets fun request =>
            facts.applicationKind = .sole → request.addressee ≠ .both,
          .notApplicable .requestForInformation party .bothAddressed⟩ ::
        ⟨facts.RequestMeets fun request =>
            facts.applicationKind = .sole → request.addressee ≠ .applicant2,
          .notApplicable .requestForInformation party .respondentAddressed⟩ :: conditions)
      (checkAddressee facts request.addressee party >>= next) := by
  unfold checkAddressee
  split
  · next sole both =>
      refine cons_of_unmet fun met => ?_
      exact met request asked sole both
  · next sole respondent =>
      have notBoth : request.addressee ≠ .both := by
        rw [respondent]
        decide
      refine cons_of_met ((requestMeets_iff asked).2 fun _ => notBoth) ?_
      refine cons_of_unmet fun met => ?_
      exact met request asked sole respondent
  · next notBoth notRespondent =>
      apply cons_of_met ((requestMeets_iff asked).2 notBoth)
      exact cons_of_met ((requestMeets_iff asked).2 notRespondent) rest

private theorem informationRule_decides :
    Decides (Letter.requestForInformation.conditions facts party)
      (informationRule.select facts party) := by
  apply demand_bind
  intro request asked
  apply checkAddressee_bind asked
  apply require_bind (requestMeets_iff asked)
  intro _
  exact ok _

private theorem applicationRule_decides :
    Decides (Letter.applyForConditionalOrder.conditions facts party)
      (applicationRule.select facts party) := by
  apply require_bind unrepresented_iff
  intro _
  exact ok _

private theorem reminderRule_decides :
    Decides (Letter.awaitingConditionalOrderReminder.conditions facts party)
      (reminderRule.select facts party) := by
  apply require_bind unrepresented_iff
  intro _
  exact ok _

end

namespace Letter

theorem rule_decides (letter : Letter) (facts : CaseFacts) (party : Party) :
    Decides (letter.conditions facts party) (letter.rule.select facts party) := by
  cases letter with
  | noticeOfProceedings => exact ok _
  | aosOverdue => exact overdueRule_decides
  | aosResponseLetter => exact responseRule_decides
  | aosResponse => exact undefined_decides _
  | regenerateCourtOrders => exact undefined_decides _
  | certificateOfEntitlement => exact ok _
  | conditionalOrderGranted => exact ok _
  | conditionalOrderRefused => exact refusedRule_decides
  | conditionalOrderPronounced => exact ok _
  | finalOrderGranted => exact finalOrderRule_decides
  | switchToSoleConditionalOrder => exact switchedConditionalOrderRule_decides
  | switchToSoleFinalOrder => exact switchedFinalOrderRule_decides
  | requestForInformation => exact informationRule_decides
  | applyForConditionalOrder => exact applicationRule_decides
  | awaitingConditionalOrderReminder => exact reminderRule_decides

def GoesTo (letter : Letter) (facts : CaseFacts) (party : Party) : Prop :=
  let Sole := facts.applicationKind = .sole
  let Unrepresented := (facts.applicant party).solicitorRepresented = false
  match letter with
  | .noticeOfProceedings | .certificateOfEntitlement | .conditionalOrderGranted
  | .conditionalOrderPronounced => True
  | .aosResponse | .regenerateCourtOrders => False
  | .aosOverdue => Sole ∧ party = .applicant1 ∧ Unrepresented
  | .aosResponseLetter =>
      Sole ∧ party = .applicant1 ∧ facts.acknowledgement ≠ none ∧
        (facts.AsksSeparation ∨ Unrepresented)
  | .conditionalOrderRefused =>
      facts.conditionalOrder.refusalDecision = some .moreInformation ∨
        facts.conditionalOrder.refusalDecision = some .rejected
  | .finalOrderGranted => ¬ facts.AsksSeparation
  | .switchToSoleConditionalOrder =>
      facts.conditionalOrder.switchedToSole = true ∧
        facts.conditionalOrder.applyingParty ≠ some party
  | .switchToSoleFinalOrder =>
      facts.finalOrder.switchedToSole = true ∧ facts.finalOrder.applyingParty ≠ some party ∧
        ¬ facts.AsksSeparation
  | .requestForInformation =>
      ∃ request, facts.informationRequest = some request ∧ request.addresses party = true ∧
        (Sole → request.addressee = .applicant1)
  | .applyForConditionalOrder | .awaitingConditionalOrderReminder => Unrepresented

private theorem moreInformation_or_rejected_iff {decision : Option RefusalDecision} :
    decision = some .moreInformation ∨ decision = some .rejected ↔
      decision ≠ none ∧ decision ≠ some .administrativeError := by
  rcases decision with _ | _ | _ | _ <;> decide

private theorem goesTo_requestForInformation_iff {facts : CaseFacts} {party : Party} :
    requestForInformation.GoesTo facts party ↔
      ∀ condition ∈ requestForInformation.conditions facts party, condition.Met := by
  simp only [conditions, List.forall_mem_cons]
  constructor
  · rintro ⟨request, asked, addressed, alone⟩
    simp only [requestMeets_iff asked]
    refine ⟨?_, fun sole => ?_, fun sole => ?_, addressed, ?_⟩
    · rw [asked]
      exact Option.some_ne_none request
    · rw [alone sole]
      decide
    · rw [alone sole]
      decide
    · exact List.forall_mem_nil _
  · rintro ⟨known, notBoth, notRespondent, addressed, _⟩
    obtain ⟨request, asked⟩ := Option.ne_none_iff_exists'.1 known
    rw [requestMeets_iff asked] at notBoth notRespondent addressed
    refine ⟨request, asked, addressed, fun sole => ?_⟩
    cases addressee : request.addressee with
    | applicant1 => rfl
    | applicant2 => exact absurd addressee (notRespondent sole)
    | both => exact absurd addressee (notBoth sole)

theorem goesTo_iff {letter : Letter} {facts : CaseFacts} {party : Party} :
    letter.GoesTo facts party ↔ ∀ condition ∈ letter.conditions facts party, condition.Met := by
  cases letter with
  | requestForInformation => exact goesTo_requestForInformation_iff
  | conditionalOrderRefused =>
      simpa [GoesTo, conditions] using moreInformation_or_rejected_iff
  | _ => simp [GoesTo, conditions]

theorem goesTo_of_selected
    {letter : Letter} {facts : CaseFacts} {party : Party} {key : PackKey}
    (selected : letter.rule.select facts party = .ok key) : letter.GoesTo facts party := by
  have decided := letter.rule_decides facts party
  exact goesTo_iff.2 (decided.ok_iff.1 ⟨key, selected⟩)

end Letter

end LetterPacks
