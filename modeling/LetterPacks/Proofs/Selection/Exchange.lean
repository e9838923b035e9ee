import LetterPacks.Proofs.Selection.Declaration

/-!
# Exchanging the applicants of a joint case

Two people who applied together can change places: their records, the one who is named on a paper
form and the one whom a request for information is addressed to.  The rules ask the same of the
recipient before and after, so what they select for one applicant they select for the other one in
the exchanged case.  Only the letter with the final order has a pack for either applicant, and these
two packs are counterparts.  The notice of proceedings tells the applicants apart as well; nothing
is said about it here.
-/

namespace LetterPacks

/-- The addressee on the other side of the case, or both still. -/
def Addressee.swapped : Addressee → Addressee
  | .applicant1 => .applicant2
  | .applicant2 => .applicant1
  | .both => .both

def InformationRequest.swapped (request : InformationRequest) : InformationRequest :=
  { request with addressee := request.addressee.swapped }

def ConditionalOrder.swapped (order : ConditionalOrder) : ConditionalOrder :=
  { order with applyingParty := order.applyingParty.map Party.other }

def FinalOrder.swapped (order : FinalOrder) : FinalOrder :=
  { order with applyingParty := order.applyingParty.map Party.other }

def CaseFacts.swapped (facts : CaseFacts) : CaseFacts :=
  { facts with
    applicant1 := facts.applicant2
    applicant2 := facts.applicant1
    conditionalOrder := facts.conditionalOrder.swapped
    finalOrder := facts.finalOrder.swapped
    informationRequest := facts.informationRequest.map InformationRequest.swapped }

/-- The pack for the other applicant, where it is another one. -/
def PackKey.counterpart : PackKey → PackKey
  | .foGrantedApplicant1 => .foGrantedApplicant2
  | .foGrantedApplicant2 => .foGrantedApplicant1
  | key => key

def Refusal.swapped : Refusal → Refusal
  | .notApplicable letter party reason => .notApplicable letter party.other reason
  | refusal => refusal

/-- What is selected for the other applicant when this is selected for one of them. -/
def exchanged : Except Refusal PackKey → Except Refusal PackKey
  | .ok key => .ok key.counterpart
  | .error refusal => .error refusal.swapped

section

variable {letter : Letter}

private theorem require_bind_exchanged
    {party : Party} {reason : Reason} {flag other : Bool}
    {next after : Unit → Except Refusal PackKey} (same : other = flag)
    (rest : flag = true → after () = exchanged (next ())) :
    (require other (.notApplicable letter party.other reason) >>= after) =
      exchanged (require flag (.notApplicable letter party reason) >>= next) := by
  subst same
  cases other with
  | true => exact rest rfl
  | false => rfl

private theorem demand_bind_exchanged
    {α : Type} {fact : MissingFact} {known : Option α} {change : α → α}
    {next after : α → Except Refusal PackKey}
    (rest : ∀ found, after (change found) = exchanged (next found)) :
    (demand letter fact (known.map change) >>= after) =
      exchanged (demand letter fact known >>= next) := by
  cases known with
  | none => rfl
  | some found => exact rest found

end

namespace CaseFacts

variable {facts : CaseFacts} {party : Party}

@[simp]
theorem applicant_swapped (facts : CaseFacts) (party : Party) :
    facts.swapped.applicant party.other = facts.applicant party := by
  cases party <;> rfl

@[simp]
theorem isSole_swapped (facts : CaseFacts) : facts.swapped.isSole = facts.isSole :=
  rfl

@[simp]
theorem isSeparation_swapped (facts : CaseFacts) :
    facts.swapped.isSeparation = facts.isSeparation :=
  rfl

private theorem isSole_of_joint
    (joint : facts.applicationKind = .joint) : facts.isSole = false := by
  rw [isSole, joint]
  rfl

private theorem isSoleRespondent_of_joint (joint : facts.applicationKind = .joint) :
    facts.isSoleRespondent party = false := by
  rw [isSoleRespondent, isSole_of_joint joint]
  rfl

private theorem applyingParty_swapped (applyingParty : Option Party) (party : Party) :
    (applyingParty.map Party.other != some party.other) = (applyingParty != some party) := by
  rcases applyingParty with _ | named
  · rfl
  · cases named <;> cases party <;> rfl

private theorem addresses_swapped (request : InformationRequest) (party : Party) :
    request.swapped.addresses party.other = request.addresses party := by
  obtain ⟨addressee, _⟩ := request
  cases addressee <;> cases party <;> rfl

private theorem checkAddressee_of_joint
    (joint : facts.applicationKind = .joint) (addressee : Addressee) :
    checkAddressee facts addressee party = .ok () := by
  simp only [checkAddressee, joint]

/-- A rule selects for one applicant to a case and for the other one to the exchanged case what
belongs together. -/
def Exchanges (rule : SelectionRule) (facts : CaseFacts) (party : Party) : Prop :=
  rule.select facts.swapped party.other = exchanged (rule.select facts party)

private theorem overdueRule_exchanges (joint : facts.applicationKind = .joint) :
    Exchanges overdueRule facts party := by
  apply require_bind_exchanged facts.isSole_swapped
  intro sole
  rw [isSole_of_joint joint] at sole
  cases sole

private theorem responseRule_exchanges (joint : facts.applicationKind = .joint) :
    Exchanges responseRule facts party := by
  apply require_bind_exchanged facts.isSole_swapped
  intro sole
  rw [isSole_of_joint joint] at sole
  cases sole

private theorem entitlementRule_exchanges (joint : facts.applicationKind = .joint) :
    Exchanges entitlementRule facts party := by
  have jointSwapped : facts.swapped.applicationKind = .joint := joint
  simp only [Exchanges, entitlementRule, applicant_swapped, isSeparation_swapped,
    isSoleRespondent_of_joint joint, isSoleRespondent_of_joint jointSwapped]
  cases facts.isSeparation <;> cases (facts.applicant party).isRepresented <;> rfl

private theorem grantedRule_exchanges (joint : facts.applicationKind = .joint) :
    Exchanges grantedRule facts party := by
  have sameKind : facts.swapped.separationKind = facts.separationKind := rfl
  simp only [Exchanges, grantedRule, applicant_swapped, isSeparation_swapped, isSole_swapped,
    isSole_of_joint joint, sameKind]
  cases facts.isSeparation <;> cases (facts.applicant party).isRepresented <;>
    cases facts.separationKind <;> rfl

private theorem refusedRule_exchanges : Exchanges refusedRule facts party := by
  have sameDecision : facts.swapped.conditionalOrder.refusalDecision =
      facts.conditionalOrder.refusalDecision.map id := by
    rw [Option.map_id]
    rfl
  simp only [Exchanges, refusedRule, applicant_swapped, isSeparation_swapped, sameDecision]
  apply demand_bind_exchanged
  intro decision
  cases decision <;> cases facts.isSeparation <;>
    cases (facts.applicant party).isRepresented <;> rfl

private theorem pronouncedRule_exchanges (joint : facts.applicationKind = .joint) :
    Exchanges pronouncedRule facts party := by
  have jointSwapped : facts.swapped.applicationKind = .joint := joint
  simp only [Exchanges, pronouncedRule, applicant_swapped, isSeparation_swapped,
    isSoleRespondent_of_joint joint, isSoleRespondent_of_joint jointSwapped]
  cases facts.isSeparation <;> cases (facts.applicant party).isRepresented <;> rfl

private theorem finalOrderRule_exchanges : Exchanges finalOrderRule facts party := by
  apply require_bind_exchanged (congrArg not facts.isSeparation_swapped)
  intro _
  rw [applicant_swapped]
  cases (facts.applicant party).isRepresented <;> cases party <;> rfl

private theorem switchedConditionalOrderRule_exchanges :
    Exchanges switchedConditionalOrderRule facts party := by
  apply require_bind_exchanged rfl
  intro _
  apply require_bind_exchanged (applyingParty_swapped _ party)
  intro _
  rw [applicant_swapped, isSeparation_swapped]
  cases facts.isSeparation <;> cases (facts.applicant party).isRepresented <;> rfl

private theorem switchedFinalOrderRule_exchanges :
    Exchanges switchedFinalOrderRule facts party := by
  apply require_bind_exchanged rfl
  intro _
  apply require_bind_exchanged (applyingParty_swapped _ party)
  intro _
  apply require_bind_exchanged (congrArg not facts.isSeparation_swapped)
  intro _
  rw [applicant_swapped]
  cases (facts.applicant party).isRepresented <;> rfl

private theorem informationRule_exchanges (joint : facts.applicationKind = .joint) :
    Exchanges informationRule facts party := by
  have jointSwapped : facts.swapped.applicationKind = .joint := joint
  apply demand_bind_exchanged
  intro request
  rw [checkAddressee_of_joint joint, checkAddressee_of_joint jointSwapped]
  dsimp only [bind, Except.bind]
  apply require_bind_exchanged (addresses_swapped request party)
  intro _
  rw [applicant_swapped, isSole_swapped]
  cases (facts.applicant party).isRepresented <;> cases (facts.applicant party).isOffline <;>
    cases facts.isSole <;> rfl

private theorem applicationRule_exchanges : Exchanges applicationRule facts party := by
  have represented := congrArg Applicant.isRepresented (facts.applicant_swapped party)
  apply require_bind_exchanged (congrArg not represented)
  intro _
  rw [isSeparation_swapped, isSole_swapped]
  cases facts.isSeparation <;> cases facts.isSole <;> rfl

private theorem reminderRule_exchanges : Exchanges reminderRule facts party := by
  have represented := congrArg Applicant.isRepresented (facts.applicant_swapped party)
  apply require_bind_exchanged (congrArg not represented)
  intro _
  rw [isSeparation_swapped, isSole_swapped]
  cases facts.isSeparation <;> cases facts.isSole <;> rfl

/-- Every rule but that of the notice selects for the applicants of a joint case alike. -/
theorem rule_exchanges
    (joint : facts.applicationKind = .joint) {letter : Letter}
    (unlike : letter ≠ .noticeOfProceedings) : Exchanges letter.rule facts party := by
  cases letter with
  | noticeOfProceedings => exact absurd rfl unlike
  | aosOverdue => exact overdueRule_exchanges joint
  | aosResponseLetter => exact responseRule_exchanges joint
  | aosResponse => rfl
  | regenerateCourtOrders => rfl
  | certificateOfEntitlement => exact entitlementRule_exchanges joint
  | conditionalOrderGranted => exact grantedRule_exchanges joint
  | conditionalOrderRefused => exact refusedRule_exchanges
  | conditionalOrderPronounced => exact pronouncedRule_exchanges joint
  | finalOrderGranted => exact finalOrderRule_exchanges
  | switchToSoleConditionalOrder => exact switchedConditionalOrderRule_exchanges
  | switchToSoleFinalOrder => exact switchedFinalOrderRule_exchanges
  | requestForInformation => exact informationRule_exchanges joint
  | applyForConditionalOrder => exact applicationRule_exchanges
  | awaitingConditionalOrderReminder => exact reminderRule_exchanges

end CaseFacts

theorem Letter.counterpart_of_mem_packs
    {letter : Letter} (unlike : letter ≠ .finalOrderGranted) {key : PackKey}
    (member : key ∈ letter.rule.packs) : key.counterpart = key := by
  revert member key unlike
  cases letter <;> decide

end LetterPacks
