import LetterPacks.Proofs.Dispatch.Recording
import LetterPacks.Proofs.Printing.Assembly
import LetterPacks.Proofs.Selection.Likeness

/-!
# Confidentiality between the parties

What is known about one party has no influence on the letters to the other one.  Two case files that
may differ in the other party, in the kind of the union and in the day of issue are followed side by
side through the stages of a dispatch: the same pack is selected, the same form is rendered and the
same request is made.
-/

namespace LetterPacks

/-- Two case files agree in everything but the other party, the kind of the union and the day of
issue. -/
structure CaseFile.AgreeFor (party : Party) (left right : CaseFile) : Prop where
  id : left.id = right.id
  applicationKind : left.facts.applicationKind = right.facts.applicationKind
  separationKind : left.facts.separationKind = right.facts.separationKind
  applicant : left.facts.applicant party = right.facts.applicant party
  serviceMethod : left.facts.application.serviceMethod = right.facts.application.serviceMethod
  reissueOption : left.facts.application.reissueOption = right.facts.application.reissueOption
  acknowledgement : left.facts.acknowledgement = right.facts.acknowledgement
  conditionalOrder : left.facts.conditionalOrder = right.facts.conditionalOrder
  finalOrder : left.facts.finalOrder = right.facts.finalOrder
  informationRequest : left.facts.informationRequest = right.facts.informationRequest
  documents : left.facts.documents = right.facts.documents

/-- A generator that reads nothing of a case file but its number. -/
def Generator.Discreet {σ : Type} (generator : Generator σ) : Prop :=
  ∀ ⦃left right : CaseFile⦄, left.id = right.id → ∀ state form,
    generator.generate state left form = generator.generate state right form

private theorem Generator.rendered_eq_of_id
    {left right : CaseFile} (same : left.id = right.id) (form : OnDemandDocument)
    (link : String) : rendered left form link = rendered right form link := by
  unfold rendered CaseFile.number
  rw [same]

theorem Generator.discreet_inMemory : inMemory.Discreet := by
  intro left right same documents form
  simp only [inMemory, rendered_eq_of_id same]

theorem Generator.discreet_paperForms (tree : FileTree) (folder : String) :
    (paperForms tree folder).Discreet := by
  intro left right same state form
  simp only [paperForms, rendered_eq_of_id same]

theorem Generator.Discreet.failingFirst
    {σ : Type} {generator : Generator σ} (discreet : generator.Discreet) (fault : GenerationFault) :
    (generator.failingFirst fault).Discreet := by
  rintro left right same ⟨remaining, state⟩ form
  cases remaining with
  | zero => simp only [Generator.failingFirst, discreet same]
  | succ remaining => rfl

/-- A discreet generator renders the same document for case files with one number and the same
documents, if any. -/
theorem Generator.Discreet.ensure
    {σ : Type} {generator : Generator σ} (discreet : generator.Discreet) {left right : CaseFile}
    (id : left.id = right.id) (sameDocuments : left.facts.documents = right.facts.documents)
    (form : OnDemandDocument) (state : σ) :
    ∃ outcome documents next,
      generator.ensure form left state = ⟨outcome, left.attach documents, next⟩ ∧
        generator.ensure form right state = ⟨outcome, right.attach documents, next⟩ := by
  have sameHeld :
      left.facts.hasDocument form.documentType = right.facts.hasDocument form.documentType := by
    unfold CaseFacts.hasDocument CaseFacts.document?
    rw [sameDocuments]
  cases held : left.facts.hasDocument form.documentType with
  | true =>
      rw [held] at sameHeld
      rw [ensure_of_held held, ensure_of_held sameHeld.symm]
      refine ⟨.ok false, [], state, ?_, ?_⟩
      · rw [CaseFile.attach_nil]
      · rw [CaseFile.attach_nil]
  | false =>
      rw [held] at sameHeld
      have sameAnswer := discreet id state form
      rcases answered : generator.generate state left form with ⟨fault | document, next⟩
      · rw [answered] at sameAnswer
        rw [ensure_of_failed held answered, ensure_of_failed sameHeld.symm sameAnswer.symm]
        refine ⟨.error fault, [], next, ?_, ?_⟩
        · rw [CaseFile.attach_nil]
        · rw [CaseFile.attach_nil]
      · rw [answered] at sameAnswer
        rw [ensure_of_rendered held answered, ensure_of_rendered sameHeld.symm sameAnswer.symm]
        exact ⟨.ok true, [document], next, rfl, rfl⟩

namespace CaseFile.AgreeFor

variable {party : Party} {left right : CaseFile}

private theorem attach (agree : AgreeFor party left right) (documents : List CaseDocument) :
    AgreeFor party (left.attach documents) (right.attach documents) where
  id := agree.id
  applicationKind := agree.applicationKind
  separationKind := agree.separationKind
  applicant := by
    rw [applicant_attach, applicant_attach]
    exact agree.applicant
  serviceMethod := agree.serviceMethod
  reissueOption := agree.reissueOption
  acknowledgement := agree.acknowledgement
  conditionalOrder := agree.conditionalOrder
  finalOrder := agree.finalOrder
  informationRequest := agree.informationRequest
  documents := by
    rw [documents_attach, documents_attach, agree.documents]

private theorem alike (agree : AgreeFor party left right) :
    CaseFacts.Alike party left.facts right.facts where
  applicationKind := agree.applicationKind
  separationKind := agree.separationKind
  isCourtService := by
    rw [Application.isCourtService, agree.serviceMethod]
    rfl
  isReissuedOffline := by
    rw [Application.isReissuedOffline, agree.reissueOption]
    rfl
  isDisputed := by rw [agree.acknowledgement]
  conditionalOrder := agree.conditionalOrder
  finalOrder := agree.finalOrder
  addressee := by rw [agree.informationRequest]
  isRepresented := by rw [agree.applicant]
  hasOrganisation := by rw [agree.applicant]
  isOffline := by rw [agree.applicant]
  addressOverseas := by rw [agree.applicant]

private theorem select_rule_eq (agree : AgreeFor party left right) (letter : Letter) :
    letter.rule.select left.facts party = letter.rule.select right.facts party :=
  agree.alike.select_rule_eq letter

private theorem document?_eq (agree : AgreeFor party left right) (documentType : DocumentType) :
    left.facts.document? documentType = right.facts.document? documentType := by
  unfold CaseFacts.document?
  rw [agree.documents]

private theorem ofPack_eq (agree : AgreeFor party left right) (letter : Letter) (pack : Pack) :
    PrintRequest.ofPack letter pack left party = PrintRequest.ofPack letter pack right party := by
  apply PrintRequest.ofPack_congr agree.id agree.applicant agree.acknowledgement
    agree.informationRequest
  intro slot _
  unfold PrintRequest.documentFor?
  rw [agree.document?_eq]

end CaseFile.AgreeFor

namespace Service

variable {σ τ : Type} {service : Service σ τ} {letter : Letter} {party : Party}
  {left right : CaseFile}

/-- The same is chosen for two cases in which the rule of the letter selects the same. -/
theorem choose_congr
    (built : Catalog.standard = .ok service.catalog) {facts other : CaseFacts}
    (same : letter.rule.select facts party = letter.rule.select other party) :
    service.choose letter party facts = service.choose letter party other := by
  have found := Catalog.lookup_of_standard built letter
  cases selected : letter.rule.select facts party with
  | error refusal =>
      rw [selected] at same
      rw [choose_of_refused found selected, choose_of_refused found same.symm]
  | ok key =>
      rw [selected] at same
      rw [choose_of_standard built selected, choose_of_standard built same.symm]

/-- Where the same is chosen, a discreet generator lets case files with one number and the same
documents take up the same documents. -/
theorem resolve_congr
    (discreet : service.generator.Discreet) (id : left.id = right.id)
    (sameDocuments : left.facts.documents = right.facts.documents)
    (same : service.choose letter party left.facts = service.choose letter party right.facts)
    (state : σ) :
    ∃ outcome documents next,
      service.resolve letter party left state = ⟨outcome, left.attach documents, next⟩ ∧
        service.resolve letter party right state = ⟨outcome, right.attach documents, next⟩ := by
  rcases chosen : service.choose letter party left.facts with fault | ⟨pack, _ | form⟩
  · rw [chosen] at same
    rw [resolve_of_unchosen chosen, resolve_of_unchosen same.symm]
    refine ⟨.error fault, [], state, ?_, ?_⟩
    · rw [CaseFile.attach_nil]
    · rw [CaseFile.attach_nil]
  · rw [chosen] at same
    rw [resolve_of_chosen chosen, resolve_of_chosen same.symm]
    refine ⟨.ok pack, [], state, ?_, ?_⟩
    · rw [CaseFile.attach_nil]
    · rw [CaseFile.attach_nil]
  · rw [chosen] at same
    obtain ⟨outcome, documents, next, ensured, ensuredOther⟩ :=
      discreet.ensure id sameDocuments form state
    cases outcome with
    | error fault =>
        rw [resolve_of_failed chosen ensured, resolve_of_failed same.symm ensuredOther]
        exact ⟨_, documents, next, rfl, rfl⟩
    | ok added =>
        rw [resolve_of_ensured chosen ensured, resolve_of_ensured same.symm ensuredOther]
        exact ⟨_, documents, next, rfl, rfl⟩

private theorem choose_of_agree
    (built : Catalog.standard = .ok service.catalog) (agree : CaseFile.AgreeFor party left right) :
    service.choose letter party left.facts = service.choose letter party right.facts :=
  choose_congr built (agree.select_rule_eq letter)

private theorem resolve_of_agree
    (built : Catalog.standard = .ok service.catalog) (discreet : service.generator.Discreet)
    (agree : CaseFile.AgreeFor party left right) (state : σ) :
    ∃ outcome documents next,
      service.resolve letter party left state = ⟨outcome, left.attach documents, next⟩ ∧
        service.resolve letter party right state = ⟨outcome, right.attach documents, next⟩ :=
  resolve_congr discreet agree.id agree.documents (choose_of_agree built agree) state

private theorem post_of_agree
    (agree : CaseFile.AgreeFor party left right) (pack : Pack) (queue : τ) :
    service.post letter party pack left queue = service.post letter party pack right queue := by
  unfold post
  rw [agree.ofPack_eq]

private theorem print_of_agree
    (built : Catalog.standard = .ok service.catalog) (discreet : service.generator.Discreet)
    (agree : CaseFile.AgreeFor party left right) (state : σ) (queue : τ) :
    ∃ outcome documents next after,
      service.print letter party left state queue =
          ⟨outcome, left.attach documents, next, after⟩ ∧
        service.print letter party right state queue =
          ⟨outcome, right.attach documents, next, after⟩ := by
  obtain ⟨outcome, documents, next, resolved, resolvedOther⟩ :=
    resolve_of_agree built discreet agree state
  cases outcome with
  | error fault =>
      rw [print_of_unresolved resolved, print_of_unresolved resolvedOther]
      exact ⟨_, documents, next, queue, rfl, rfl⟩
  | ok pack =>
      rw [print_of_resolved resolved, print_of_resolved resolvedOther,
        post_of_agree (agree.attach documents)]
      exact ⟨_, documents, next, _, rfl, rfl⟩

/-- A party gets the same letter by two case files, which also take up the same documents. -/
structure Conceals
    (service : Service σ τ) (letter : Letter) (party : Party) (left right : CaseFile) : Prop where
  selected : ∀ rule, service.catalog.lookup letter = .ok rule →
    rule.resolve left.facts party = rule.resolve right.facts party
  resolved : ∀ state, ∃ outcome documents next,
    service.resolve letter party left state = ⟨outcome, left.attach documents, next⟩ ∧
      service.resolve letter party right state = ⟨outcome, right.attach documents, next⟩
  printed : ∀ state queue,
    let recorded : Service σ (τ × List PrintRequest) :=
      ⟨service.catalog, service.generator, service.printer.recorded⟩
    ∃ outcome documents next after requests,
      recorded.print letter party left state (queue, []) =
          ⟨outcome, left.attach documents, next, after, requests⟩ ∧
        recorded.print letter party right state (queue, []) =
          ⟨outcome, right.attach documents, next, after, requests⟩

/-- Nothing about one party has an influence on what the other one gets. -/
theorem conceals_inMemory
    {catalog : Catalog} (built : Catalog.standard = .ok catalog)
    (agree : CaseFile.AgreeFor party left right) (printer : Printer τ) (letter : Letter) :
    Conceals ⟨catalog, Generator.inMemory, printer⟩ letter party left right where
  selected := by
    intro rule found
    obtain rfl := Except.ok.inj ((Catalog.lookup_of_standard built letter).symm.trans found)
    rw [SelectionRule.resolve, agree.select_rule_eq letter]
    rfl
  resolved := fun state => resolve_of_agree built Generator.discreet_inMemory agree state
  printed := by
    intro state queue recorded
    have builtRecorded : Catalog.standard = .ok recorded.catalog := built
    obtain ⟨outcome, documents, next, ⟨after, requests⟩, printed, printedOther⟩ :=
      print_of_agree builtRecorded Generator.discreet_inMemory agree state (queue, [])
    exact ⟨outcome, documents, next, after, requests, printed, printedOther⟩

/-- The applicant is invited with the same form and letter, whoever the respondent is. -/
theorem conceals_inMemory_of_respondent :
    let respondent : Applicant := {
      firstName := "Ann"
      lastName := "Lee"
      email := some "ann@example.org"
      solicitorRepresented := true
      solicitor := some ⟨"Kay Moss", none, some "moss"⟩
      addressOverseas := true
      prefersWelsh := true }
    let left := CaseFile.bare 7
    let right : CaseFile := ⟨7, { left.facts with
      unionKind := .dissolution
      applicant2 := respondent
      application := { left.facts.application with
        issueDate := some ⟨2024, 2, 29, by decide⟩ } }⟩
    Catalog.standard = .ok ⟨standardRules⟩ ∧
      CaseFile.AgreeFor .applicant1 left right ∧ left ≠ right ∧
      Conceals ⟨⟨standardRules⟩, Generator.inMemory, Printer.inMemory⟩ .applyForConditionalOrder
        .applicant1 left right ∧
      ((inMemory ⟨standardRules⟩).print .applyForConditionalOrder .applicant1 right [] []).outcome =
        .ok ⟨"7-0001", 3⟩ := by
  intro respondent left right
  have agree : CaseFile.AgreeFor .applicant1 left right :=
    ⟨rfl, rfl, rfl, rfl, rfl, rfl, rfl, rfl, rfl, rfl, rfl⟩
  exact ⟨Catalog.standard_eq_ok, agree, by decide,
    conceals_inMemory Catalog.standard_eq_ok agree Printer.inMemory _, by decide +kernel⟩

end Service

end LetterPacks
