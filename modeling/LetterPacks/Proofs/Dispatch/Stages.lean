import LetterPacks.Dispatch.Service
import LetterPacks.Proofs.Catalog.Standard

/-!
# The stages of a dispatch

What each stage of resolving and printing comes to, by the answer of the stage before it.  Over the
standard catalog the selection of a letter is that of its standard rule, and the document that its
pack needs is the blank application form or none.
-/

namespace LetterPacks

namespace Service

variable {σ τ : Type} {service : Service σ τ} {letter : Letter} {party : Party}
  {caseFile : CaseFile} {facts : CaseFacts} {state : σ} {queue : τ} {pack : Pack}

theorem choose_of_refused
    {rule : SelectionRule} {refusal : Refusal}
    (found : service.catalog.lookup letter = .ok rule)
    (refused : rule.select facts party = .error refusal) :
    service.choose letter party facts = .error (.refused refusal) := by
  simp only [choose, found, SelectionRule.resolve, refused, Except.map]

private theorem choose_of_selected
    {rule : SelectionRule} {key : PackKey}
    (found : service.catalog.lookup letter = .ok rule)
    (selected : rule.select facts party = .ok key) :
    service.choose letter party facts =
      .ok (key.toPack, (rule.onDemand facts party).filter fun form =>
        key.toPack.contains form.documentType) := by
  simp only [choose, found, SelectionRule.resolve, selected, Except.map]

theorem choose_of_resolved
    {rule : SelectionRule}
    (found : service.catalog.lookup letter = .ok rule)
    (resolved : rule.resolve facts party = .ok pack) :
    ∃ form?, service.choose letter party facts = .ok (pack, form?) := by
  simp only [choose, found, resolved]
  exact ⟨_, rfl⟩

/-- The packs of the standard catalog that need a document are those of the letters with a form. -/
theorem choose_of_standard
    (built : Catalog.standard = .ok service.catalog) {key : PackKey}
    (selected : letter.rule.select facts party = .ok key) :
    service.choose letter party facts = .ok (key.toPack, letter.form?) := by
  have enclosed := letter.contains_form_of_mem_packs (letter.rule_selectsDeclared selected)
  rw [choose_of_selected (Catalog.lookup_of_standard built letter) selected, letter.onDemand_rule,
    Letter.form?]
  cases encloses : letter.enclosesForm with
  | false =>
      rfl
  | true =>
      rw [encloses] at enclosed
      simp only [if_true, Option.filter_some, d84Form, enclosed]

/-- A dispatch over the standard catalog starts with the selection of the standard rule. -/
theorem selected_of_choose_eq_ok
    (built : Catalog.standard = .ok service.catalog)
    {form? : Option OnDemandDocument}
    (chosen : service.choose letter party facts = .ok (pack, form?)) :
    ∃ key, letter.rule.select facts party = .ok key ∧ pack = key.toPack ∧
      form? = letter.form? := by
  cases selected : letter.rule.select facts party with
  | error refusal =>
      rw [choose_of_refused (Catalog.lookup_of_standard built letter) selected] at chosen
      cases chosen
  | ok key =>
      rw [choose_of_standard built selected] at chosen
      obtain ⟨rfl, rfl⟩ := Prod.mk.inj (Except.ok.inj chosen)
      exact ⟨key, rfl, rfl, rfl⟩

theorem resolve_of_unchosen
    {fault : DispatchFault} (unchosen : service.choose letter party caseFile.facts = .error fault) :
    service.resolve letter party caseFile state = ⟨.error fault, caseFile, state⟩ := by
  rw [resolve, unchosen]

theorem resolve_of_chosen
    (chosen : service.choose letter party caseFile.facts = .ok (pack, none)) :
    service.resolve letter party caseFile state = ⟨.ok pack, caseFile, state⟩ := by
  rw [resolve, chosen]

theorem resolve_of_ensured
    {form : OnDemandDocument} {added : Bool} {ensured : CaseFile} {next : σ}
    (chosen : service.choose letter party caseFile.facts = .ok (pack, some form))
    (supplied : service.generator.ensure form caseFile state = ⟨.ok added, ensured, next⟩) :
    service.resolve letter party caseFile state = ⟨.ok pack, ensured, next⟩ := by
  simp only [resolve, chosen, supplied]

theorem resolve_of_failed
    {form : OnDemandDocument} {fault : GenerationFault} {ensured : CaseFile} {next : σ}
    (chosen : service.choose letter party caseFile.facts = .ok (pack, some form))
    (failed : service.generator.ensure form caseFile state = ⟨.error fault, ensured, next⟩) :
    service.resolve letter party caseFile state =
      ⟨.error (.generation fault), ensured, next⟩ := by
  simp only [resolve, chosen, failed]

/-- Resolving leaves case file and generator as they are, or makes sure of one document. -/
theorem resolve_cases
    (service : Service σ τ) (letter : Letter) (party : Party) (caseFile : CaseFile) (state : σ) :
    let resolved := service.resolve letter party caseFile state
    (resolved.caseFile = caseFile ∧ resolved.generator = state) ∨
      ∃ form, resolved.caseFile = (service.generator.ensure form caseFile state).caseFile ∧
        resolved.generator = (service.generator.ensure form caseFile state).generator := by
  rcases chosen : service.choose letter party caseFile.facts with fault | ⟨pack, _ | form⟩
  · rw [resolve_of_unchosen chosen]
    exact Or.inl ⟨rfl, rfl⟩
  · rw [resolve_of_chosen chosen]
    exact Or.inl ⟨rfl, rfl⟩
  · refine Or.inr ⟨form, ?_⟩
    rcases ensured : service.generator.ensure form caseFile state with ⟨fault | added, _, _⟩
    · rw [resolve_of_failed chosen ensured]
      exact ⟨rfl, rfl⟩
    · rw [resolve_of_ensured chosen ensured]
      exact ⟨rfl, rfl⟩

theorem chosen_of_resolve_eq_ok
    (resolved : (service.resolve letter party caseFile state).outcome = .ok pack) :
    ∃ form?, service.choose letter party caseFile.facts = .ok (pack, form?) := by
  rcases chosen : service.choose letter party caseFile.facts with fault | ⟨other, _ | form⟩
  · rw [resolve_of_unchosen chosen] at resolved
    cases resolved
  · rw [resolve_of_chosen chosen] at resolved
    obtain rfl := Except.ok.inj resolved
    exact ⟨none, rfl⟩
  · rcases ensured : service.generator.ensure form caseFile state with ⟨fault | added, _, _⟩
    · rw [resolve_of_failed chosen ensured] at resolved
      cases resolved
    · rw [resolve_of_ensured chosen ensured] at resolved
      obtain rfl := Except.ok.inj resolved
      exact ⟨some form, rfl⟩

theorem post_of_missing
    {documentType : DocumentType}
    (missing : PrintRequest.ofPack letter pack caseFile party = .error documentType) :
    service.post letter party pack caseFile queue =
      (.error (.missingDocument letter documentType), queue) := by
  rw [post, missing]

theorem post_of_assembled
    {request : PrintRequest} {answer : Except PrintFault Receipt} {next : τ}
    (assembled : PrintRequest.ofPack letter pack caseFile party = .ok request)
    (printed : service.printer.print queue request = (answer, next)) :
    service.post letter party pack caseFile queue = (answer.mapError .printing, next) := by
  rw [post, assembled]
  simp only [printed]
  cases answer <;> rfl

theorem print_of_unresolved
    {fault : DispatchFault} {resolved : CaseFile} {next : σ}
    (unresolved : service.resolve letter party caseFile state = ⟨.error fault, resolved, next⟩) :
    service.print letter party caseFile state queue = ⟨.error fault, resolved, next, queue⟩ := by
  rw [print, unresolved]

theorem print_of_resolved
    {resolved : CaseFile} {next : σ}
    (selected : service.resolve letter party caseFile state = ⟨.ok pack, resolved, next⟩) :
    service.print letter party caseFile state queue =
      ⟨(service.post letter party pack resolved queue).1, resolved, next,
        (service.post letter party pack resolved queue).2⟩ := by
  rw [print, selected]

theorem caseFile_print
    (service : Service σ τ) (letter : Letter) (party : Party) (caseFile : CaseFile) (state : σ)
    (queue : τ) :
    let printed := service.print letter party caseFile state queue
    let resolved := service.resolve letter party caseFile state
    printed.caseFile = resolved.caseFile ∧ printed.generator = resolved.generator := by
  rcases resolved : service.resolve letter party caseFile state with ⟨fault | pack, _, _⟩
  · rw [print_of_unresolved resolved]
    exact ⟨rfl, rfl⟩
  · rw [print_of_resolved resolved]
    exact ⟨rfl, rfl⟩

end Service

end LetterPacks
