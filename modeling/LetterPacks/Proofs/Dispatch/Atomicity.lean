import LetterPacks.Proofs.Dispatch.Recording
import LetterPacks.Proofs.OnDemand.Supply
import LetterPacks.Proofs.Printing.Assembly

/-!
# Printing as a whole

Over the standard catalog a letter is printed as a whole or not at all.  The form is rendered before
the request is assembled, so the case file would be left changed if the request could still lack a
document then.  It cannot: a pack that holds the form takes nothing else from the case file.
-/

namespace LetterPacks

theorem exists_request_of_contains_form
    {key : PackKey} (enclosed : key.toPack.contains .conditionalOrderApplicationForm = true)
    {caseFile : CaseFile}
    (held : caseFile.facts.hasDocument .conditionalOrderApplicationForm = true)
    (letter : Letter) (party : Party) :
    ∃ request, PrintRequest.ofPack letter key.toPack caseFile party = .ok request := by
  cases assembled : PrintRequest.ofPack letter key.toPack caseFile party with
  | ok request =>
      exact ⟨request, rfl⟩
  | error documentType =>
      have missing := PrintRequest.documentsFor_of_ofPack_eq_error assembled
      obtain ⟨slot, member, derived, rfl, absent⟩ :=
        PrintRequest.derived_of_documentsFor_eq_error missing
      rw [PackKey.documentType_of_contains_form enclosed member derived, held] at absent
      cases absent

namespace Service

variable {σ τ : Type} {service : Service σ τ} {letter : Letter} {party : Party}
  {caseFile : CaseFile} {facts : CaseFacts} {state : σ}

private theorem choose_ne_printing (fault : PrintFault) :
    service.choose letter party facts ≠ .error (.printing fault) := by
  intro unchosen
  unfold choose at unchosen
  split at unchosen
  · cases unchosen
  · split at unchosen <;> cases unchosen

private theorem resolve_ne_printing (fault : PrintFault) :
    (service.resolve letter party caseFile state).outcome ≠ .error (.printing fault) := by
  rcases chosen : service.choose letter party caseFile.facts with other | ⟨pack, _ | form⟩
  · rw [resolve_of_unchosen chosen]
    rintro ⟨⟩
    exact choose_ne_printing fault chosen
  · rw [resolve_of_chosen chosen]
    rintro ⟨⟩
  · rcases ensured : service.generator.ensure form caseFile state with ⟨other | added, _, _⟩
    · rw [resolve_of_failed chosen ensured]
      rintro ⟨⟩
    · rw [resolve_of_ensured chosen ensured]
      rintro ⟨⟩

/-- Resolving renders nothing, or it selects a pack with the form and leaves the form in the case
file. -/
private theorem resolve_renders_form_or_nothing
    (built : Catalog.standard = .ok service.catalog) (faithful : service.generator.Faithful)
    (letter : Letter) (party : Party) (caseFile : CaseFile) (state : σ) :
    let resolved := service.recorded.resolve letter party caseFile (state, [])
    (resolved.caseFile = caseFile ∧ Call.rendered resolved.generator.2 = []) ∨
      ∃ key : PackKey, resolved.outcome = .ok key.toPack ∧
        key.toPack.contains .conditionalOrderApplicationForm = true ∧
        resolved.caseFile.facts.hasDocument .conditionalOrderApplicationForm = true := by
  rcases chosen : service.recorded.choose letter party caseFile.facts with
    fault | ⟨pack, _ | form⟩
  · rw [resolve_of_unchosen chosen]
    exact Or.inl ⟨rfl, rfl⟩
  · rw [resolve_of_chosen chosen]
    exact Or.inl ⟨rfl, rfl⟩
  · obtain ⟨key, selected, rfl, enclosed⟩ := selected_of_choose_eq_ok built chosen
    obtain ⟨encloses, rfl⟩ := Letter.of_form?_eq_some enclosed.symm
    have member := letter.rule_selectsDeclared selected
    have contains := (letter.contains_form_of_mem_packs member).trans encloses
    cases held : caseFile.facts.hasDocument d84Form.documentType with
    | true =>
        rw [resolve_of_ensured chosen (Generator.ensure_of_held held)]
        exact Or.inl ⟨rfl, rfl⟩
    | false =>
        rcases answered : service.generator.generate state caseFile d84Form with
          ⟨fault | document, next⟩
        · have failed :=
            Generator.ensure_of_failed held (Generator.generate_recorded answered [])
          rw [resolve_of_failed chosen failed]
          exact Or.inl ⟨rfl, rfl⟩
        · have rendered :=
            Generator.ensure_of_rendered held (Generator.generate_recorded answered [])
          have same : document.documentType = d84Form.documentType :=
            faithful (congrArg Prod.fst answered)
          rw [resolve_of_ensured chosen rendered]
          refine Or.inr ⟨key, rfl, contains, ?_⟩
          change document.documentType = .conditionalOrderApplicationForm at same
          rw [← same]
          exact CaseFile.hasDocument_attach_of_mem List.mem_cons_self

/-- A printing has done all of its work, or it has failed and left no trace. -/
def PrintsWhole
    (service : Service σ τ) (letter : Letter) (party : Party) (caseFile : CaseFile) (state : σ)
    (queue : τ) : Prop :=
  let resolved := service.resolve letter party caseFile state
  let printed := service.print letter party caseFile state queue
  ∃ calls requests,
    service.recorded.print letter party caseFile (state, []) (queue, []) =
        printed.recorded calls requests ∧
      match printed.outcome with
      | .error (.catalog _) | .error (.refused _) | .error (.generation _)
      | .error (.missingDocument _ _) =>
          printed.caseFile = caseFile ∧ Call.rendered calls = [] ∧ requests = []
      | .error (.printing _) | .ok _ =>
          printed.caseFile = resolved.caseFile ∧
            ∃ pack request, resolved.outcome = .ok pack ∧
              PrintRequest.ofPack letter pack resolved.caseFile party = .ok request ∧
              requests = [request]

/-- A letter is printed as a whole or not at all. -/
theorem print_whole
    (built : Catalog.standard = .ok service.catalog) (faithful : service.generator.Faithful)
    (letter : Letter) (party : Party) (caseFile : CaseFile) (state : σ) (queue : τ) :
    service.PrintsWhole letter party caseFile state queue := by
  obtain ⟨calls, requests, recorded, printed, sameFile, outcome⟩ :=
    service.print_recorded letter party caseFile state queue [] []
  have renders := resolve_renders_form_or_nothing built faithful letter party caseFile state
  rw [recorded] at renders
  refine ⟨calls, requests, printed, ?_⟩
  rcases outcome with ⟨fault, unresolved, failed, rfl⟩ |
    ⟨pack, documentType, selected, missing, failed, rfl⟩ |
    ⟨pack, request, selected, assembled, answered, rfl⟩
  · rcases renders with ⟨unchanged, unrendered⟩ | ⟨key, resolved, _⟩
    · rw [failed, sameFile]
      cases fault with
      | printing rejection =>
          exact absurd unresolved (resolve_ne_printing rejection)
      | catalog | refused | generation | missingDocument =>
          exact ⟨unchanged, unrendered, rfl⟩
    · cases unresolved.symm.trans resolved
  · rcases renders with ⟨unchanged, unrendered⟩ | ⟨key, resolved, contains, held⟩
    · rw [failed, sameFile]
      exact ⟨unchanged, unrendered, rfl⟩
    · obtain rfl := Except.ok.inj (selected.symm.trans resolved)
      obtain ⟨request, complete⟩ := exists_request_of_contains_form contains held letter party
      cases missing.symm.trans complete
  · rw [answered]
    cases (service.printer.print queue request).1 with
    | error rejection =>
        exact ⟨sameFile, pack, request, selected, assembled, rfl⟩
    | ok receipt =>
        exact ⟨sameFile, pack, request, selected, assembled, rfl⟩

/-- A rejected letter has left the form behind, as resolving alone would have. -/
theorem print_whole_of_rejected :
    Catalog.standard = .ok unsteady.catalog ∧ unsteady.generator.Faithful ∧
      unsteady.PrintsWhole .applyForConditionalOrder .applicant1 (CaseFile.bare 7) (0, [])
        (1, []) ∧
      (unsteady.print .applyForConditionalOrder .applicant1 (CaseFile.bare 7) (0, [])
        (1, [])).outcome = .error (.printing (.unavailable "no ink")) :=
  ⟨Catalog.standard_eq_ok, faithful_unsteady,
    print_whole Catalog.standard_eq_ok faithful_unsteady _ _ _ _ _, by decide +kernel⟩

end Service

end LetterPacks
