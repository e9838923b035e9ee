import LetterPacks.Proofs.Dispatch.Atomicity
import LetterPacks.Proofs.Selection.Specified
import LetterPacks.Proofs.Web.Serving

/-!
# Status codes

The status code of an answer tells how far the dispatch has come.  The stages are asked in a fixed
order: whether the segment names a letter, whether that letter has packs at all, whether one of them
goes to the party and nothing is missing from it, and whether generator and printer have done their
work.  Over the standard catalog every code stands for one of these stages, and the code of an
internal error for none.
-/

namespace LetterPacks

/-- A document other than the application form is missing from a pack. -/
def Pack.Lacks (pack : Pack) (facts : CaseFacts) : Prop :=
  ∃ slot ∈ pack.slots, slot.template = none ∧
    slot.documentType ≠ .conditionalOrderApplicationForm ∧
    facts.hasDocument slot.documentType = false

namespace Service

variable {σ τ : Type}

def Selects (service : Service σ τ) (letter : Letter) (party : Party) (facts : CaseFacts)
    (pack : Pack) : Prop :=
  ∃ rule, service.catalog.lookup letter = .ok rule ∧ rule.resolve facts party = .ok pack

def Refuses (service : Service σ τ) (letter : Letter) (party : Party) (facts : CaseFacts) : Prop :=
  ∃ rule refusal, service.catalog.lookup letter = .ok rule ∧
    rule.resolve facts party = .error refusal

/-- Nobody is written to, or something is missing from what is to be printed. -/
def Withholds (service : Service σ τ) (prints : Bool) (letter : Letter) (party : Party)
    (facts : CaseFacts) : Prop :=
  service.Refuses letter party facts ∨
    prints = true ∧ ∃ pack, service.Selects letter party facts pack ∧ pack.Lacks facts

/-- A pack needs the application form, the case has none and it is not generated. -/
def FormFails (service : Service σ τ) (pack : Pack) (caseFile : CaseFile) (state : σ) : Prop :=
  pack.contains .conditionalOrderApplicationForm = true ∧
    caseFile.facts.hasDocument .conditionalOrderApplicationForm = false ∧
    ∃ fault next, service.generator.generate state caseFile d84Form = (.error fault, next)

def PrinterFails (service : Service σ τ) (letter : Letter) (party : Party) (pack : Pack)
    (caseFile : CaseFile) (state : σ) (queue : τ) : Prop :=
  ∃ request fault next,
    PrintRequest.ofPack letter pack (service.resolve letter party caseFile state).caseFile party =
      .ok request ∧
    service.printer.print queue request = (.error fault, next)

def Fails (service : Service σ τ) (prints : Bool) (letter : Letter) (party : Party)
    (caseFile : CaseFile) (state : σ) (queue : τ) : Prop :=
  ∃ pack, service.Selects letter party caseFile.facts pack ∧
    (service.FormFails pack caseFile state ∨
      prints = true ∧ service.PrinterFails letter party pack caseFile state queue)

variable {service : Service σ τ} {letter : Letter} {party : Party} {facts : CaseFacts}
  {caseFile : CaseFile} {state : σ} {queue : τ} {key : PackKey}

private theorem selects_iff
    (built : Catalog.standard = .ok service.catalog)
    (selected : letter.rule.select facts party = .ok key) (pack : Pack) :
    service.Selects letter party facts pack ↔ pack = key.toPack := by
  constructor
  · rintro ⟨rule, found, resolved⟩
    obtain rfl := Catalog.eq_rule_of_lookup built found
    rw [SelectionRule.resolve, selected] at resolved
    exact (Except.ok.inj resolved).symm
  · rintro rfl
    exact ⟨letter.rule, Catalog.lookup_of_standard built letter, by
      rw [SelectionRule.resolve, selected]
      rfl⟩

private theorem not_refuses_of_selected
    (built : Catalog.standard = .ok service.catalog)
    (selected : letter.rule.select facts party = .ok key) :
    ¬ service.Refuses letter party facts := by
  rintro ⟨rule, refusal, found, refused⟩
  obtain rfl := Catalog.eq_rule_of_lookup built found
  rw [SelectionRule.resolve, selected] at refused
  cases refused

private theorem refuses_of_refused
    (built : Catalog.standard = .ok service.catalog) {refusal : Refusal}
    (refused : letter.rule.select facts party = .error refusal) :
    service.Refuses letter party facts :=
  ⟨letter.rule, refusal, Catalog.lookup_of_standard built letter, by
    rw [SelectionRule.resolve, refused]
    rfl⟩

private theorem ofPack_eq_error_of_lacks {pack : Pack} (lacks : pack.Lacks caseFile.facts) :
    ∃ documentType, PrintRequest.ofPack letter pack caseFile party = .error documentType := by
  obtain ⟨slot, member, derived, _, absent⟩ := lacks
  have missing : PrintRequest.documentFor? pack caseFile.facts slot = none := by
    rw [PrintRequest.documentFor?_of_derived derived, Option.map_eq_none_iff]
    rw [CaseFacts.hasDocument, Option.isSome_eq_false_iff, Option.isNone_iff_eq_none] at absent
    exact absent
  obtain ⟨documentType, unassembled⟩ :=
    PrintRequest.documentsFor_eq_error_of_missing member missing
  rw [PrintRequest.ofPack, unassembled]
  exact ⟨documentType, rfl⟩

private theorem lacks_iff_of_not_contains_form
    {pack : Pack} (without : pack.contains .conditionalOrderApplicationForm = false) :
    pack.Lacks caseFile.facts ↔
      ∃ documentType, PrintRequest.ofPack letter pack caseFile party = .error documentType := by
  constructor
  · exact ofPack_eq_error_of_lacks
  · rintro ⟨documentType, missing⟩
    have unassembled := PrintRequest.documentsFor_of_ofPack_eq_error missing
    obtain ⟨slot, member, derived, rfl, absent⟩ :=
      PrintRequest.derived_of_documentsFor_eq_error unassembled
    refine ⟨slot, member, derived, fun same => ?_, absent⟩
    have held : slot.documentType ∈ pack.documentTypes := List.mem_map_of_mem member
    rw [Pack.contains, List.contains_eq_mem, decide_eq_false_iff_not] at without
    exact without (same ▸ held)

private theorem not_lacks_of_contains_form
    (enclosed : key.toPack.contains .conditionalOrderApplicationForm = true) :
    ¬ key.toPack.Lacks facts := by
  rintro ⟨slot, member, derived, other, _⟩
  exact other (PackKey.documentType_of_contains_form enclosed member derived)

/-- Resolving fails on the form, or it leaves a case file with which the pack is assembled unless it
lacks a document. -/
private theorem resolve_of_selected
    (built : Catalog.standard = .ok service.catalog) (faithful : service.generator.Faithful)
    (selected : letter.rule.select caseFile.facts party = .ok key) (state : σ) :
    let resolved := service.resolve letter party caseFile state
    (service.FormFails key.toPack caseFile state ∧
        ∃ fault, resolved.outcome = .error (.generation fault)) ∨
      ¬ service.FormFails key.toPack caseFile state ∧ resolved.outcome = .ok key.toPack ∧
        (key.toPack.Lacks caseFile.facts ↔ ∃ documentType,
          PrintRequest.ofPack letter key.toPack resolved.caseFile party = .error documentType) := by
  have chosen := choose_of_standard built selected
  have contains := letter.contains_form_of_mem_packs (letter.rule_selectsDeclared selected)
  cases encloses : letter.enclosesForm with
  | false =>
      rw [Letter.form?, encloses] at chosen
      rw [encloses] at contains
      rw [resolve_of_chosen chosen]
      refine Or.inr ⟨?_, rfl, lacks_iff_of_not_contains_form contains⟩
      rintro ⟨enclosed, _⟩
      rw [contains] at enclosed
      cases enclosed
  | true =>
      rw [Letter.form?, encloses] at chosen
      rw [encloses] at contains
      have complete {resolved : CaseFile}
          (held : resolved.facts.hasDocument .conditionalOrderApplicationForm = true) :
          key.toPack.Lacks caseFile.facts ↔
            ∃ documentType,
              PrintRequest.ofPack letter key.toPack resolved party = .error documentType := by
        obtain ⟨request, assembled⟩ := exists_request_of_contains_form contains held letter party
        simp [not_lacks_of_contains_form contains, assembled]
      cases held : caseFile.facts.hasDocument .conditionalOrderApplicationForm with
      | true =>
          rw [resolve_of_ensured chosen (Generator.ensure_of_held held)]
          refine Or.inr ⟨?_, rfl, complete held⟩
          rintro ⟨_, absent, _⟩
          rw [held] at absent
          cases absent
      | false =>
          rcases answered : service.generator.generate state caseFile d84Form with
            ⟨fault | document, next⟩
          · rw [resolve_of_failed chosen (Generator.ensure_of_failed held answered)]
            exact Or.inl ⟨⟨contains, held, fault, next, answered⟩, fault, rfl⟩
          · rw [resolve_of_ensured chosen (Generator.ensure_of_rendered held answered)]
            have same : document.documentType = .conditionalOrderApplicationForm :=
              faithful (congrArg Prod.fst answered)
            have attached : (caseFile.attach [document]).facts.hasDocument
                .conditionalOrderApplicationForm = true := by
              rw [← same]
              exact CaseFile.hasDocument_attach_of_mem List.mem_cons_self
            refine Or.inr ⟨?_, rfl, complete attached⟩
            rintro ⟨_, _, fault, other, failed⟩
            rw [answered] at failed
            cases failed

/-! ## The status of an outcome -/

def statusOf {α : Type} (success : Nat) : Except DispatchFault α → Nat
  | .ok _ => success
  | .error fault => fault.status

private theorem status_of_refused
    {refusal : Refusal} (refused : letter.rule.select facts party = .error refusal) :
    (DispatchFault.refused refusal).status = if letter.isUndefined then 501 else 422 := by
  cases undefined : letter.isUndefined with
  | true =>
      rw [Letter.select_of_undefined undefined] at refused
      obtain rfl := Except.error.inj refused
      rfl
  | false =>
      have specified := Letter.isSpecified_of_defined undefined facts party
      cases refusal with
      | undefined other => exact absurd refused (specified other)
      | notApplicable | missingFact => rfl

private theorem defined_of_selected (selected : letter.rule.select facts party = .ok key) :
    letter.isUndefined = false := by
  cases undefined : letter.isUndefined with
  | false => rfl
  | true =>
      rw [Letter.select_of_undefined undefined] at selected
      cases selected

open Classical in
private theorem status_resolve
    (built : Catalog.standard = .ok service.catalog) (faithful : service.generator.Faithful)
    (letter : Letter) (party : Party) (caseFile : CaseFile) (state : σ) (queue : τ) :
    statusOf 200 (service.resolve letter party caseFile state).outcome =
      if letter.isUndefined then 501
      else if service.Withholds false letter party caseFile.facts then 422
      else if service.Fails false letter party caseFile state queue then 502
      else 200 := by
  cases selected : letter.rule.select caseFile.facts party with
  | error refusal =>
      have unchosen := choose_of_refused (Catalog.lookup_of_standard built letter) selected
      have withheld : service.Withholds false letter party caseFile.facts :=
        Or.inl (refuses_of_refused built selected)
      rw [resolve_of_unchosen unchosen, statusOf, status_of_refused selected, if_pos withheld]
  | ok key =>
      have granted : ¬ service.Withholds false letter party caseFile.facts := by
        simp [Withholds, not_refuses_of_selected built selected]
      have fails : service.Fails false letter party caseFile state queue ↔
          service.FormFails key.toPack caseFile state := by
        simp [Fails, selects_iff built selected]
      simp only [defined_of_selected selected, granted, fails, if_false, Bool.false_eq_true]
      rcases resolve_of_selected built faithful selected state with
        ⟨failed, fault, unresolved⟩ | ⟨done, resolved, _⟩
      · rw [unresolved, if_pos failed]
        rfl
      · rw [resolved, if_neg done]
        rfl

open Classical in
private theorem status_print
    (built : Catalog.standard = .ok service.catalog) (faithful : service.generator.Faithful)
    (letter : Letter) (party : Party) (caseFile : CaseFile) (state : σ) (queue : τ) :
    statusOf 202 (service.print letter party caseFile state queue).outcome =
      if letter.isUndefined then 501
      else if service.Withholds true letter party caseFile.facts then 422
      else if service.Fails true letter party caseFile state queue then 502
      else 202 := by
  cases selected : letter.rule.select caseFile.facts party with
  | error refusal =>
      have unchosen := choose_of_refused (Catalog.lookup_of_standard built letter) selected
      have withheld : service.Withholds true letter party caseFile.facts :=
        Or.inl (refuses_of_refused built selected)
      rw [print_of_unresolved (resolve_of_unchosen unchosen), statusOf,
        status_of_refused selected, if_pos withheld]
  | ok key =>
      have withheld : service.Withholds true letter party caseFile.facts ↔
          key.toPack.Lacks caseFile.facts := by
        simp [Withholds, not_refuses_of_selected built selected, selects_iff built selected]
      have fails : service.Fails true letter party caseFile state queue ↔
          service.FormFails key.toPack caseFile state ∨
            service.PrinterFails letter party key.toPack caseFile state queue := by
        simp [Fails, selects_iff built selected]
      simp only [defined_of_selected selected, withheld, fails, if_false, Bool.false_eq_true]
      have stages := resolve_of_selected built faithful selected state
      rcases resolved : service.resolve letter party caseFile state with ⟨outcome, file, next⟩
      rw [resolved] at stages
      rcases stages with ⟨failed, fault, rfl⟩ | ⟨done, rfl, lacks⟩
      · rw [print_of_unresolved resolved, if_neg (not_lacks_of_contains_form failed.1),
          if_pos (Or.inl failed)]
        rfl
      · rw [print_of_resolved resolved, lacks]
        cases assembled : PrintRequest.ofPack letter key.toPack file party with
        | error documentType =>
            rw [post_of_missing assembled, if_pos ⟨documentType, rfl⟩]
            rfl
        | ok request =>
            rcases answered : service.printer.print queue request with ⟨answer, queued⟩
            have printerFails :
                service.PrinterFails letter party key.toPack caseFile state queue ↔
                  ∃ fault, answer = .error fault := by
              simp [PrinterFails, resolved, assembled, answered]
            rw [post_of_assembled assembled answered, if_neg (by simp)]
            simp only [printerFails, done, false_or]
            cases answer with
            | error fault =>
                rw [if_pos ⟨fault, rfl⟩]
                rfl
            | ok receipt =>
                rw [if_neg (by simp)]
                rfl

end Service

namespace Web.Server

variable {σ τ : Type} {server : Server σ τ} {prints : Bool} {text : String} {request : PackRequest}
  {state : σ} {queue : τ}

/-- What a status code says about the stages of a dispatch. -/
structure Explains (server : Server σ τ) (prints : Bool) (text : String) (request : PackRequest)
    (state : σ) (queue : τ) (status : Nat) : Prop where
  unknown : status = 404 ↔ ∀ letter : Letter, letter.name ≠ Text.trim text
  unspecified :
    status = 501 ↔
      Text.trim text = "aos-response-pack" ∨ Text.trim text = "regenerate-court-orders"
  withheld :
    status = 422 ↔
      ∃ letter : Letter, letter.name = Text.trim text ∧ letter.isUndefined = false ∧
        server.service.Withholds prints letter request.party request.caseFile.facts
  failed :
    status = 502 ↔
      ∃ letter : Letter, letter.name = Text.trim text ∧ letter.isUndefined = false ∧
        ¬ server.service.Withholds prints letter request.party request.caseFile.facts ∧
        server.service.Fails prints letter request.party request.caseFile state queue
  done :
    status = (if prints then 202 else 200) ↔
      ∃ letter : Letter, letter.name = Text.trim text ∧ letter.isUndefined = false ∧
        ¬ server.service.Withholds prints letter request.party request.caseFile.facts ∧
        ¬ server.service.Fails prints letter request.party request.caseFile state queue
  never_internal : status ≠ 500

private theorem status_serve_of_unnamed
    (unnamed : ∀ letter : Letter, letter.name ≠ Text.trim text) :
    (server.serve prints text request state queue).response.status = 404 := by
  have unknown := Letter.ofText_of_unnamed unnamed
  cases prints with
  | false =>
      rw [serve_false, resolve, unknown]
      rfl
  | true =>
      rw [serve_true, print, unknown]
      rfl

open Classical in
private theorem status_serve_of_named
    (built : Catalog.standard = .ok server.service.catalog)
    (faithful : server.service.generator.Faithful) {letter : Letter}
    (named : letter.name = Text.trim text) :
    (server.serve prints text request state queue).response.status =
      if letter.isUndefined then 501
      else if server.service.Withholds prints letter request.party request.caseFile.facts then 422
      else if server.service.Fails prints letter request.party request.caseFile state queue then 502
      else if prints then 202 else 200 := by
  have known := Letter.ofText_of_named named
  cases prints with
  | false =>
      have status := Service.status_resolve built faithful letter request.party request.caseFile
        state queue
      rw [serve_false, resolve, known]
      refine Eq.trans ?_ status
      dsimp only
      cases (server.service.resolve letter request.party request.caseFile state).outcome <;> rfl
  | true =>
      have status := Service.status_print built faithful letter request.party request.caseFile
        state queue
      rw [serve_true, print, known]
      refine Eq.trans ?_ status
      dsimp only
      cases (server.service.print letter request.party request.caseFile state queue).outcome <;> rfl

private theorem isUndefined_iff_of_named {letter : Letter} (named : letter.name = Text.trim text) :
    letter.isUndefined = true ↔
      Text.trim text = "aos-response-pack" ∨ Text.trim text = "regenerate-court-orders" := by
  rw [← named]
  cases letter <;> decide

private theorem exists_named_iff
    {letter : Letter} (named : letter.name = Text.trim text) (property : Letter → Prop) :
    (∃ other : Letter, other.name = Text.trim text ∧ property other) ↔ property letter := by
  constructor
  · rintro ⟨other, otherNamed, holds⟩
    rwa [Letter.eq_of_named named otherNamed] at holds
  · exact fun holds => ⟨letter, named, holds⟩

private theorem explains_of_unnamed (unnamed : ∀ letter : Letter, letter.name ≠ Text.trim text) :
    server.Explains prints text request state queue 404 := by
  have never (property : Letter → Prop) :
      ¬ ∃ letter : Letter, letter.name = Text.trim text ∧ property letter := by
    rintro ⟨letter, known, _⟩
    exact unnamed letter known
  constructor
  · exact iff_of_true rfl unnamed
  · refine iff_of_false (by decide) ?_
    rintro (same | same)
    · exact unnamed .aosResponse same.symm
    · exact unnamed .regenerateCourtOrders same.symm
  · exact iff_of_false (by decide) (never _)
  · exact iff_of_false (by decide) (never _)
  · exact iff_of_false (by cases prints <;> decide) (never _)
  · decide

open Classical in
private theorem explains_of_named {letter : Letter} (named : letter.name = Text.trim text) :
    server.Explains prints text request state queue
      (if letter.isUndefined then 501
      else if server.service.Withholds prints letter request.party request.caseFile.facts then 422
      else if server.service.Fails prints letter request.party request.caseFile state queue then 502
      else if prints then 202 else 200) := by
  have known : ¬ ∀ letter : Letter, letter.name ≠ Text.trim text := fun unnamed =>
    unnamed letter named
  have unspecified := isUndefined_iff_of_named named
  have only := exists_named_iff named
  cases undefined : letter.isUndefined with
  | true =>
      rw [undefined] at unspecified
      cases prints <;> constructor <;> simp [known, ← unspecified, only, undefined]
  | false =>
      rw [undefined] at unspecified
      by_cases withheld :
          server.service.Withholds prints letter request.party request.caseFile.facts
      · cases prints <;> constructor <;>
          simp [known, ← unspecified, only, undefined, withheld]
      · by_cases fails :
            server.service.Fails prints letter request.party request.caseFile state queue
        · cases prints <;> constructor <;>
            simp [known, ← unspecified, only, undefined, withheld, fails]
        · cases prints <;> constructor <;>
            simp [known, ← unspecified, only, undefined, withheld, fails]

/-- The status of every answer says which stage its dispatch has come to. -/
theorem explains_status
    (built : Catalog.standard = .ok server.service.catalog)
    (faithful : server.service.generator.Faithful) (prints : Bool) (text : String)
    (request : PackRequest) (state : σ) (queue : τ) :
    server.Explains prints text request state queue
      (server.serve prints text request state queue).response.status := by
  by_cases named : ∃ letter : Letter, letter.name = Text.trim text
  · obtain ⟨letter, named⟩ := named
    rw [status_serve_of_named built faithful named]
    exact explains_of_named named
  · have unnamed : ∀ letter : Letter, letter.name ≠ Text.trim text := not_exists.1 named
    rw [status_serve_of_unnamed unnamed]
    exact explains_of_unnamed unnamed

def unsteady : Server (Nat × List CaseDocument) (Nat × List PrintRequest) :=
  ⟨Service.unsteady, true⟩

theorem explains_status_of_unrendered :
    Catalog.standard = .ok unsteady.service.catalog ∧ unsteady.service.generator.Faithful ∧
      unsteady.Explains true " apply-for-conditional-order " ⟨CaseFile.bare 7, .applicant1⟩
        (1, []) (0, []) 502 := by
  have status : (unsteady.serve true " apply-for-conditional-order "
      ⟨CaseFile.bare 7, .applicant1⟩ (1, []) (0, [])).response.status = 502 := by
    decide +kernel
  refine ⟨Catalog.standard_eq_ok, Service.faithful_unsteady, ?_⟩
  rw [← status]
  exact explains_status Catalog.standard_eq_ok Service.faithful_unsteady true _ _ _ _

end Web.Server

end LetterPacks
