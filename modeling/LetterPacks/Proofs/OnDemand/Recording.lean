import LetterPacks.OnDemand.Generator
import LetterPacks.Proofs.Case.Attachment

/-!
# Recorded generators

A recorded generator keeps a record of its calls next to its own state: the case file that it was
given, the form that was asked for and the answer.  It answers as the generator does, so what it
does to a case file is what the generator does (`Generator.forget_ensure_recorded`).

A generator is faithful when every document that it renders is of the type that was asked for.  It
may fail at any call.
-/

namespace LetterPacks

variable {σ : Type}

/-- A call of a generator with its answer. -/
structure Call where
  /-- The case file as it was when the generator was called. -/
  caseFile : CaseFile
  form : OnDemandDocument
  answer : Except GenerationFault CaseDocument

namespace Call

def rendered (calls : List Call) : List CaseDocument :=
  calls.filterMap fun call => call.answer.toOption

@[simp]
theorem rendered_nil : rendered [] = [] :=
  rfl

@[simp]
theorem rendered_append (earlier later : List Call) :
    rendered (earlier ++ later) = rendered earlier ++ rendered later :=
  List.filterMap_append

@[simp]
theorem rendered_of_ok (caseFile : CaseFile) (form : OnDemandDocument) (document : CaseDocument) :
    rendered [⟨caseFile, form, .ok document⟩] = [document] :=
  rfl

@[simp]
theorem rendered_of_error
    (caseFile : CaseFile) (form : OnDemandDocument) (fault : GenerationFault) :
    rendered [⟨caseFile, form, .error fault⟩] = [] :=
  rfl

theorem length_rendered (calls : List Call) :
    (rendered calls).length = calls.countP fun call => call.answer.isOk := by
  rw [rendered, List.length_filterMap_eq_countP]
  congr 1
  funext call
  cases call.answer <;> rfl

end Call

/-- What came of making sure of a document, with a record of calls. -/
def Ensured.recorded (ensured : Ensured σ) (calls : List Call) : Ensured (σ × List Call) :=
  ⟨ensured.outcome, ensured.caseFile, ensured.generator, calls⟩

namespace Generator

variable {generator : Generator σ} {form : OnDemandDocument} {caseFile : CaseFile} {state next : σ}

theorem ensure_of_held (held : caseFile.facts.hasDocument form.documentType = true) :
    generator.ensure form caseFile state = ⟨.ok false, caseFile, state⟩ := by
  rw [ensure, held]
  rfl

theorem ensure_of_rendered
    {document : CaseDocument} (absent : caseFile.facts.hasDocument form.documentType = false)
    (answered : generator.generate state caseFile form = (.ok document, next)) :
    generator.ensure form caseFile state = ⟨.ok true, caseFile.attach [document], next⟩ := by
  rw [ensure, absent, answered]
  rfl

theorem ensure_of_failed
    {fault : GenerationFault} (absent : caseFile.facts.hasDocument form.documentType = false)
    (answered : generator.generate state caseFile form = (.error fault, next)) :
    generator.ensure form caseFile state = ⟨.error fault, caseFile, next⟩ := by
  rw [ensure, absent, answered]
  rfl

theorem exists_attach_of_ensure
    (generator : Generator σ) (form : OnDemandDocument) (caseFile : CaseFile) (state : σ) :
    ∃ documents, (generator.ensure form caseFile state).caseFile = caseFile.attach documents := by
  cases held : caseFile.facts.hasDocument form.documentType with
  | true =>
      rw [ensure_of_held held]
      exact ⟨[], caseFile.attach_nil.symm⟩
  | false =>
      rcases answered : generator.generate state caseFile form with ⟨fault | document, next⟩
      · rw [ensure_of_failed held answered]
        exact ⟨[], caseFile.attach_nil.symm⟩
      · rw [ensure_of_rendered held answered]
        exact ⟨[document], rfl⟩

def recorded (generator : Generator σ) : Generator (σ × List Call) where
  generate
    | (state, calls), caseFile, form =>
        let (answer, next) := generator.generate state caseFile form
        (answer, next, calls ++ [⟨caseFile, form, answer⟩])

theorem generate_recorded
    {answer : Except GenerationFault CaseDocument}
    (answered : generator.generate state caseFile form = (answer, next)) (calls : List Call) :
    generator.recorded.generate (state, calls) caseFile form =
      (answer, next, calls ++ [⟨caseFile, form, answer⟩]) := by
  rw [recorded]
  simp only [answered]

/-- A recorded generator does what the generator does and keeps some record of it. -/
theorem ensure_recorded
    (generator : Generator σ) (form : OnDemandDocument) (caseFile : CaseFile) (state : σ)
    (calls : List Call) :
    ∃ later, generator.recorded.ensure form caseFile (state, calls) =
      (generator.ensure form caseFile state).recorded later := by
  cases held : caseFile.facts.hasDocument form.documentType with
  | true =>
      rw [ensure_of_held held, ensure_of_held held]
      exact ⟨calls, rfl⟩
  | false =>
      rcases answered : generator.generate state caseFile form with ⟨fault | document, next⟩
      · rw [ensure_of_failed held answered,
          ensure_of_failed held (generate_recorded answered calls)]
        exact ⟨_, rfl⟩
      · rw [ensure_of_rendered held answered,
          ensure_of_rendered held (generate_recorded answered calls)]
        exact ⟨_, rfl⟩

/-- Every document that the generator renders is of the type that was asked for. -/
def Faithful (generator : Generator σ) : Prop :=
  ∀ ⦃state : σ⦄ ⦃caseFile : CaseFile⦄ ⦃form : OnDemandDocument⦄ ⦃document : CaseDocument⦄,
    (generator.generate state caseFile form).1 = .ok document →
      document.documentType = form.documentType

theorem Faithful.hasDocument_ensure
    (faithful : generator.Faithful) {added : Bool}
    (ensured : (generator.ensure form caseFile state).outcome = .ok added) :
    (generator.ensure form caseFile state).caseFile.facts.hasDocument form.documentType = true := by
  cases held : caseFile.facts.hasDocument form.documentType with
  | true =>
      rw [ensure_of_held held]
      exact held
  | false =>
      rcases answered : generator.generate state caseFile form with ⟨fault | document, next⟩
      · rw [ensure_of_failed held answered] at ensured
        cases ensured
      · have same : document.documentType = form.documentType :=
          faithful (congrArg Prod.fst answered)
        rw [ensure_of_rendered held answered, ← same]
        exact CaseFile.hasDocument_attach_of_mem List.mem_cons_self

theorem faithful_inMemory : inMemory.Faithful := by
  intro state caseFile form document answered
  obtain rfl := Except.ok.inj answered
  rfl

theorem faithful_paperForms (tree : FileTree) (folder : String) :
    (paperForms tree folder).Faithful := by
  intro state caseFile form document answered
  simp only [paperForms] at answered
  split at answered
  · obtain rfl := Except.ok.inj answered
    rfl
  · cases answered

theorem Faithful.failingFirst (faithful : generator.Faithful) (fault : GenerationFault) :
    (generator.failingFirst fault).Faithful := by
  rintro ⟨left, state⟩ caseFile form document answered
  cases left with
  | zero =>
      exact faithful answered
  | succ left =>
      cases answered

end Generator

end LetterPacks
