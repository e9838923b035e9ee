import LetterPacks.Proofs.Dispatch.Independence
import LetterPacks.Proofs.Dispatch.Recording
import LetterPacks.Proofs.OnDemand.Twins

/-!
# Sessions with paper forms

A session that takes the application form from a folder is followed side by side with one that
renders it in memory.  Where the folder holds the form, the two sessions cannot be told apart but
for the link of the form in the case file.  Where it does not, only the dispatches fail that select
a pack with the form for a case without one, and they leave no trace.
-/

namespace LetterPacks

namespace Dispatch

def failedFor (dispatch : Dispatch) (fault : DispatchFault) : Answer :=
  match dispatch with
  | .resolve _ _ => .resolved (.error fault)
  | .print _ _ => .printed (.error fault)

/-- The dispatch selects a pack that goes out with the application form, and the case has none. -/
def NeedsForm (catalog : Catalog) (caseFile : CaseFile) (dispatch : Dispatch) : Prop :=
  dispatch.selectsForm catalog caseFile = true ∧
    caseFile.facts.hasDocument d84Form.documentType = false

end Dispatch

/-- Two sessions with twin case files and the same letters at the printer. -/
structure Session.Twins
    {σ υ τ : Type} (start : CaseFile) (link otherLink : String) (left : Session σ τ)
    (right : Session υ τ) : Prop where
  caseFile : CaseFile.Twins start link otherLink left.caseFile right.caseFile
  printer : left.printer = right.printer

namespace Service

section

variable {σ υ τ : Type} {left : Service σ τ} {right : Service υ τ} {start file otherFile : CaseFile}
  {link otherLink : String} {letter : Letter} {party : Party}

private theorem choose_of_twins
    (built : Catalog.standard = .ok left.catalog) (sameCatalog : left.catalog = right.catalog)
    (twins : CaseFile.Twins start link otherLink file otherFile) :
    left.choose letter party file.facts = right.choose letter party otherFile.facts := by
  have same := twins.select_rule_eq letter party
  have builtRight : Catalog.standard = .ok right.catalog := sameCatalog ▸ built
  cases selected : letter.rule.select file.facts party with
  | error refusal =>
      rw [selected] at same
      rw [choose_of_refused (Catalog.lookup_of_standard built letter) selected,
        choose_of_refused (Catalog.lookup_of_standard builtRight letter) same.symm]
  | ok key =>
      rw [selected] at same
      rw [choose_of_standard built selected, choose_of_standard builtRight same.symm]

private theorem post_ne_generation
    (service : Service σ τ) (pack : Pack) (caseFile : CaseFile) (queue : τ)
    (fault : GenerationFault) :
    (service.post letter party pack caseFile queue).1 ≠ .error (.generation fault) := by
  cases assembled : PrintRequest.ofPack letter pack caseFile party with
  | error documentType =>
      rw [post_of_missing assembled]
      intro failed
      cases failed
  | ok request =>
      rcases answered : service.printer.print queue request with ⟨_ | _, _⟩
      · rw [post_of_assembled assembled answered]
        intro failed
        cases failed
      · rw [post_of_assembled assembled answered]
        intro failed
        cases failed

private theorem resolve_of_twins
    (built : Catalog.standard = .ok left.catalog) (sameCatalog : left.catalog = right.catalog)
    (twins : CaseFile.Twins start link otherLink file otherFile)
    (keeps : (Dispatch.resolve letter party).NeedsForm left.catalog file →
      left.generator.KeepsForm start link ∧ right.generator.KeepsForm start otherLink)
    (state : σ) (otherState : υ) :
    ∃ outcome after next otherAfter otherNext,
      left.resolve letter party file state = ⟨outcome, after, next⟩ ∧
        right.resolve letter party otherFile otherState = ⟨outcome, otherAfter, otherNext⟩ ∧
        CaseFile.Twins start link otherLink after otherAfter ∧
        (¬ (Dispatch.resolve letter party).NeedsForm left.catalog file → after = file) ∧
        ∀ fault, outcome ≠ .error (.generation fault) := by
  have sameChoice : left.choose letter party file.facts =
      right.choose letter party otherFile.facts := choose_of_twins built sameCatalog twins
  cases selected : letter.rule.select file.facts party with
  | error refusal =>
      have chosen := choose_of_refused (Catalog.lookup_of_standard built letter) selected
      rw [resolve_of_unchosen chosen, resolve_of_unchosen (sameChoice.symm.trans chosen)]
      refine ⟨_, _, _, _, _, rfl, rfl, twins, fun _ => rfl, ?_⟩
      intro fault failed
      cases failed
  | ok key =>
      have chosen := choose_of_standard built selected
      have selects : (Dispatch.resolve letter party).selectsForm left.catalog file =
          letter.enclosesForm := selectsForm_of_selected built selected
      cases encloses : letter.enclosesForm with
      | false =>
          rw [Letter.form?, encloses] at chosen
          rw [resolve_of_chosen chosen, resolve_of_chosen (sameChoice.symm.trans chosen)]
          refine ⟨_, _, _, _, _, rfl, rfl, twins, fun _ => rfl, ?_⟩
          intro fault failed
          cases failed
      | true =>
          rw [Letter.form?, encloses] at chosen
          rw [encloses] at selects
          obtain ⟨added, after, next, otherAfter, otherNext, ensured, otherEnsured, twinsAfter,
            unchanged⟩ :=
            Generator.ensure_of_twins twins (fun absent => keeps ⟨selects, absent⟩) state otherState
          rw [resolve_of_ensured chosen ensured,
            resolve_of_ensured (sameChoice.symm.trans chosen) otherEnsured]
          refine ⟨_, _, _, _, _, rfl, rfl, twinsAfter, fun unneeded => ?_, ?_⟩
          · apply unchanged
            by_contra absent
            exact unneeded ⟨selects, Bool.eq_false_iff.2 absent⟩
          · intro fault failed
            cases failed

private theorem dispatch_of_twins
    (left : Service σ τ) (right : Service υ τ)
    (built : Catalog.standard = .ok left.catalog) (sameCatalog : left.catalog = right.catalog)
    (samePrinter : left.printer = right.printer) {session : Session σ τ} {other : Session υ τ}
    (twins : Session.Twins start link otherLink session other) (dispatch : Dispatch)
    (keeps : dispatch.NeedsForm left.catalog session.caseFile →
      left.generator.KeepsForm start link ∧ right.generator.KeepsForm start otherLink) :
    let after := left.dispatch session dispatch
    let otherAfter := right.dispatch other dispatch
    after.1 = otherAfter.1 ∧ Session.Twins start link otherLink after.2 otherAfter.2 ∧
      (¬ dispatch.NeedsForm left.catalog session.caseFile →
        after.2.caseFile = session.caseFile) ∧
      ∀ fault, after.1 ≠ dispatch.failedFor (.generation fault) := by
  cases dispatch with
  | resolve letter party =>
      obtain ⟨outcome, file, next, otherFile, otherNext, resolved, otherResolved, twinsAfter,
        unchanged, rendered⟩ :=
        resolve_of_twins built sameCatalog twins.caseFile keeps session.generator other.generator
      rw [dispatch_of_resolve resolved, dispatch_of_resolve otherResolved]
      refine ⟨rfl, ⟨twinsAfter, twins.printer⟩, unchanged, ?_⟩
      intro fault failed
      exact rendered fault (Answer.resolved.inj failed)
  | print letter party =>
      obtain ⟨outcome, file, next, otherFile, otherNext, resolved, otherResolved, twinsAfter,
        unchanged, rendered⟩ :=
        resolve_of_twins built sameCatalog twins.caseFile keeps session.generator other.generator
      cases outcome with
      | error fault =>
          rw [dispatch_of_print (print_of_unresolved resolved),
            dispatch_of_print (print_of_unresolved otherResolved)]
          refine ⟨rfl, ⟨twinsAfter, twins.printer⟩, unchanged, ?_⟩
          intro other failed
          have same := Except.error.inj (Answer.printed.inj failed)
          exact rendered other (congrArg Except.error same)
      | ok pack =>
          have posted : left.post letter party pack file session.printer =
              right.post letter party pack otherFile other.printer := by
            unfold post
            rw [twinsAfter.ofPack_eq, samePrinter, twins.printer]
          rw [dispatch_of_print (print_of_resolved resolved),
            dispatch_of_print (print_of_resolved otherResolved), ← posted]
          refine ⟨rfl, ⟨twinsAfter, rfl⟩, unchanged, ?_⟩
          intro fault failed
          exact left.post_ne_generation pack file session.printer fault (Answer.printed.inj failed)

end

/-! ## Sessions over a folder -/

/-- A catalog that takes its forms from a folder of a file tree. -/
def fromFolder {τ : Type} (catalog : Catalog) (printer : Printer τ) (folder : String)
    (tree : FileTree) : Service Unit τ :=
  ⟨catalog, Generator.paperForms tree folder, printer⟩

def fromMemory {τ : Type} (catalog : Catalog) (printer : Printer τ) :
    Service (List CaseDocument) τ :=
  ⟨catalog, Generator.inMemory, printer⟩

/-- Dispatches some letters one after the other, each with the files of its own time. -/
def runFromFolder {τ : Type} (catalog : Catalog) (printer : Printer τ) (folder : String)
    (session : Session Unit τ) (turns : List (FileTree × Dispatch)) : Session Unit τ :=
  turns.foldl (fun session turn =>
    ((fromFolder catalog printer folder turn.1).dispatch session turn.2).2) session

def stepsOf (turns : List (FileTree × Dispatch)) : List Step :=
  (turns.map Prod.snd).map Step.dispatch

def HasForm (folder : String) (tree : FileTree) : Prop :=
  tree.isFile (Generator.joinPath folder d84Form.templateFile) = true

instance (folder : String) (tree : FileTree) : Decidable (HasForm folder tree) :=
  inferInstanceAs (Decidable (_ = true))

variable {τ : Type} {catalog : Catalog} {folder : String} {start : CaseFile}
  {session : Session Unit τ} {turns : List (FileTree × Dispatch)}

/-- Where the form of a folder is kept, and where the form in memory. -/
def folderLink (folder : String) : String :=
  "file://" ++ Generator.joinPath folder d84Form.templateFile

def memoryLink : String :=
  "memory://paper-forms/" ++ d84Form.templateFile

private theorem dispatch_of_present
    (built : Catalog.standard = .ok catalog) (printer : Printer τ) {tree : FileTree}
    (present : HasForm folder tree)
    {other : Session (List CaseDocument) τ}
    (twins : Session.Twins start (folderLink folder) memoryLink session other)
    (dispatch : Dispatch) :
    let after := (fromFolder catalog printer folder tree).dispatch session dispatch
    let otherAfter := (fromMemory catalog printer).dispatch other dispatch
    after.1 = otherAfter.1 ∧
      Session.Twins start (folderLink folder) memoryLink after.2 otherAfter.2 := by
  have keeps := And.intro (Generator.keepsForm_paperForms present start)
    (Generator.keepsForm_inMemory start)
  obtain ⟨answered, twinsAfter, _⟩ :=
    dispatch_of_twins (fromFolder catalog printer folder tree) (fromMemory catalog printer)
      built rfl rfl twins dispatch fun _ => keeps
  exact ⟨answered, twinsAfter⟩

private theorem twins_run_of_present
    (built : Catalog.standard = .ok catalog) (printer : Printer τ)
    {other : Session (List CaseDocument) τ}
    (twins : Session.Twins start (folderLink folder) memoryLink session other)
    (present : ∀ turn ∈ turns, HasForm folder turn.1) :
    Session.Twins start (folderLink folder) memoryLink
      (runFromFolder catalog printer folder session turns)
      ((fromMemory catalog printer).run other (stepsOf turns)) := by
  induction turns generalizing session other with
  | nil =>
      exact twins
  | cons turn turns ih =>
      rw [List.forall_mem_cons] at present
      obtain ⟨_, twinsAfter⟩ := dispatch_of_present built printer present.1 twins turn.2
      exact ih twinsAfter present.2

private theorem dispatch_of_needed
    (built : Catalog.standard = .ok catalog) (printer : Printer τ) {tree : FileTree}
    (absent : ¬ HasForm folder tree)
    {dispatch : Dispatch} (needed : dispatch.NeedsForm catalog session.caseFile) :
    (fromFolder catalog printer folder tree).dispatch session dispatch =
      (dispatch.failedFor (.generation
        (.templateNotFound (Generator.joinPath folder d84Form.templateFile))), session) := by
  obtain ⟨selects, lacks⟩ := needed
  have builtHere : Catalog.standard = .ok (fromFolder catalog printer folder tree).catalog := built
  have failed := Generator.ensure_paperForms_of_absent (Bool.eq_false_iff.2 absent) lacks
  cases selected : dispatch.letter.rule.select session.caseFile.facts dispatch.party with
  | error refusal =>
      rw [selectsForm_of_refused built selected] at selects
      cases selects
  | ok key =>
      rw [selectsForm_of_selected built selected] at selects
      have chosen := choose_of_standard builtHere selected
      rw [Letter.form?, selects] at chosen
      have resolved := resolve_of_failed chosen failed
      cases dispatch with
      | resolve letter party =>
          exact dispatch_of_resolve resolved
      | print letter party =>
          exact dispatch_of_print (print_of_unresolved resolved)

private theorem dispatch_of_unneeded
    (built : Catalog.standard = .ok catalog) (printer : Printer τ) (folder : String)
    (tree : FileTree) {dispatch : Dispatch}
    (unneeded : ¬ dispatch.NeedsForm catalog session.caseFile)
    (documents : List CaseDocument) :
    let after := (fromFolder catalog printer folder tree).dispatch session dispatch
    let otherAfter := (fromMemory catalog printer).dispatch
      ⟨session.caseFile, documents, session.printer⟩ dispatch
    after.1 = otherAfter.1 ∧ after.2.printer = otherAfter.2.printer ∧
      after.2.caseFile = session.caseFile ∧
      ∀ fault, after.1 ≠ dispatch.failedFor (.generation fault) := by
  have twins : Session.Twins session.caseFile (folderLink folder) memoryLink session
      (⟨session.caseFile, documents, session.printer⟩ : Session (List CaseDocument) τ) :=
    ⟨.start, rfl⟩
  obtain ⟨answered, twinsAfter, unchanged, rendered⟩ :=
    dispatch_of_twins (fromFolder catalog printer folder tree) (fromMemory catalog printer)
      built rfl rfl twins dispatch fun needed => absurd needed unneeded
  exact ⟨answered, twinsAfter.printer, unchanged unneeded, rendered⟩

private theorem caseFile_run_of_absent
    (built : Catalog.standard = .ok catalog) (printer : Printer τ)
    (absent : ∀ turn ∈ turns, ¬ HasForm folder turn.1) :
    (runFromFolder catalog printer folder session turns).caseFile = session.caseFile := by
  induction turns generalizing session with
  | nil =>
      rfl
  | cons turn turns ih =>
      rw [List.forall_mem_cons] at absent
      have next : ((fromFolder catalog printer folder turn.1).dispatch
          session turn.2).2.caseFile = session.caseFile := by
        by_cases needed : turn.2.NeedsForm catalog session.caseFile
        · rw [dispatch_of_needed built printer absent.1 needed]
        · exact (dispatch_of_unneeded built printer folder turn.1 needed []).2.2.1
      exact (ih absent.2).trans next

/-- Where the form is not needed, a session that has kept its case file and any session in memory
come to the same. -/
private theorem dispatch_as_inMemory
    (built : Catalog.standard = .ok catalog) (tree : FileTree)
    {session : Session Unit (List PrintRequest)} (kept : session.caseFile = start)
    {dispatch : Dispatch} (unneeded : ¬ dispatch.NeedsForm catalog session.caseFile)
    {other : Session (List CaseDocument) (List PrintRequest)}
    (reached : start.Reached other.caseFile) :
    let after := (fromFolder catalog Printer.inMemory folder tree).dispatch session dispatch
    let otherAfter := (inMemory catalog).dispatch other dispatch
    after.1 = otherAfter.1.numbered start.id (session.printer.length + 1) ∧
      ∃ posted, after.2.printer = session.printer ++ posted ∧
        otherAfter.2.printer = other.printer ++ posted := by
  intro after otherAfter
  let alone := (inMemory catalog).dispatch (Session.fresh start) dispatch
  let here : Session (List CaseDocument) (List PrintRequest) :=
    ⟨session.caseFile, [], session.printer⟩
  have reachedHere : start.Reached here.caseFile := Or.inl kept
  obtain ⟨answered, printed, _, _⟩ :=
    dispatch_of_unneeded built Printer.inMemory folder tree unneeded []
  obtain ⟨answeredHere, printedHere, _⟩ := dispatch_inMemory built reachedHere dispatch
  obtain ⟨answeredThere, printedThere, _⟩ := dispatch_inMemory built reached dispatch
  refine ⟨?_, alone.2.printer, printed.trans printedHere, printedThere⟩
  calc after.1
      = alone.1.numbered start.id (session.printer.length + 1) := answered.trans answeredHere
    _ = otherAfter.1.numbered start.id (session.printer.length + 1) := by
        change _ = ((inMemory catalog).dispatch other dispatch).1.numbered _ _
        rw [answeredThere, Answer.numbered_numbered]

/-- With the form in the folder throughout, every dispatch is answered as in memory, the printer is
given the same requests, and the case files differ at most in the link of an added form. -/
structure Corresponds
    (catalog : Catalog) (folder : String) (start : CaseFile) (printer : Printer τ) (queue : τ)
    (turns : List (FileTree × Dispatch)) : Prop where
  answered : ∀ earlier turn, earlier ++ [turn] <+: turns →
    let session :=
      runFromFolder catalog printer.recorded folder ⟨start, (), queue, []⟩ earlier
    let other :=
      (fromMemory catalog printer.recorded).run ⟨start, [], queue, []⟩ (stepsOf earlier)
    let after := (fromFolder catalog printer.recorded folder turn.1).dispatch session turn.2
    let otherAfter := (fromMemory catalog printer.recorded).dispatch other turn.2
    after.1 = otherAfter.1 ∧ after.2.printer = otherAfter.2.printer
  left :
    CaseFile.Twins start (folderLink folder) memoryLink
      (runFromFolder catalog printer.recorded folder ⟨start, (), queue, []⟩ turns).caseFile
      ((fromMemory catalog printer.recorded).run ⟨start, [], queue, []⟩
        (stepsOf turns)).caseFile

/-- Without the form in the folder throughout, just those dispatches fail that need it. -/
structure FailsForForm
    (catalog : Catalog) (folder : String) (start : CaseFile)
    (turns : List (FileTree × Dispatch)) : Prop where
  failed_iff : ∀ earlier turn, earlier ++ [turn] <+: turns →
    let session := runFromFolder catalog Printer.inMemory folder ⟨start, (), []⟩ earlier
    let after := (fromFolder catalog Printer.inMemory folder turn.1).dispatch session turn.2
    (∃ fault, after.1 = turn.2.failedFor (.generation fault)) ↔
      turn.2.NeedsForm catalog session.caseFile
  failed : ∀ earlier turn, earlier ++ [turn] <+: turns →
    let session := runFromFolder catalog Printer.inMemory folder ⟨start, (), []⟩ earlier
    turn.2.NeedsForm catalog session.caseFile →
      (fromFolder catalog Printer.inMemory folder turn.1).dispatch session turn.2 =
        (turn.2.failedFor (.generation
          (.templateNotFound (Generator.joinPath folder d84Form.templateFile))), session)
  /-- The other dispatches are answered as in memory, but for the place of a letter in the queue,
  and post the same letters. -/
  answered : ∀ earlier turn, earlier ++ [turn] <+: turns →
    let session := runFromFolder catalog Printer.inMemory folder ⟨start, (), []⟩ earlier
    let other := (inMemory catalog).run (Session.fresh start) (stepsOf earlier)
    let after := (fromFolder catalog Printer.inMemory folder turn.1).dispatch session turn.2
    let otherAfter := (inMemory catalog).dispatch other turn.2
    ¬ turn.2.NeedsForm catalog session.caseFile →
      after.1 = otherAfter.1.numbered start.id (session.printer.length + 1) ∧
        ∃ posted, after.2.printer = session.printer ++ posted ∧
          otherAfter.2.printer = other.printer ++ posted

private theorem corresponds_of_present
    (built : Catalog.standard = .ok catalog) (printer : Printer τ) (queue : τ)
    (present : ∀ turn ∈ turns, HasForm folder turn.1) :
    Corresponds catalog folder start printer queue turns := by
  have twins : Session.Twins start (folderLink folder) memoryLink
      (⟨start, (), queue, []⟩ : Session Unit (τ × List PrintRequest))
      (⟨start, [], queue, []⟩ : Session (List CaseDocument) (τ × List PrintRequest)) :=
    ⟨.start, rfl⟩
  constructor
  · intro earlier turn before session other after otherAfter
    have presentNow : HasForm folder turn.1 := present turn (before.subset (by simp))
    have presentBefore : ∀ turn ∈ earlier, HasForm folder turn.1 :=
      fun turn member => present turn (before.subset (List.mem_append_left _ member))
    have twinsBefore := twins_run_of_present built printer.recorded twins presentBefore
    obtain ⟨answered, twinsAfter⟩ :=
      dispatch_of_present built printer.recorded presentNow twinsBefore turn.2
    exact ⟨answered, twinsAfter.printer⟩
  · exact (twins_run_of_present built printer.recorded twins present).caseFile

private theorem failsForForm_of_absent
    (built : Catalog.standard = .ok catalog)
    (absent : ∀ turn ∈ turns, ¬ HasForm folder turn.1) :
    FailsForForm catalog folder start turns := by
  refine ⟨?_, ?_, ?_⟩
  · intro earlier turn before session after
    have missing : ¬ HasForm folder turn.1 := absent turn (before.subset (by simp))
    constructor
    · rintro ⟨fault, failed⟩
      by_contra unneeded
      obtain ⟨_, _, _, rendered⟩ :=
        dispatch_of_unneeded built Printer.inMemory folder turn.1 unneeded []
      exact rendered fault failed
    · intro needed
      exact ⟨_, congrArg Prod.fst (dispatch_of_needed built Printer.inMemory missing needed)⟩
  · intro earlier turn before session needed
    exact dispatch_of_needed built Printer.inMemory (absent turn (before.subset (by simp))) needed
  · intro earlier turn before session other after otherAfter unneeded
    have absentBefore : ∀ turn ∈ earlier, ¬ HasForm folder turn.1 :=
      fun turn member => absent turn (before.subset (List.mem_append_left _ member))
    have kept : session.caseFile = start :=
      caseFile_run_of_absent built Printer.inMemory absentBefore
    have fresh : start.Reached (Session.fresh start).caseFile := Or.inl rfl
    have reached : start.Reached other.caseFile :=
      (run_inMemory built fresh (earlier.map Prod.snd)).1
    exact dispatch_as_inMemory built turn.1 kept unneeded reached

/-- A generator over a folder can stand in for the one in memory while the folder holds the form,
and can be told apart from it by the dispatches that need the form while it does not. -/
structure Interchangeable (catalog : Catalog) (folder : String) (start : CaseFile) : Prop where
  present : ∀ (τ : Type) (printer : Printer τ) (queue : τ) (turns : List (FileTree × Dispatch)),
    (∀ turn ∈ turns, HasForm folder turn.1) →
      Corresponds catalog folder start printer queue turns
  absent : ∀ turns : List (FileTree × Dispatch), (∀ turn ∈ turns, ¬ HasForm folder turn.1) →
    FailsForForm catalog folder start turns

theorem interchangeable_of_standard
    (built : Catalog.standard = .ok catalog) (folder : String) (start : CaseFile) :
    Interchangeable catalog folder start where
  present := fun _ printer queue _ present => corresponds_of_present built printer queue present
  absent := fun _ absent => failsForForm_of_absent built absent

/-- Of three letters the reminder alone needs the form.  With a folder full of forms all three go
out; with one that lacks it the reminder is left out, and the numbers of the letters close up. -/
theorem interchangeable_of_standard_of_reminder :
    let dispatches : List Dispatch := [
      .print .conditionalOrderPronounced .applicant2,
      .print .awaitingConditionalOrderReminder .applicant1,
      .print .noticeOfProceedings .applicant1]
    let full := dispatches.map fun dispatch =>
      (FileTree.ofFiles [("forms/D84.pdf", "")] [], dispatch)
    let short := dispatches.map fun dispatch =>
      (FileTree.ofFiles [("forms/D36.pdf", "")] ["forms/D84.pdf"], dispatch)
    let after (turns : List (FileTree × Dispatch)) :=
      runFromFolder ⟨standardRules⟩ Printer.inMemory "forms" ⟨CaseFile.bare 7, (), []⟩ turns
    Catalog.standard = .ok ⟨standardRules⟩ ∧
      Interchangeable ⟨standardRules⟩ "forms" (CaseFile.bare 7) ∧
      (∀ turn ∈ full, HasForm "forms" turn.1) ∧ (∀ turn ∈ short, ¬ HasForm "forms" turn.1) ∧
      (after full).printer.length = 3 ∧
      (after full).caseFile = (CaseFile.bare 7).withFormAt "file://forms/D84.pdf" ∧
      (after short).printer.map PrintRequest.letter =
        [.conditionalOrderPronounced, .noticeOfProceedings] ∧
      (after short).caseFile = CaseFile.bare 7 :=
  ⟨Catalog.standard_eq_ok, interchangeable_of_standard Catalog.standard_eq_ok _ _,
    by decide +kernel, by decide +kernel, by decide +kernel, by decide +kernel,
    by decide +kernel, by decide +kernel⟩

end Service

end LetterPacks
