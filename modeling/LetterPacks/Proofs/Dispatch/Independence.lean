import LetterPacks.Proofs.Dispatch.Session
import LetterPacks.Proofs.Dispatch.Stages
import LetterPacks.Proofs.OnDemand.BlankForm
import LetterPacks.Proofs.Printing.Assembly

/-!
# Independent dispatches

In a session with a generator and a printer that work in memory, a dispatch comes to the same
whatever was dispatched before it, but for the place of a printed letter in the queue.  The only
thing that earlier dispatches leave behind in the case file is the application form.  No rule looks
at it, and it is printed only with letters that put it there themselves.
-/

namespace LetterPacks

def Receipt.numbered (receipt : Receipt) (caseId : UInt64) (place : Nat) : Receipt :=
  { receipt with letterReference := Printer.reference caseId place }

def Answer.numbered (answer : Answer) (caseId : UInt64) (place : Nat) : Answer :=
  match answer with
  | .resolved outcome => .resolved outcome
  | .printed outcome => .printed (outcome.map fun receipt => receipt.numbered caseId place)

theorem Answer.numbered_numbered (answer : Answer) (caseId : UInt64) (earlier later : Nat) :
    (answer.numbered caseId earlier).numbered caseId later = answer.numbered caseId later := by
  rcases answer with outcome | outcome
  · rfl
  · cases outcome <;> rfl

/-- A session in memory with nothing rendered and nothing posted yet. -/
def Session.fresh (start : CaseFile) : Session (List CaseDocument) (List PrintRequest) :=
  ⟨start, [], []⟩

/-- Whether a dispatch selects a pack that goes out with the application form. -/
def Dispatch.selectsForm (catalog : Catalog) (start : CaseFile) (dispatch : Dispatch) : Bool :=
  match ((Service.inMemory catalog).resolve dispatch.letter dispatch.party start []).outcome with
  | .ok pack => (applicationRule.packs ++ reminderRule.packs).contains pack.key
  | .error _ => false

namespace Service

variable {catalog : Catalog} {letter : Letter} {party : Party} {start current : CaseFile}

private theorem select_of_reached
    (reached : start.Reached current) (letter : Letter) (party : Party) :
    letter.rule.select current.facts party = letter.rule.select start.facts party := by
  obtain ⟨forms, rfl, _⟩ := reached.eq_attach
  exact letter.select_rule_attach start forms party

theorem resolve_inMemory_of_refused
    (built : Catalog.standard = .ok catalog) (reached : start.Reached current)
    {refusal : Refusal} (refused : letter.rule.select start.facts party = .error refusal)
    (documents : List CaseDocument) :
    (inMemory catalog).resolve letter party current documents =
      ⟨.error (.refused refusal), current, documents⟩ := by
  have here := (select_of_reached reached letter party).trans refused
  have found : (inMemory catalog).catalog.lookup letter = .ok letter.rule :=
    Catalog.lookup_of_standard built letter
  exact resolve_of_unchosen (choose_of_refused found here)

/-- The case file that a letter leaves when its pack is selected. -/
def leaves (letter : Letter) (start current : CaseFile) : CaseFile :=
  if letter.enclosesForm then start.withForm else current

theorem reached_leaves (reached : start.Reached current) (letter : Letter) :
    start.Reached (leaves letter start current) := by
  unfold leaves
  split
  · exact Or.inr rfl
  · exact reached

theorem resolve_inMemory_of_selected
    (built : Catalog.standard = .ok catalog) (reached : start.Reached current)
    {key : PackKey} (selected : letter.rule.select start.facts party = .ok key)
    (documents : List CaseDocument) :
    ∃ later, (inMemory catalog).resolve letter party current documents =
      ⟨.ok key.toPack, leaves letter start current, later⟩ := by
  have here := (select_of_reached reached letter party).trans selected
  have chosen : (inMemory catalog).choose letter party current.facts =
      .ok (key.toPack, letter.form?) := choose_of_standard built here
  unfold leaves
  cases encloses : letter.enclosesForm with
  | false =>
      rw [Letter.form?, encloses] at chosen
      exact ⟨documents, resolve_of_chosen chosen⟩
  | true =>
      rw [Letter.form?, encloses] at chosen
      obtain ⟨added, later, ensured⟩ := Generator.ensure_inMemory current documents
      rw [reached.withForm_eq] at ensured
      exact ⟨later, resolve_of_ensured chosen ensured⟩

theorem ofPack_leaves
    (reached : start.Reached current) {key : PackKey}
    (selected : letter.rule.select start.facts party = .ok key) :
    PrintRequest.ofPack letter key.toPack (leaves letter start current) party =
      PrintRequest.ofPack letter key.toPack (leaves letter start start) party := by
  have member := letter.rule_selectsDeclared selected
  have enclosed := letter.contains_form_of_mem_packs member
  unfold leaves
  cases encloses : letter.enclosesForm with
  | true =>
      rfl
  | false =>
      obtain ⟨forms, rfl, onlyForms⟩ := reached.eq_attach
      refine PrintRequest.ofPack_attach_of_not_contains fun form member => ?_
      rw [onlyForms form member]
      exact enclosed.trans encloses

private theorem contains_form_iff
    {letter : Letter} {key : PackKey} (member : key ∈ letter.rule.packs) :
    (applicationRule.packs ++ reminderRule.packs).contains key = letter.enclosesForm := by
  revert member key
  cases letter <;> decide

theorem selectsForm_of_refused
    (built : Catalog.standard = .ok catalog) {dispatch : Dispatch} {refusal : Refusal}
    (refused : dispatch.letter.rule.select start.facts dispatch.party = .error refusal) :
    dispatch.selectsForm catalog start = false := by
  rw [Dispatch.selectsForm, resolve_inMemory_of_refused built (Or.inl rfl) refused]

theorem selectsForm_of_selected
    (built : Catalog.standard = .ok catalog) {dispatch : Dispatch} {key : PackKey}
    (selected : dispatch.letter.rule.select start.facts dispatch.party = .ok key) :
    dispatch.selectsForm catalog start = dispatch.letter.enclosesForm := by
  obtain ⟨later, resolved⟩ := resolve_inMemory_of_selected built (Or.inl rfl) selected []
  rw [Dispatch.selectsForm, resolved]
  exact contains_form_iff (dispatch.letter.rule_selectsDeclared selected)

/-- The answer and the posted letters of a dispatch in every session in memory on a case. -/
def ComesTo
    (catalog : Catalog) (start : CaseFile) (dispatch : Dispatch) (answer : Answer)
    (posted : List PrintRequest) : Prop :=
  ∀ ⦃session : Session (List CaseDocument) (List PrintRequest)⦄,
    start.Reached session.caseFile →
      let after := (inMemory catalog).dispatch session dispatch
      after.1 = answer.numbered start.id (session.printer.length + 1) ∧
        after.2.printer = session.printer ++ posted ∧
        after.2.caseFile =
          if dispatch.selectsForm catalog start then start.withForm else session.caseFile

private theorem comesTo_of_refused
    (built : Catalog.standard = .ok catalog) {dispatch : Dispatch} {refusal : Refusal}
    (refused : dispatch.letter.rule.select start.facts dispatch.party = .error refusal) :
    ∃ answer, ComesTo catalog start dispatch answer [] := by
  have without := selectsForm_of_refused built refused
  cases dispatch with
  | resolve letter party =>
      change letter.rule.select start.facts party = .error refusal at refused
      refine ⟨.resolved (.error (.refused refusal)), fun session reached => ?_⟩
      have resolved := resolve_inMemory_of_refused built reached refused session.generator
      rw [dispatch_of_resolve resolved, without, List.append_nil]
      exact ⟨rfl, rfl, rfl⟩
  | print letter party =>
      change letter.rule.select start.facts party = .error refusal at refused
      refine ⟨.printed (.error (.refused refusal)), fun session reached => ?_⟩
      have resolved := resolve_inMemory_of_refused built reached refused session.generator
      rw [dispatch_of_print (print_of_unresolved resolved), without, List.append_nil]
      exact ⟨rfl, rfl, rfl⟩

private theorem comesTo_resolve_of_selected
    (built : Catalog.standard = .ok catalog) {key : PackKey}
    (selected : letter.rule.select start.facts party = .ok key) :
    ComesTo catalog start (.resolve letter party) (.resolved (.ok key.toPack)) [] := by
  intro session reached
  have encloses : (Dispatch.resolve letter party).selectsForm catalog start =
      letter.enclosesForm := selectsForm_of_selected built selected
  obtain ⟨later, resolved⟩ :=
    resolve_inMemory_of_selected built reached selected session.generator
  rw [dispatch_of_resolve resolved, encloses, List.append_nil]
  exact ⟨rfl, rfl, rfl⟩

private theorem comesTo_print_of_missing
    (built : Catalog.standard = .ok catalog) {key : PackKey} {documentType : DocumentType}
    (selected : letter.rule.select start.facts party = .ok key)
    (missing : PrintRequest.ofPack letter key.toPack (leaves letter start start) party =
      .error documentType) :
    ComesTo catalog start (.print letter party)
      (.printed (.error (.missingDocument letter documentType))) [] := by
  intro session reached
  have encloses : (Dispatch.print letter party).selectsForm catalog start =
      letter.enclosesForm := selectsForm_of_selected built selected
  obtain ⟨later, resolved⟩ :=
    resolve_inMemory_of_selected built reached selected session.generator
  have here := (ofPack_leaves reached selected).trans missing
  rw [dispatch_of_print (print_of_resolved resolved), post_of_missing here, encloses,
    List.append_nil]
  exact ⟨rfl, rfl, rfl⟩

private theorem comesTo_print_of_assembled
    (built : Catalog.standard = .ok catalog) {key : PackKey} {request : PrintRequest}
    (selected : letter.rule.select start.facts party = .ok key)
    (assembled : PrintRequest.ofPack letter key.toPack (leaves letter start start) party =
      .ok request) :
    ComesTo catalog start (.print letter party)
      (.printed (.ok ⟨Printer.reference start.id 1, request.documents.length⟩)) [request] := by
  intro session reached
  have encloses : (Dispatch.print letter party).selectsForm catalog start =
      letter.enclosesForm := selectsForm_of_selected built selected
  obtain ⟨later, resolved⟩ :=
    resolve_inMemory_of_selected built reached selected session.generator
  have here := (ofPack_leaves reached selected).trans assembled
  obtain ⟨_, _, sameCase, _⟩ := PrintRequest.of_ofPack_eq_ok assembled
  rw [(reached_leaves (Or.inl rfl) letter).id_eq] at sameCase
  have printed : (inMemory catalog).printer.print session.printer request =
      (.ok ⟨Printer.reference request.caseId (session.printer.length + 1),
        request.documents.length⟩, session.printer ++ [request]) := rfl
  rw [dispatch_of_print (print_of_resolved resolved), post_of_assembled here printed, sameCase,
    encloses]
  exact ⟨rfl, rfl, rfl⟩

private theorem exists_comesTo
    (built : Catalog.standard = .ok catalog) (start : CaseFile) (dispatch : Dispatch) :
    ∃ answer posted, ComesTo catalog start dispatch answer posted := by
  cases selected : dispatch.letter.rule.select start.facts dispatch.party with
  | error refusal =>
      obtain ⟨answer, comesTo⟩ := comesTo_of_refused built selected
      exact ⟨answer, [], comesTo⟩
  | ok key =>
      cases dispatch with
      | resolve letter party =>
          exact ⟨_, [], comesTo_resolve_of_selected built selected⟩
      | print letter party =>
          cases assembled :
              PrintRequest.ofPack letter key.toPack (leaves letter start start) party with
          | error documentType =>
              exact ⟨_, [], comesTo_print_of_missing built selected assembled⟩
          | ok request =>
              exact ⟨_, [request], comesTo_print_of_assembled built selected assembled⟩

/-- A dispatch comes to the same as alone, but for the place of the letter in the queue. -/
theorem dispatch_inMemory
    (built : Catalog.standard = .ok catalog)
    {session : Session (List CaseDocument) (List PrintRequest)}
    (reached : start.Reached session.caseFile) (dispatch : Dispatch) :
    let alone := (inMemory catalog).dispatch (Session.fresh start) dispatch
    let after := (inMemory catalog).dispatch session dispatch
    after.1 = alone.1.numbered start.id (session.printer.length + 1) ∧
      after.2.printer = session.printer ++ alone.2.printer ∧
      after.2.caseFile =
        if dispatch.selectsForm catalog start then start.withForm else session.caseFile := by
  obtain ⟨answer, posted, comesTo⟩ := exists_comesTo built start dispatch
  have fresh : start.Reached (Session.fresh start).caseFile := Or.inl rfl
  obtain ⟨answeredAlone, postedAlone, _⟩ := comesTo fresh
  obtain ⟨answered, printed, left⟩ := comesTo reached
  refine ⟨?_, ?_, left⟩
  · rw [answeredAlone, Answer.numbered_numbered]
    exact answered
  · rw [postedAlone]
    exact printed

theorem run_inMemory
    (built : Catalog.standard = .ok catalog)
    {session : Session (List CaseDocument) (List PrintRequest)}
    (reached : start.Reached session.caseFile) (dispatches : List Dispatch) :
    let after := (inMemory catalog).run session (dispatches.map Step.dispatch)
    start.Reached after.caseFile ∧
      after.printer = session.printer ++ dispatches.flatMap (fun dispatch =>
        ((inMemory catalog).dispatch (Session.fresh start) dispatch).2.printer) ∧
      after.caseFile =
        if dispatches.any (Dispatch.selectsForm catalog start) then start.withForm
        else session.caseFile := by
  induction dispatches generalizing session with
  | nil =>
      exact ⟨reached, (List.append_nil _).symm, rfl⟩
  | cons dispatch dispatches ih =>
      obtain ⟨_, printed, left⟩ := dispatch_inMemory built reached dispatch
      have reachedNext :
          start.Reached ((inMemory catalog).dispatch session dispatch).2.caseFile := by
        rw [left]
        split
        · exact Or.inr rfl
        · exact reached
      obtain ⟨reachedLast, posted, last⟩ := ih reachedNext
      refine ⟨reachedLast, ?_, ?_⟩
      · rw [printed, List.append_assoc] at posted
        exact posted
      · refine last.trans ?_
        rw [left, List.any_cons]
        cases dispatch.selectsForm catalog start <;> simp

/-- Every dispatch of a session comes to what it comes to alone, in whatever order. -/
structure Independent (catalog : Catalog) (start : CaseFile) (dispatches : List Dispatch) :
    Prop where
  /-- A dispatch is answered as if it were the only one, and posts the same letter. -/
  answered : ∀ earlier dispatch, earlier ++ [dispatch] <+: dispatches →
    let before := (inMemory catalog).run (Session.fresh start) (earlier.map Step.dispatch)
    let alone := (inMemory catalog).dispatch (Session.fresh start) dispatch
    let after := (inMemory catalog).dispatch before dispatch
    after.1 = alone.1.numbered start.id (before.printer.length + 1) ∧
      after.2.printer = before.printer ++ alone.2.printer
  /-- The form is added when it is missing and some dispatch selects a pack that goes out with it;
  nothing else is added. -/
  left : ((inMemory catalog).run (Session.fresh start) (dispatches.map Step.dispatch)).caseFile =
    if start.facts.hasDocument d84Form.documentType = false ∧
        dispatches.any (Dispatch.selectsForm catalog start) = true then
      start.attach [start.blankForm]
    else start
  reordered : ∀ other, dispatches.Perm other →
    let after := (inMemory catalog).run (Session.fresh start) (dispatches.map Step.dispatch)
    let afterOther := (inMemory catalog).run (Session.fresh start) (other.map Step.dispatch)
    after.printer.Perm afterOther.printer ∧ after.caseFile = afterOther.caseFile

theorem independent_inMemory
    (built : Catalog.standard = .ok catalog) (start : CaseFile) (dispatches : List Dispatch) :
    Independent catalog start dispatches := by
  have fresh : start.Reached (Session.fresh start).caseFile := Or.inl rfl
  refine ⟨?_, ?_, ?_⟩
  · intro earlier dispatch _
    obtain ⟨reached, _, _⟩ := run_inMemory built fresh earlier
    obtain ⟨answered, posted, _⟩ := dispatch_inMemory built reached dispatch
    exact ⟨answered, posted⟩
  · obtain ⟨_, _, left⟩ := run_inMemory built fresh dispatches
    rw [left]
    cases held : start.facts.hasDocument d84Form.documentType with
    | true =>
        simp [CaseFile.withForm_of_held held, Session.fresh]
    | false =>
        simp [CaseFile.withForm_of_absent held, Session.fresh]
  · intro other same
    obtain ⟨_, posted, left⟩ := run_inMemory built fresh dispatches
    obtain ⟨_, postedOther, leftOther⟩ := run_inMemory built fresh other
    intro after afterOther
    constructor
    · rw [posted, postedOther]
      exact (same.flatMap_right _).append_left _
    · rw [left, leftOther, same.any_eq]

theorem independent_inMemory_of_two_forms :
    let dispatches : List Dispatch :=
      [.print .awaitingConditionalOrderReminder .applicant1,
        .resolve .conditionalOrderRefused .applicant2, .print .applyForConditionalOrder .applicant2]
    let after := (inMemory ⟨standardRules⟩).run (Session.fresh (CaseFile.bare 7))
      (dispatches.map Step.dispatch)
    Catalog.standard = .ok ⟨standardRules⟩ ∧
      Independent ⟨standardRules⟩ (CaseFile.bare 7) dispatches ∧
      after.caseFile.facts.documents.map CaseDocument.documentType =
        [.conditionalOrderApplicationForm] ∧
      after.printer.length = 2 :=
  ⟨Catalog.standard_eq_ok, independent_inMemory Catalog.standard_eq_ok _ _, by decide +kernel,
    by decide +kernel⟩

end Service

end LetterPacks
