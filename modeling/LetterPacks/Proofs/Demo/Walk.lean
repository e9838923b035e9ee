import LetterPacks.Demo.Walk
import LetterPacks.Proofs.Dispatch.Independence
import Mathlib.Data.List.Basic

/-!
# The walk of the demonstration

What becomes of a letter of a case does not depend on the letters before it: its pack is refused,
or a document of the pack is missing, or the request that posts it is complete (`Demo.fate`).  So a
walk comes to its end whatever the case, and its reports can be read off the letters one by one,
whether they are printed or only resolved (`Demo.walk_eq_ok`).
-/

namespace LetterPacks

section

variable {start : CaseFile} {letter : Letter} {party : Party} {key : PackKey}

/-- The only document that a letter may add to the case file is the application form. -/
theorem Slot.misses_leaves_iff
    (selected : letter.rule.select start.facts party = .ok key) {slot : Slot}
    (member : slot ∈ key.toPack.slots) :
    slot.Misses (Service.leaves letter start start).facts ↔
      slot.documentType ≠ d84Form.documentType ∧ slot.Misses start.facts := by
  have enclosed := letter.contains_form_of_mem_packs (letter.rule_selectsDeclared selected)
  unfold Service.leaves
  cases encloses : letter.enclosesForm with
  | false =>
      have other : slot.documentType ≠ d84Form.documentType := by
        intro same
        rw [encloses, Pack.contains, List.contains_eq_mem, decide_eq_false_iff_not] at enclosed
        have listed : slot.documentType ∈ key.toPack.documentTypes := List.mem_map_of_mem member
        rw [same] at listed
        exact enclosed listed
      exact (and_iff_right other).symm
  | true =>
      have reached : start.Reached start.withForm := Or.inr rfl
      obtain ⟨forms, filed, onlyForms⟩ := reached.eq_attach
      rw [if_pos rfl]
      constructor
      · rintro ⟨derived, absent⟩
        have other : slot.documentType ≠ d84Form.documentType := by
          intro same
          have held := start.hasDocument_withForm
          rw [← same, CaseFacts.hasDocument_eq_false_iff.2 absent] at held
          cases held
        refine ⟨other, derived, fun document own => absent document ?_⟩
        rw [filed]
        exact List.mem_append_left forms own
      · rintro ⟨other, derived, absent⟩
        refine ⟨derived, fun document listed => ?_⟩
        rw [filed] at listed
        rcases List.mem_append.1 listed with own | added
        · exact absent document own
        · rw [onlyForms document added]
          exact other.symm

end

namespace Demo

/-- What becomes of a letter of a case. -/
inductive Fate where
  | refused (refusal : Refusal)
  /-- The pack is selected, but the case has no document of a type. -/
  | incomplete (key : PackKey) (documentType : DocumentType)
  | complete (key : PackKey) (request : PrintRequest)

/-- What becomes of a letter to a party, whatever was sent before it. -/
def fate (start : CaseFile) (entry : Letter × Party) : Fate :=
  match entry.1.rule.select start.facts entry.2 with
  | .error refusal => .refused refusal
  | .ok key =>
      let filed := Service.leaves entry.1 start start
      match PrintRequest.ofPack entry.1 key.toPack filed entry.2 with
      | .error documentType => .incomplete key documentType
      | .ok request => .complete key request

def Fate.posted (prints : Bool) : Fate → List PrintRequest
  | .complete _ request => if prints then [request] else []
  | _ => []

theorem Fate.posted_false (came : Fate) : came.posted false = [] := by
  cases came <;> rfl

/-- What is reported of a letter.  A printed one takes the next place in the queue. -/
def Fate.report (caseId : UInt64) (letter : Letter) (prints : Bool) (place : Nat) : Fate → Report
  | .refused refusal => .skipped (.refused refusal)
  | .incomplete key documentType =>
      if prints then .skipped (.missingDocument letter documentType)
      else .resolved key key.toPack.slots.length
  | .complete key request =>
      if prints then .printed ⟨Printer.reference caseId (place + 1), request.documents.length⟩
      else .resolved key key.toPack.slots.length

def encloses (start : CaseFile) (entry : Letter × Party) : Bool :=
  entry.1.enclosesForm && (entry.1.rule.select start.facts entry.2).isOk

/-- The reports of some letters; the first one that is printed takes the place behind `place`. -/
def reports (start : CaseFile) (prints : Bool) (place : Nat) : List (Letter × Party) → List Report
  | [] => []
  | entry :: letters =>
      let came := fate start entry
      came.report start.id entry.1 prints place ::
        reports start prints (place + (came.posted prints).length) letters

/-- The documents that a walk has rendered are what it has added to the case file. -/
structure Progress.Keeps (start : CaseFile) (progress : Progress) : Prop where
  reached : start.Reached progress.caseFile
  attached : progress.caseFile = start.attach progress.rendered

/-- Some letters lead a walk from one progress to another. -/
structure Advances
    (start : CaseFile) (prints : Bool) (letters : List (Letter × Party))
    (progress next : Progress) : Prop where
  keeps : next.Keeps start
  posted : next.posted =
    progress.posted ++ letters.flatMap fun entry => (fate start entry).posted prints
  filed : next.caseFile =
    if letters.any (encloses start) then start.withForm else progress.caseFile

namespace Advances

variable {start : CaseFile} {prints : Bool} {entry : Letter × Party}
  {letters : List (Letter × Party)} {progress next last : Progress}

private theorem nil (keeps : progress.Keeps start) : Advances start prints [] progress progress :=
  ⟨keeps, (List.append_nil _).symm, rfl⟩

private theorem cons
    (first : Advances start prints [entry] progress next)
    (others : Advances start prints letters next last) :
    Advances start prints (entry :: letters) progress last := by
  refine ⟨others.keeps, ?_, ?_⟩
  · rw [others.posted, first.posted, List.flatMap_cons, List.flatMap_cons, List.flatMap_nil,
      List.append_nil, List.append_assoc]
  · rw [others.filed, first.filed, List.any_cons, List.any_cons, List.any_nil, Bool.or_false]
    cases encloses start entry with
    | false => rw [Bool.false_or, if_neg Bool.false_ne_true]
    | true => rw [Bool.true_or, if_pos rfl, ite_self]

end Advances

section

variable {catalog : Catalog} {start : CaseFile} {letter : Letter} {party : Party} {key : PackKey}
  {progress : Progress}

private theorem attached_resolve
    (keeps : progress.Keeps start) {outcome : Except DispatchFault Pack} {filed : CaseFile}
    {later : List CaseDocument}
    (resolved : (Service.inMemory catalog).resolve letter party progress.caseFile
      progress.rendered = ⟨outcome, filed, later⟩) :
    filed = start.attach later := by
  rcases (Service.inMemory catalog).resolve_cases letter party progress.caseFile
      progress.rendered with unchanged | ⟨form, ensured⟩
  · rw [resolved] at unchanged
    obtain ⟨rfl, rfl⟩ := unchanged
    exact keeps.attached
  · rw [resolved] at ensured
    obtain ⟨rfl, rfl⟩ := ensured
    exact Generator.attached_ensure_inMemory keeps.attached form

variable {filed : CaseFile} {later : List CaseDocument} {documentType : DocumentType}
  {request : PrintRequest}

private theorem step_of_refused
    (built : Catalog.standard = .ok catalog) (keeps : progress.Keeps start) (prints : Bool)
    {refusal : Refusal} (refused : letter.rule.select start.facts party = .error refusal) :
    step catalog prints letter party progress =
      (.ok (.skipped (.refused refusal)), progress) := by
  have resolved :=
    Service.resolve_inMemory_of_refused built keeps.reached refused progress.rendered
  cases prints with
  | false =>
      simp only [step, resolved]
      rfl
  | true =>
      simp only [step, Service.print_of_unresolved resolved]
      rfl

private theorem step_of_resolved
    (resolved : (Service.inMemory catalog).resolve letter party progress.caseFile
      progress.rendered = ⟨.ok key.toPack, filed, later⟩) :
    step catalog false letter party progress =
      (.ok (.resolved key key.toPack.slots.length), ⟨filed, later, progress.posted⟩) := by
  simp only [step, resolved]
  rfl

private theorem step_of_missing
    (resolved : (Service.inMemory catalog).resolve letter party progress.caseFile
      progress.rendered = ⟨.ok key.toPack, filed, later⟩)
    (missing : PrintRequest.ofPack letter key.toPack filed party = .error documentType) :
    step catalog true letter party progress =
      (.ok (.skipped (.missingDocument letter documentType)),
        ⟨filed, later, progress.posted⟩) := by
  simp only [step, Service.print_of_resolved resolved, Service.post_of_missing missing]
  rfl

private theorem step_of_assembled
    (resolved : (Service.inMemory catalog).resolve letter party progress.caseFile
      progress.rendered = ⟨.ok key.toPack, filed, later⟩)
    (assembled : PrintRequest.ofPack letter key.toPack filed party = .ok request) :
    step catalog true letter party progress =
      (.ok (.printed ⟨Printer.reference request.caseId (progress.posted.length + 1),
        request.documents.length⟩), ⟨filed, later, progress.posted ++ [request]⟩) := by
  have printed : (Service.inMemory catalog).printer.print progress.posted request =
      (.ok ⟨Printer.reference request.caseId (progress.posted.length + 1),
        request.documents.length⟩, progress.posted ++ [request]) := rfl
  simp only [step, Service.print_of_resolved resolved, Service.post_of_assembled assembled printed]
  rfl

private theorem caseId_of_assembled
    (assembled : PrintRequest.ofPack letter key.toPack (Service.leaves letter start start) party =
      .ok request) : request.caseId = start.id := by
  obtain ⟨_, _, sameCase, _⟩ := PrintRequest.of_ofPack_eq_ok assembled
  exact sameCase.trans (Service.reached_leaves (Or.inl rfl) letter).id_eq

theorem fate_of_refused
    {refusal : Refusal} (refused : letter.rule.select start.facts party = .error refusal) :
    fate start (letter, party) = .refused refusal := by
  simp only [fate, refused]

theorem fate_of_missing
    (selected : letter.rule.select start.facts party = .ok key)
    (missing : PrintRequest.ofPack letter key.toPack (Service.leaves letter start start) party =
      .error documentType) :
    fate start (letter, party) = .incomplete key documentType := by
  simp only [fate, selected, missing]

theorem fate_of_assembled
    (selected : letter.rule.select start.facts party = .ok key)
    (assembled : PrintRequest.ofPack letter key.toPack (Service.leaves letter start start) party =
      .ok request) :
    fate start (letter, party) = .complete key request := by
  simp only [fate, selected, assembled]

private theorem report_of_selected
    (selected : letter.rule.select start.facts party = .ok key) (caseId : UInt64) (place : Nat) :
    (fate start (letter, party)).report caseId letter false place =
      .resolved key key.toPack.slots.length := by
  cases assembled :
      PrintRequest.ofPack letter key.toPack (Service.leaves letter start start) party with
  | error documentType =>
      rw [fate_of_missing selected assembled]
      rfl
  | ok request =>
      rw [fate_of_assembled selected assembled]
      rfl

private theorem encloses_of_refused
    {refusal : Refusal} (refused : letter.rule.select start.facts party = .error refusal) :
    encloses start (letter, party) = false := by
  simp only [encloses, refused, Except.isOk, Except.toBool, Bool.and_false]

private theorem encloses_of_selected (selected : letter.rule.select start.facts party = .ok key) :
    encloses start (letter, party) = letter.enclosesForm := by
  simp only [encloses, selected, Except.isOk, Except.toBool, Bool.and_true]

private theorem advances_of_refused
    (keeps : progress.Keeps start) (prints : Bool)
    {refusal : Refusal} (refused : letter.rule.select start.facts party = .error refusal) :
    Advances start prints [(letter, party)] progress progress := by
  refine ⟨keeps, ?_, ?_⟩
  · rw [List.flatMap_singleton, fate_of_refused refused]
    exact (List.append_nil _).symm
  · rw [List.any_cons, List.any_nil, encloses_of_refused refused]
    rfl

private theorem advances_of_resolved
    (keeps : progress.Keeps start) (prints : Bool)
    (selected : letter.rule.select start.facts party = .ok key)
    (resolved : (Service.inMemory catalog).resolve letter party progress.caseFile
      progress.rendered = ⟨.ok key.toPack, Service.leaves letter start progress.caseFile, later⟩) :
    Advances start prints [(letter, party)] progress
      ⟨Service.leaves letter start progress.caseFile, later,
        progress.posted ++ (fate start (letter, party)).posted prints⟩ := by
  refine ⟨⟨Service.reached_leaves keeps.reached letter, attached_resolve keeps resolved⟩, ?_, ?_⟩
  · rw [List.flatMap_singleton]
  · rw [List.any_cons, List.any_nil, Bool.or_false, encloses_of_selected selected]
    rfl

private theorem step_eq_ok
    (built : Catalog.standard = .ok catalog) (keeps : progress.Keeps start) (prints : Bool)
    (letter : Letter) (party : Party) :
    ∃ next, step catalog prints letter party progress =
        (.ok ((fate start (letter, party)).report start.id letter prints progress.posted.length),
          next) ∧
      Advances start prints [(letter, party)] progress next := by
  cases selected : letter.rule.select start.facts party with
  | error refusal =>
      rw [fate_of_refused selected]
      exact ⟨progress, step_of_refused built keeps prints selected,
        advances_of_refused keeps prints selected⟩
  | ok key =>
      obtain ⟨later, resolved⟩ :=
        Service.resolve_inMemory_of_selected built keeps.reached selected progress.rendered
      have advances := advances_of_resolved keeps prints selected resolved
      refine ⟨_, ?_, advances⟩
      cases prints with
      | false =>
          rw [step_of_resolved resolved, report_of_selected selected, Fate.posted_false,
            List.append_nil]
      | true =>
          have same := Service.ofPack_leaves keeps.reached selected
          cases assembled :
              PrintRequest.ofPack letter key.toPack (Service.leaves letter start start) party with
          | error documentType =>
              rw [step_of_missing resolved (same.trans assembled),
                fate_of_missing selected assembled]
              simp only [Fate.report, Fate.posted, if_true, List.append_nil]
          | ok request =>
              rw [step_of_assembled resolved (same.trans assembled),
                fate_of_assembled selected assembled, caseId_of_assembled assembled]
              rfl

private theorem walk_eq_ok
    (built : Catalog.standard = .ok catalog) (keeps : progress.Keeps start) (prints : Bool)
    (letters : List (Letter × Party)) :
    ∃ last, walk catalog prints progress letters =
        .ok (reports start prints progress.posted.length letters, last) ∧
      Advances start prints letters progress last := by
  induction letters generalizing progress with
  | nil =>
      exact ⟨progress, rfl, Advances.nil keeps⟩
  | cons entry letters ih =>
      obtain ⟨letter, party⟩ := entry
      obtain ⟨next, stepped, first⟩ := step_eq_ok built keeps prints letter party
      obtain ⟨last, walked, others⟩ := ih first.keeps
      refine ⟨last, ?_, first.cons others⟩
      rw [first.posted, List.flatMap_singleton, List.length_append] at walked
      simp only [walk, stepped, walked]
      rfl

private theorem Progress.keeps_start (start : CaseFile) : (Progress.start start).Keeps start :=
  ⟨Or.inl rfl, start.attach_nil.symm⟩

theorem walk_start_eq_ok
    (built : Catalog.standard = .ok catalog) (start : CaseFile) (prints : Bool)
    (letters : List (Letter × Party)) :
    ∃ last, walk catalog prints (.start start) letters =
        .ok (reports start prints 0 letters, last) ∧
      Advances start prints letters (.start start) last ∧
      last.posted = letters.flatMap fun entry => (fate start entry).posted prints := by
  obtain ⟨last, walked, advances⟩ := walk_eq_ok built (Progress.keeps_start start) prints letters
  exact ⟨last, walked, advances, advances.posted⟩

theorem length_reports
    (start : CaseFile) (prints : Bool) (place : Nat) (letters : List (Letter × Party)) :
    (reports start prints place letters).length = letters.length := by
  induction letters generalizing place with
  | nil => rfl
  | cons entry letters ih => rw [reports, List.length_cons, List.length_cons, ih]

theorem getElem?_reports
    (start : CaseFile) {prints : Bool} {letters : List (Letter × Party)} {entry : Letter × Party}
    {index : Nat}
    (listed : letters[index]? = some entry) (place : Nat) :
    ∃ taken, (reports start prints place letters)[index]? =
      some ((fate start entry).report start.id entry.1 prints taken) := by
  induction letters generalizing index place with
  | nil =>
      cases listed
  | cons head letters ih =>
      cases index with
      | zero =>
          obtain rfl : head = entry := Option.some.inj listed
          exact ⟨place, rfl⟩
      | succ index =>
          exact ih listed _

def printedStep? : (Letter × Party) × Report → Option ((Letter × Party) × Receipt)
  | (entry, .printed receipt) => some (entry, receipt)
  | _ => none

def stepOf (caseId : UInt64) (letter : PrintRequest × Nat) : (Letter × Party) × Receipt :=
  ((letter.1.letter, letter.1.recipient),
    ⟨Printer.reference caseId (letter.2 + 1), letter.1.documents.length⟩)

private theorem printedStep?_fate (start : CaseFile) (entry : Letter × Party) (place : Nat) :
    (printedStep? (entry, (fate start entry).report start.id entry.1 true place)).toList =
      (((fate start entry).posted true).zipIdx place).map (stepOf start.id) := by
  obtain ⟨letter, party⟩ := entry
  cases selected : letter.rule.select start.facts party with
  | error refusal =>
      rw [fate_of_refused selected]
      rfl
  | ok key =>
      cases assembled :
          PrintRequest.ofPack letter key.toPack (Service.leaves letter start start) party with
      | error documentType =>
          rw [fate_of_missing selected assembled]
          rfl
      | ok request =>
          rw [fate_of_assembled selected assembled]
          obtain ⟨_, _, rfl⟩ := PrintRequest.eq_of_ofPack_eq_ok assembled
          rfl

/-- The printed steps are the letters in the queue, one for one and in the same order. -/
theorem filterMap_printedStep?
    (start : CaseFile) (place : Nat) (letters : List (Letter × Party)) :
    (letters.zip (reports start true place letters)).filterMap printedStep? =
      ((letters.flatMap fun entry => (fate start entry).posted true).zipIdx place).map
        (stepOf start.id) := by
  rw [List.filterMap_eq_flatMap_toList]
  induction letters generalizing place with
  | nil =>
      rfl
  | cons entry letters ih =>
      rw [reports, List.zip_cons_cons, List.flatMap_cons, List.flatMap_cons, List.zipIdx_append,
        List.map_append, printedStep?_fate, ih]

end

end Demo

end LetterPacks
