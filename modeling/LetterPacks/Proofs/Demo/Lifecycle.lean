import LetterPacks.Proofs.Case.Spelling
import LetterPacks.Proofs.Demo.Walk

/-!
# The demonstration comes to its end

On every case both walks of the demonstration come to their end.  They render the same form, the
queue holds the letters that are reported as printed, and printing skips more than resolving only
for want of a document.
-/

namespace LetterPacks

namespace Demo

def Report.isSkipped : Report → Bool
  | .skipped _ => true
  | _ => false

/-- A slot of the selected pack, other than that of the application form, is filled from the case
file, and the case has no document for it. -/
def LacksDocument (catalog : Catalog) (caseFile : CaseFile) (entry : Letter × Party) : Prop :=
  ∃ rule pack, catalog.lookup entry.1 = .ok rule ∧
    rule.resolve caseFile.facts entry.2 = .ok pack ∧
    ∃ slot ∈ pack.slots, slot.documentType ≠ .conditionalOrderApplicationForm ∧
      slot.Misses caseFile.facts

def renderedForms (caseFile : CaseFile) : List CaseDocument :=
  if caseFile.facts.applicant1.isRepresented = false ∧
      caseFile.facts.hasDocument .conditionalOrderApplicationForm = false then
    [caseFile.blankForm]
  else []

section

variable {catalog : Catalog} {start : CaseFile} {entry : Letter × Party} {key : PackKey}

private theorem lacksDocument_iff_of_selected
    (built : Catalog.standard = .ok catalog)
    (selected : entry.1.rule.select start.facts entry.2 = .ok key) :
    LacksDocument catalog start entry ↔
      ∃ documentType, PrintRequest.ofPack entry.1 key.toPack
        (Service.leaves entry.1 start start) entry.2 = .error documentType := by
  simp only [PrintRequest.ofPack_eq_error_iff, exists_firstMissing_iff]
  constructor
  · rintro ⟨rule, pack, found, resolved, slot, member, misses⟩
    obtain ⟨other, selectedOther, rfl⟩ := Catalog.selected_of_resolved built found resolved
    obtain rfl : other = key := Except.ok.inj (selectedOther.symm.trans selected)
    exact ⟨slot, member, (Slot.misses_leaves_iff selected member).2 misses⟩
  · rintro ⟨slot, member, misses⟩
    have resolved : entry.1.rule.resolve start.facts entry.2 = .ok key.toPack := by
      rw [SelectionRule.resolve, selected]
      rfl
    exact ⟨entry.1.rule, key.toPack, Catalog.lookup_of_standard built entry.1, resolved, slot,
      member, (Slot.misses_leaves_iff selected member).1 misses⟩

private theorem isSkipped_report_iff
    (built : Catalog.standard = .ok catalog) (start : CaseFile) (entry : Letter × Party)
    (place taken : Nat) :
    ((fate start entry).report start.id entry.1 true place).isSkipped = true ↔
      ((fate start entry).report start.id entry.1 false taken).isSkipped = true ∨
        LacksDocument catalog start entry := by
  cases selected : entry.1.rule.select start.facts entry.2 with
  | error refusal =>
      rw [fate_of_refused selected]
      exact iff_of_true rfl (Or.inl rfl)
  | ok key =>
      rw [lacksDocument_iff_of_selected built selected]
      cases assembled : PrintRequest.ofPack entry.1 key.toPack
          (Service.leaves entry.1 start start) entry.2 with
      | error documentType =>
          rw [fate_of_missing selected assembled]
          exact iff_of_true rfl (Or.inr ⟨documentType, rfl⟩)
      | ok request =>
          rw [fate_of_assembled selected assembled]
          simp [Fate.report, Report.isSkipped]

private theorem Fate.skippable_of_report
    {came : Fate} {caseId : UInt64} {letter : Letter} {prints : Bool} {place : Nat}
    {fault : DispatchFault} (skipped : came.report caseId letter prints place = .skipped fault) :
    (∃ refusal, fault = .refused refusal) ∨
      ∃ letter documentType, fault = .missingDocument letter documentType := by
  cases came with
  | refused refusal =>
      exact Or.inl ⟨refusal, (Report.skipped.inj skipped).symm⟩
  | incomplete key documentType =>
      cases prints with
      | false => cases skipped
      | true => exact Or.inr ⟨letter, documentType, (Report.skipped.inj skipped).symm⟩
  | complete key request =>
      cases prints <;> cases skipped

private theorem skippable_of_mem_reports
    (start : CaseFile) {prints : Bool} {place : Nat} {letters : List (Letter × Party)}
    {fault : DispatchFault} (member : .skipped fault ∈ reports start prints place letters) :
    (∃ refusal, fault = .refused refusal) ∨
      ∃ letter documentType, fault = .missingDocument letter documentType := by
  induction letters generalizing place with
  | nil =>
      cases member
  | cons entry letters ih =>
      rcases List.mem_cons.1 member with here | later
      · exact Fate.skippable_of_report here.symm
      · exact ih later

private theorem isOk_requireUnrepresented
    (letter : Letter) (facts : CaseFacts) (party : Party) (key : PackKey) :
    (requireUnrepresented letter facts party >>= fun _ => .ok key).isOk =
      !(facts.applicant party).isRepresented := by
  unfold requireUnrepresented require
  split
  · next unrepresented => exact unrepresented.symm
  · next represented => exact (Bool.eq_false_iff.2 represented).symm

private theorem any_encloses_lifecycle (start : CaseFile) :
    lifecycle.any (encloses start) = !start.facts.applicant1.isRepresented := by
  have application : encloses start (.applyForConditionalOrder, .applicant1) =
      !start.facts.applicant1.isRepresented := isOk_requireUnrepresented _ start.facts _ _
  have reminder : encloses start (.awaitingConditionalOrderReminder, .applicant1) =
      !start.facts.applicant1.isRepresented := isOk_requireUnrepresented _ start.facts _ _
  simp only [lifecycle, List.any_cons, List.any_nil, application, reminder]
  simp [encloses, Letter.enclosesForm]

private theorem rendered_of_advances
    {prints : Bool} {last : Progress}
    (advances : Advances start prints lifecycle (.start start) last) :
    last.rendered = renderedForms start := by
  apply start.attach_injective
  rw [← advances.keeps.attached, advances.filed, any_encloses_lifecycle]
  unfold renderedForms
  cases start.facts.applicant1.isRepresented with
  | true =>
      simp [Progress.start]
  | false =>
      cases held : start.facts.hasDocument .conditionalOrderApplicationForm with
      | true => simpa using CaseFile.withForm_of_held held
      | false => simpa using CaseFile.withForm_of_absent held

end

/-- The words for what came of a letter. -/
inductive Tells : Report → String → Prop
  | resolved (pack : PackKey) (documents : Nat) :
      Tells (.resolved pack documents)
        (pack.name ++ " (" ++ Number.decimal documents ++ " documents)")
  | printed (reference : String) (documents : Nat) :
      Tells (.printed ⟨reference, documents⟩)
        ("printed as " ++ reference ++ " (" ++ Number.decimal documents ++ " documents)")
  | skipped (fault : DispatchFault) :
      Tells (.skipped fault) ("skipped (" ++ fault.message ++ ")")

def LineTells (step : (Letter × Party) × Report) (line : String) : Prop :=
  ∃ told, Tells step.2 told ∧
    line = "  " ++ step.1.1.name ++ " -> " ++ step.1.2.name ++ ": " ++ told ++ "\n"

/-- A text tells of a walk: of the case, of each letter on a line of its own, of the rendered
documents and, when the letters were printed, of the queue. -/
def Recounts
    (caseFile : CaseFile) (prints : Bool) (walked : List Report × Progress) (shown : String) :
    Prop :=
  ∃ lines : List String,
    List.Forall₂ LineTells (lifecycle.zip walked.1) lines ∧
    shown =
      "Document pack demo for case " ++ caseFile.number ++ "\n" ++
        "- " ++ caseFile.facts.applicant1.fullName ++ " / " ++
          caseFile.facts.applicationKind.title ++ " / " ++
          caseFile.facts.applicant2.fullName ++ "\n" ++
      String.join lines ++
      "\nOn-demand documents generated: " ++ Number.decimal walked.2.rendered.length ++ "\n" ++
      String.join (walked.2.rendered.map fun document =>
        "  - " ++ document.displayName ++ " (" ++ document.fileName ++ ")\n") ++
      if prints then "Letters queued for print: " ++ Number.decimal walked.2.posted.length ++ "\n"
      else ""

section

variable {catalog : Catalog} {tree : FileTree} {path text : String} {caseFile : CaseFile}
  {prints : Bool} {walked : List Report × Progress}

private theorem tells_message (report : Report) : Tells report report.message := by
  cases report with
  | resolved pack documents => exact .resolved pack documents
  | printed receipt => exact .printed receipt.letterReference receipt.documentCount
  | skipped fault => exact .skipped fault

private theorem forall₂_reportLine (steps : List ((Letter × Party) × Report)) :
    List.Forall₂ LineTells steps (steps.map reportLine) := by
  rw [List.forall₂_map_right_iff, List.forall₂_same]
  exact fun step _ => ⟨step.2.message, tells_message step.2, rfl⟩

private theorem exists_transcript
    (walks : walk catalog prints (.start caseFile) lifecycle = .ok walked) :
    ∃ shown, transcript catalog prints caseFile = .ok shown ∧
      Recounts caseFile prints walked shown := by
  obtain ⟨reports, progress⟩ := walked
  have told : transcript catalog prints caseFile =
      .ok (heading caseFile ++ String.join ((lifecycle.zip reports).map reportLine) ++
        closing prints progress) := by
    rw [transcript, walks]
    rfl
  refine ⟨_, told, _, forall₂_reportLine _, ?_⟩
  unfold heading closing
  dsimp only
  simp only [String.append_assoc]

theorem runOn_showDemo
    (built : Catalog.standard = .ok catalog)
    (walks : walk catalog prints (.start caseFile) lifecycle = .ok walked) (tree : FileTree) :
    ∃ shown, transcript catalog prints caseFile = .ok shown ∧
      Recounts caseFile prints walked shown ∧
      (Command.showDemo prints caseFile).runOn tree = (.finished shown, tree) := by
  obtain ⟨shown, told, recounts⟩ := exists_transcript walks
  refine ⟨shown, told, recounts, ?_⟩
  simp only [Command.showDemo, Program.withCatalog, built, Program.orFail, told]
  rfl

private theorem runOn_demo
    (built : Catalog.standard = .ok catalog) (skipPrint : Bool)
    (walks : walk catalog (!skipPrint) (.start caseFile) lifecycle = .ok walked)
    (environment : Environment) (today : Date) (read : tree.read path = .ok text)
    (wellFormed : Program.readCase text = .ok caseFile) (issueDate : Option Date) :
    ∃ shown, transcript catalog (!skipPrint) caseFile = .ok shown ∧
      Recounts caseFile (!skipPrint) walked shown ∧
      (Command.program environment today (.demo (some path) issueDate skipPrint)).runOn tree =
        (.finished shown, tree) := by
  obtain ⟨shown, told, recounts, finished⟩ := runOn_showDemo built walks tree
  refine ⟨shown, told, recounts, ?_⟩
  rw [← finished]
  refine (Program.runOn_withCase read _).trans ?_
  rw [wellFormed, Program.orFail]

end

/-- The two walks of the demonstration on a case, resolving and printing. -/
structure WalksThrough
    (catalog : Catalog) (caseFile : CaseFile) (resolving printing : List Report × Progress) :
    Prop where
  resolves : walk catalog false (.start caseFile) lifecycle = .ok resolving
  prints : walk catalog true (.start caseFile) lifecycle = .ok printing
  /-- So the application finishes on the case when it is read from a file. -/
  finishes : ∀ (environment : Environment) (today : Date) (tree : FileTree) (path text : String)
    (issueDate : Option Date) (skipPrint : Bool),
    tree.read path = .ok text → Program.readCase text = .ok caseFile →
      ∃ shown, transcript catalog (!skipPrint) caseFile = .ok shown ∧
        Recounts caseFile (!skipPrint) (if skipPrint then resolving else printing) shown ∧
        (Command.program environment today (.demo (some path) issueDate skipPrint)).runOn tree =
          (.finished shown, tree)
  reported : resolving.1.length = lifecycle.length ∧ printing.1.length = lifecycle.length
  /-- The queue holds one letter for each step that is reported as printed, and no other. -/
  posted : (lifecycle.zip printing.1).filterMap printedStep? =
    printing.2.posted.zipIdx.map (stepOf caseFile.id)
  unposted : resolving.2.posted = []
  rendered : resolving.2.rendered = renderedForms caseFile ∧
    printing.2.rendered = renderedForms caseFile
  /-- A letter is skipped only when no pack is selected or a document is missing. -/
  skippable : ∀ fault, Report.skipped fault ∈ resolving.1 ++ printing.1 →
    (∃ refusal, fault = .refused refusal) ∨
      ∃ letter documentType, fault = .missingDocument letter documentType
  /-- Printing skips what resolving skips, and the letters for which a document is lacking. -/
  skipped : ∀ (place : Nat) entry resolved printed, lifecycle[place]? = some entry →
    resolving.1[place]? = some resolved → printing.1[place]? = some printed →
      (printed.isSkipped = true ↔
        resolved.isSkipped = true ∨ LacksDocument catalog caseFile entry)

/-- Both walks come to their end on every case. -/
theorem exists_walksThrough (caseFile : CaseFile) :
    ∃ catalog resolving printing, Catalog.standard = .ok catalog ∧
      WalksThrough catalog caseFile resolving printing := by
  have built := Catalog.standard_eq_ok
  obtain ⟨resolvedAll, resolves, resolved, unposted⟩ :=
    walk_start_eq_ok built caseFile false lifecycle
  obtain ⟨printedAll, prints, printed, posted⟩ :=
    walk_start_eq_ok built caseFile true lifecycle
  refine ⟨⟨standardRules⟩, _, _, built, {
    resolves := resolves
    prints := prints
    finishes := ?_
    reported := ⟨length_reports .., length_reports ..⟩
    posted := ?_
    unposted := ?_
    rendered := ⟨rendered_of_advances resolved, rendered_of_advances printed⟩
    skippable := ?_
    skipped := ?_ }⟩
  · intro environment today tree path text issueDate skipPrint read wellFormed
    cases skipPrint with
    | false => exact runOn_demo built false prints environment today read wellFormed issueDate
    | true => exact runOn_demo built true resolves environment today read wellFormed issueDate
  · rw [posted]
    exact filterMap_printedStep? caseFile 0 lifecycle
  · rw [unposted]
    simp only [Fate.posted_false, List.flatMap_eq_nil_iff, implies_true]
  · intro fault member
    rcases List.mem_append.1 member with resolvedHere | printedHere
    · exact skippable_of_mem_reports caseFile resolvedHere
    · exact skippable_of_mem_reports caseFile printedHere
  · intro place entry resolvedReport printedReport listed resolvedHere printedHere
    obtain ⟨_, resolvedFate⟩ := getElem?_reports caseFile listed 0
    obtain ⟨_, printedFate⟩ := getElem?_reports caseFile listed 0
    rw [Option.some.inj (resolvedHere.symm.trans resolvedFate),
      Option.some.inj (printedHere.symm.trans printedFate)]
    exact isSkipped_report_iff built caseFile entry _ _

end Demo

end LetterPacks
