import LetterPacks.Proofs.Dispatch.Confidentiality
import LetterPacks.Proofs.Printing.MergedFacts

/-!
# Merged facts reach only their own letter

What the court asks for and the day of the respondent's answer are each quoted by one letter.  Every
other letter is printed alike for two cases that differ in nothing else, and the two letters differ
at most in the fact that they quote.
-/

namespace LetterPacks

namespace Service

variable {σ τ : Type} {service : Service σ τ} {letter : Letter} {party : Party}
  {left right : CaseFile}

/-- A letter is printed for two case files alike.  Both take up the same documents, and either the
printer is given nothing for the same reason, or one request each, and these are related. -/
def PrintsAlike
    (service : Service σ τ) (letter : Letter) (party : Party) (left right : CaseFile)
    (related : PrintRequest → PrintRequest → Prop) : Prop :=
  ∀ state queue,
    let recorded : Service σ (τ × List PrintRequest) :=
      ⟨service.catalog, service.generator, service.printer.recorded⟩
    ∃ documents next,
      (∃ fault,
        recorded.print letter party left state (queue, []) =
            ⟨.error fault, left.attach documents, next, queue, []⟩ ∧
          recorded.print letter party right state (queue, []) =
            ⟨.error fault, right.attach documents, next, queue, []⟩) ∨
      ∃ posted other, related posted other ∧
        let answer := service.printer.print queue posted
        let answerOther := service.printer.print queue other
        recorded.print letter party left state (queue, []) =
            ⟨answer.1.mapError .printing, left.attach documents, next, answer.2, [posted]⟩ ∧
          recorded.print letter party right state (queue, []) =
            ⟨answerOther.1.mapError .printing, right.attach documents, next, answerOther.2,
              [other]⟩

private theorem PrintsAlike.imp
    {related weaker : PrintRequest → PrintRequest → Prop}
    (alike : service.PrintsAlike letter party left right related)
    (implies : ∀ posted other, related posted other → weaker posted other) :
    service.PrintsAlike letter party left right weaker := by
  intro state queue
  obtain ⟨documents, next, failed | ⟨posted, other, relates, printed⟩⟩ := alike state queue
  · exact ⟨documents, next, Or.inl failed⟩
  · exact ⟨documents, next, Or.inr ⟨posted, other, implies posted other relates, printed⟩⟩

/-- One request gives way to the other as the merged facts of the one case give way to those of the
other. -/
def Remerged (letter : Letter) (left right : CaseFile) (posted other : PrintRequest) : Prop :=
  posted.answeredOn = PrintRequest.answeredOnFor letter left.facts ∧
    posted.informationRequested = PrintRequest.informationFor letter left.facts ∧
    other = posted.merging (PrintRequest.answeredOnFor letter right.facts)
      (PrintRequest.informationFor letter right.facts)

namespace Remerged

variable {posted other : PrintRequest}

private theorem eq_of_same_information
    (remerged : Remerged letter left right posted other)
    (same : PrintRequest.informationFor letter left.facts =
      PrintRequest.informationFor letter right.facts) :
    other = { posted with answeredOn := other.answeredOn } := by
  obtain ⟨_, asked, rfl⟩ := remerged
  simp only [PrintRequest.merging]
  rw [← same, ← asked]

private theorem eq_of_ne_response
    (remerged : Remerged letter left right posted other)
    (noResponse : letter ≠ .aosResponseLetter) :
    other = { posted with informationRequested := other.informationRequested } := by
  obtain ⟨answered, _, rfl⟩ := remerged
  rw [PrintRequest.answeredOnFor_of_ne noResponse] at answered
  simp only [PrintRequest.merging, PrintRequest.answeredOnFor_of_ne noResponse]
  rw [← answered]

private theorem eq
    (remerged : Remerged letter left right posted other)
    (noResponse : letter ≠ .aosResponseLetter)
    (same : PrintRequest.informationFor letter left.facts =
      PrintRequest.informationFor letter right.facts) : posted = other := by
  rw [remerged.eq_of_ne_response noResponse, remerged.eq_of_same_information same]

end Remerged

/-- Two cases that differ in what is merged are served alike by every letter, but for what is
merged. -/
private theorem printsAlike_remerged
    (built : Catalog.standard = .ok service.catalog) (discreet : service.generator.Discreet)
    (same : left.withoutMerged = right.withoutMerged) :
    service.PrintsAlike letter party left right (Remerged letter left right) := by
  intro state queue recorded
  have builtRecorded : Catalog.standard = .ok recorded.catalog := built
  have discreetRecorded : recorded.generator.Discreet := discreet
  have sameChoice : recorded.choose letter party left.facts =
      recorded.choose letter party right.facts :=
    choose_congr builtRecorded ((CaseFile.alike_of_withoutMerged same party).select_rule_eq letter)
  obtain ⟨outcome, documents, next, resolved, resolvedOther⟩ :=
    resolve_congr discreetRecorded (CaseFile.id_of_withoutMerged same)
      (CaseFile.documents_of_withoutMerged same) sameChoice state
  refine ⟨documents, next, ?_⟩
  cases outcome with
  | error fault =>
      exact Or.inl ⟨fault, print_of_unresolved resolved, print_of_unresolved resolvedOther⟩
  | ok pack =>
      rw [print_of_resolved resolved, print_of_resolved resolvedOther]
      have assembledOther := PrintRequest.ofPack_of_withoutMerged letter
        (CaseFile.attach_of_withoutMerged same documents) pack party
      cases assembled : PrintRequest.ofPack letter pack (left.attach documents) party with
      | error documentType =>
          rw [assembled] at assembledOther
          rw [post_of_missing assembled, post_of_missing assembledOther]
          exact Or.inl ⟨.missingDocument letter documentType, rfl, rfl⟩
      | ok posted =>
          rw [assembled] at assembledOther
          have asked := Printer.print_recorded
            (rfl : service.printer.print queue posted = _) []
          have askedOther := Printer.print_recorded
            (rfl : service.printer.print queue
              (posted.merging (PrintRequest.answeredOnFor letter right.facts)
                (PrintRequest.informationFor letter right.facts)) = _) []
          rw [post_of_assembled assembled asked, post_of_assembled assembledOther askedOther]
          obtain ⟨_, _, rfl⟩ := PrintRequest.eq_of_ofPack_eq_ok assembled
          exact Or.inr ⟨_, _, ⟨rfl, rfl, rfl⟩, rfl, rfl⟩

/-- What is merged reaches the letters that quote it and no other one. -/
structure KeepsMergedApart (service : Service σ τ) : Prop where
  /-- The printer is given requests with the merged facts of their own letters, and one such request
  for a letter that is printed. -/
  merged : ∀ letter party caseFile state queue,
    let printed := service.print letter party caseFile state queue
    ∃ calls requests,
      service.recorded.print letter party caseFile (state, []) (queue, []) =
        printed.recorded calls requests ∧
      (∀ request ∈ requests, request.MergesOwn letter caseFile.facts) ∧
      ∀ receipt, printed.outcome = .ok receipt → ∃ request, requests = [request]
  others : ∀ left right : CaseFile, left.withoutMerged = right.withoutMerged → ∀ letter party,
    letter ≠ .aosResponseLetter → letter ≠ .requestForInformation →
    service.PrintsAlike letter party left right Eq
  response : ∀ left right : CaseFile, left.withoutMerged = right.withoutMerged → ∀ party,
    service.PrintsAlike .aosResponseLetter party left right fun posted other =>
      other = { posted with answeredOn := other.answeredOn }
  information : ∀ left right : CaseFile, left.withoutMerged = right.withoutMerged → ∀ party,
    service.PrintsAlike .requestForInformation party left right fun posted other =>
      other = { posted with informationRequested := other.informationRequested }
  /-- White space around what is asked for makes no difference. -/
  sameInformation : ∀ left right : CaseFile, left.withoutMerged = right.withoutMerged →
    (left.facts.informationRequest.map (fun asked => Text.trim asked.details) =
      right.facts.informationRequest.map fun asked => Text.trim asked.details) →
    ∀ party, service.PrintsAlike .requestForInformation party left right Eq

private theorem mergesOwn_recorded
    (service : Service σ τ) (letter : Letter) (party : Party) (caseFile : CaseFile) (state : σ)
    (queue : τ) :
    let printed := service.print letter party caseFile state queue
    ∃ calls requests,
      service.recorded.print letter party caseFile (state, []) (queue, []) =
        printed.recorded calls requests ∧
      (∀ request ∈ requests, request.MergesOwn letter caseFile.facts) ∧
      ∀ receipt, printed.outcome = .ok receipt → ∃ request, requests = [request] := by
  obtain ⟨calls, requests, _, recorded, _, outcome⟩ :=
    service.print_recorded letter party caseFile state queue [] []
  obtain ⟨documents, attached⟩ := service.exists_attach_of_resolve letter party caseFile state
  refine ⟨calls, requests, recorded, ?_⟩
  rcases outcome with ⟨_, _, failed, rfl⟩ | ⟨_, _, _, _, failed, rfl⟩ |
    ⟨pack, request, _, assembled, _, rfl⟩
  · exact ⟨List.forall_mem_nil _, fun receipt posted => nomatch failed.symm.trans posted⟩
  · exact ⟨List.forall_mem_nil _, fun receipt posted => nomatch failed.symm.trans posted⟩
  · rw [attached] at assembled
    exact ⟨List.forall_mem_singleton.2 (PrintRequest.mergesOwn_of_ofPack_eq_ok documents assembled),
      fun receipt _ => ⟨request, rfl⟩⟩

theorem keepsMergedApart_of_standard
    (built : Catalog.standard = .ok service.catalog) (discreet : service.generator.Discreet) :
    service.KeepsMergedApart where
  merged := service.mergesOwn_recorded
  others := by
    intro left right same letter party noResponse noInformation
    apply (printsAlike_remerged built discreet same).imp
    intro posted other remerged
    apply remerged.eq noResponse
    rw [PrintRequest.informationFor_of_ne noInformation,
      PrintRequest.informationFor_of_ne noInformation]
  response := by
    intro left right same party
    apply (printsAlike_remerged built discreet same).imp
    intro posted other remerged
    exact remerged.eq_of_same_information rfl
  information := by
    intro left right same party
    apply (printsAlike_remerged built discreet same).imp
    intro posted other remerged
    exact remerged.eq_of_ne_response (by decide)
  sameInformation := by
    intro left right same sameText party
    apply (printsAlike_remerged built discreet same).imp
    intro posted other remerged
    exact remerged.eq (by decide) (PrintRequest.informationFor_congr sameText)

/-- White space of other kinds than the space stands around what is asked for, and only in one of
the cases it is known when the respondent answered.  A form is rendered for a third letter. -/
theorem keepsMergedApart_of_standard_of_padded :
    let bare := CaseFile.bare 7
    let answered : Date := ⟨2024, 2, 29, by decide⟩
    let left : CaseFile := { bare with
      facts := { bare.facts with
        acknowledgement := some ⟨.disputed, none⟩
        informationRequest := some ⟨.applicant1, "\u00A0Send\u2003it\u2028"⟩ } }
    let right : CaseFile := { bare with
      facts := { bare.facts with
        acknowledgement := some ⟨.disputed, some answered⟩
        informationRequest := some ⟨.applicant1, "Send\u2003it"⟩ } }
    let forms := Generator.paperForms (FileTree.ofFiles [("forms/D84.pdf", "")] []) "forms"
    let service : Service (Nat × Unit) (List PrintRequest) :=
      ⟨⟨standardRules⟩, forms.failingFirst (.backend "no paper"), Printer.inMemory⟩
    let posted (letter : Letter) (caseFile : CaseFile) :=
      (service.print letter .applicant1 caseFile (0, ()) []).printer
    Catalog.standard = .ok service.catalog ∧ service.generator.Discreet ∧
      service.KeepsMergedApart ∧
      left.withoutMerged = right.withoutMerged ∧ left ≠ right ∧
      (posted .requestForInformation left).map PrintRequest.informationRequested =
        [some "Send\u2003it"] ∧
      posted .requestForInformation left = posted .requestForInformation right ∧
      (posted .aosResponseLetter left).map PrintRequest.answeredOn = [none] ∧
      (posted .aosResponseLetter right).map PrintRequest.answeredOn = [some answered] ∧
      posted .applyForConditionalOrder left ≠ [] ∧
      posted .applyForConditionalOrder left = posted .applyForConditionalOrder right := by
  intro bare answered left right forms service posted
  have discreet : service.generator.Discreet :=
    (Generator.discreet_paperForms _ "forms").failingFirst _
  exact ⟨Catalog.standard_eq_ok, discreet,
    keepsMergedApart_of_standard Catalog.standard_eq_ok discreet,
    rfl, by decide, by decide +kernel, by decide +kernel, by decide +kernel, by decide +kernel,
    by decide +kernel, by decide +kernel⟩

end Service

end LetterPacks
