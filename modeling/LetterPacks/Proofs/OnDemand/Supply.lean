import LetterPacks.Proofs.OnDemand.Recording
import Mathlib.Data.List.Nodup

/-!
# What the calls of a generator do to a case file

A form is asked for only when the case file holds no document of its type, and what is rendered is
attached at the end.  `Supplied` follows the case file from call to call, and `Accounted` is what
can be read off at the end: the case file is the first one with the rendered documents behind its
own, no type is rendered twice, and none that the first case file held.
-/

namespace LetterPacks

/-- One case file comes from another by some calls of a generator. -/
inductive Supplied (start : CaseFile) : CaseFile → List Call → Prop
  | start : Supplied start start []
  | failed {current : CaseFile} {calls : List Call} {form : OnDemandDocument}
      {fault : GenerationFault} :
      Supplied start current calls →
      current.facts.hasDocument form.documentType = false →
      Supplied start current (calls ++ [⟨current, form, .error fault⟩])
  | rendered {current : CaseFile} {calls : List Call} {form : OnDemandDocument}
      {document : CaseDocument} :
      Supplied start current calls →
      current.facts.hasDocument form.documentType = false →
      document.documentType = form.documentType →
      Supplied start (current.attach [document]) (calls ++ [⟨current, form, .ok document⟩])

/-- The account of a case file by the calls of a generator. -/
structure Accounted (start current : CaseFile) (calls : List Call) : Prop where
  /-- The rendered documents lie behind those of the first case file, and nothing else changed. -/
  attached : current = start.attach (Call.rendered calls)
  counted : current.facts.documents.length =
    start.facts.documents.length + calls.countP fun call => call.answer.isOk
  distinct : ((Call.rendered calls).map CaseDocument.documentType).Nodup
  /-- The first case file held no document of a rendered type. -/
  absent : ∀ document ∈ Call.rendered calls,
    start.facts.hasDocument document.documentType = false
  /-- Every call got the case file of its time, which held no document of the type asked for. -/
  called : ∀ earlier call, earlier ++ [call] <+: calls →
    call.caseFile = start.attach (Call.rendered earlier) ∧
      call.caseFile.facts.hasDocument call.form.documentType = false

namespace Supplied

variable {start current : CaseFile} {calls : List Call}

private theorem eq_attach (supplied : Supplied start current calls) :
    current = start.attach (Call.rendered calls) := by
  induction supplied with
  | start =>
      exact start.attach_nil.symm
  | failed _ _ ih =>
      simpa using ih
  | rendered _ _ _ ih =>
      rw [ih, CaseFile.attach_attach]
      simp

private theorem absent_of_hasDocument_eq_false
    (supplied : Supplied start current calls) {documentType : DocumentType}
    (absent : current.facts.hasDocument documentType = false) :
    start.facts.hasDocument documentType = false ∧
      documentType ∉ (Call.rendered calls).map CaseDocument.documentType := by
  rw [supplied.eq_attach, CaseFile.hasDocument_attach, Bool.or_eq_false_iff] at absent
  refine ⟨absent.1, ?_⟩
  simpa using absent.2

private theorem fresh (supplied : Supplied start current calls) :
    ((Call.rendered calls).map CaseDocument.documentType).Nodup ∧
      ∀ document ∈ Call.rendered calls,
        start.facts.hasDocument document.documentType = false := by
  induction supplied with
  | start =>
      exact ⟨List.nodup_nil, fun _ member => absurd member List.not_mem_nil⟩
  | failed _ _ ih =>
      simpa using ih
  | @rendered current calls form document earlier absent same ih =>
      rw [← same] at absent
      obtain ⟨absentFirst, unrendered⟩ := earlier.absent_of_hasDocument_eq_false absent
      rw [Call.rendered_append, Call.rendered_of_ok]
      constructor
      · rw [List.map_append, List.map_singleton, ← List.concat_eq_append]
        exact List.Nodup.concat unrendered ih.1
      · intro other member
        rcases List.mem_append.1 member with member | member
        · exact ih.2 other member
        · rw [List.mem_singleton.1 member]
          exact absentFirst

private theorem of_call
    (supplied : Supplied start current calls) {earlier : List Call} {call : Call}
    (called : earlier ++ [call] <+: calls) :
    call.caseFile = start.attach (Call.rendered earlier) ∧
      call.caseFile.facts.hasDocument call.form.documentType = false := by
  induction supplied with
  | start =>
      simp at called
  | failed before absent ih =>
      rcases List.prefix_concat_iff.1 called with last | called
      · obtain ⟨rfl, rfl⟩ := List.append_singleton_inj.1 last
        exact ⟨before.eq_attach, absent⟩
      · exact ih called
  | rendered before absent _ ih =>
      rcases List.prefix_concat_iff.1 called with last | called
      · obtain ⟨rfl, rfl⟩ := List.append_singleton_inj.1 last
        exact ⟨before.eq_attach, absent⟩
      · exact ih called

theorem accounted (supplied : Supplied start current calls) : Accounted start current calls where
  attached := supplied.eq_attach
  counted := by
    rw [supplied.eq_attach, CaseFile.documents_attach, List.length_append, Call.length_rendered]
  distinct := supplied.fresh.1
  absent := supplied.fresh.2
  called := fun _ _ called => supplied.of_call called

end Supplied

theorem Generator.Faithful.supplied_ensure
    {σ : Type} {generator : Generator σ} (faithful : generator.Faithful)
    {start current : CaseFile} {calls : List Call} (supplied : Supplied start current calls)
    (form : OnDemandDocument) (state : σ) :
    let ensured := generator.recorded.ensure form current (state, calls)
    Supplied start ensured.caseFile ensured.generator.2 := by
  cases held : current.facts.hasDocument form.documentType with
  | true =>
      rw [ensure_of_held held]
      exact supplied
  | false =>
      rcases answered : generator.generate state current form with ⟨fault | document, next⟩
      · rw [ensure_of_failed held (generate_recorded answered calls)]
        exact supplied.failed held
      · rw [ensure_of_rendered held (generate_recorded answered calls)]
        have same : document.documentType = form.documentType :=
          faithful (congrArg Prod.fst answered)
        exact supplied.rendered held same

end LetterPacks
