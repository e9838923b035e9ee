import LetterPacks.Proofs.Case.Spelling
import LetterPacks.Proofs.Json.Truncation

/-!
# Case files that break off

A case file that was written only in part is never taken for a case, wherever its text breaks off,
and it is told from one that is spoilt: the text has ended too early, and no value in it is at
fault.
-/

namespace LetterPacks

open Json

namespace CaseFile

/-- No case is read from a text, since it ends too early. -/
structure EndsEarly (text : String) : Prop where
  unread : Program.readCase text = .error .ended
  /-- A program that wants the case from a file fails and leaves the files alone. -/
  stops : ∀ (tree : FileTree) (path : String) (next : CaseFile → Program),
    tree.read path = .ok text →
      (Program.withCase path next).runOn tree = (.failed (.caseFile .ended), tree)
  answered : (Failure.caseFile .ended).response.status = 400

/-- Whatever is left of a written case file ends too early. -/
theorem endsEarly_of_cut
    (form : Form) (caseFile : CaseFile) (front : String)
    (cut : front.toList <+: (form.text (CaseFile.shape.toJson caseFile)).toList)
    (proper : front ≠ form.text (CaseFile.shape.toJson caseFile)) : EndsEarly front := by
  have needsAll : CaseFile.shape.NeedsAll (form.chars 0 (CaseFile.shape.toJson caseFile)) :=
    Shape.needsAll_of_record unambiguous_shape form 0 caseFile
  have written : (form.text (CaseFile.shape.toJson caseFile)).toList =
      form.chars 0 (CaseFile.shape.toJson caseFile) := String.toList_ofList
  have ended : CaseFile.shape.read front.toList = .error .ended := by
    rw [written] at cut
    refine needsAll cut fun whole => proper ?_
    rw [Form.text, ← whole, String.ofList_toList]
  have unread : Program.readCase front = .error .ended := by
    rw [Program.readCase, Shape.readAll, ended]
  exact ⟨unread, fun _ _ next held => Program.runOn_withCase_of_unread held unread next, rfl⟩

theorem endsEarly_of_cut_kind :
    EndsEarly "\x7b\"id\":7,\"data\":\x7b\"applicationType\":\"soleApp" := by
  refine endsEarly_of_cut .compact (CaseFile.bare 7) _ ?_ ?_
  · rw [Form.text, String.toList_ofList, String.toList_ofList]
    decide +kernel
  · rw [Form.text, ne_eq, ← String.toList_inj, String.toList_ofList, String.toList_ofList]
    decide +kernel

end CaseFile

end LetterPacks
