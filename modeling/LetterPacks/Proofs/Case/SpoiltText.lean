import LetterPacks.Proofs.Case.Spelling
import LetterPacks.Proofs.Json.Faults

/-!
# Spoilt case files

A case file is written as records within records.  Where required members of one of them are left
out, the first of these in the fixed order is reported as missing, and a member that comes again
behind its first time is reported as a duplicate, wherever in the case file the record lies and
whatever stands behind the fault.
-/

namespace LetterPacks

open Json

namespace CaseFile

/-- No case is read from a text, since a value in it does not suit. -/
structure Refused (text : List Char) (mismatch : Mismatch) : Prop where
  unread : Program.readCase (String.ofList text) = .error (.unsuitable mismatch)
  /-- A program that wants the case from a file fails and leaves the files alone. -/
  stops : ∀ (tree : FileTree) (path : String) (next : CaseFile → Program),
    tree.read path = .ok (String.ofList text) → (Program.withCase path next).runOn tree =
      (.failed (.caseFile (.unsuitable mismatch)), tree)

variable {β : Type} {form : Form} {fields : Fields β} {values : β} {depth : Nat}
  {caseFile : CaseFile} {around : List Char → List Char}

private theorem refused_of_failsWithin
    (place : Json.Place form fields values depth CaseFile.shape caseFile 0 around)
    {inner : List Char} {mismatch : Mismatch}
    (fails : fields.FailsWithin inner (.unsuitable mismatch)) :
    Refused (around (Bracket.record.enclose inner)) mismatch := by
  have unread : Program.readCase (String.ofList (around (Bracket.record.enclose inner))) =
      .error (.unsuitable mismatch) := by
    have read := place.fails unambiguous_shape fails []
    rw [List.append_nil] at read
    rw [Program.readCase, String.toList_ofList, Shape.readAll, read]
  exact ⟨unread, fun _ _ next held => Program.runOn_withCase_of_unread held unread next⟩

/-- What comes of a written case file when one record in it is spoiled. -/
structure DetectsSpoilt
    (caseFile : CaseFile) (form : Form) (fields : Fields β) (values : β) (depth : Nat)
    (around : List Char → List Char) : Prop where
  /-- Unspoiled, the record is part of the written case file. -/
  written : String.ofList (around (form.chars depth (.record (fields.toMembers values)))) =
    form.text (CaseFile.shape.toJson caseFile)
  /-- Of some required members that are left out the first one is missing. -/
  incomplete : ∀ deleted : List String, deleted ≠ [] → deleted ⊆ fields.requiredNames →
    ∃ first, fields.requiredNames.find? (fun name => name ∈ deleted) = some first ∧
      ∀ text, Bracket.record.Encloses (form.members depth
          ((fields.toMembers values).filter fun member => member.1 ∉ deleted)) text →
        Refused (around text) (.missingMember first)
  /-- A member that comes again, however it is written and with any value, is a duplicate. -/
  repeated : ∀ front back, front ++ back = fields.toMembers values →
    ∀ name ∈ front.map Prod.fst, ∀ entry : Entry, entry.Names name →
      ∀ text, Bracket.record.Encloses
          (form.members depth front ++ entry.chars :: form.members depth back) text →
        Refused (around text) (.duplicateMember name)

/-- Every record that lies in a written case file has a place there, and wherever it lies, it is
noticed when the record is spoiled. -/
theorem detectsSpoilt (form : Form) (caseFile : CaseFile) :
    (∀ members, Within (.record members) (CaseFile.shape.toJson caseFile) →
      CaseFile.shape.Holds form members caseFile 0) ∧
    ∀ (β : Type) (fields : Fields β) (values : β) (depth : Nat) (around : List Char → List Char),
      Json.Place form fields values depth CaseFile.shape caseFile 0 around →
        DetectsSpoilt caseFile form fields values depth around := by
  refine ⟨fun _ => CaseFile.shape.holds_of_within caseFile 0, fun _ fields values _ _ place => ?_⟩
  have unambiguous := place.unambiguous unambiguous_shape
  refine ⟨by rw [place.around_chars, Form.text], ?_, ?_⟩
  · intro deleted nonempty required
    obtain ⟨lost, listed⟩ := List.exists_mem_of_ne_nil deleted nonempty
    have exists_first : (fields.requiredNames.find? (fun name => name ∈ deleted)).isSome = true :=
      List.find?_isSome.2 ⟨lost, required listed, decide_eq_true listed⟩
    obtain ⟨first, found⟩ := Option.isSome_iff_exists.1 exists_first
    refine ⟨first, found, ?_⟩
    rintro text ⟨inner, enclosed, rfl⟩
    exact refused_of_failsWithin place
      (Fields.failsWithin_of_deleted unambiguous required found enclosed)
  · rintro front back all name before entry named text ⟨inner, enclosed, rfl⟩
    exact refused_of_failsWithin place
      (Fields.failsWithin_of_inserted unambiguous all before named enclosed)

def withApplication : CaseFile :=
  (CaseFile.bare 7).addDocument ⟨.application, "D8", "d8.pdf", "memory://d8.pdf"⟩

/-- The file name and the link of the document are left out, or its type comes again with a value
that is none. -/
theorem detectsSpoilt_withApplication :
    ∃ (β : Type) (fields : Fields β) (values : β) (around : List Char → List Char),
      Json.Place .compact fields values 3 CaseFile.shape withApplication 0 around ∧
      DetectsSpoilt withApplication .compact fields values 3 around ∧
      Refused (around "\x7b\"documentType\":\"APPLICATION\",\"displayName\":\"D8\"\x7d".toList)
        (.missingMember "fileName") ∧
      Refused
        (around ("\x7b\"documentType\":\"APPLICATION\",\"displayName\":\"D8\",".toList ++
          "\"documentType\":],\"fileName\":\"d8.pdf\",\"link\":\"memory://d8.pdf\"\x7d".toList))
        (.duplicateMember "documentType") := by
  have inList := @Json.Place.item .compact _ _ _ 3 _ CaseDocument.shape [] []
    ⟨.application, "D8", "d8.pdf", "memory://d8.pdf"⟩ 2 _ (.here rfl)
  have place : Json.Place .compact _ _ 3 CaseFile.shape withApplication 0 _ :=
    .member (.later .here) <| .member (.later <| .later <| .later <| .later <| .later <| .later <|
      .later <| .later <| .later <| .later .here) inList
  have encloses {parts : List (List Char)} {text : List Char}
      (same : Form.compact.enclose .record 3 parts = text) : Bracket.record.Encloses parts text :=
    same ▸ Form.compact.encloses_enclose .record 3 parts
  have detected := (detectsSpoilt .compact withApplication).2 _ _ _ _ _ place
  obtain ⟨first, found, refused⟩ :=
    detected.incomplete ["link", "fileName"] (by decide) (by decide)
  obtain rfl : "fileName" = first := Option.some.inj found
  refine ⟨_, _, _, _, place, detected, refused _ (encloses (by decide +kernel)), ?_⟩
  exact detected.repeated (List.take 2 _) (List.drop 2 _) (List.take_append_drop _ _)
    "documentType" (by decide) ⟨"documentType".toList, [], [], [']']⟩
    ⟨spells_flatMap_escapedChar _, isSpaces_nil, isSpaces_nil⟩ _ (encloses (by decide +kernel))

end CaseFile

end LetterPacks
