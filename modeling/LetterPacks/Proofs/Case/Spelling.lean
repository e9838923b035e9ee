import LetterPacks.CommandLine.Program
import LetterPacks.Proofs.Dispatch.Session
import LetterPacks.Proofs.Json.SpellingRead
import LetterPacks.Proofs.Json.Written

/-!
# Reading a case file

The shape of a case file is unambiguous, so a case file is read back from every text that spells it.
Its two written forms are such texts.
-/

namespace LetterPacks

open Json

theorem Program.runOn_withCase
    {tree : FileTree} {path text : String} (read : tree.read path = .ok text)
    (next : CaseFile → Program) :
    (Program.withCase path next).runOn tree =
      (Program.orFail .caseFile next (Program.readCase text)).runOn tree := by
  simp only [Program.withCase, Program.runOn, read, Program.orFail]

/-- A program that wants a case from a file that holds none fails and leaves the files alone. -/
theorem Program.runOn_withCase_of_unread
    {tree : FileTree} {path text : String} {fault : Json.Fault} (read : tree.read path = .ok text)
    (unread : Program.readCase text = .error fault) (next : CaseFile → Program) :
    (Program.withCase path next).runOn tree = (.failed (.caseFile fault), tree) := by
  rw [Program.runOn_withCase read, unread]
  rfl

namespace CaseFile

theorem unambiguous_shape : CaseFile.shape.Unambiguous := by
  simp [CaseFile.shape, CaseFacts.shape, Applicant.shape, Solicitor.shape, Application.shape,
    Acknowledgement.shape, ConditionalOrder.shape, FinalOrder.shape, InformationRequest.shape,
    CaseDocument.shape, Shape.Unambiguous, Fields.Unambiguous, Fields.names, Shape.isOptional]

/-- A text holds one spelling of a case file and white space around it. -/
def Spells (caseFile : CaseFile) (text : String) : Prop :=
  ∃ before written after, IsSpaces before ∧ CaseFile.shape.Spelled caseFile written ∧
    IsSpaces after ∧ text.toList = before ++ (written ++ after)

theorem readAll_of_spells {caseFile : CaseFile} {text : String} (spells : caseFile.Spells text) :
    CaseFile.shape.readAll text.toList = .ok caseFile := by
  obtain ⟨before, written, after, spacesBefore, spelled, spacesAfter, same⟩ := spells
  rw [same]
  exact Shape.readAll_of_spelled unambiguous_shape spacesBefore spelled spacesAfter

private theorem spells_of_writes
    {write : Nat → Json → List Char} (writes : Writes write) (caseFile : CaseFile) :
    caseFile.Spells (String.ofList (write 0 (CaseFile.shape.toJson caseFile))) :=
  ⟨[], _, [], isSpaces_nil, writes.spelled CaseFile.shape 0 caseFile, isSpaces_nil, by simp⟩

/-- A case file is read back from both of its written forms. -/
theorem readCase_written (caseFile : CaseFile) :
    Program.readCase (CaseFile.shape.toJson caseFile).compact = .ok caseFile ∧
      Program.readCase (CaseFile.shape.toJson caseFile).pretty = .ok caseFile :=
  ⟨readAll_of_spells (spells_of_writes writes_compactChars caseFile),
    readAll_of_spells (spells_of_writes writes_prettyChars caseFile)⟩

/-- A case file is read from every text that spells it. -/
theorem readCase_of_spells {caseFile : CaseFile} {text : String} (spells : caseFile.Spells text) :
    Program.readCase text = .ok caseFile :=
  readAll_of_spells spells

/-- A text of a case file: its members stand in another order, one that nobody wants is among them,
most defaults are left out, one party is the list of its values and one name is a record. -/
def unusualText : String :=
  String.ofList <|
    " \x7b\"note\": [1e5,\"\\ud800\"],\"data\": ".toList ++
    "\x7b\"application\":\x7b\"serviceMethod\":\x7b\"courtService\":null\x7d\x7d,".toList ++
    "\"applicant2\":\x7b\x7d,".toList ++
    "\"applicant1\":[\"\",\"\",null,false,null,false,false,false],".toList ++
    "\"divorceOrDissolution\":\"divorce\",".toList ++
    "\"applicationType\":\"soleApplication\"\x7d,\"id\": 7\x7d\n".toList

private theorem spelled_blank_applicant : Applicant.shape.Spelled {} "\x7b\x7d".toList :=
  .inl ⟨[], .inl ⟨rfl, .inl ⟨rfl, .inl ⟨rfl, .inl ⟨rfl, .inl ⟨rfl, .inl ⟨rfl, .inl ⟨rfl,
    .inl ⟨rfl, rfl⟩⟩⟩⟩⟩⟩⟩⟩, [], [], [], by simp, .refl _, .nil, Bracket.encloses_nil .record⟩

private theorem spelled_blank_applicant_in_order :
    Applicant.shape.Spelled {} "[\"\",\"\",null,false,null,false,false,false]".toList :=
  .inr ⟨_, ⟨_, _, rfl, quotes_quotedChars "", _, _, rfl, quotes_quotedChars "", _, _, rfl, rfl,
    _, _, rfl, rfl, _, _, rfl, rfl, _, _, rfl, rfl, _, _, rfl, rfl, _, _, rfl, rfl, rfl⟩,
    Bracket.encloses_cons .list _ _⟩

private theorem spellsName_courtService :
    SpellsName "courtService" "\x7b\"courtService\":null\x7d".toList :=
  .inr ⟨writtenEntry [] "courtService" "null".toList,
    ⟨spells_flatMap_escapedChar _, isSpaces_nil, isSpaces_nil⟩, rfl,
    Bracket.encloses_cons .record _ []⟩

private theorem spelled_courtService :
    Application.shape.Spelled ⟨.court, none, none⟩
      "\x7b\"serviceMethod\":\x7b\"courtService\":null\x7d\x7d".toList :=
  .inl ⟨_, .inr ⟨_, _, rfl, spellsName_courtService, .inl ⟨rfl, .inl ⟨rfl, rfl⟩⟩⟩,
    spellsRecord_of_entries isSpaces_nil [] (by simp) (.refl _)
      (Bracket.encloses_cons .record _ [])⟩

private theorem isValue_exponent_and_surrogate : IsValue "[1e5,\"\\ud800\"]".toList := by
  have none : IsDigits [] := by simp [IsDigits]
  have whole : IsWhole ['1'] := .digits rfl (by decide) none
  have power : IsExponent ['e', '5'] := .unsigned (.inl rfl) rfl none
  have exponent : IsValue "1e5".toList := .positive (.parts whole .none power)
  have surrogate : IsValue "\"\\ud800\"".toList :=
    .text (.unit (.digits (a := 'd') (b := '8') (c := '0') (d := '0') rfl rfl rfl rfl) .empty)
  exact .list (List.forall_mem_cons.2 ⟨exponent, List.forall_mem_singleton.2 surrogate⟩)
    (.parts isSpaces_nil (continued_flatMap _))

private theorem spells_unusualText : (CaseFile.bare 7).Spells unusualText := by
  have foreign : ∀ member ∈ [⟨"note", "[1e5,\"\\ud800\"]".toList⟩],
      Member.Foreign ["id", "data"] member :=
    List.forall_mem_singleton.2 ⟨by decide, isValue_exponent_and_surrogate⟩
  refine ⟨[' '], _, ['\n'], isSpaces_blank,
    .inl ⟨_, .inr ⟨_, _, rfl, rfl, .inr ⟨_, _, rfl, .inl ⟨_,
      .inr ⟨_, _, rfl, .inl (quotes_quotedChars _), .inr ⟨_, _, rfl, .inl (quotes_quotedChars _),
        .inl ⟨rfl, .inr ⟨_, _, rfl, spelled_blank_applicant_in_order,
          .inr ⟨_, _, rfl, spelled_blank_applicant, .inr ⟨_, _, rfl, spelled_courtService,
            .inl ⟨rfl, .inl ⟨rfl, .inl ⟨rfl, .inl ⟨rfl, .inl ⟨rfl, rfl⟩⟩⟩⟩⟩⟩⟩⟩⟩⟩⟩,
      spellsRecord_of_entries isSpaces_nil [] (by simp) (List.reverse_perm _)
        (Bracket.encloses_cons .record _ _)⟩, rfl⟩⟩,
      spellsRecord_of_entries isSpaces_blank _ foreign (List.reverse_perm _)
        (Bracket.encloses_cons .record _ _)⟩, isSpaces_lineStart 0,
    String.toList_ofList.trans ?_⟩
  decide +kernel

theorem readCase_unusualText : Program.readCase unusualText = .ok (CaseFile.bare 7) :=
  readCase_of_spells spells_unusualText

end CaseFile

end LetterPacks
