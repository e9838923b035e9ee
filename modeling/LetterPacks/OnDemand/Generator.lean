import LetterPacks.Case.File
import LetterPacks.Pack.DocumentType
import LetterPacks.Storage.FileTree

/-!
# Documents on demand

Some packs hold a paper form that is rendered into the case file only when the pack is needed.

A generator renders paper forms into documents.  It may remember what it has done, so it is given
as a step from one state to the next; a step either renders a document or fails.  Before a form is
rendered the case file is asked whether it holds a document of the type already.
-/

namespace LetterPacks

/-- A paper form that can be rendered into a case file. -/
structure OnDemandDocument where
  documentType : DocumentType
  displayName : String
  fileName : String
  templateFile : String
deriving DecidableEq, Repr

def d84Form : OnDemandDocument where
  documentType := .conditionalOrderApplicationForm
  displayName := "Application for a conditional order (D84)"
  fileName := "D84"
  templateFile := "D84.pdf"

inductive GenerationFault where
  | templateNotFound (path : String)
  | backend (detail : String)
deriving DecidableEq, Repr

def GenerationFault.message : GenerationFault → String
  | .templateNotFound path => "paper form template '" ++ path ++ "' is not available"
  | .backend detail => "document generation failed: " ++ detail

/-- Something that renders forms, with its own state. -/
structure Generator (σ : Type) where
  generate : σ → CaseFile → OnDemandDocument → Except GenerationFault CaseDocument × σ

/-- What came of making sure that a document lies in a case file. -/
structure Ensured (σ : Type) where
  outcome : Except GenerationFault Bool
  caseFile : CaseFile
  generator : σ

namespace Generator

/-- Puts a document into a case file unless one of its type lies there.  A failure leaves the case
file as it was. -/
def ensure {σ : Type} (generator : Generator σ) (document : OnDemandDocument)
    (caseFile : CaseFile) (state : σ) : Ensured σ :=
  if caseFile.facts.hasDocument document.documentType then ⟨.ok false, caseFile, state⟩
  else
    match generator.generate state caseFile document with
    | (.ok rendered, state) => ⟨.ok true, caseFile.addDocument rendered, state⟩
    | (.error fault, state) => ⟨.error fault, caseFile, state⟩

/-- The document rendered from a form; its name ends in the number of the case. -/
def rendered (caseFile : CaseFile) (document : OnDemandDocument) (link : String) :
    CaseDocument where
  documentType := document.documentType
  displayName := document.displayName
  fileName := document.fileName ++ "-" ++ caseFile.number ++ ".pdf"
  link := link

/-- A generator that keeps its documents in memory, oldest first, and never fails. -/
def inMemory : Generator (List CaseDocument) where
  generate documents caseFile document :=
    let result := rendered caseFile document ("memory://paper-forms/" ++ document.templateFile)
    (.ok result, documents ++ [result])

/-- The path of a file in a folder.  A path from the root on stays as it is. -/
def joinPath (folder file : String) : String :=
  match file.toList with
  | '/' :: _ => file
  | _ =>
      match folder.toList.getLast? with
      | none | some '/' => folder ++ file
      | some _ => folder ++ "/" ++ file

/-- A generator that takes the forms from a folder of a file tree and fails where there is none. -/
def paperForms (tree : FileTree) (folder : String) : Generator Unit where
  generate _ caseFile document :=
    let path := joinPath folder document.templateFile
    if tree.isFile path then (.ok (rendered caseFile document ("file://" ++ path)), ())
    else (.error (.templateNotFound path), ())

/-- A generator whose first calls fail; how many of them are left is part of its state. -/
def failingFirst {σ : Type} (fault : GenerationFault) (generator : Generator σ) :
    Generator (Nat × σ) where
  generate
    | (0, state), caseFile, document =>
        let (outcome, state) := generator.generate state caseFile document
        (outcome, 0, state)
    | (left + 1, state), _, _ => (.error fault, left, state)

end Generator

end LetterPacks
