import LetterPacks.Catalog.Registry

/-!
# The decision table

The decision table shows which documents a letter can carry: one row for every slot of every pack
that the rule of a registered letter may select.  It is exported as lines of values between commas,
below a line of headings; a table without rows has no line at all.
-/

namespace LetterPacks

/-- Which template a pack uses in one of its slots. -/
structure DecisionRow where
  letter : Letter
  pack : PackKey
  documentType : DocumentType
  template : Option Template
  documentName : Option String
deriving DecidableEq, Repr

def Descriptor.rows (descriptor : Descriptor) (letter : Letter) : List DecisionRow :=
  descriptor.slots.map fun slot => {
    letter := letter
    pack := descriptor.key
    documentType := slot.documentType
    template := slot.template
    documentName := slot.template.bind descriptor.firstName? }

def SelectionRule.rows (rule : SelectionRule) : List DecisionRow :=
  rule.packs.flatMap fun key => key.descriptor.rows rule.letter

def Catalog.decisionTable (catalog : Catalog) : List DecisionRow :=
  catalog.rules.flatMap SelectionRule.rows

def DecisionRow.headings : List String :=
  ["letter_id", "pack", "document_type", "template", "document_name"]

def DecisionRow.fields (row : DecisionRow) : List String := [
  row.letter.name, row.pack.name, row.documentType.name, (row.template.map Template.name).getD "",
  row.documentName.getD ""]

def needsQuotes (field : String) : Bool :=
  field.toList.any fun character =>
    character = ',' || character = '"' || character = '\n' || character = '\r'

/-- A value as it is exported.  Inside quotes a quote is written twice. -/
def exportedField (field : String) : List Char :=
  if needsQuotes field then
    '"' :: (field.toList.flatMap fun character =>
      if character = '"' then ['"', '"'] else [character]) ++ ['"']
  else field.toList

def exportedLine (fields : List String) : String :=
  String.ofList (List.intercalate [','] (fields.map exportedField) ++ ['\n'])

def exportedTable (rows : List DecisionRow) : List String :=
  if rows.isEmpty then []
  else exportedLine DecisionRow.headings :: rows.map fun row => exportedLine row.fields

end LetterPacks
