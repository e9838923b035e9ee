import LetterPacks.Pack.DocumentType
import LetterPacks.Pack.Key
import LetterPacks.Pack.Template

/-!
# Pack descriptors

A descriptor states what a pack is made of: the slots of the envelope in their order, and the
names under which the rendered documents are posted.  A slot either carries a template or stands
for a document that lies in the case file already.

A descriptor is sound when no document type has two slots, every template in use has a name and
every named template is in use.  `Descriptor.fault?` finds the first fault of one that is not: the
slots are looked through in their order, then the names in theirs.
-/

namespace LetterPacks

/-- The family of letters that a pack belongs to. -/
inductive Track where
  | divorce
  | judicialSeparation
deriving DecidableEq, Repr

def Track.vocabulary : Vocabulary Track where
  all := [.divorce, .judicialSeparation]
  name
    | .divorce => "divorce"
    | .judicialSeparation => "judicial_separation"
  complete := by intro value; cases value <;> decide
  distinct := by decide

inductive Audience where
  | citizen
  | solicitor
deriving DecidableEq, Repr

def Audience.vocabulary : Vocabulary Audience where
  all := [.citizen, .solicitor]
  name
    | .citizen => "citizen"
    | .solicitor => "solicitor"
  complete := by intro value; cases value <;> decide
  distinct := by decide

/-- One place in the envelope.  Without a template its document is taken from the case file. -/
structure Slot where
  documentType : DocumentType
  template : Option Template
deriving DecidableEq, Repr

namespace Slot

def rendered (documentType : DocumentType) (template : Template) : Slot :=
  ⟨documentType, some template⟩

def fromCaseFile (documentType : DocumentType) : Slot :=
  ⟨documentType, none⟩

end Slot

structure Descriptor where
  key : PackKey
  track : Track
  audience : Audience
  /-- The places in the envelope, in the order in which they are printed. -/
  slots : List Slot
  names : List (Template × String)
deriving DecidableEq, Repr

inductive DescriptorFault where
  | duplicateDocument (pack : PackKey) (documentType : DocumentType)
  | missingName (pack : PackKey) (template : Template)
  | unusedName (pack : PackKey) (template : Template)
deriving DecidableEq, Repr

def DescriptorFault.message : DescriptorFault → String
  | .duplicateDocument pack documentType =>
      "pack " ++ pack.name ++ " lists " ++ documentType.name ++ " more than once"
  | .missingName pack template =>
      "pack " ++ pack.name ++ " references template " ++ template.name ++
        " without a document name"
  | .unusedName pack template =>
      "pack " ++ pack.name ++ " names template " ++ template.name ++ " but never uses it"

namespace Descriptor

def firstName? (descriptor : Descriptor) (template : Template) : Option String :=
  (descriptor.names.find? fun entry => entry.1 == template).map Prod.snd

def lastName? (descriptor : Descriptor) (template : Template) : Option String :=
  (descriptor.names.reverse.find? fun entry => entry.1 == template).map Prod.snd

def slotFault? (descriptor : Descriptor) (before : List Slot) (slot : Slot) :
    Option DescriptorFault :=
  if before.any fun earlier => earlier.documentType == slot.documentType then
    some (.duplicateDocument descriptor.key slot.documentType)
  else
    match slot.template with
    | some template =>
        if descriptor.names.any fun entry => entry.1 == template then none
        else some (.missingName descriptor.key template)
    | none => none

def slotsFault? (descriptor : Descriptor) (before : List Slot) : List Slot → Option DescriptorFault
  | [] => none
  | slot :: slots =>
      match descriptor.slotFault? before slot with
      | some fault => some fault
      | none => descriptor.slotsFault? (before ++ [slot]) slots

def nameFault? (descriptor : Descriptor) : Option DescriptorFault :=
  (descriptor.names.find? fun entry =>
    !descriptor.slots.any fun slot => slot.template == some entry.1).map
      fun entry => .unusedName descriptor.key entry.1

def fault? (descriptor : Descriptor) : Option DescriptorFault :=
  match descriptor.slotsFault? [] descriptor.slots with
  | some fault => some fault
  | none => descriptor.nameFault?

end Descriptor

end LetterPacks
