import LetterPacks.Pack.Descriptor

/-!
# Packs

A pack is the bundle of documents chosen for one recipient: the slots of its descriptor in their
order, and one name for every named template.  Where a descriptor names a template more than once,
the last name counts.
-/

namespace LetterPacks

/-- A bundle of documents chosen for one recipient. -/
structure Pack where
  key : PackKey
  track : Track
  audience : Audience
  /-- The places in the envelope, in the order in which they are printed. -/
  slots : List Slot
  /-- The named templates in their fixed order, each with its name. -/
  names : List (Template × String)
deriving DecidableEq, Repr

def Descriptor.toPack (descriptor : Descriptor) : Pack where
  key := descriptor.key
  track := descriptor.track
  audience := descriptor.audience
  slots := descriptor.slots
  names := Template.all.filterMap fun template =>
    (descriptor.lastName? template).map fun name => (template, name)

namespace Pack

def documentTypes (pack : Pack) : List DocumentType :=
  pack.slots.map Slot.documentType

def contains (pack : Pack) (documentType : DocumentType) : Bool :=
  pack.documentTypes.contains documentType

def slotFor? (pack : Pack) (documentType : DocumentType) : Option Slot :=
  pack.slots.find? fun slot => slot.documentType == documentType

def templateName? (pack : Pack) (template : Template) : Option String :=
  (pack.names.find? fun entry => entry.1 == template).map Prod.snd

def derivedTypes (pack : Pack) : List DocumentType :=
  (pack.slots.filter fun slot => slot.template.isNone).map Slot.documentType

end Pack

end LetterPacks
