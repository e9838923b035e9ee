import LetterPacks.Proofs.Pack.Naming

/-!
# Packs of sound descriptors

Nothing that a sound descriptor states is lost in the pack that it describes.  A pack looks its
slots up by document type and its names by template, each time taking one entry; since a sound
descriptor has one slot for each document type and a name for each template in use, what is found is
what the descriptor states.
-/

namespace LetterPacks

/-- A pack holds all of what a descriptor states, and nothing else. -/
structure Descriptor.BundledIn (descriptor : Descriptor) (pack : Pack) : Prop where
  slots : pack.slots = descriptor.slots
  /-- The slot that is found for the document type of a listed slot is that slot, with the template
  that it carries or with none. -/
  slotFor_listed : ∀ slot ∈ descriptor.slots, pack.slotFor? slot.documentType = some slot
  slotFor_unlisted : ∀ documentType, documentType ∉ descriptor.slots.map Slot.documentType →
    pack.slotFor? documentType = none
  contains : ∀ documentType, pack.contains documentType = (pack.slotFor? documentType).isSome
  /-- The document types without a template are listed in the order of the slots, each once. -/
  derived_order : pack.derivedTypes.Sublist (descriptor.slots.map Slot.documentType)
  derived_nodup : pack.derivedTypes.Nodup
  mem_derived : ∀ documentType,
    documentType ∈ pack.derivedTypes ↔ ⟨documentType, none⟩ ∈ descriptor.slots
  /-- The named templates are those in use, each with one name. -/
  named_nodup : (pack.names.map Prod.fst).Nodup
  mem_named : ∀ template, template ∈ pack.names.map Prod.fst ↔ descriptor.Uses template
  /-- A template in use is found under a name that the descriptor lists for it. -/
  templateName : ∀ template, descriptor.Uses template →
    ∃ name, (template, name) ∈ descriptor.names ∧ pack.templateName? template = some name

private theorem Pack.contains_eq_isSome_slotFor? (pack : Pack) (documentType : DocumentType) :
    pack.contains documentType = (pack.slotFor? documentType).isSome := by
  rw [Bool.eq_iff_iff, Pack.contains, List.contains_iff_mem, Pack.documentTypes, List.mem_map,
    Pack.slotFor?, List.isSome_find?, List.any_eq_true]
  simp only [beq_iff_eq]

namespace Descriptor

variable {descriptor : Descriptor} {slots : List Slot} {slot : Slot} {template : Template}

private theorem find?_documentType_of_mem
    (distinct : (slots.map Slot.documentType).Nodup) (member : slot ∈ slots) :
    (slots.find? fun other => other.documentType == slot.documentType) = some slot := by
  cases found : slots.find? fun other => other.documentType == slot.documentType with
  | none =>
      have unequal := List.find?_eq_none.1 found slot member
      simp at unequal
  | some other =>
      have sameType : other.documentType = slot.documentType := by
        simpa using List.find?_some found
      have otherMember : other ∈ slots := List.mem_of_find?_eq_some found
      rw [List.inj_on_of_nodup_map distinct otherMember member sameType]

private theorem mem_derivedTypes_toPack {documentType : DocumentType} :
    documentType ∈ descriptor.toPack.derivedTypes ↔ ⟨documentType, none⟩ ∈ descriptor.slots := by
  rw [Pack.derivedTypes, List.mem_map]
  constructor
  · rintro ⟨⟨_, _ | template⟩, member, rfl⟩
    · exact (List.mem_filter.1 member).1
    · cases (List.mem_filter.1 member).2
  · intro member
    exact ⟨_, List.mem_filter.2 ⟨member, rfl⟩, rfl⟩

private theorem derivedTypes_toPack_sublist (descriptor : Descriptor) :
    descriptor.toPack.derivedTypes.Sublist (descriptor.slots.map Slot.documentType) :=
  List.filter_sublist.map Slot.documentType

private theorem map_fst_names_toPack (descriptor : Descriptor) :
    descriptor.toPack.names.map Prod.fst =
      Template.all.filter fun template => (descriptor.lastName? template).isSome := by
  rw [toPack, List.map_filterMap, ← List.filterMap_eq_filter]
  congr 1
  funext template
  cases named : descriptor.lastName? template <;> simp [named, Option.guard]

private theorem mem_names_toPack_iff :
    template ∈ descriptor.toPack.names.map Prod.fst ↔ descriptor.Names template := by
  rw [map_fst_names_toPack, List.mem_filter, isSome_lastName?_iff]
  exact and_iff_right (Template.vocabulary.complete template)

private theorem names_toPack_nodup (descriptor : Descriptor) :
    (descriptor.toPack.names.map Prod.fst).Nodup := by
  have distinct : Template.all.Nodup := Template.vocabulary.distinct.of_map _
  rw [map_fst_names_toPack]
  exact distinct.filter _

theorem Sound.names_iff_uses (sound : descriptor.Sound) :
    descriptor.Names template ↔ descriptor.Uses template := by
  constructor
  · intro named
    obtain ⟨entry, member, rfl⟩ := List.mem_map.1 named
    exact sound.used entry member
  · rintro ⟨slot, member, used⟩
    exact sound.named slot member template used

private theorem exists_lastName?_of_names (named : descriptor.Names template) :
    ∃ name, (template, name) ∈ descriptor.names ∧ descriptor.lastName? template = some name := by
  obtain ⟨name, found⟩ := Option.isSome_iff_exists.1 (isSome_lastName?_iff.2 named)
  refine ⟨name, ?_, found⟩
  rw [lastName?, Option.map_eq_some_iff] at found
  obtain ⟨⟨other, _⟩, found, rfl⟩ := found
  obtain rfl : other = template := by simpa using List.find?_some found
  exact List.mem_reverse.1 (List.mem_of_find?_eq_some found)

/-- The pack of a descriptor without a fault holds all of what the descriptor states. -/
theorem bundledIn_toPack (faultless : descriptor.fault? = none) :
    descriptor.BundledIn descriptor.toPack := by
  have sound := fault?_eq_none_iff.1 faultless
  exact {
    slots := rfl
    slotFor_listed := fun slot member => find?_documentType_of_mem sound.distinct member
    slotFor_unlisted := by
      intro documentType unlisted
      rw [Pack.slotFor?, List.find?_eq_none]
      intro slot member same
      exact unlisted (List.mem_map.2 ⟨slot, member, eq_of_beq same⟩)
    contains := descriptor.toPack.contains_eq_isSome_slotFor?
    derived_order := descriptor.derivedTypes_toPack_sublist
    derived_nodup := descriptor.derivedTypes_toPack_sublist.nodup sound.distinct
    mem_derived := fun _ => mem_derivedTypes_toPack
    named_nodup := descriptor.names_toPack_nodup
    mem_named := fun _ => mem_names_toPack_iff.trans sound.names_iff_uses
    templateName := by
      intro template used
      rw [templateName?_toPack]
      exact exists_lastName?_of_names (sound.names_iff_uses.2 used) }

theorem bundledIn_toPack_of_shared_template :
    let descriptor : Descriptor := {
      key := .applyForCoSole
      track := .divorce
      audience := .citizen
      slots := [
        .rendered .coversheet .coversheetApplicant,
        .fromCaseFile .conditionalOrderApplicationForm,
        .rendered .applyForConditionalOrderLetter .coversheetApplicant]
      names := [(.coversheetApplicant, "Cover"), (.coversheetApplicant, "Coversheet")] }
    descriptor.fault? = none ∧ descriptor.BundledIn descriptor.toPack ∧
      descriptor.toPack.derivedTypes = [.conditionalOrderApplicationForm] ∧
      descriptor.toPack.names = [(.coversheetApplicant, "Coversheet")] :=
  ⟨rfl, bundledIn_toPack rfl, rfl, by decide⟩

end Descriptor

end LetterPacks
