import LetterPacks.Pack.Descriptor
import Mathlib.Data.List.Nodup

/-!
# Sound descriptors

A descriptor is sound when no document type has two slots, every template in use has a name and
every named template is in use.  The check finds no fault exactly in a sound descriptor.  In any
other one it finds the fault of the first slot that does not stand well behind the slots before it,
and only where all slots do, the first name without a use.

The slots are followed in their order; the slots that have been looked through so far are sound by
themselves.
-/

namespace LetterPacks

namespace Descriptor

def Uses (descriptor : Descriptor) (template : Template) : Prop :=
  ∃ slot ∈ descriptor.slots, slot.template = some template

def Names (descriptor : Descriptor) (template : Template) : Prop :=
  template ∈ descriptor.names.map Prod.fst

/-- Some slots are sound among themselves: they have different document types, and their templates
have names. -/
structure SoundSlots (descriptor : Descriptor) (slots : List Slot) : Prop where
  distinct : (slots.map Slot.documentType).Nodup
  named : ∀ slot ∈ slots, ∀ template, slot.template = some template → descriptor.Names template

/-- All slots are sound, and every name is used. -/
structure Sound (descriptor : Descriptor) : Prop extends
    descriptor.SoundSlots descriptor.slots where
  used : ∀ entry ∈ descriptor.names, descriptor.Uses entry.1

/-- What is wrong with a slot that stands behind others.  A document type that is there already
comes before a template without a name. -/
inductive SlotFault (descriptor : Descriptor) (before : List Slot) (slot : Slot) :
    DescriptorFault → Prop
  | repeated :
      slot.documentType ∈ before.map Slot.documentType →
      SlotFault descriptor before slot (.duplicateDocument descriptor.key slot.documentType)
  | unnamed {template : Template} :
      slot.documentType ∉ before.map Slot.documentType →
      slot.template = some template →
      ¬ descriptor.Names template →
      SlotFault descriptor before slot (.missingName descriptor.key template)

/-- The fault that is met first, slots before names. -/
inductive FirstFault (descriptor : Descriptor) : DescriptorFault → Prop
  | slot {before after : List Slot} {slot : Slot} {fault : DescriptorFault} :
      descriptor.slots = before ++ slot :: after →
      descriptor.SoundSlots before →
      descriptor.SlotFault before slot fault →
      FirstFault descriptor fault
  | name {before after : List (Template × String)} {entry : Template × String} :
      descriptor.SoundSlots descriptor.slots →
      descriptor.names = before ++ entry :: after →
      (∀ earlier ∈ before, descriptor.Uses earlier.1) →
      ¬ descriptor.Uses entry.1 →
      FirstFault descriptor (.unusedName descriptor.key entry.1)

variable {descriptor : Descriptor} {before slots : List Slot} {slot : Slot}
  {fault : DescriptorFault}

private theorem any_documentType_iff :
    (before.any fun earlier => earlier.documentType == slot.documentType) = true ↔
      slot.documentType ∈ before.map Slot.documentType := by
  simp only [List.any_eq_true, List.mem_map, beq_iff_eq]

theorem any_names_iff {template : Template} :
    (descriptor.names.any fun entry => entry.1 == template) = true ↔
      descriptor.Names template := by
  simp only [Names, List.any_eq_true, List.mem_map, beq_iff_eq]

private theorem any_slots_iff {template : Template} :
    (descriptor.slots.any fun slot => slot.template == some template) = true ↔
      descriptor.Uses template := by
  simp only [Uses, List.any_eq_true, beq_iff_eq]

private theorem slotFault?_eq_some_iff :
    descriptor.slotFault? before slot = some fault ↔ descriptor.SlotFault before slot fault := by
  unfold slotFault?
  constructor
  · intro found
    split at found
    · next there =>
        obtain rfl := Option.some.inj found
        exact SlotFault.repeated (any_documentType_iff.1 there)
    · next new =>
        split at found
        · next template used =>
            split at found
            · cases found
            · next unnamed =>
                obtain rfl := Option.some.inj found
                exact SlotFault.unnamed (mt any_documentType_iff.2 new) used
                  (mt any_names_iff.2 unnamed)
        · cases found
  · intro faulty
    cases faulty with
    | repeated there =>
        rw [if_pos (any_documentType_iff.2 there)]
    | unnamed new used unnamed =>
        rw [if_neg (mt any_documentType_iff.1 new), used]
        exact if_neg (mt any_names_iff.1 unnamed)

private theorem soundSlots_concat_iff (sound : descriptor.SoundSlots before) :
    descriptor.SoundSlots (before ++ [slot]) ↔ descriptor.slotFault? before slot = none := by
  constructor
  · intro extended
    rw [Option.eq_none_iff_forall_ne_some]
    intro fault found
    cases slotFault?_eq_some_iff.1 found with
    | repeated there =>
        have distinct := extended.distinct
        rw [List.map_append, List.map_singleton, List.nodup_append] at distinct
        exact distinct.2.2 _ there _ List.mem_cons_self rfl
    | unnamed _ used unnamed =>
        have member : slot ∈ before ++ [slot] := List.mem_append_right before List.mem_cons_self
        exact unnamed (extended.named slot member _ used)
  · intro faultless
    have new : slot.documentType ∉ before.map Slot.documentType := by
      intro there
      cases faultless.symm.trans (slotFault?_eq_some_iff.2 (SlotFault.repeated there))
    constructor
    · rw [List.map_append, List.map_singleton, ← List.concat_eq_append]
      exact List.Nodup.concat new sound.distinct
    · intro other member template used
      rcases List.mem_append.1 member with earlier | last
      · exact sound.named other earlier template used
      · obtain rfl := List.mem_singleton.1 last
        by_contra unnamed
        cases faultless.symm.trans (slotFault?_eq_some_iff.2 (SlotFault.unnamed new used unnamed))

private theorem SoundSlots.of_append (sound : descriptor.SoundSlots (before ++ slots)) :
    descriptor.SoundSlots before where
  distinct := by
    have distinct := sound.distinct
    rw [List.map_append] at distinct
    exact distinct.of_append_left
  named := fun other member => sound.named other (List.mem_append_left slots member)

private theorem slotsFault?_append
    {between : List Slot} (sound : descriptor.SoundSlots (before ++ between))
    (slots : List Slot) :
    descriptor.slotsFault? before (between ++ slots) =
      descriptor.slotsFault? (before ++ between) slots := by
  induction between generalizing before with
  | nil =>
      rw [List.nil_append, List.append_nil]
  | cons head between ih =>
      rw [List.append_cons] at sound
      have passed : descriptor.slotFault? before head = none :=
        (soundSlots_concat_iff sound.of_append.of_append).1 sound.of_append
      rw [List.cons_append, slotsFault?, passed, List.append_cons before head between]
      exact ih sound

private theorem exists_split_of_slotsFault?_eq_some
    (sound : descriptor.SoundSlots before)
    (found : descriptor.slotsFault? before slots = some fault) :
    ∃ between slot after, slots = between ++ slot :: after ∧
      descriptor.SoundSlots (before ++ between) ∧
      descriptor.SlotFault (before ++ between) slot fault := by
  induction slots generalizing before with
  | nil =>
      cases found
  | cons head slots ih =>
      unfold slotsFault? at found
      split at found
      · next checked =>
          obtain rfl := Option.some.inj found
          refine ⟨[], head, slots, rfl, ?_, ?_⟩ <;> rw [List.append_nil]
          · exact sound
          · exact slotFault?_eq_some_iff.1 checked
      · next passed =>
          have extended := (soundSlots_concat_iff sound).2 passed
          obtain ⟨between, slot, after, rfl, soundBetween, faulty⟩ := ih extended found
          refine ⟨head :: between, slot, after, rfl, ?_, ?_⟩ <;> rw [List.append_cons]
          · exact soundBetween
          · exact faulty

private theorem soundSlots_of_slotsFault?_eq_none
    (sound : descriptor.SoundSlots before)
    (faultless : descriptor.slotsFault? before slots = none) :
    descriptor.SoundSlots (before ++ slots) := by
  induction slots generalizing before with
  | nil =>
      rwa [List.append_nil]
  | cons head slots ih =>
      unfold slotsFault? at faultless
      split at faultless
      · cases faultless
      · next passed =>
          have extended := (soundSlots_concat_iff sound).2 passed
          rw [List.append_cons]
          exact ih extended faultless

private theorem soundSlots_nil : descriptor.SoundSlots [] where
  distinct := List.nodup_nil
  named := fun _ member => absurd member List.not_mem_nil

private theorem slotsFault?_eq_none_iff :
    descriptor.slotsFault? [] slots = none ↔ descriptor.SoundSlots slots := by
  constructor
  · exact soundSlots_of_slotsFault?_eq_none soundSlots_nil
  · intro sound
    have behindNone : descriptor.SoundSlots ([] ++ slots) := sound
    have passed := slotsFault?_append behindNone []
    rwa [List.append_nil] at passed

private theorem slotsFault?_eq_some_iff :
    descriptor.slotsFault? [] slots = some fault ↔
      ∃ before slot after, slots = before ++ slot :: after ∧ descriptor.SoundSlots before ∧
        descriptor.SlotFault before slot fault := by
  constructor
  · exact exists_split_of_slotsFault?_eq_some soundSlots_nil
  · rintro ⟨before, slot, after, rfl, sound, faulty⟩
    have behindNone : descriptor.SoundSlots ([] ++ before) := sound
    rw [slotsFault?_append behindNone, List.nil_append, slotsFault?,
      slotFault?_eq_some_iff.2 faulty]

private theorem nameFault?_eq_none_iff :
    descriptor.nameFault? = none ↔ ∀ entry ∈ descriptor.names, descriptor.Uses entry.1 := by
  simp only [nameFault?, Option.map_eq_none_iff, List.find?_eq_none, Bool.not_eq_true',
    Bool.not_eq_false, any_slots_iff]

private theorem nameFault?_eq_some_iff :
    descriptor.nameFault? = some fault ↔
      ∃ before entry after, descriptor.names = before ++ entry :: after ∧
        (∀ earlier ∈ before, descriptor.Uses earlier.1) ∧ ¬ descriptor.Uses entry.1 ∧
        fault = .unusedName descriptor.key entry.1 := by
  simp only [nameFault?, Option.map_eq_some_iff, List.find?_eq_some_iff_append, Bool.not_eq_true',
    Bool.not_not, Bool.eq_false_iff, Ne, any_slots_iff]
  constructor
  · rintro ⟨entry, ⟨unused, before, after, split, used⟩, rfl⟩
    exact ⟨before, entry, after, split, used, unused, rfl⟩
  · rintro ⟨before, entry, after, split, used, unused, rfl⟩
    exact ⟨entry, ⟨unused, before, after, split, used⟩, rfl⟩

theorem fault?_eq_none_iff : descriptor.fault? = none ↔ descriptor.Sound := by
  unfold fault?
  constructor
  · intro faultless
    split at faultless
    · cases faultless
    · next passed =>
        exact ⟨slotsFault?_eq_none_iff.1 passed, nameFault?_eq_none_iff.1 faultless⟩
  · intro sound
    rw [slotsFault?_eq_none_iff.2 sound.toSoundSlots]
    exact nameFault?_eq_none_iff.2 sound.used

private theorem fault?_eq_some_iff :
    descriptor.fault? = some fault ↔ descriptor.FirstFault fault := by
  unfold fault?
  constructor
  · intro found
    split at found
    · next slotsFound =>
        obtain rfl := Option.some.inj found
        obtain ⟨before, slot, after, split, sound, faulty⟩ := slotsFault?_eq_some_iff.1 slotsFound
        exact FirstFault.slot split sound faulty
    · next passed =>
        have sound := slotsFault?_eq_none_iff.1 passed
        obtain ⟨before, entry, after, split, used, unused, rfl⟩ := nameFault?_eq_some_iff.1 found
        exact FirstFault.name sound split used unused
  · intro first
    cases first with
    | slot split sound faulty =>
        rw [slotsFault?_eq_some_iff.2 ⟨_, _, _, split, sound, faulty⟩]
    | name sound split used unused =>
        rw [slotsFault?_eq_none_iff.2 sound]
        exact nameFault?_eq_some_iff.2 ⟨_, _, _, split, used, unused, rfl⟩

/-- The check of a descriptor finds no fault exactly when the descriptor is sound, and otherwise
the fault that is met first. -/
theorem fault?_exact (descriptor : Descriptor) :
    (descriptor.fault? = none ↔ descriptor.Sound) ∧
      ∀ fault, descriptor.fault? = some fault ↔ descriptor.FirstFault fault :=
  ⟨fault?_eq_none_iff, fun _ => fault?_eq_some_iff⟩

/-- The second slot has a known document type and a template without a name, and the only name is
without a use. -/
example :
    let descriptor : Descriptor := {
      key := .foGrantedSolicitor
      track := .divorce
      audience := .solicitor
      slots := [.fromCaseFile .finalOrderGranted, .rendered .finalOrderGranted .coversheetSolicitor]
      names := [(.coversheetApplicant, "Coversheet")] }
    descriptor.fault? = some (.duplicateDocument .foGrantedSolicitor .finalOrderGranted) :=
  rfl

end Descriptor

end LetterPacks
