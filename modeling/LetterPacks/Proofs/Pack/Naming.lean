import LetterPacks.Pack.Table
import LetterPacks.Proofs.Pack.Soundness

/-!
# Names in packs

A descriptor is looked through for the first name of a template, and the pack that it describes for
the last one.  Both find the same name where no template is named twice, as in every descriptor of
the table.  Those are sound, so a pack of the table has a name for every template in use and for no
other one.
-/

namespace LetterPacks

namespace Descriptor

private theorem find?_reverse_of_nodup
    {entries : List (Template × String)} (distinct : (entries.map Prod.fst).Nodup)
    (template : Template) :
    (entries.reverse.find? fun entry => entry.1 == template) =
      entries.find? fun entry => entry.1 == template := by
  induction entries with
  | nil =>
      rfl
  | cons entry entries ih =>
      rw [List.map_cons, List.nodup_cons] at distinct
      rw [List.reverse_cons, List.find?_append, ih distinct.2]
      by_cases same : entry.1 = template
      · have unfound : (entries.find? fun other => other.1 == template) = none := by
          rw [List.find?_eq_none]
          intro other member
          have different : other.1 ≠ entry.1 :=
            fun equal => distinct.1 (equal ▸ List.mem_map_of_mem member)
          simpa [same] using different
        simp [unfound, same]
      · simp [same]

private theorem firstName?_eq_lastName?
    {descriptor : Descriptor} (distinct : (descriptor.names.map Prod.fst).Nodup)
    (template : Template) :
    descriptor.firstName? template = descriptor.lastName? template := by
  rw [firstName?, lastName?, find?_reverse_of_nodup distinct]

private theorem find?_filterMap_pair
    (value? : Template → Option String) {template : Template} {templates : List Template}
    (member : template ∈ templates) :
    ((templates.filterMap fun listed => (value? listed).map fun value => (listed, value)).find?
        fun entry => entry.1 == template) =
      (value? template).map fun value => (template, value) := by
  have listed_iff : ∀ entry : Template × String,
      entry ∈ (templates.filterMap fun listed =>
          (value? listed).map fun value => (listed, value)) ↔
        entry.1 ∈ templates ∧ value? entry.1 = some entry.2 := by
    rintro ⟨listed, value⟩
    simp only [List.mem_filterMap, Option.map_eq_some_iff, Prod.mk.injEq]
    constructor
    · rintro ⟨_, listedMember, _, named, rfl, rfl⟩
      exact ⟨listedMember, named⟩
    · rintro ⟨listedMember, named⟩
      exact ⟨listed, listedMember, value, named, rfl, rfl⟩
  cases found : (templates.filterMap fun listed =>
      (value? listed).map fun value => (listed, value)).find? fun entry => entry.1 == template with
  | none =>
      rw [List.find?_eq_none] at found
      cases named : value? template with
      | none =>
          rfl
      | some value =>
          have unfound := found (template, value) ((listed_iff _).2 ⟨member, named⟩)
          simp at unfound
  | some entry =>
      have named := ((listed_iff entry).1 (List.mem_of_find?_eq_some found)).2
      obtain rfl : entry.1 = template := by simpa using List.find?_some found
      rw [named]
      rfl

theorem templateName?_toPack (descriptor : Descriptor) (template : Template) :
    descriptor.toPack.templateName? template = descriptor.lastName? template := by
  have looked := find?_filterMap_pair descriptor.lastName? (Template.vocabulary.complete template)
  change (((Template.all.filterMap fun listed =>
    (descriptor.lastName? listed).map fun value => (listed, value)).find?
      fun entry => entry.1 == template).map Prod.snd) = descriptor.lastName? template
  rw [show Template.all = Template.vocabulary.all from rfl, looked, Option.map_map]
  exact Option.map_id'

theorem isSome_firstName?_iff {descriptor : Descriptor} {template : Template} :
    (descriptor.firstName? template).isSome = true ↔ descriptor.Names template := by
  rw [firstName?, Option.isSome_map, List.isSome_find?]
  exact any_names_iff

theorem isSome_lastName?_iff {descriptor : Descriptor} {template : Template} :
    (descriptor.lastName? template).isSome = true ↔ descriptor.Names template := by
  rw [lastName?, Option.isSome_map, List.isSome_find?, List.any_reverse]
  exact any_names_iff

end Descriptor

namespace PackKey

theorem fault?_descriptor (key : PackKey) : key.descriptor.fault? = none := by
  cases key <;> rfl

private theorem sound_descriptor (key : PackKey) : key.descriptor.Sound :=
  Descriptor.fault?_eq_none_iff.1 key.fault?_descriptor

private theorem names_descriptor_nodup (key : PackKey) :
    (key.descriptor.names.map Prod.fst).Nodup := by
  cases key <;> decide

theorem slots_descriptor_ne_nil (key : PackKey) : key.descriptor.slots ≠ [] := by
  cases key <;> exact List.cons_ne_nil _ _

@[simp]
theorem key_toPack (key : PackKey) : key.toPack.key = key :=
  rfl

theorem templateName?_toPack (key : PackKey) (template : Template) :
    key.toPack.templateName? template = key.descriptor.firstName? template := by
  rw [Descriptor.firstName?_eq_lastName? key.names_descriptor_nodup]
  exact Descriptor.templateName?_toPack key.descriptor template

theorem isSome_templateName?_toPack
    (key : PackKey) {slot : Slot} (member : slot ∈ key.toPack.slots)
    {template : Template} (used : slot.template = some template) :
    (key.toPack.templateName? template).isSome := by
  rw [templateName?_toPack, Descriptor.isSome_firstName?_iff]
  exact key.sound_descriptor.named slot member template used

theorem exists_slot_of_templateName?_toPack
    (key : PackKey) {template : Template} {name : String}
    (named : key.toPack.templateName? template = some name) :
    ∃ slot ∈ key.toPack.slots, slot.template = some template := by
  rw [templateName?_toPack, Descriptor.firstName?, Option.map_eq_some_iff] at named
  obtain ⟨entry, found, _⟩ := named
  obtain rfl : entry.1 = template := by simpa using List.find?_some found
  exact key.sound_descriptor.used entry (List.mem_of_find?_eq_some found)

/-- A pack with the blank application form takes nothing else from the case file. -/
theorem documentType_of_contains_form
    {key : PackKey} (enclosed : key.toPack.contains .conditionalOrderApplicationForm = true)
    {slot : Slot} (member : slot ∈ key.toPack.slots) (derived : slot.template = none) :
    slot.documentType = .conditionalOrderApplicationForm := by
  revert slot enclosed
  cases key <;> decide

end PackKey

end LetterPacks
