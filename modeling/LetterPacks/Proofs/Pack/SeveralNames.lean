import LetterPacks.Catalog.DecisionTable
import LetterPacks.Proofs.Pack.Bundling

/-!
# Templates with several names

The check of a descriptor asks that every template in use has a name, and nothing more: a template
may have several.  The decision table then reports the name that is listed first, and the pack
prints under the one that is listed last.  So the two agree just where the first and the last entry
of a template have the same name.
-/

namespace LetterPacks

namespace Descriptor

/-- A name is the first one that a descriptor lists for a template. -/
def ListsFirst (descriptor : Descriptor) (template : Template) (name : String) : Prop :=
  ∃ before after, descriptor.names = before ++ (template, name) :: after ∧
    ∀ earlier ∈ before, earlier.1 ≠ template

/-- A name is the last one that a descriptor lists for a template. -/
def ListsLast (descriptor : Descriptor) (template : Template) (name : String) : Prop :=
  ∃ before after, descriptor.names = before ++ (template, name) :: after ∧
    ∀ later ∈ after, later.1 ≠ template

/-- A descriptor lists no two different names for a template. -/
def NamesAlike (descriptor : Descriptor) (template : Template) : Prop :=
  ∀ ⦃name other⦄, (template, name) ∈ descriptor.names → (template, other) ∈ descriptor.names →
    name = other

/-- The names of a template in use: one is reported by the decision table, and the pack prints under
the other. -/
structure NamesInUse
    (descriptor : Descriptor) (template : Template) (reported printed : String) : Prop where
  listsFirst : descriptor.ListsFirst template reported
  listsLast : descriptor.ListsLast template printed
  firstName : descriptor.firstName? template = some reported
  /-- Some row of the table is for the template, and every one has the name. -/
  row : ∀ letter, ∃ row ∈ descriptor.rows letter, row.template = some template
  documentName : ∀ letter, ∀ row ∈ descriptor.rows letter, row.template = some template →
    row.documentName = some reported
  templateName : descriptor.toPack.templateName? template = some printed

variable {descriptor : Descriptor} {template : Template} {name : String}

private theorem firstName?_eq_some_iff :
    descriptor.firstName? template = some name ↔ descriptor.ListsFirst template name := by
  simp only [firstName?, ListsFirst, Option.map_eq_some_iff, List.find?_eq_some_iff_append,
    beq_iff_eq, Bool.not_eq_true', beq_eq_false_iff_ne]
  constructor
  · rintro ⟨⟨_, _⟩, ⟨rfl, before, after, split, others⟩, rfl⟩
    exact ⟨before, after, split, others⟩
  · rintro ⟨before, after, split, others⟩
    exact ⟨(template, name), ⟨rfl, before, after, split, others⟩, rfl⟩

private theorem lastName?_eq_some_iff :
    descriptor.lastName? template = some name ↔ descriptor.ListsLast template name := by
  simp only [lastName?, ListsLast, Option.map_eq_some_iff, List.find?_eq_some_iff_append,
    beq_iff_eq, Bool.not_eq_true', beq_eq_false_iff_ne]
  constructor
  · rintro ⟨⟨_, _⟩, ⟨rfl, after, before, split, others⟩, rfl⟩
    refine ⟨before.reverse, after.reverse, ?_, fun later member => ?_⟩
    · rw [← descriptor.names.reverse_reverse, split]
      simp
    · exact others later (List.mem_reverse.1 member)
  · rintro ⟨before, after, split, others⟩
    refine ⟨(template, name), ⟨rfl, after.reverse, before.reverse, ?_, fun later member => ?_⟩, rfl⟩
    · rw [split]
      simp
    · exact others later (List.mem_reverse.1 member)

private theorem ListsFirst.mem (first : descriptor.ListsFirst template name) :
    (template, name) ∈ descriptor.names := by
  obtain ⟨before, after, split, _⟩ := first
  rw [split]
  exact List.mem_append_right before List.mem_cons_self

private theorem ListsLast.mem (last : descriptor.ListsLast template name) :
    (template, name) ∈ descriptor.names := by
  obtain ⟨before, after, split, _⟩ := last
  rw [split]
  exact List.mem_append_right before List.mem_cons_self

private theorem documentName_of_mem_rows
    {letter : Letter} {row : DecisionRow} (member : row ∈ descriptor.rows letter)
    (used : row.template = some template) :
    row.documentName = descriptor.firstName? template := by
  obtain ⟨slot, _, rfl⟩ := List.mem_map.1 member
  change slot.template = some template at used
  change slot.template.bind descriptor.firstName? = _
  rw [used]
  rfl

private theorem exists_row_of_uses (used : descriptor.Uses template) (letter : Letter) :
    ∃ row ∈ descriptor.rows letter, row.template = some template := by
  obtain ⟨slot, member, carries⟩ := used
  exact ⟨_, List.mem_map_of_mem member, carries⟩

private theorem exists_namesInUse
    (sound : descriptor.Sound) (used : descriptor.Uses template) :
    ∃ reported printed, descriptor.NamesInUse template reported printed := by
  have named : descriptor.Names template := sound.names_iff_uses.2 used
  obtain ⟨reported, first⟩ := Option.isSome_iff_exists.1 (isSome_firstName?_iff.2 named)
  obtain ⟨printed, last⟩ := Option.isSome_iff_exists.1 (isSome_lastName?_iff.2 named)
  refine ⟨reported, printed, {
    listsFirst := firstName?_eq_some_iff.1 first
    listsLast := lastName?_eq_some_iff.1 last
    firstName := first
    row := exists_row_of_uses used
    documentName := fun letter row member carries => ?_
    templateName := ?_ }⟩
  · rw [documentName_of_mem_rows member carries, first]
  · rw [templateName?_toPack, last]

private theorem NamesInUse.eq_of_namesAlike
    {reported printed : String} (names : descriptor.NamesInUse template reported printed)
    (alike : descriptor.NamesAlike template) : reported = printed :=
  alike names.listsFirst.mem names.listsLast.mem

/-- In a descriptor that passes the check, a template in use is reported under the name of its first
entry and printed under that of its last one.  The two agree exactly when these entries do, and so
wherever no two different names are listed for the template. -/
theorem reported_eq_printed_iff
    (accepted : descriptor.fault? = none) (used : descriptor.Uses template) :
    ∃ reported printed, descriptor.NamesInUse template reported printed ∧
      (descriptor.firstName? template = descriptor.toPack.templateName? template ↔
        reported = printed) ∧
      (descriptor.NamesAlike template →
        descriptor.firstName? template = descriptor.toPack.templateName? template) := by
  obtain ⟨reported, printed, names⟩ := exists_namesInUse (fault?_eq_none_iff.1 accepted) used
  have agree_iff : descriptor.firstName? template = descriptor.toPack.templateName? template ↔
      reported = printed := by
    rw [names.firstName, names.templateName, Option.some.injEq]
  exact ⟨reported, printed, names, agree_iff, fun alike =>
    agree_iff.2 (names.eq_of_namesAlike alike)⟩

/-- A descriptor with one slot, whose template has some names. -/
def coversheetOnly (names : List String) : Descriptor where
  key := .aosOverdue
  track := .divorce
  audience := .citizen
  slots := [.rendered .coversheet .coversheetApplicant]
  names := names.map fun name => (.coversheetApplicant, name)

theorem reported_eq_printed_of_equal_ends :
    let descriptor := coversheetOnly ["Cover", "Front", "Cover"]
    descriptor.fault? = none ∧ descriptor.Uses .coversheetApplicant ∧
      ¬ descriptor.NamesAlike .coversheetApplicant ∧
      ∃ reported printed, descriptor.NamesInUse .coversheetApplicant reported printed ∧
        (descriptor.firstName? .coversheetApplicant =
          descriptor.toPack.templateName? .coversheetApplicant ↔ reported = printed) ∧
        (descriptor.NamesAlike .coversheetApplicant →
          descriptor.firstName? .coversheetApplicant =
            descriptor.toPack.templateName? .coversheetApplicant) := by
  intro descriptor
  have accepted : descriptor.fault? = none := by decide
  have used : descriptor.Uses .coversheetApplicant := ⟨_, List.mem_cons_self, rfl⟩
  refine ⟨accepted, used, fun alike => ?_, reported_eq_printed_iff accepted used⟩
  have same : "Cover" = "Front" :=
    alike (List.mem_cons_self) (List.mem_cons_of_mem _ List.mem_cons_self)
  exact absurd same (by decide)

/-- A descriptor may pass the check and still be reported and printed under two names. -/
theorem exists_accepted_with_two_names :
    ¬ ∀ (descriptor : Descriptor) (template : Template), descriptor.fault? = none →
      descriptor.Uses template →
        descriptor.firstName? template = descriptor.toPack.templateName? template := by
  intro agree
  have same := agree (coversheetOnly ["first", "second"]) .coversheetApplicant (by decide)
    ⟨_, List.mem_cons_self, rfl⟩
  rw [templateName?_toPack] at same
  exact absurd same (by decide)

end Descriptor

end LetterPacks
