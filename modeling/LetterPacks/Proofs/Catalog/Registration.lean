import LetterPacks.Catalog.DecisionTable
import Mathlib.Data.List.Forall2
import Mathlib.Data.List.Induction
import Mathlib.Data.List.Nodup

/-!
# Registering rules

Rules are offered to an empty catalog one after the other, in any order and also several for one
letter.  The first rule that is offered for a letter is registered and stays.  A later one is
refused, which leaves no trace.  The rules are kept in the fixed order of their letters, so what a
catalog knows and shows does not depend on the order in which letters were registered.
-/

namespace LetterPacks

private theorem Letter.position_injective : Function.Injective Letter.position := by
  intro letter other same
  have named := congrArg Letter.ofNat same
  simpa only [position, Letter.ofNat_ctorIdx] using named

namespace Catalog

/-- Offers a rule to a catalog.  A catalog that refuses it stays as it was. -/
def offer (catalog : Catalog) (rule : SelectionRule) : Except CatalogFault Unit × Catalog :=
  match catalog.register rule with
  | .ok extended => (.ok (), extended)
  | .error fault => (.error fault, catalog)

def afterOffers (offers : List SelectionRule) : Catalog :=
  offers.foldl (fun catalog rule => (catalog.offer rule).2) empty

/-- A rule is the first one for its letter among some offers. -/
def IsFirst (offers : List SelectionRule) (rule : SelectionRule) : Prop :=
  ∃ earlier later, offers = earlier ++ rule :: later ∧
    ∀ other ∈ earlier, other.letter ≠ rule.letter

variable {offers others rules : List SelectionRule} {rule other : SelectionRule}
  {catalog : Catalog} {letter : Letter}

private theorem IsFirst.mem (first : IsFirst offers rule) : rule ∈ offers := by
  obtain ⟨earlier, later, rfl, _⟩ := first
  exact List.mem_append_right earlier List.mem_cons_self

private theorem find?_eq_some_iff_isFirst :
    (offers.find? fun rule => rule.letter == letter) = some rule ↔
      rule.letter = letter ∧ IsFirst offers rule := by
  simp only [List.find?_eq_some_iff_append, beq_iff_eq, Bool.not_eq_true', beq_eq_false_iff_ne]
  constructor
  · rintro ⟨rfl, earlier, later, split, apart⟩
    exact ⟨rfl, earlier, later, split, apart⟩
  · rintro ⟨rfl, earlier, later, split, apart⟩
    exact ⟨rfl, earlier, later, split, apart⟩

private theorem isFirst_iff_find?_eq_some :
    IsFirst offers rule ↔ (offers.find? fun other => other.letter == rule.letter) = some rule := by
  rw [find?_eq_some_iff_isFirst, and_iff_right rfl]

private theorem exists_isFirst (offered : ∃ rule ∈ offers, rule.letter = letter) :
    ∃ rule, rule.letter = letter ∧ IsFirst offers rule := by
  obtain ⟨rule, member, same⟩ := offered
  have found : (offers.find? fun rule => rule.letter == letter).isSome = true :=
    List.find?_isSome.2 ⟨rule, member, beq_iff_eq.2 same⟩
  obtain ⟨first, isFound⟩ := Option.isSome_iff_exists.1 found
  exact ⟨first, find?_eq_some_iff_isFirst.1 isFound⟩

private theorem isFirst_concat_iff :
    IsFirst (offers ++ [rule]) other ↔
      IsFirst offers other ∨ other = rule ∧ ∀ earlier ∈ offers, earlier.letter ≠ rule.letter := by
  constructor
  · rintro ⟨earlier, later, split, apart⟩
    rcases List.eq_nil_or_concat later with rfl | ⟨later, last, rfl⟩
    · obtain ⟨rfl, same⟩ := List.append_inj' split rfl
      obtain rfl : rule = other := List.singleton_inj.1 same
      exact Or.inr ⟨rfl, apart⟩
    · rw [List.concat_eq_append, ← List.cons_append, ← List.append_assoc] at split
      obtain ⟨rfl, _⟩ := List.append_inj' split rfl
      exact Or.inl ⟨earlier, later, rfl, apart⟩
  · rintro (⟨earlier, later, rfl, apart⟩ | ⟨rfl, apart⟩)
    · refine ⟨earlier, later ++ [rule], ?_, apart⟩
      rw [List.append_assoc, List.cons_append]
    · exact ⟨offers, [], rfl, apart⟩

private theorem isFirst_iff_mem_of_nodup (distinct : (offers.map SelectionRule.letter).Nodup) :
    IsFirst offers rule ↔ rule ∈ offers := by
  constructor
  · exact IsFirst.mem
  · intro member
    obtain ⟨earlier, later, rfl⟩ := List.append_of_mem member
    refine ⟨earlier, later, rfl, ?_⟩
    rw [List.map_append, List.map_cons] at distinct
    intro other before same
    have disjoint := List.disjoint_of_nodup_append distinct
    exact disjoint (List.mem_map_of_mem before) (same ▸ List.mem_cons_self)

/-- The rules stand in the fixed order of their letters, and no two are for one letter. -/
def InOrder (rules : List SelectionRule) : Prop :=
  rules.Pairwise fun rule later => rule.letter.position < later.letter.position

private theorem mem_insertRule_iff :
    other ∈ insertRule rule rules ↔ other = rule ∨ other ∈ rules := by
  induction rules with
  | nil =>
      simp [insertRule]
  | cons first rules ih =>
      rw [insertRule]
      by_cases before : rule.letter.position < first.letter.position
      · rw [if_pos before, List.mem_cons]
      · rw [if_neg before, List.mem_cons, ih, List.mem_cons]
        exact or_left_comm

private theorem InOrder.insertRule
    (inOrder : InOrder rules) (apart : ∀ other ∈ rules, other.letter ≠ rule.letter) :
    InOrder (insertRule rule rules) := by
  induction rules with
  | nil =>
      exact List.pairwise_singleton _ rule
  | cons first rules ih =>
      have behind := List.pairwise_cons.1 inOrder
      rw [List.forall_mem_cons] at apart
      rw [Catalog.insertRule]
      by_cases before : rule.letter.position < first.letter.position
      · rw [if_pos before]
        refine List.pairwise_cons.2 ⟨?_, inOrder⟩
        rw [List.forall_mem_cons]
        exact ⟨before, fun later member => Nat.lt_trans before (behind.1 later member)⟩
      · have different : first.letter.position ≠ rule.letter.position :=
          fun same => apart.1 (Letter.position_injective same)
        have after : first.letter.position < rule.letter.position :=
          Nat.lt_of_le_of_ne (Nat.le_of_not_lt before) different
        rw [if_neg before]
        refine List.pairwise_cons.2 ⟨?_, ih behind.2 apart.2⟩
        intro later member
        rcases mem_insertRule_iff.1 member with rfl | member
        · exact after
        · exact behind.1 later member

private theorem InOrder.nodup_letters (inOrder : InOrder rules) :
    (rules.map SelectionRule.letter).Nodup := by
  refine List.pairwise_map.2 (List.Pairwise.imp ?_ inOrder)
  intro rule later before same
  rw [same] at before
  exact absurd before (Nat.lt_irrefl _)

private theorem InOrder.ext
    {left right : List SelectionRule} (inOrder : InOrder left) (otherInOrder : InOrder right)
    (same : ∀ rule, rule ∈ left ↔ rule ∈ right) : left = right := by
  have distinct : left.Nodup := List.Nodup.of_map _ inOrder.nodup_letters
  have otherDistinct : right.Nodup := List.Nodup.of_map _ otherInOrder.nodup_letters
  have shuffle : left.Perm right :=
    (List.perm_ext_iff_of_nodup distinct otherDistinct).2 same
  refine shuffle.eq_of_pairwise ?_ inOrder otherInOrder
  intro rule later _ _ before after
  exact absurd (Nat.lt_trans before after) (Nat.lt_irrefl _)

/-- The catalog holds the first rule that was offered for each letter, in order. -/
structure HoldsFirst (catalog : Catalog) (offers : List SelectionRule) : Prop where
  inOrder : InOrder catalog.rules
  mem_iff : ∀ rule, rule ∈ catalog.rules ↔ IsFirst offers rule

private theorem holdsFirst_empty : empty.HoldsFirst [] where
  inOrder := List.Pairwise.nil
  mem_iff := by
    intro rule
    constructor
    · intro member
      cases member
    · intro first
      cases first.mem

namespace HoldsFirst

private theorem rule?_eq_some_iff (holds : catalog.HoldsFirst offers) :
    catalog.rule? letter = some rule ↔ rule.letter = letter ∧ IsFirst offers rule := by
  rw [rule?, ← holds.mem_iff rule]
  constructor
  · intro found
    obtain ⟨same, first⟩ := find?_eq_some_iff_isFirst.1 found
    exact ⟨same, first.mem⟩
  · rintro ⟨named, member⟩
    obtain ⟨first, same, isFirst⟩ := exists_isFirst ⟨rule, member, named⟩
    have distinct := holds.inOrder.nodup_letters
    obtain rfl : first = rule :=
      List.inj_on_of_nodup_map distinct isFirst.mem member (same.trans named.symm)
    exact find?_eq_some_iff_isFirst.2 ⟨same, isFirst⟩

private theorem rule?_eq_none_iff (holds : catalog.HoldsFirst offers) :
    catalog.rule? letter = none ↔ ∀ rule ∈ offers, rule.letter ≠ letter := by
  constructor
  · intro unfound rule member same
    obtain ⟨first, named, isFirst⟩ := exists_isFirst ⟨rule, member, same⟩
    rw [holds.rule?_eq_some_iff.2 ⟨named, isFirst⟩] at unfound
    cases unfound
  · intro apart
    cases found : catalog.rule? letter with
    | none =>
        rfl
    | some rule =>
        obtain ⟨same, isFirst⟩ := holds.rule?_eq_some_iff.1 found
        exact absurd same (apart rule isFirst.mem)

private theorem offer_of_offered
    (holds : catalog.HoldsFirst offers) (offered : ∃ other ∈ offers, other.letter = rule.letter) :
    catalog.offer rule = (.error (.duplicateLetter rule.letter), catalog) := by
  obtain ⟨first, isFirst⟩ := exists_isFirst offered
  have found : catalog.rule? rule.letter = some first := holds.rule?_eq_some_iff.2 isFirst
  simp only [offer, register, found]

private theorem offer_of_new
    (holds : catalog.HoldsFirst offers) (new : ∀ other ∈ offers, other.letter ≠ rule.letter) :
    catalog.offer rule = (.ok (), ⟨insertRule rule catalog.rules⟩) := by
  have unfound : catalog.rule? rule.letter = none := holds.rule?_eq_none_iff.2 new
  simp only [offer, register, unfound]

private theorem offer
    (holds : catalog.HoldsFirst offers) (rule : SelectionRule) :
    (catalog.offer rule).2.HoldsFirst (offers ++ [rule]) := by
  by_cases offered : ∃ other ∈ offers, other.letter = rule.letter
  · rw [holds.offer_of_offered offered]
    refine ⟨holds.inOrder, fun other => ?_⟩
    rw [holds.mem_iff, isFirst_concat_iff]
    constructor
    · exact Or.inl
    · rintro (first | ⟨_, new⟩)
      · exact first
      · obtain ⟨earlier, member, same⟩ := offered
        exact absurd same (new earlier member)
  · have new : ∀ other ∈ offers, other.letter ≠ rule.letter :=
      fun other member same => offered ⟨other, member, same⟩
    have apart : ∀ other ∈ catalog.rules, other.letter ≠ rule.letter :=
      fun other member => new other ((holds.mem_iff other).1 member).mem
    rw [holds.offer_of_new new]
    refine ⟨holds.inOrder.insertRule apart, fun other => ?_⟩
    rw [mem_insertRule_iff, holds.mem_iff, isFirst_concat_iff, or_comm]
    exact or_congr_right (and_iff_left new).symm

private theorem offer_eq_error_iff
    (holds : catalog.HoldsFirst offers) (rule : SelectionRule) (fault : CatalogFault) :
    (catalog.offer rule).1 = .error fault ↔
      fault = .duplicateLetter rule.letter ∧ ∃ other ∈ offers, other.letter = rule.letter := by
  by_cases offered : ∃ other ∈ offers, other.letter = rule.letter
  · rw [holds.offer_of_offered offered, Except.error.injEq, eq_comm]
    exact (and_iff_left offered).symm
  · have new : ∀ other ∈ offers, other.letter ≠ rule.letter :=
      fun other member same => offered ⟨other, member, same⟩
    rw [holds.offer_of_new new]
    simp [offered]

private theorem lookup_eq_ok_iff
    (holds : catalog.HoldsFirst offers) (letter : Letter) (rule : SelectionRule) :
    catalog.lookup letter = .ok rule ↔ rule.letter = letter ∧ IsFirst offers rule := by
  rw [← holds.rule?_eq_some_iff, lookup]
  cases catalog.rule? letter with
  | none => simp
  | some found => simp

private theorem lookup_eq_error_iff
    (holds : catalog.HoldsFirst offers) (letter : Letter) (fault : CatalogFault) :
    catalog.lookup letter = .error fault ↔
      fault = .unknownLetter letter.name ∧ ∀ rule ∈ offers, rule.letter ≠ letter := by
  rw [← holds.rule?_eq_none_iff, lookup]
  cases catalog.rule? letter with
  | none => simp [eq_comm]
  | some found => simp

private theorem mem_letters_iff (holds : catalog.HoldsFirst offers) (letter : Letter) :
    letter ∈ catalog.letters ↔ ∃ rule ∈ offers, rule.letter = letter := by
  rw [letters, List.mem_map]
  constructor
  · rintro ⟨rule, member, same⟩
    exact ⟨rule, ((holds.mem_iff rule).1 member).mem, same⟩
  · intro offered
    obtain ⟨first, same, isFirst⟩ := exists_isFirst offered
    exact ⟨first, (holds.mem_iff first).2 isFirst, same⟩

private theorem forall₂_lookup_rules (holds : catalog.HoldsFirst offers) :
    List.Forall₂ (fun letter rule => catalog.lookup letter = .ok rule)
      catalog.letters catalog.rules := by
  rw [letters, List.forall₂_map_left_iff, List.forall₂_same]
  intro rule member
  exact (holds.lookup_eq_ok_iff rule.letter rule).2 ⟨rfl, (holds.mem_iff rule).1 member⟩

end HoldsFirst

private theorem afterOffers_concat (offers : List SelectionRule) (rule : SelectionRule) :
    afterOffers (offers ++ [rule]) = ((afterOffers offers).offer rule).2 := by
  rw [afterOffers, List.foldl_append]
  rfl

private theorem holdsFirst_afterOffers (offers : List SelectionRule) :
    (afterOffers offers).HoldsFirst offers := by
  induction offers using List.reverseRecOn with
  | nil =>
      exact holdsFirst_empty
  | append_singleton offers rule ih =>
      rw [afterOffers_concat]
      exact ih.offer rule

private theorem afterOffers_eq_of_isFirst_iff
    (same : ∀ rule, IsFirst offers rule ↔ IsFirst others rule) :
    afterOffers offers = afterOffers others := by
  have holds := holdsFirst_afterOffers offers
  have otherHolds := holdsFirst_afterOffers others
  have sameRules : (afterOffers offers).rules = (afterOffers others).rules := by
    apply holds.inOrder.ext otherHolds.inOrder
    intro rule
    rw [holds.mem_iff, otherHolds.mem_iff, same]
  exact congrArg Catalog.mk sameRules

/-- What a catalog knows and shows after some offers, and how it answers the next one. -/
structure RegistersFirst (offers : List SelectionRule) : Prop where
  /-- The next offer is refused just when its letter was offered before. -/
  refuses : ∀ rule fault, ((afterOffers offers).offer rule).1 = .error fault ↔
    fault = .duplicateLetter rule.letter ∧ ∃ other ∈ offers, other.letter = rule.letter
  unchanged : ∀ rule fault, ((afterOffers offers).offer rule).1 = .error fault →
    afterOffers (offers ++ [rule]) = afterOffers offers
  finds : ∀ letter rule, (afterOffers offers).lookup letter = .ok rule ↔
    rule.letter = letter ∧ IsFirst offers rule
  misses : ∀ letter fault, (afterOffers offers).lookup letter = .error fault ↔
    fault = .unknownLetter letter.name ∧ ∀ rule ∈ offers, rule.letter ≠ letter
  increasing : (afterOffers offers).letters.Pairwise fun letter later =>
    letter.position < later.position
  listed : ∀ letter, letter ∈ (afterOffers offers).letters ↔
    ∃ rule ∈ offers, rule.letter = letter
  /-- The rows are those of the registered rules: letter by letter, pack by pack, slot by slot. -/
  shown : ∃ rules, List.Forall₂
      (fun letter rule => (afterOffers offers).lookup letter = .ok rule)
      (afterOffers offers).letters rules ∧
    (afterOffers offers).decisionTable =
      rules.flatMap fun rule => rule.packs.flatMap fun key =>
        key.descriptor.slots.map fun slot =>
          ⟨rule.letter, key, slot.documentType, slot.template,
            slot.template.bind key.descriptor.firstName?⟩
  /-- Only the order of the rules for one letter counts. -/
  unordered : ∀ others : List SelectionRule,
    (∀ letter, (offers.filter fun rule => rule.letter = letter) =
      others.filter fun rule => rule.letter = letter) →
    afterOffers others = afterOffers offers
  shuffled : ∀ others, offers.Perm others → (offers.map SelectionRule.letter).Nodup →
    (afterOffers others).decisionTable = (afterOffers offers).decisionTable

theorem registersFirst (offers : List SelectionRule) : RegistersFirst offers where
  refuses := (holdsFirst_afterOffers offers).offer_eq_error_iff
  unchanged := by
    intro rule fault refused
    obtain ⟨_, offered⟩ := ((holdsFirst_afterOffers offers).offer_eq_error_iff rule fault).1 refused
    rw [afterOffers_concat, (holdsFirst_afterOffers offers).offer_of_offered offered]
  finds := (holdsFirst_afterOffers offers).lookup_eq_ok_iff
  misses := (holdsFirst_afterOffers offers).lookup_eq_error_iff
  increasing := List.pairwise_map.2 (holdsFirst_afterOffers offers).inOrder
  listed := (holdsFirst_afterOffers offers).mem_letters_iff
  shown := ⟨_, (holdsFirst_afterOffers offers).forall₂_lookup_rules, rfl⟩
  unordered := by
    intro others same
    apply afterOffers_eq_of_isFirst_iff
    intro rule
    have found : (others.find? fun other => other.letter == rule.letter) =
        offers.find? fun other => other.letter == rule.letter := by
      rw [← List.head?_filter, ← List.head?_filter]
      exact congrArg List.head? (same rule.letter).symm
    rw [isFirst_iff_find?_eq_some, isFirst_iff_find?_eq_some, found]
  shuffled := by
    intro others shuffle distinct
    have otherDistinct : (others.map SelectionRule.letter).Nodup :=
      (shuffle.map SelectionRule.letter).nodup_iff.1 distinct
    apply congrArg decisionTable
    apply afterOffers_eq_of_isFirst_iff
    intro rule
    rw [isFirst_iff_mem_of_nodup distinct, isFirst_iff_mem_of_nodup otherDistinct,
      shuffle.mem_iff]

end Catalog

end LetterPacks
