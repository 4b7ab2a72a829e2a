import DocBinder.Project.Order
import Mathlib.Algebra.Order.Field.Power
import Mathlib.Algebra.Order.Ring.Rat
import Mathlib.Data.List.Lex
import Mathlib.Data.List.Sort
import Mathlib.Data.String.Basic
import Mathlib.Order.WithBot
import Mathlib.Tactic.Linarith

/-!
# The order of files is theirs

Sorting keeps all items. Where of any two items one comes before the other, there is only one order
that they can be sorted into, so that it does not matter in which order they were found.
-/

namespace DocBinder

/-! ## Sizes of numbers -/

namespace Decimal.Binary

/-- The size of a finite number. -/
def finiteSize (negative : Bool) (mantissa : Nat) (exponent : Int) : ℚ :=
  (if negative then -(mantissa : Int) else mantissa : Int) * 2 ^ exponent

/-- The size of what is a number, with the infinities at the ends. -/
def size? : Binary → Option (WithBot (WithTop ℚ))
  | .nan => none
  | .infinite negative => some (if negative then ⊥ else ((⊤ : WithTop ℚ) : WithBot (WithTop ℚ)))
  | .finite negative mantissa exponent =>
      some (((finiteSize negative mantissa exponent : ℚ) : WithTop ℚ) : WithBot (WithTop ℚ))

theorem finiteSize_eq (negative : Bool) (mantissa : Nat) {low exponent : Int}
    (isLow : low ≤ exponent) :
    finiteSize negative mantissa exponent =
      (if negative then -((mantissa * Nat.pow 2 (exponent - low).toNat : Nat) : Int)
        else (mantissa * Nat.pow 2 (exponent - low).toNat : Nat) : Int) * (2 : ℚ) ^ low := by
  have split : (2 : ℚ) ^ exponent = 2 ^ (exponent - low).toNat * 2 ^ low := by
    rw [← zpow_natCast, Int.toNat_of_nonneg (Int.sub_nonneg.mpr isLow), ← zpow_add₀ two_ne_zero,
      Int.sub_add_cancel]
  rw [finiteSize, split, ← mul_assoc]
  congr 1
  split <;> simp

theorem lt_finite (negative other : Bool) (mantissa otherMantissa : Nat)
    (exponent otherExponent : Int) :
    lt (.finite negative mantissa exponent) (.finite other otherMantissa otherExponent) = true ↔
      finiteSize negative mantissa exponent < finiteSize other otherMantissa otherExponent := by
  rw [finiteSize_eq negative mantissa (Int.min_le_left exponent otherExponent),
    finiteSize_eq other otherMantissa (Int.min_le_right exponent otherExponent),
    mul_lt_mul_iff_left₀ (zpow_pos two_pos _), Int.cast_lt]
  simp only [lt, decide_eq_true_eq]

theorem lt_eq_true {first second : Binary} : first.lt second = true ↔
    ∃ size other, first.size? = some size ∧ second.size? = some other ∧ size < other := by
  cases first with
  | nan => simp [lt, size?]
  | infinite negative =>
      cases second with
      | nan => simp [lt, size?]
      | infinite other => cases negative <;> cases other <;> simp [lt, size?]
      | finite other mantissa exponent =>
          cases negative <;> simp [lt, size?, WithBot.bot_lt_coe]
  | finite negative mantissa exponent =>
      cases second with
      | nan => simp [lt, size?]
      | infinite other =>
          have below : ((finiteSize negative mantissa exponent : WithTop ℚ) : WithBot (WithTop ℚ)) < ⊤ :=
            WithBot.coe_lt_coe.mpr (WithTop.coe_lt_top _)
          cases other <;> simp [lt, size?, below]
      | finite other otherMantissa otherExponent => simp [lt_finite, size?]

theorem lt_iff {first second : Binary} {size other : WithBot (WithTop ℚ)}
    (isSize : first.size? = some size) (isOther : second.size? = some other) :
    first.lt second = true ↔ size < other := by
  rw [lt_eq_true]
  constructor
  · rintro ⟨found, otherFound, isFound, isOtherFound, below⟩
    rw [isSize, Option.some.injEq] at isFound
    rw [isOther, Option.some.injEq] at isOtherFound
    rwa [isFound, isOtherFound]
  · exact fun below => ⟨size, other, isSize, isOther, below⟩

theorem not_lt_of_size {first second : Binary} (same : first.size? = second.size?) :
    ¬ first.lt second = true := by
  rw [lt_eq_true, same]
  rintro ⟨size, other, isSize, isOther, below⟩
  rw [isSize, Option.some.injEq] at isOther
  exact absurd below (isOther ▸ lt_irrefl size)

theorem eq_nan {number : Binary} (noSize : number.size? = none) : number = .nan := by
  cases number with
  | nan => rfl
  | infinite negative => cases noSize
  | finite negative mantissa exponent => cases noSize

theorem eq_eq {first second : Binary} (isNumber : first ≠ .nan) (otherNumber : second ≠ .nan) :
    first.eq second = (!first.lt second && !second.lt first) := by
  cases first with
  | nan => exact absurd rfl isNumber
  | infinite negative =>
      cases second with
      | nan => exact absurd rfl otherNumber
      | infinite other => rfl
      | finite other mantissa exponent => rfl
  | finite negative mantissa exponent =>
      cases second with
      | nan => exact absurd rfl otherNumber
      | infinite other => rfl
      | finite other otherMantissa otherExponent => rfl

theorem eq_eq_true {first second : Binary} : first.eq second = true ↔
    ∃ size, first.size? = some size ∧ second.size? = some size := by
  cases firstSize : first.size? with
  | none => simp [eq_nan firstSize, eq]
  | some size =>
      cases secondSize : second.size? with
      | none => cases first <;> simp [eq_nan secondSize, eq]
      | some other =>
          have isNumber : first ≠ .nan := by
            rintro rfl
            cases firstSize
          have otherNumber : second ≠ .nan := by
            rintro rfl
            cases secondSize
          rw [eq_eq isNumber otherNumber, Bool.and_eq_true, Bool.not_eq_true', Bool.not_eq_true',
            ← Bool.not_eq_true, ← Bool.not_eq_true, lt_iff firstSize secondSize,
            lt_iff secondSize firstSize, not_lt, not_lt]
          constructor
          · exact fun both => ⟨size, rfl, congrArg some (le_antisymm both.1 both.2)⟩
          · rintro ⟨found, isFound, isOther⟩
            cases isFound
            cases isOther
            exact ⟨le_rfl, le_rfl⟩

end Decimal.Binary

namespace Project

namespace OrderKey

theorem samePosition_eq_true {first second : Decimal.Binary} :
    samePosition first second = true ↔ first.size? = second.size? := by
  rw [samePosition, Bool.or_eq_true, beq_iff_eq, Decimal.Binary.eq_eq_true]
  constructor
  · rintro (rfl | ⟨size, isSize, same⟩)
    · rfl
    · rw [isSize, same]
  · intro same
    cases isSize : first.size? with
    | none => exact .inl ((Decimal.Binary.eq_nan isSize).trans
        (Decimal.Binary.eq_nan (same ▸ isSize)).symm)
    | some size => exact .inr ⟨size, rfl, same ▸ isSize⟩

/-- A key comes before another by the directories, then by the position, then by the name. -/
theorem before_eq_true {first second : OrderKey} : first.before second = true ↔
    first.parents < second.parents ∨ first.parents = second.parents ∧
      (first.position.lt second.position = true ∨
        first.position.size? = second.position.size? ∧ first.name < second.name) := by
  rw [before]
  by_cases sameParents : first.parents = second.parents
  · rw [if_neg (by simp [sameParents])]
    by_cases samePlace : samePosition first.position second.position = true
    · rw [if_neg (by simp [samePlace])]
      have same := samePosition_eq_true.mp samePlace
      simp [sameParents, same, Decimal.Binary.not_lt_of_size same]
    · rw [if_pos (by simp [samePlace])]
      have differ : first.position.size? ≠ second.position.size? := fun same =>
        samePlace (samePosition_eq_true.mpr same)
      simp [sameParents, differ]
  · rw [if_pos (by simp [sameParents])]
    simp [sameParents]

theorem before_irrefl (key : OrderKey) : key.before key = false := by
  rw [← Bool.not_eq_true, before_eq_true]
  rintro (below | ⟨_, below | ⟨_, below⟩⟩)
  · exact List.lt_irrefl _ below
  · exact Decimal.Binary.not_lt_of_size rfl below
  · exact String.lt_irrefl _ below

theorem before_trans {first second third : OrderKey} (before : first.before second = true)
    (further : second.before third = true) : first.before third = true := by
  rw [before_eq_true] at before further ⊢
  rcases before with below | ⟨parents, place⟩
  · rcases further with further | ⟨parents, _⟩
    · exact .inl (List.lt_trans below further)
    · exact .inl (parents ▸ below)
  · rcases further with further | ⟨otherParents, further⟩
    · exact .inl (parents ▸ further)
    · refine .inr ⟨parents.trans otherParents, ?_⟩
      rw [Decimal.Binary.lt_eq_true] at place further ⊢
      rcases place with ⟨size, middle, isSize, isMiddle, below⟩ | ⟨same, below⟩
      · rcases further with ⟨other, last, isOther, isLast, above⟩ | ⟨same, _⟩
        · rw [isMiddle, Option.some.injEq] at isOther
          exact .inl ⟨size, last, isSize, isLast, below.trans (isOther ▸ above)⟩
        · exact .inl ⟨size, middle, isSize, same ▸ isMiddle, below⟩
      · rcases further with ⟨other, last, isOther, isLast, above⟩ | ⟨otherSame, above⟩
        · exact .inl ⟨other, last, same ▸ isOther, isLast, above⟩
        · exact .inr ⟨same.trans otherSame, String.lt_trans below above⟩

/-- Of two keys one comes before the other unless they have the same directories and name, or only one
of their positions has a size. -/
theorem before_total {first second : OrderKey}
    (alike : first.position.size? = none ↔ second.position.size? = none)
    (differ : (first.parents, first.name) ≠ (second.parents, second.name)) :
    first.before second = true ∨ second.before first = true := by
  rcases lt_trichotomy first.parents second.parents with below | parents | above
  · exact .inl (before_eq_true.mpr (.inl below))
  · have names : first.name ≠ second.name := fun same => differ (Prod.ext parents same)
    have byName (same : first.position.size? = second.position.size?) :
        first.before second = true ∨ second.before first = true :=
      (lt_or_gt_of_ne names).imp
        (fun below => before_eq_true.mpr (.inr ⟨parents, .inr ⟨same, below⟩⟩))
        fun above => before_eq_true.mpr (.inr ⟨parents.symm, .inr ⟨same.symm, above⟩⟩)
    cases isSize : first.position.size? with
    | none => exact byName (isSize.trans (alike.mp isSize).symm)
    | some size =>
        cases isOther : second.position.size? with
        | none =>
            rw [alike.mpr isOther] at isSize
            cases isSize
        | some other =>
            rcases lt_trichotomy size other with below | same | above
            · have isLess := (Decimal.Binary.lt_iff isSize isOther).mpr below
              exact .inl (before_eq_true.mpr (.inr ⟨parents, .inl isLess⟩))
            · exact byName (by rw [isSize, isOther, same])
            · have isLess := (Decimal.Binary.lt_iff isOther isSize).mpr above
              exact .inr (before_eq_true.mpr (.inr ⟨parents.symm, .inl isLess⟩))
  · exact .inr (before_eq_true.mpr (.inl above))

end OrderKey

section Sorting

variable {α : Type} {before : α → α → Bool}

/-- Of any two items, one comes before the other. -/
def Comparable (before : α → α → Bool) (items : List α) : Prop :=
  items.Pairwise fun first second => before first second = true ∨ before second first = true

/-- Every item comes before all that follow it. -/
def InOrder (before : α → α → Bool) (items : List α) : Prop :=
  items.Pairwise fun first second => before first second = true

theorem Comparable.perm {items others : List α} (comparable : Comparable before items)
    (perm : items.Perm others) : Comparable before others :=
  perm.pairwise comparable Or.symm

/-! ### Nothing is lost -/

theorem append_runAfter (downward : Bool) (last : α) (items : List α) :
    (runAfter before downward last items).1 ++ (runAfter before downward last items).2 = items := by
  induction items generalizing last with
  | nil => rfl
  | cons item rest step =>
      rw [runAfter]
      split
      · exact congrArg (item :: ·) (step item)
      · rfl

theorem perm_headRun (items : List α) :
    ((headRun before items).1 ++ (headRun before items).2).Perm items := by
  rcases items with _ | ⟨first, _ | ⟨second, rest⟩⟩
  · exact .nil
  · exact .refl _
  · have whole := @append_runAfter _ before (before second first) first (second :: rest)
    rw [headRun]
    dsimp only
    generalize runAfter before (before second first) first (second :: rest) = parts at whole ⊢
    rw [← whole, ← List.cons_append]
    refine .append_right _ ?_
    split
    · exact List.reverse_perm _
    · exact .refl _

theorem perm_insertSorted (sorted : List α) (item : α) :
    (insertSorted before sorted item).Perm (item :: sorted) := by
  rw [insertSorted]
  refine List.perm_middle.trans ?_
  rw [List.take_append_drop]

theorem perm_foldl_insertSorted (sorted items : List α) :
    (items.foldl (insertSorted before) sorted).Perm (sorted ++ items) := by
  induction items generalizing sorted with
  | nil => rw [List.append_nil, List.foldl_nil]
  | cons item rest step =>
      refine (step _).trans (((perm_insertSorted sorted item).append_right rest).trans ?_)
      exact List.perm_middle.symm

/-- Sorting keeps all items. -/
theorem perm_sortItems (items : List α) : (sortItems before items).Perm items := by
  rw [sortItems]
  exact (perm_foldl_insertSorted _ _).trans (perm_headRun items)

/-! ### One order -/

section Transitive

variable (transitive : ∀ first second third, before first second = true →
  before second third = true → before first third = true)

include transitive

/-- A run goes on in one direction. -/
theorem pairwise_runAfter (downward : Bool) {last : α} {items : List α}
    (comparable : Comparable before (last :: items)) :
    (last :: (runAfter before downward last items).1).Pairwise fun first second =>
      (if downward then before second first else before first second) = true := by
  induction items generalizing last with
  | nil => exact List.pairwise_singleton _ _
  | cons item rest step =>
      rcases List.pairwise_cons.mp comparable with ⟨either, further⟩
      rw [runAfter]
      by_cases goesOn : before item last = downward
      · rw [if_pos (beq_iff_eq.mpr goesOn)]
        have next : (if downward then before item last else before last item) = true := by
          cases downward with
          | true => exact goesOn
          | false => exact (either item List.mem_cons_self).resolve_right (by simp [goesOn])
        have behind := step further
        refine .cons ?_ behind
        intro other mem
        rcases List.mem_cons.mp mem with rfl | mem
        · exact next
        · have beyond := (List.pairwise_cons.mp behind).1 other mem
          cases downward with
          | true => exact transitive _ _ _ beyond next
          | false => exact transitive _ _ _ next beyond
      · rw [if_neg (by simpa using goesOn)]
        exact List.pairwise_singleton _ _

theorem inOrder_headRun {items : List α} (comparable : Comparable before items) :
    InOrder before (headRun before items).1 := by
  rcases items with _ | ⟨first, _ | ⟨second, rest⟩⟩
  · exact .nil
  · exact List.pairwise_singleton _ _
  · have run := pairwise_runAfter transitive (before second first) comparable
    rw [headRun]
    dsimp only
    cases downward : before second first with
    | true =>
        rw [downward] at run
        rw [if_pos rfl]
        exact List.pairwise_reverse.mpr run
    | false =>
        rw [downward] at run
        exact run

/-- The place that is found in a list in order is behind all items that come before the new one. -/
theorem placeBetween_spec {sorted : List α} {item : α} (inOrder : InOrder before sorted)
    (either : ∀ other ∈ sorted, before item other = true ∨ before other item = true)
    {low high : Nat} (within : low ≤ high) (most : high ≤ sorted.length)
    (early : ∀ other ∈ sorted.take low, before other item = true)
    (late : ∀ other ∈ sorted.drop high, before item other = true) :
    (∀ other ∈ sorted.take (placeBetween before sorted.toArray item low high),
        before other item = true) ∧
      ∀ other ∈ sorted.drop (placeBetween before sorted.toArray item low high),
        before item other = true := by
  induction low, high using placeBetween.induct before sorted.toArray item with
  | case1 low high isLess middle missing =>
      rw [List.getElem?_toArray, List.getElem?_eq_none_iff] at missing
      omega
  | case2 low high isLess middle other found isBefore step =>
      rw [placeBetween, dif_pos isLess]
      simp only [middle] at found
      simp only [found, isBefore, if_true]
      rw [List.getElem?_toArray] at found
      rcases List.getElem?_eq_some_iff.mp found with ⟨bound, isOther⟩
      refine step (by omega) (by omega) early ?_
      have behind : (sorted.drop middle).Pairwise fun first second => before first second = true :=
        inOrder.sublist (List.drop_sublist _ _)
      rw [List.drop_eq_getElem_cons bound, isOther] at behind ⊢
      intro further mem
      rcases List.mem_cons.mp mem with rfl | mem
      · exact isBefore
      · exact transitive _ _ _ isBefore ((List.pairwise_cons.mp behind).1 further mem)
  | case3 low high isLess middle other found notBefore step =>
      rw [placeBetween, dif_pos isLess]
      simp only [middle] at found
      simp only [found, notBefore]
      rw [List.getElem?_toArray] at found
      rcases List.getElem?_eq_some_iff.mp found with ⟨bound, isOther⟩
      have after := (either other (isOther ▸ List.getElem_mem bound)).resolve_left notBefore
      refine step (by omega) (by omega) ?_ late
      have front : (sorted.take (middle + 1)).Pairwise fun first second =>
          before first second = true := inOrder.sublist (List.take_sublist _ _)
      rw [List.take_succ_eq_append_getElem bound, isOther] at front ⊢
      intro further mem
      rcases List.mem_append.mp mem with mem | mem
      · exact transitive _ _ _
          ((List.pairwise_append.mp front).2.2 further mem other (List.mem_singleton.mpr rfl)) after
      · rw [List.mem_singleton.mp mem]
        exact after
  | case4 low high notLess =>
      rw [placeBetween, dif_neg notLess]
      have same : low = high := by omega
      exact ⟨early, same ▸ late⟩

theorem inOrder_insertSorted {sorted : List α} {item : α} (inOrder : InOrder before sorted)
    (either : ∀ other ∈ sorted, before item other = true ∨ before other item = true) :
    InOrder before (insertSorted before sorted item) := by
  have place := placeBetween_spec transitive inOrder either (Nat.zero_le _) (Nat.le_refl _)
    (by simp) (by simp)
  rw [insertSorted]
  generalize placeBetween before sorted.toArray item 0 sorted.length = index at place ⊢
  rcases place with ⟨early, late⟩
  rw [← List.take_append_drop index sorted] at inOrder
  rcases List.pairwise_append.mp inOrder with ⟨front, back, across⟩
  refine List.pairwise_append.mpr ⟨front, .cons late back, ?_⟩
  intro first isFirst second isSecond
  rcases List.mem_cons.mp isSecond with rfl | isSecond
  · exact early first isFirst
  · exact across first isFirst second isSecond

theorem inOrder_foldl_insertSorted {sorted items : List α} (inOrder : InOrder before sorted)
    (comparable : Comparable before (sorted ++ items)) :
    InOrder before (items.foldl (insertSorted before) sorted) := by
  induction items generalizing sorted with
  | nil => exact inOrder
  | cons item rest step =>
      have each := (comparable.perm List.perm_middle)
      refine step (inOrder_insertSorted transitive inOrder fun other mem =>
        (List.pairwise_cons.mp each).1 other (List.mem_append_left _ mem)) ?_
      exact each.perm ((perm_insertSorted sorted item).symm.append_right rest)

/-- Items of which one comes before the other are sorted into their order. -/
theorem inOrder_sortItems {items : List α} (comparable : Comparable before items) :
    InOrder before (sortItems before items) := by
  rw [sortItems]
  exact inOrder_foldl_insertSorted transitive (inOrder_headRun transitive comparable)
    (comparable.perm (perm_headRun items).symm)

end Transitive

/-- There is only one order. -/
theorem InOrder.eq_of_perm (irreflexive : ∀ item, before item item = false)
    (transitive : ∀ first second third, before first second = true →
      before second third = true → before first third = true) {items others : List α}
    (inOrder : InOrder before items) (otherOrder : InOrder before others)
    (perm : items.Perm others) : items = others := by
  refine perm.eq_of_pairwise (fun first second _ _ isBefore isAfter => ?_) inOrder otherOrder
  have self := transitive _ _ _ isBefore isAfter
  rw [irreflexive] at self
  cases self

end Sorting

section Keys

variable {α : Type} (key : α → OrderKey)

/-- Whether the key of an item comes before that of another. -/
def keysBefore (first second : α) : Bool :=
  (key first).before (key second)

theorem keysBefore_irrefl (item : α) : keysBefore key item item = false :=
  OrderKey.before_irrefl _

theorem keysBefore_trans (first second third : α) (before : keysBefore key first second = true)
    (further : keysBefore key second third = true) : keysBefore key first third = true :=
  OrderKey.before_trans before further

/-- Items with numbers as positions can be ordered when no two of them have the same directories and
name. -/
theorem comparable_of_nodup {items : List α}
    (differ : (items.map fun item => ((key item).parents, (key item).name)).Nodup)
    (numbered : ∀ item ∈ items, (key item).position ≠ .nan) : Comparable (keysBefore key) items :=
  (List.pairwise_map.mp differ).imp_of_mem fun {first second} isFirst isSecond differ =>
    OrderKey.before_total
      (iff_of_false (fun noSize => numbered first isFirst (Decimal.Binary.eq_nan noSize))
        fun noSize => numbered second isSecond (Decimal.Binary.eq_nan noSize)) differ

theorem perm_sortByKey (items : List α) : (sortByKey key items).Perm items := by
  have perm := (@perm_sortItems _ (keysBefore fun pair : OrderKey × α => pair.1)
    (items.map fun item => (key item, item))).map (·.2)
  rwa [List.map_map, show ((·.2) ∘ fun item => (key item, item)) = (id : α → α) from rfl,
    List.map_id] at perm

theorem inOrder_sortByKey {items : List α} (comparable : Comparable (keysBefore key) items) :
    InOrder (keysBefore key) (sortByKey key items) := by
  have paired : Comparable (keysBefore fun pair : OrderKey × α => pair.1)
      (items.map fun item => (key item, item)) := List.pairwise_map.mpr comparable
  have sorted := inOrder_sortItems (keysBefore_trans _) paired
  have keyed : ∀ pair ∈ sortItems (keysBefore fun pair : OrderKey × α => pair.1)
      (items.map fun item => (key item, item)), pair.1 = key pair.2 := by
    intro pair mem
    rcases List.mem_map.mp ((perm_sortItems _).mem_iff.mp mem) with ⟨item, _, rfl⟩
    rfl
  rw [InOrder, sortByKey, List.pairwise_map]
  refine sorted.imp_of_mem fun {first second} isFirst isSecond before => ?_
  rw [keysBefore, ← keyed first isFirst, ← keyed second isSecond]
  exact before

end Keys

end Project

end DocBinder
