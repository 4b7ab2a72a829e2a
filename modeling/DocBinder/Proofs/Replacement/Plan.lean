import DocBinder.Proofs.Replacement.Cut
import Mathlib.Data.List.Nodup

/-!
# Planning replacements

Every token that stands just once in a snapshot gets a replacement, and no other does. Different
tokens never overlap, so that the replacements, ordered from the highest index down, cut the
buffer that the snapshot was taken from.
-/

namespace DocBinder

open Docs

/-- Replacing tokens in a buffer: the tokens of just those targets that stand once in its text,
tables included, are replaced by the units of their targets. -/
def Substitutes (targets : List Target) (buffer shown : Buffer) : Prop :=
  ∃ hits : List Replacement, Cut Target.units 1 buffer hits shown ∧
    (hits.map (·.target)).Nodup ∧
    ∀ target, target ∈ hits.map (·.target) ↔
      target ∈ targets ∧ target.token.StandsOnce buffer.text

theorem Cut.append_tail {units : Target → Buffer} {index : Nat} {buffer shown : Buffer}
    {replacements : List Replacement} (cut : Cut units index buffer replacements shown)
    (tail : Buffer) : Cut units index (buffer ++ tail) replacements (shown ++ tail) := by
  induction cut with
  | done index rest => exact .done index (rest ++ tail)
  | piece spans starts stops following step =>
      simp only [List.append_assoc]
      exact .piece spans starts stops step

theorem Text.IsToken.long {token : Text} (isToken : token.IsToken) : 2 ≤ token.length := by
  rcases isToken with ⟨inner, rfl, _⟩
  simp

/-- The characters that end a body do not matter to what stands before. -/
theorem Docs.FlatText.realRange_append_left (marks back : List (Char × Nat)) {start stop : Nat}
    (within : stop ≤ marks.length) :
    (FlatText.mk (marks ++ back)).realRange start stop =
      (FlatText.mk marks).realRange start stop := by
  rw [realRange, realRange]
  split
  · rw [List.getElem?_append_left (by omega), List.getElem?_append_left (by omega)]
  · rfl

/-- A token without a line feed stands in a body where it stands before the final one. -/
theorem Text.standsAt_lineFeed {token text : Text} (nonempty : token ≠ []) (noBreak : '\n' ∉ token)
    (place : Nat) : token.StandsAt (text ++ ['\n']) place ↔ token.StandsAt text place := by
  by_cases within : place + token.length ≤ text.length
  · exact standsAt_append_left ['\n'] within
  · refine ⟨fun stands => ?_, fun stands => absurd (stands.within nonempty) within⟩
    have bound := stands.within nonempty
    rw [List.length_append, List.length_singleton] at bound
    rcases stands with ⟨rest, split⟩
    have positive := List.length_pos_iff.mpr nonempty
    rw [List.drop_append_of_le_length (by omega)] at split
    have lengths := congrArg List.length split
    simp only [List.length_append, List.length_drop, List.length_singleton] at lengths
    have noRest : rest = [] := List.eq_nil_of_length_eq_zero (by omega)
    rw [noRest, List.append_nil] at split
    exact absurd (split ▸ List.mem_append_right _ (List.mem_singleton.mpr rfl)) noBreak

section Plan

variable {body : Buffer}

/-- Where the token of a replacement stands in a text. -/
def Replacement.place (text : Text) (replacement : Replacement) : Nat :=
  (Text.occurrences text replacement.target.token).headD 0

/-- A replacement whose token stands once in a body, with the range of the token. -/
structure Replacement.Hits (body : Buffer) (replacement : Replacement) : Prop where
  isToken : replacement.target.token.IsToken
  once : ∀ other, replacement.target.token.StandsAt body.text other ↔
    other = replacement.place body.text
  range : (FlatText.mk (unitMarks 1 body)).realRange (replacement.place body.text)
      (replacement.place body.text + replacement.target.token.length) =
    .ok (replacement.start, replacement.stop)

theorem planTarget_hits {target : Target} (isToken : target.token.IsToken) :
    ∀ item ∈ (planTarget ⟨unitMarks 1 body⟩ target).replacements,
      item.target = target ∧ item.Hits body := by
  intro item mem
  rw [planTarget] at mem
  split at mem
  · rename_i start stop located
    rw [List.mem_singleton.mp mem]
    refine ⟨rfl, ?_⟩
    rw [locateToken] at located
    split at located
    · cases located
    · rename_i position found
      have text : FlatText.text ⟨unitMarks 1 body⟩ = body.text := map_fst_unitMarks 1 body
      rw [FlatText.findAll, text] at found
      have place : Replacement.place body.text ⟨target, start, stop⟩ = position := by
        rw [Replacement.place, found]
        rfl
      refine ⟨isToken, ?_, ?_⟩
      · rw [place]
        exact (Text.occurrences_eq_singleton isToken.ne_nil isToken.separate).mp found
      · rw [place]
        cases range : (FlatText.mk (unitMarks 1 body)).realRange position
            (position + target.token.length) with
        | error fault =>
            rw [range] at located
            cases located
        | ok found =>
            rw [range] at located
            cases located
            rfl
    · cases located
  · exact absurd mem List.not_mem_nil

theorem exists_of_standsOnce {target : Target} (isToken : target.token.IsToken)
    (once : target.token.StandsOnce body.text) :
    ∃ item ∈ (planTarget ⟨unitMarks 1 body⟩ target).replacements, item.target = target := by
  rcases once with ⟨position, only⟩
  have found := (Text.occurrences_eq_singleton isToken.ne_nil isToken.separate).mpr only
  have stands := ((only position).mpr rfl).within isToken.ne_nil
  have long := isToken.long
  rw [← length_unitMarks 1] at stands
  have isRange : position < position + target.token.length := by omega
  rcases FlatText.exists_realRange isRange stands with ⟨first, last, range⟩
  have text : FlatText.text ⟨unitMarks 1 body⟩ = body.text := map_fst_unitMarks 1 body
  have located : locateToken ⟨unitMarks 1 body⟩ target.token = .ok (first, last) := by
    rw [locateToken, FlatText.findAll, text, found]
    simp only [range, Except.mapError]
  exact ⟨⟨target, first, last⟩, by rw [planTarget, located]; exact List.mem_singleton.mpr rfl, rfl⟩

/-- A token that stands before another one begins at a lower index. -/
theorem Replacement.Hits.start_lt {first second : Replacement} (firstHits : first.Hits body)
    (secondHits : second.Hits body) (before : first.place body.text < second.place body.text) :
    first.start < second.start := by
  have mark (item : Replacement) (hits : item.Hits body) :
      ∃ character, (unitMarks 1 body)[item.place body.text]? = some (character, item.start) := by
    have range := hits.range
    rw [FlatText.realRange] at range
    split at range
    · split at range
      · rename_i character start closing last opening ends
        rw [Except.ok.injEq, Prod.mk.injEq] at range
        exact ⟨character, range.1 ▸ opening⟩
      · cases range
    · cases range
  rcases mark first firstHits with ⟨_, firstMark⟩
  rcases mark second secondHits with ⟨_, secondMark⟩
  rcases List.getElem?_eq_some_iff.mp firstMark with ⟨_, firstEntry⟩
  rcases List.getElem?_eq_some_iff.mp secondMark with ⟨_, secondEntry⟩
  have ascends := List.pairwise_iff_getElem.mp (pairwise_unitMarks 1 body) _ _ ‹_› ‹_› before
  rwa [firstEntry, secondEntry] at ascends

/-- Of two tokens, the one that begins at the lower index ends before the other one. -/
theorem Replacement.Hits.apart {first second : Replacement} (firstHits : first.Hits body)
    (secondHits : second.Hits body) (differ : first.target ≠ second.target)
    (tokens : first.target.token = second.target.token → first.target = second.target)
    (below : first.start ≤ second.start) :
    first.place body.text + first.target.token.length ≤ second.place body.text := by
  have firstStands := (firstHits.once _).mpr rfl
  have secondStands := (secondHits.once _).mpr rfl
  rcases Nat.lt_trichotomy (first.place body.text) (second.place body.text) with
    before | same | behind
  · exact firstHits.isToken.apart secondHits.isToken firstStands secondStands before
  · rw [← same] at secondStands
    exact absurd (tokens (firstHits.isToken.eq_of_standsAt secondHits.isToken firstStands
      secondStands)) differ
  · have above := secondHits.start_lt firstHits behind
    omega

/-- The targets whose tokens stand once in a body, in the order of their indices. -/
structure Ascending (targets : List Target) (body : Buffer) (hits : List Replacement) : Prop where
  hit : ∀ item ∈ hits, item.Hits body
  all : ∀ target, target ∈ hits.map (·.target) ↔
    target ∈ targets ∧ target.token.StandsOnce body.text
  differ : (hits.map (·.target)).Nodup
  rises : hits.Pairwise fun first second => first.start ≤ second.start

theorem planTarget_cases (flat : FlatText) (target : Target) :
    (planTarget flat target).replacements = [] ∨
      ∃ start stop, (planTarget flat target).replacements = [⟨target, start, stop⟩] := by
  rw [planTarget]
  split
  · exact .inr ⟨_, _, rfl⟩
  · exact .inl rfl

/-- The plan for a body holds its hits from the highest index down. -/
theorem ascending_plan {links : List Link} {images : List Image}
    (differ : ((targets links images).map Target.token).Nodup)
    (areTokens : ∀ target ∈ targets links images, target.token.IsToken)
    {snapshot : Snapshot} (flat : snapshot.flatten true = ⟨unitMarks 1 body⟩) :
    Ascending (targets links images) body
      (planReplacements links images snapshot).replacements.reverse := by
  have plan : (planReplacements links images snapshot).replacements =
      ((targets links images).flatMap fun target =>
        (planTarget ⟨unitMarks 1 body⟩ target).replacements).mergeSort
        fun first second => first.start ≥ second.start := by
    rw [planReplacements, flat]
    simp only [List.flatMap_map]
  have mem_plan (item : Replacement) :
      item ∈ (planReplacements links images snapshot).replacements ↔
        ∃ target ∈ targets links images,
          item ∈ (planTarget ⟨unitMarks 1 body⟩ target).replacements := by
    rw [plan, List.mem_mergeSort, List.mem_flatMap]
  refine ⟨?_, ?_, ?_, ?_⟩
  · intro item mem
    rcases (mem_plan item).mp (List.mem_reverse.mp mem) with ⟨target, isTarget, found⟩
    exact (planTarget_hits (areTokens target isTarget) item found).2
  · intro target
    rw [List.map_reverse, List.mem_reverse, List.mem_map]
    constructor
    · rintro ⟨item, mem, rfl⟩
      rcases (mem_plan item).mp mem with ⟨target, isTarget, found⟩
      rcases planTarget_hits (areTokens target isTarget) item found with ⟨same, hits⟩
      exact ⟨same ▸ isTarget, ⟨_, hits.once⟩⟩
    · rintro ⟨isTarget, once⟩
      rcases exists_of_standsOnce (areTokens target isTarget) once with ⟨item, found, same⟩
      exact ⟨item, (mem_plan item).mpr ⟨target, isTarget, found⟩, same⟩
  · rw [List.map_reverse, List.nodup_reverse, plan]
    refine ((List.mergeSort_perm _ _).map _).nodup_iff.mpr ?_
    rw [List.map_flatMap]
    refine List.Sublist.nodup ?_ (List.Nodup.of_map _ differ)
    generalize targets links images = items
    induction items with
    | nil => exact .slnil
    | cons target rest step =>
        rw [List.flatMap_cons]
        rcases planTarget_cases ⟨unitMarks 1 body⟩ target with none | ⟨start, stop, one⟩
        · rw [none]
          exact step.cons target
        · rw [one]
          exact step.cons_cons target
  · rw [List.pairwise_reverse, plan]
    refine (List.pairwise_mergeSort ?_ ?_ _).imp ?_
    · intro first second third above before
      simp only [ge_iff_le, decide_eq_true_eq] at above before ⊢
      omega
    · intro first second
      simp only [ge_iff_le, Bool.or_eq_true, decide_eq_true_eq]
      omega
    · intro first second above
      simpa using above

/-- The hits of a body that a line feed ends cut what stands before it. -/
theorem Ascending.exists_cut {items : List Target} {hits : List Replacement}
    (differ : (items.map Target.token).Nodup)
    (ascending : Ascending items (body ++ [BodyUnit.lineFeed]) hits) (units : Target → Buffer) :
    ∃ shown, Cut units 1 body hits shown := by
  have text : Buffer.text (body ++ [BodyUnit.lineFeed]) = body.text ++ ['\n'] := Buffer.text_append ..
  have tokens {first second : Replacement} (isFirst : first ∈ hits) (isSecond : second ∈ hits) :
      first.target.token = second.target.token → first.target = second.target :=
    List.inj_on_of_nodup_map differ
      ((ascending.all _).mp (List.mem_map_of_mem isFirst)).1
      ((ascending.all _).mp (List.mem_map_of_mem isSecond)).1
  refine DocBinder.exists_cut units (Replacement.place (Buffer.text (body ++ [BodyUnit.lineFeed]))) ?_ ?_ ?_
  · intro item mem
    have hits := ascending.hit item mem
    have stands := (hits.once _).mpr rfl
    have range := hits.range
    rw [text, Text.standsAt_lineFeed hits.isToken.ne_nil hits.isToken.lineFeed_not_mem, ← text]
      at stands
    refine ⟨stands, ?_⟩
    have within := stands.within hits.isToken.ne_nil
    rwa [unitMarks_append, FlatText.realRange_append_left _ _ (by rwa [length_unitMarks])] at range
  · intro item mem
    exact (ascending.hit item mem).isToken.long
  · have both := ascending.rises.and (List.pairwise_map.mp ascending.differ)
    refine both.imp_of_mem ?_
    intro first second isFirst isSecond related
    exact (ascending.hit first isFirst).apart (ascending.hit second isSecond) related.2
      (tokens isFirst isSecond) related.1

/-- The buffer that a cut of the hits of a body shows, with the final line feed. -/
theorem Ascending.substitutes {items : List Target} {hits : List Replacement} {shown : Buffer}
    (ascending : Ascending items (body ++ [BodyUnit.lineFeed]) hits)
    (cut : Cut Target.units 1 body hits shown) :
    Substitutes items (body ++ [BodyUnit.lineFeed]) (shown ++ [BodyUnit.lineFeed]) :=
  ⟨hits, cut.append_tail [BodyUnit.lineFeed], ascending.differ, ascending.all⟩

end Plan

/-! ## Chunks -/

theorem flatten_chunks {α : Type} (size : Nat) (items : List α) :
    (chunks size items).flatten = items := by
  fun_induction chunks size items with
  | case1 => rfl
  | case2 item rest step => rw [List.flatten_cons, step, List.cons_append, List.take_append_drop]

end DocBinder
