import DocBinder.Proofs.Formatting.Lookups
import DocBinder.Proofs.Sort

/-!
# Leaving out directives

Directives are looked up in the order of their requests, and those of one request in the order in
which they are given. When some of them are left out, sorting keeps the order of the others, so that
they are looked up as before. If none of those left out was resolved, the cursor and the end of the
last range are the same at every remaining directive, and so is what they are resolved to.
-/

namespace DocBinder

open Docs

/-- Directives with what became of them, in the order in which they are looked up. -/
def inOrder (outcomes : List (Directive × Option Resolved)) : List (Directive × Option Resolved) :=
  outcomes.mergeSort fun first second => first.1.request ≤ second.1.request

theorem map_inOrder (outcomes : List (Directive × Option Resolved)) :
    (inOrder outcomes).map (·.1) =
      (outcomes.map (·.1)).mergeSort fun first second => first.request ≤ second.request := by
  apply List.map_mergeSort
  intros
  rfl

theorem inOrder_perm (outcomes : List (Directive × Option Resolved)) :
    (inOrder outcomes).Perm outcomes :=
  List.mergeSort_perm outcomes _

theorem inOrder_sublist {kept outcomes : List (Directive × Option Resolved)}
    (some : kept.Sublist outcomes) : (inOrder kept).Sublist (inOrder outcomes) :=
  sort_sublist (fun outcome : Directive × Option Resolved => outcome.1.request) some

/-- The ranges of what is kept are those of all, in order, when as many are kept. -/
theorem filterMap_inOrder {kept outcomes : List (Directive × Option Resolved)}
    (some : kept.Sublist outcomes) (same : kept.filterMap (·.2) = outcomes.filterMap (·.2)) :
    (inOrder kept).filterMap (·.2) = (inOrder outcomes).filterMap (·.2) := by
  apply List.Sublist.eq_of_length ((inOrder_sublist some).filterMap _)
  have keptLength := ((inOrder_perm kept).filterMap (·.2)).length_eq
  have length := ((inOrder_perm outcomes).filterMap (·.2)).length_eq
  rw [keptLength, length, same]

section Resolve

variable {directives : List Directive} {snapshot : Snapshot} {start : Nat}
  {offsets : Option (List Nat)} {stop : Option Nat} {resolved : List Resolved}

/-- What became of each of the directives that were looked up. -/
theorem exists_outcomes
    (resolves : (resolve directives snapshot start offsets stop).resolved = .ok resolved) :
    ∃ outcomes : List (Directive × Option Resolved), outcomes.map (·.1) = directives ∧
      (inOrder outcomes).filterMap (·.2) = resolved ∧
      let floor := (snapshot.flatten false).positionAtOrAfter start
      Lookups (snapshot.scope start offsets stop) floor floor 0 (inOrder outcomes) := by
  rw [resolved_resolve] at resolves
  rcases exists_lookups resolves with ⟨sorted, looksUp, isSorted, isResolved⟩
  rcases exists_sort_map Directive.request isSorted with ⟨outcomes, given, sorts⟩
  refine ⟨outcomes, given, ?_⟩
  rw [inOrder, sorts]
  exact ⟨isResolved, looksUp⟩

/-- Whatever was not resolved can be left out. -/
theorem resolve_sublist {kept outcomes : List (Directive × Option Resolved)} {floor : Nat}
    (isFloor : floor = (snapshot.flatten false).positionAtOrAfter start)
    (looksUp : Lookups (snapshot.scope start offsets stop) floor floor 0 (inOrder outcomes))
    (some : kept.Sublist outcomes) (same : kept.filterMap (·.2) = outcomes.filterMap (·.2)) :
    (resolve (kept.map (·.1)) snapshot start offsets stop).resolved =
      .ok ((inOrder outcomes).filterMap (·.2)) := by
  have sameInOrder := filterMap_inOrder some same
  have remaining := looksUp.sublist (inOrder_sublist some) (congrArg List.length sameInOrder)
  rw [resolved_resolve, ← map_inOrder, ← isFloor, remaining.resolveFrom, sameInOrder]

/-- Directives whose spans lie within their literals are looked up without a fault. -/
theorem exists_resolve_of_spansFit
    (spansFit : ∀ directive ∈ directives, ∀ span ∈ directive.spans,
      span.stop ≤ directive.literal.length) (snapshot : Snapshot) (start : Nat)
    (offsets : Option (List Nat)) (stop : Option Nat) :
    ∃ resolved, (resolve directives snapshot start offsets stop).resolved = .ok resolved := by
  rw [resolved_resolve]
  apply exists_resolveFrom_of_spansFit
  intro directive mem
  exact spansFit directive (List.mem_mergeSort.mp mem)

/-- The line of whatever is resolved stands in the text. -/
theorem stands_of_mem_resolved
    (resolves : (resolve directives snapshot start offsets stop).resolved = .ok resolved) :
    ∀ item ∈ resolved, item.directive ∈ directives ∧ ∃ position,
      (item.directive.anchor ++ ['\n']).StandsAt (snapshot.flatten false).text position := by
  rcases exists_outcomes resolves with ⟨outcomes, given, rfl, looksUp⟩
  intro item mem
  rcases List.mem_filterMap.mp mem with ⟨outcome, outcomeMem, isItem⟩
  rcases looksUp.exists_foundAt outcome outcomeMem item isItem with
    ⟨_, _, _, position, found, places⟩
  rw [(Directive.readsOff_of_place places).same, ← given]
  exact ⟨List.mem_map_of_mem ((inOrder_perm outcomes).subset outcomeMem), position, found.stands⟩

end Resolve

/-- Whatever directives are looked up: each one either has ranges or was not resolved, and leaving
out any that were not resolved gives the same ranges. The directives of compiled Markdown are looked
up without a fault in any snapshot and in any scope, and no request is made for one whose line does
not stand in the text. -/
theorem resolve_kept :
    (∀ (directives : List Directive) (snapshot : Snapshot) (start : Nat)
      (offsets : Option (List Nat)) (stop : Option Nat) (resolved : List Resolved),
      (resolve directives snapshot start offsets stop).resolved = .ok resolved →
      ∃ outcomes : List (Directive × Option Resolved),
        outcomes.map (·.1) = directives ∧
        (∀ outcome ∈ outcomes, ∀ item ∈ outcome.2, item.directive = outcome.1) ∧
        (inOrder outcomes).filterMap (·.2) = resolved ∧
        ∀ kept : List (Directive × Option Resolved), kept.Sublist outcomes →
          kept.filterMap (·.2) = outcomes.filterMap (·.2) →
          (resolve (kept.map (·.1)) snapshot start offsets stop).resolved = .ok resolved) ∧
    ∀ (diagramLanguages : List Text) (markdown : Text) (snapshot : Snapshot) (start : Nat)
      (offsets : Option (List Nat)) (stop : Option Nat),
      let compiled := compile (Markdown.classify diagramLanguages markdown)
      ∃ resolved,
        (resolve compiled.directives snapshot start offsets stop).resolved = .ok resolved ∧
        ∀ request ∈ formattingRequests resolved, ∃ item ∈ resolved, request ∈ item.requests ∧
          item.directive ∈ compiled.directives ∧ ∃ position,
            (item.directive.anchor ++ ['\n']).StandsAt (snapshot.flatten false).text position := by
  constructor
  · intro directives snapshot start offsets stop resolved resolves
    rcases exists_outcomes resolves with ⟨outcomes, given, rfl, looksUp⟩
    refine ⟨outcomes, given, ?_, rfl, fun kept => resolve_sublist rfl looksUp⟩
    intro outcome mem item isItem
    rcases looksUp.exists_foundAt outcome ((inOrder_perm outcomes).mem_iff.mpr mem) item isItem with
      ⟨_, _, _, _, _, places⟩
    exact (Directive.readsOff_of_place places).same
  · intro diagramLanguages markdown snapshot start offsets stop
    have outline := outline_compile diagramLanguages markdown
    rcases exists_resolve_of_spansFit outline.spansFit snapshot start offsets stop with
      ⟨resolved, resolves⟩
    refine ⟨resolved, resolves, ?_⟩
    intro request mem
    rcases List.mem_flatMap.mp mem with ⟨item, itemMem, requestMem⟩
    exact ⟨item, itemMem, requestMem, stands_of_mem_resolved resolves item itemMem⟩

/-! ## A line that is missing -/

/-- A document with a single line. -/
def setupOnly : Snapshot :=
  ⟨[.paragraph 1 7 [⟨1, 7, "Setup\n".toList⟩]], .null, .null⟩

/-- A paragraph that stands nowhere in that document. -/
def missing : Directive :=
  ⟨.paragraph, "Ghost".toList, 0, none, [], ['\n']⟩

/-- A heading that is its only line. -/
def setup : Directive :=
  ⟨.heading (some 2), "Setup".toList, 1, none, [], ['\n']⟩

theorem resolve_kept_setup :
    (resolve [missing, setup] setupOnly 1 none none).resolved = .ok [⟨setup, 1, 6, none, []⟩] ∧
      (resolve [setup] setupOnly 1 none none).resolved = .ok [⟨setup, 1, 6, none, []⟩] := by
  have resolves : (resolve [missing, setup] setupOnly 1 none none).resolved =
      .ok [⟨setup, 1, 6, none, []⟩] := by
    rw [resolved_resolve, List.mergeSort_of_pairwise (by decide)]
    decide +kernel
  refine ⟨resolves, ?_⟩
  rcases resolve_kept.1 _ _ _ _ _ _ resolves with ⟨outcomes, given, same, isResolved, leavesOut⟩
  rcases List.map_eq_cons_iff.mp given with ⟨first, others, rfl, isMissing, more⟩
  rcases List.map_eq_cons_iff.mp more with ⟨second, rest, rfl, isSetup, isNil⟩
  rw [List.map_eq_nil_iff] at isNil
  subst isNil
  have absent : first.2 = none := by
    apply Option.eq_none_iff_forall_not_mem.mpr
    intro item isItem
    have mem : item ∈ [(⟨setup, 1, 6, none, []⟩ : Resolved)] := by
      rw [← isResolved]
      exact List.mem_filterMap.mpr
        ⟨first, (inOrder_perm _).mem_iff.mpr List.mem_cons_self, isItem⟩
    have isFirst := same first List.mem_cons_self item isItem
    rw [List.mem_singleton.mp mem, isMissing] at isFirst
    revert isFirst
    decide
  have others := leavesOut [second] (List.sublist_cons_self first [second]) (by simp [absent])
  rw [List.map_singleton, isSetup] at others
  exact others

end DocBinder
