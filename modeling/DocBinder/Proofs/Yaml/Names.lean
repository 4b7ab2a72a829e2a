import DocBinder.Proofs.Steps
import DocBinder.Yaml.Reader
import Mathlib.Data.List.Nodup

/-!
# The names of mappings

A mapping that is read holds each of its names once, however often its text gives it and whatever is
merged into it, and so does every mapping below its keys.
-/

namespace DocBinder

namespace Value

/-- The names among the keys of a mapping. -/
def names (entries : List (Value × Value)) : List String :=
  entries.filterMap (·.1.string?)

@[simp]
theorem names_nil : names [] = [] := rfl

@[simp]
theorem names_cons (entry : Value × Value) (rest : List (Value × Value)) :
    names (entry :: rest) = entry.1.string?.toList ++ names rest := by
  rw [names, List.filterMap_cons]
  cases entry.1.string? <;> rfl

theorem string?_eq_some {key : Value} {name : String} :
    key.string? = some name ↔ key = .str name := by
  cases key <;> simp [string?]

/-- Setting a key adds no name, or the one of the key, which was not there. -/
theorem names_put (key value : Value) (entries : List (Value × Value)) :
    names (put key value entries) = names entries ∨
      ∃ name, key = .str name ∧ name ∉ names entries ∧
        names (put key value entries) = names entries ++ [name] := by
  induction entries with
  | nil =>
      cases isName : key.string? with
      | none =>
          left
          simp [put, isName]
      | some name =>
          right
          exact ⟨name, string?_eq_some.mp isName, by simp, by simp [put, isName]⟩
  | cons entry rest step =>
      rcases entry with ⟨first, old⟩
      rw [put]
      by_cases same : sameKey first key
      · left
        simp [same]
      · rw [if_neg same]
        rcases step with kept | ⟨name, rfl, isNew, added⟩
        · left
          simp [kept]
        · right
          refine ⟨name, rfl, ?_, by simp [added]⟩
          rw [names_cons, List.mem_append, Option.mem_toList, string?_eq_some, not_or]
          refine ⟨?_, isNew⟩
          rintro rfl
          apply same
          simp [sameKey]

theorem nodup_names_put {key value : Value} {entries : List (Value × Value)}
    (once : (names entries).Nodup) : (names (put key value entries)).Nodup := by
  rcases names_put key value entries with kept | ⟨name, _, isNew, added⟩
  · rwa [kept]
  · rw [added]
    apply List.Nodup.append once (List.nodup_singleton name)
    intro other isOld isName
    rw [List.mem_singleton.mp isName] at isOld
    exact isNew isOld

theorem mem_put {key value : Value} {entries : List (Value × Value)} {entry : Value × Value}
    (isEntry : entry ∈ put key value entries) :
    entry.2 = value ∨ ∃ old ∈ entries, entry.2 = old.2 := by
  induction entries with
  | nil =>
      left
      rw [put, List.mem_singleton] at isEntry
      rw [isEntry]
  | cons first rest step =>
      rw [put] at isEntry
      split at isEntry <;> rcases List.mem_cons.mp isEntry with rfl | isEntry
      · exact .inl rfl
      · exact .inr ⟨entry, List.mem_cons_of_mem _ isEntry, rfl⟩
      · exact .inr ⟨first, List.mem_cons_self, rfl⟩
      · rcases step isEntry with isValue | ⟨old, isOld, same⟩
        · exact .inl isValue
        · exact .inr ⟨old, List.mem_cons_of_mem _ isOld, same⟩

/-- Whether a value is a mapping. -/
def isMapping : Value → Bool
  | .map _ => true
  | _ => false

/-- A mapping has each name once, and so have the mappings below its keys. -/
inductive Distinct : Value → Prop where
  | map {entries : List (Value × Value)} (once : (names entries).Nodup)
      (below : ∀ entry ∈ entries, Distinct entry.2) : Distinct (.map entries)
  | other {value : Value} (isOther : value.isMapping = false) : Distinct value

theorem distinct_of_lookup {name : String} {entries : List (Value × Value)} {found : Value}
    (below : ∀ entry ∈ entries, Distinct entry.2) (isFound : lookup name entries = some found) :
    found.Distinct := by
  induction entries with
  | nil => cases isFound
  | cons entry rest step =>
      have later := step fun entry isEntry => below entry (List.mem_cons_of_mem _ isEntry)
      rcases entry with ⟨key, value⟩
      unfold lookup at isFound
      split at isFound
      · contradiction
      · rename_i same
        rw [List.cons.injEq, Prod.mk.injEq] at same
        rcases same with ⟨⟨rfl, rfl⟩, rfl⟩
        split at isFound
        · cases isFound
          exact below _ List.mem_cons_self
        · exact later isFound
      · rename_i same
        rw [List.cons.injEq] at same
        exact later (same.2 ▸ isFound)

theorem Distinct.part {value : Value} (distinct : value.Distinct) (name : String) :
    (value.part name).Distinct := by
  rw [Value.part]
  cases isFound : value.get? name with
  | none => exact .other rfl
  | some found =>
      cases value with
      | map entries =>
          cases distinct with
          | map _ below => exact distinct_of_lookup below isFound
          | other isOther => cases isOther
      | _ => cases isFound

end Value

namespace Yaml

open Value (names put Distinct nodup_names_put mem_put)

theorem distinct_names (entries : List (Value × Value)) :
    (names (distinct entries)).Nodup ∧
      ∀ entry ∈ distinct entries, ∃ given ∈ entries, entry.2 = given.2 := by
  -- The entries that were put already hold each name once, and values that were given.
  have goesOn (kept behind : List (Value × Value)) (once : (names kept).Nodup)
      (areGiven : ∀ entry ∈ kept, ∃ given ∈ entries, entry.2 = given.2)
      (some : ∀ entry ∈ behind, entry ∈ entries) :
      (names (behind.foldl (fun kept entry => put entry.1 entry.2 kept) kept)).Nodup ∧
        ∀ entry ∈ behind.foldl (fun kept entry => put entry.1 entry.2 kept) kept,
          ∃ given ∈ entries, entry.2 = given.2 := by
    induction behind generalizing kept with
    | nil => exact ⟨once, areGiven⟩
    | cons next rest step =>
        apply step _ (nodup_names_put once)
        · intro entry isEntry
          rcases mem_put isEntry with isValue | ⟨old, isOld, same⟩
          · exact ⟨next, some next List.mem_cons_self, isValue⟩
          · rw [same]
            exact areGiven old isOld
        · exact fun entry isEntry => some entry (List.mem_cons_of_mem _ isEntry)
  exact goesOn [] entries List.nodup_nil (by simp) fun entry isEntry => isEntry

/-! ## Reading -/

theorem written_isMapping {written : WrittenMoment} {value : Value}
    (reads : written.value = .ok value) : value.isMapping = false := by
  unfold WrittenMoment.value at reads
  split at reads
  · rcases Except.exists_of_bind_eq_ok reads with ⟨date, _, reads⟩
    cases reads
    rfl
  · rcases Except.exists_of_bind_eq_ok reads with ⟨zone, _, reads⟩
    rcases Except.exists_of_bind_eq_ok reads with ⟨date, _, reads⟩
    dsimp only at reads
    split at reads
    · cases reads
    · split at reads
      · cases reads
      · split at reads <;> cases reads
        rfl

theorem scalarValue_isMapping {kind : Kind} {text : Text} {value : Value}
    (reads : scalarValue kind text = .ok value) : value.isMapping = false := by
  have usable {α : Type} {change : α → Value} {result : Except Failure α}
      (isOther : ∀ first, (change first).isMapping = false)
      (reads : (result.map change).mapError Fault.unusable = .ok value) :
      value.isMapping = false := by
    cases result with
    | error failure => cases reads
    | ok first =>
        cases reads
        exact isOther first
  unfold scalarValue at reads
  extract_lets change at reads
  split at reads
  · cases reads
    rfl
  · cases reads
    rfl
  · exact usable (fun _ => rfl) reads
  · exact usable (fun _ => rfl) reads
  · exact usable (fun _ => rfl) reads
  · split at reads
    · rename_i written _
      cases gives : written.value with
      | error failure =>
          simp only [gives] at reads
          cases reads
      | ok moment =>
          simp only [gives] at reads
          cases reads
          exact written_isMapping gives
    · cases reads
  · rcases Except.exists_of_map_eq_ok reads with ⟨_, _, rfl⟩
    rfl
  · cases reads

theorem scalar_isMapping {level : Nat} {kind : Kind} {text : Text} {value : Value}
    (reads : (scalarValue kind text).mapError (inLevel level) = .ok value) :
    value.isMapping = false := by
  cases gives : scalarValue kind text with
  | error failure =>
      rw [gives] at reads
      cases reads
  | ok first =>
      rw [gives] at reads
      cases reads
      exact scalarValue_isMapping gives

theorem defaultValue_isMapping {level : Nat} {kind : Kind} {entries : List (Node × Node)}
    {value : Value} (reads : defaultValue level kind entries = .ok value) :
    value.isMapping = false := by
  unfold defaultValue at reads
  split at reads
  · cases reads
  · split at reads
    · split at reads
      · exact scalar_isMapping reads
      · exact defaultValue_isMapping reads
      · cases reads
    · exact defaultValue_isMapping reads
termination_by sizeOf entries

/-- Only a mapping is read as a mapping, whose entries are those merged into it and its own. -/
theorem nodeValue_cases {level : Nat} {asKey : Bool} {node : Node} {value : Value}
    (reads : nodeValue level asKey node = .ok value) :
    value.isMapping = false ∨ ∃ tag entries merged own, node = .mapping tag entries ∧
      entryValues (level + 1) entries = .ok (merged, own) ∧
      value = .map (distinct (merged ++ own)) := by
  have ofMap {α : Type} {change : α → Value} {result : Except Ranked α}
      (isOther : ∀ first, (change first).isMapping = false)
      (reads : result.map change = .ok value) : value.isMapping = false := by
    rcases Except.exists_of_map_eq_ok reads with ⟨first, _, rfl⟩
    exact isOther first
  unfold nodeValue at reads
  extract_lets kind undefined at reads
  have refuses : undefined ≠ .ok value := by
    simp [undefined]
  clear_value kind undefined
  split at reads
  all_goals first | exact absurd reads refuses | (cases reads; done) | skip
  · left
    cases reads
    rfl
  · left
    split at reads
    all_goals first | (cases reads) | exact scalar_isMapping reads
  · exact .inl (ofMap (fun _ => rfl) reads)
  · exact .inl (ofMap (fun _ => rfl) reads)
  · right
    rcases Except.exists_of_map_eq_ok reads with ⟨⟨merged, own⟩, gives, rfl⟩
    exact ⟨_, _, merged, own, rfl, gives, rfl⟩
  · exact .inl (ofMap (fun _ => rfl) reads)
  · exact .inl (defaultValue_isMapping reads)

theorem both_eq_ok {α β : Type} {first : Except Ranked α} {second : Except Ranked β} {pair : α × β}
    (gives : both first second = .ok pair) : first = .ok pair.1 ∧ second = .ok pair.2 := by
  unfold both at gives
  split at gives <;> cases gives
  exact ⟨rfl, rfl⟩

mutual

/-- Every mapping that a node is read as has each of its names once. -/
theorem nodeValue_distinct {level : Nat} {asKey : Bool} {node : Node} {value : Value}
    (reads : nodeValue level asKey node = .ok value) : value.Distinct := by
  rcases nodeValue_cases reads with isOther | ⟨tag, entries, merged, own, rfl, gives, rfl⟩
  · exact .other isOther
  · rcases distinct_names (merged ++ own) with ⟨once, areGiven⟩
    refine .map once ?_
    intro entry isEntry
    rcases areGiven entry isEntry with ⟨given, isGiven, same⟩
    rw [same]
    exact entryValues_distinct entries gives given isGiven
termination_by sizeOf node

theorem entryValues_distinct {level : Nat} {merged own : List (Value × Value)} :
    ∀ entries : List (Node × Node), entryValues level entries = .ok (merged, own) →
      ∀ entry ∈ merged ++ own, entry.2.Distinct
  | [], reads => by
      cases reads
      simp
  | (key, value) :: rest, reads => by
      unfold entryValues at reads
      split at reads
      · rcases Except.exists_of_map_eq_ok reads with ⟨⟨brought, later, others⟩, gives, same⟩
        rcases both_eq_ok gives with ⟨merges, follows⟩
        rw [Prod.mk.injEq] at same
        rcases same with ⟨rfl, rfl⟩
        intro entry isEntry
        rw [List.append_assoc, List.mem_append] at isEntry
        rcases isEntry with isBrought | isLater
        · exact mergedValues_distinct value merges entry isBrought
        · exact entryValues_distinct rest follows entry isLater
      · rcases Except.exists_of_map_eq_ok reads with ⟨⟨first, later, others⟩, gives, same⟩
        rcases both_eq_ok gives with ⟨readsFirst, follows⟩
        rw [Prod.mk.injEq] at same
        rcases same with ⟨rfl, rfl⟩
        intro entry isEntry
        rw [List.mem_append, List.mem_cons, or_left_comm] at isEntry
        rcases isEntry with rfl | isLater
        · exact nodeValue_distinct (both_eq_ok readsFirst).2
        · exact entryValues_distinct rest follows entry (List.mem_append.mpr isLater)
termination_by entries => sizeOf entries

theorem mergedValues_distinct {level : Nat} {merged : List (Value × Value)} :
    ∀ node : Node, mergedValues level node = .ok merged → ∀ entry ∈ merged, entry.2.Distinct
  | .mapping tag entries, reads => by
      unfold mergedValues at reads
      rcases Except.exists_of_map_eq_ok reads with ⟨⟨brought, own⟩, gives, rfl⟩
      exact entryValues_distinct entries gives
  | .sequence tag items, reads => by
      unfold mergedValues at reads
      exact mergedItems_distinct items reads
  | .loop, reads => by
      cases reads
      simp
  | .scalar _ _ _, reads => by cases reads
termination_by node => sizeOf node

theorem mergedItems_distinct {level : Nat} {merged : List (Value × Value)} :
    ∀ items : List Node, mergedItems level items = .ok merged → ∀ entry ∈ merged, entry.2.Distinct
  | [], reads => by
      cases reads
      simp
  | .mapping tag entries :: rest, reads => by
      unfold mergedItems at reads
      rcases Except.exists_of_map_eq_ok reads with ⟨⟨⟨brought, own⟩, later⟩, gives, same⟩
      rcases both_eq_ok gives with ⟨first, follows⟩
      intro entry isEntry
      rw [← same] at isEntry
      rcases List.mem_append.mp isEntry with isEntry | isOwn
      · rcases List.mem_append.mp isEntry with isLater | isBrought
        · exact mergedItems_distinct rest follows entry isLater
        · exact entryValues_distinct entries first entry (List.mem_append_left _ isBrought)
      · exact entryValues_distinct entries first entry (List.mem_append_right _ isOwn)
  | .scalar _ _ _ :: _, reads => by cases reads
  | .sequence _ _ :: _, reads => by cases reads
  | .loop :: _, reads => by cases reads
termination_by items => sizeOf items

end

/-- Every mapping in what a text holds has each of its names once. -/
theorem read_distinct {text : Text} {content : Content} (reads : read text = .ok content) :
    content.value.Distinct := by
  rcases Except.exists_of_bind_eq_ok reads with ⟨node, _, reads⟩
  split at reads
  · cases reads
    exact .other rfl
  · split at reads
    · rename_i value gives
      cases reads
      exact nodeValue_distinct gives
    · cases reads

end Yaml

end DocBinder
