import DocBinder.Yaml.Node
import DocBinder.Yaml.Typed

/-!
# Reading YAML

The value of a YAML text. Collections are read level by level, so that of several faults the one
nearest to the root counts. A key that merges brings in the entries of other mappings; the entries
of the mapping itself go before them.
-/

namespace DocBinder.Yaml

/-- A fault with its rank: the lower rank counts. The faults of a collection at a level come before
those of its scalars, and these before those of the next level. -/
abbrev Ranked := Nat × Fault

/-- A fault of what a collection at a level is made of. -/
def atLevel (level : Nat) (note : String) : Ranked :=
  (2 * level, .malformed note)

/-- A fault of a scalar in a collection at a level. -/
def inLevel (level : Nat) (fault : Fault) : Ranked :=
  (2 * level + 1, fault)

/-- Two results, or the fault that counts. -/
def both {α β : Type} (first : Except Ranked α) (second : Except Ranked β) :
    Except Ranked (α × β) :=
  match first, second with
  | .ok left, .ok right => .ok (left, right)
  | .error left, .error right => .error (if right.1 < left.1 then right else left)
  | .error left, .ok _ => .error left
  | .ok _, .error right => .error right

/-- The kind of a node, if its tag names one. -/
def Node.kind? : Node → Option Kind
  | .scalar (some tag) _ _ => Kind.ofTag? tag
  | .scalar none text isPlain => some (if isPlain then kindOfPlain text else .string)
  | .sequence (some tag) _ => Kind.ofTag? tag
  | .sequence none _ => some .list
  | .mapping (some tag) _ => Kind.ofTag? tag
  | .mapping none _ => some .mapping
  | .loop => some .list

/-- Whether a node is the key that merges mappings. -/
def Node.isMerge (node : Node) : Bool :=
  node.kind? == some .merge

/-- A node of a mapping as its key: the key of a default value is a string there. -/
def keyKind (kind : Option Kind) : Option Kind :=
  if kind == some .default then some .string else kind

/-- The entries of a mapping that read as a set, whose items are in the order of their literals. -/
def setOf (entries : List (Value × Value)) : Value :=
  .set ((entries.map (·.1)).mergeSort fun first second => first.literal ≤ second.literal)

/-- Entries with each key once: in its first place, with its last value. -/
def distinct (entries : List (Value × Value)) : List (Value × Value) :=
  entries.foldl (fun kept (key, value) => Value.put key value kept) []

/-- A key, which must not be a collection. -/
def hashable (level : Nat) (key : Except Ranked Value) : Except Ranked Value :=
  match key with
  | .error (rank, fault) =>
      if rank ≤ 2 * level + 1 then .error (rank, fault)
      else .error (inLevel level (.malformed "found unhashable key"))
  | .ok value =>
      if value.isKey then .ok value else .error (inLevel level (.malformed "found unhashable key"))

mutual

/-- The value of a node in a collection at a level. -/
def nodeValue (level : Nat) (asKey : Bool) (node : Node) : Except Ranked Value :=
  let kind := if asKey then keyKind node.kind? else node.kind?
  let undefined : Except Ranked Value :=
    .error (inLevel level (.malformed "could not determine a constructor for the tag"))
  match node, kind with
  | .loop, _ => .ok (.list [])
  | _, none => undefined
  | .scalar _ text _, some kind =>
      match kind with
      | .list | .mapping | .set | .pairs =>
          .error (atLevel (level + 1) "expected a collection, but found a scalar")
      | kind => (scalarValue kind text).mapError (inLevel level)
  | .sequence _ items, some .list => (itemValues (level + 1) items).map .list
  | .sequence _ items, some .pairs => (pairValues (level + 1) items).map .list
  | .sequence _ _, some .mapping =>
      .error (atLevel (level + 1) "expected a mapping, but found a sequence")
  | .sequence _ _, some .set =>
      .error (atLevel (level + 1) "expected a mapping, but found a sequence")
  | .sequence _ _, some .merge => undefined
  | .sequence _ _, some .default => undefined
  | .sequence _ _, some _ =>
      .error (inLevel level (.malformed "expected a scalar, but found a sequence"))
  | .mapping _ entries, some .mapping =>
      (entryValues (level + 1) entries).map fun (merged, own) => .map (distinct (merged ++ own))
  | .mapping _ entries, some .set =>
      (entryValues (level + 1) entries).map fun (merged, own) => setOf (distinct (merged ++ own))
  | .mapping _ _, some .list =>
      .error (atLevel (level + 1) "expected a sequence, but found a mapping")
  | .mapping _ _, some .pairs =>
      .error (atLevel (level + 1) "expected a sequence, but found a mapping")
  | .mapping _ _, some .merge => undefined
  | .mapping _ _, some .default => undefined
  | .mapping _ entries, some kind => defaultValue level kind entries

/-- The value of a mapping that has to be a scalar: that of its key for a default value. -/
def defaultValue (level : Nat) (kind : Kind) : List (Node × Node) → Except Ranked Value
  | [] => .error (inLevel level (.malformed "expected a scalar, but found a mapping"))
  | (key, value) :: rest =>
      if key.kind? == some .default then
        match value with
        | .scalar _ text _ => (scalarValue kind text).mapError (inLevel level)
        | .mapping _ entries => defaultValue level kind entries
        | _ => .error (inLevel level (.malformed "expected a scalar, but found a sequence"))
      else defaultValue level kind rest

/-- The values of the items of a sequence. -/
def itemValues (level : Nat) : List Node → Except Ranked (List Value)
  | [] => .ok []
  | item :: rest =>
      (both (nodeValue level false item) (itemValues level rest)).map fun (value, values) =>
        value :: values

/-- The values of mappings with a single entry, each as a pair. -/
def pairValues (level : Nat) : List Node → Except Ranked (List Value)
  | [] => .ok []
  | .mapping _ [(key, value)] :: rest =>
      (both (both (nodeValue level false key) (nodeValue level false value))
        (pairValues level rest)).map fun ((key, value), values) => .list [key, value] :: values
  | _ :: _ => .error (inLevel level (.malformed "expected a mapping of length 1"))

/-- The values of the entries of a mapping: those merged into it, and its own. -/
def entryValues (level : Nat) :
    List (Node × Node) → Except Ranked (List (Value × Value) × List (Value × Value))
  | [] => .ok ([], [])
  | (key, value) :: rest =>
      if key.isMerge then
        (both (mergedValues level value) (entryValues level rest)).map
          fun (entries, merged, own) => (entries ++ merged, own)
      else
        let read := both (hashable level (nodeValue level true key)) (nodeValue level false value)
        (both read (entryValues level rest)).map fun (entry, merged, own) => (merged, entry :: own)

/-- The entries that a merging key brings in: those of a mapping, or those of several, of which the
first ones count most. -/
def mergedValues (level : Nat) : Node → Except Ranked (List (Value × Value))
  | .mapping _ entries => (entryValues level entries).map fun (merged, own) => merged ++ own
  | .sequence _ items => mergedItems level items
  | .loop => .ok []
  | .scalar .. => .error (atLevel level "expected a mapping or list of mappings for merging")

/-- The entries of several mappings to merge, the last mapping first. -/
def mergedItems (level : Nat) : List Node → Except Ranked (List (Value × Value))
  | [] => .ok []
  | .mapping _ entries :: rest =>
      (both (entryValues level entries) (mergedItems level rest)).map
        fun ((merged, own), later) => later ++ merged ++ own
  | _ :: _ => .error (atLevel level "expected a mapping for merging")

end

mutual

/-- Whether a node holds a loop. -/
def Node.hasLoop : Node → Bool
  | .scalar .. => false
  | .sequence _ items => itemsHaveLoop items
  | .mapping _ entries => entriesHaveLoop entries
  | .loop => true

/-- Whether one of some nodes holds a loop. -/
def itemsHaveLoop : List Node → Bool
  | [] => false
  | item :: rest => item.hasLoop || itemsHaveLoop rest

/-- Whether one of some entries holds a loop in its value. Merging a mapping into itself adds
nothing to it. -/
def entriesHaveLoop : List (Node × Node) → Bool
  | [] => false
  | (key, .loop) :: rest => !key.isMerge || entriesHaveLoop rest
  | (_, value) :: rest => value.hasLoop || entriesHaveLoop rest

end

/-- What a text holds: its value, and whether the value contains itself somewhere. -/
structure Content where
  value : Value
  isEndless : Bool
deriving Repr, Inhabited

/-- What a YAML text holds. A text without a document holds nothing. -/
def read (text : Text) : Except Fault Content := do
  match ← Node.ofText text with
  | none => return ⟨.null, false⟩
  | some node =>
      match nodeValue 0 false node with
      | .ok value => return ⟨value, node.hasLoop⟩
      | .error (_, fault) => throw fault

end DocBinder.Yaml
