import DocBinder.Proofs.Content.Compile

/-!
# What directives spell out

Every block but a diagram comes to one request, with the directive or the table specification that
names it. A directive spells out the text that its own request inserts, and its spans cover what
the spans of its block cover. In a list, where the entries are joined into one text, the spans of an
entry move by the lines before it and by its mark, which grows with its number.
-/

namespace DocBinder

open Docs

/-! ## The texts that spans cover -/

/-- What the spans of a text cover, each with its style. -/
def StyledText.parts (content : StyledText) : List (SpanStyle × Text) :=
  content.spans.map fun span => (span.style, content.text.extract span.start span.stop)

/-- What the spans of a directive cover. -/
def Directive.parts (directive : Directive) : List (SpanStyle × Text) :=
  StyledText.parts ⟨directive.literal, directive.spans⟩

/-- What the spans of a block cover, in order. Those of a table belong to its cells. -/
def Block.parts : Block → List (SpanStyle × Text)
  | .paragraph _ content => content.parts
  | .list _ _ items => items.flatMap StyledText.parts
  | _ => []

/-- The cells of a block that is a table. -/
def Block.grid? : Block → Option Grid
  | .table _ grid => some grid
  | _ => none

theorem StyledText.parts_append (text : Text) (first second : List Span) :
    StyledText.parts ⟨text, first ++ second⟩ =
      StyledText.parts ⟨text, first⟩ ++ StyledText.parts ⟨text, second⟩ :=
  List.map_append

theorem Text.extract_append (front text behind : Text) (start : Nat) {stop : Nat}
    (within : stop ≤ text.length) :
    (front ++ text ++ behind).extract (front.length + start) (front.length + stop) =
      text.extract start stop := by
  rw [List.extract_eq_take_drop, List.extract_eq_take_drop, Nat.add_sub_add_left,
    List.append_assoc, List.drop_append, Nat.add_sub_cancel_left,
    List.drop_eq_nil_of_le (Nat.le_add_right front.length start), List.nil_append,
    List.drop_append, List.take_append, List.length_drop]
  have nothing : stop - start - (text.length - start) = 0 := by omega
  rw [nothing, List.take_zero, List.append_nil]

/-- Spans that move with their text cover what they covered. -/
theorem StyledText.Tidy.parts_shift {content : StyledText} (tidy : content.Tidy)
    (front behind : Text) :
    StyledText.parts ⟨front ++ content.text ++ behind, content.spans.map (·.shift front.length)⟩ =
      content.parts := by
  rw [parts, parts, List.map_map]
  apply List.map_congr_left
  intro span mem
  have covers := Text.extract_append front content.text behind span.start (tidy.within span mem)
  exact congrArg (Prod.mk span.style) covers

/-- The spans of a list's lines cover what the spans of its entries cover, when the lines stand
behind a text of the length that they are told. -/
theorem parts_listLines (ordered : Bool) (number : Nat) (front : Text) {items : List StyledText}
    (tidy : ∀ item ∈ items, item.Tidy) :
    StyledText.parts ⟨front ++ Text.joinLines (listLines ordered number front.length items).1,
      (listLines ordered number front.length items).2⟩ = items.flatMap StyledText.parts := by
  induction items generalizing number front with
  | nil => rfl
  | cons item rest step =>
      have own := tidy item List.mem_cons_self
      let mark := itemMark ordered number
      have lengths : front.length + (mark ++ item.text).length + 1 =
          (front ++ mark ++ item.text ++ ['\n']).length := by
        simp only [List.length_append, List.length_singleton]
        omega
      have later := step (number + 1) (front ++ mark ++ item.text ++ ['\n'])
        (fun other mem => tidy other (List.mem_cons_of_mem _ mem))
      simp only [listLines]
      rw [lengths, StyledText.parts_append, List.flatMap_cons, ← List.length_append]
      by_cases last : rest = []
      · subst last
        have alone := own.parts_shift (front ++ mark) []
        rw [List.append_nil, List.append_assoc] at alone
        exact congrArg (· ++ []) alone
      · rw [Text.joinLines_cons _ (listLines_ne_nil last)]
        congr 1
        · rw [← own.parts_shift (front ++ mark) ('\n' :: Text.joinLines (listLines ordered
            (number + 1) (front ++ mark ++ item.text ++ ['\n']).length rest).1)]
          simp only [List.append_assoc, mark]
        · rw [← later]
          simp only [List.append_assoc, mark, List.singleton_append]

/-! ## One block -/

/-- Whether a block comes to a request. -/
def Block.isInserted : Block → Bool
  | .diagram .. => false
  | _ => true

/-- What a directive of a block agrees on with its request: the request inserts the label line, the
literal and what trails it, which begins a new line; and the spans are parts of the literal that
cover what the spans of the block cover. -/
structure Directive.Spells (directive : Directive) (block : Block) (request : Request) : Prop where
  inserts : request = appendText ((directive.label.map (· ++ ['\n'])).getD [] ++ directive.literal
    ++ directive.trailing)
  newLine : ∃ rest, directive.trailing = '\n' :: rest
  tidy : StyledText.Tidy ⟨directive.literal, directive.spans⟩
  covers : directive.parts = block.parts

/-- What a table specification agrees on with its request. -/
structure TableSpec.Sizes (spec : TableSpec) (block : Block) (request : Request) : Prop where
  inserts : request = .insertTable spec.grid.rowCount spec.grid.columnCount .bodyEnd
  tidy : spec.grid.Tidy
  reads : block.grid? = some spec.grid

theorem StyledText.Tidy.plain (text : Text) : StyledText.Tidy ⟨text, []⟩ :=
  ⟨by simp, by simp, .nil⟩

section Block

variable {block : Block} {number : Nat} {contribution : Contribution}

theorem Block.isInserted_of_contribution
    (contributes : block.contribution? number = some contribution) : block.isInserted = true := by
  cases block with
  | diagram source language text => cases contributes
  | _ => rfl

/-- The directive of a block names its request and spells out its text. -/
theorem Block.spells_contribution (tidy : block.Tidy)
    (contributes : block.contribution? number = some contribution) {directive : Directive}
    (styles : directive ∈ contribution.directive) :
    directive.request = number ∧ directive.Spells block contribution.request := by
  cases block with
  | heading source level text =>
      cases contributes
      rcases Option.mem_ite_none_left.mp styles with ⟨_, ⟨⟩⟩
      exact ⟨rfl, rfl, ⟨_, rfl⟩, .plain text, rfl⟩
  | code source language text =>
      cases contributes
      rcases Option.mem_ite_none_left.mp styles with ⟨_, ⟨⟩⟩
      exact ⟨rfl, rfl, ⟨_, rfl⟩, .plain text, rfl⟩
  | list source ordered items =>
      cases contributes
      rcases Option.mem_ite_none_left.mp styles with ⟨_, ⟨⟩⟩
      exact ⟨rfl, rfl, ⟨_, rfl⟩, tidy_listLines ordered 1 tidy, parts_listLines ordered 1 [] tidy⟩
  | table source grid =>
      cases contributes
      cases styles
  | paragraph source content =>
      cases contributes
      rcases Option.mem_ite_none_left.mp styles with ⟨_, ⟨⟩⟩
      exact ⟨rfl, rfl, ⟨_, rfl⟩, tidy, rfl⟩
  | placeholder source token =>
      cases contributes
      cases styles
  | diagram source language text => cases contributes

/-- The table specification of a block names its request and has the size of the table. -/
theorem Block.sizes_contribution (tidy : block.Tidy)
    (contributes : block.contribution? number = some contribution) {spec : TableSpec}
    (fills : spec ∈ contribution.table) :
    spec.request = number ∧ spec.Sizes block contribution.request := by
  cases block with
  | table source grid =>
      cases contributes
      cases fills
      exact ⟨rfl, rfl, tidy, rfl⟩
  | diagram source language text => cases contributes
  | _ =>
      cases contributes
      cases fills

theorem Directive.parts_unlessDropped {dropped : Bool} {directive : Directive}
    (bare : dropped = true → directive.spans = []) :
    (if dropped then none else some directive).toList.flatMap Directive.parts =
      directive.parts := by
  cases dropped with
  | false => simp
  | true => simp [Directive.parts, StyledText.parts, bare]

/-- Where a block has no directive, its spans cover nothing. -/
theorem Block.parts_contribution (tidy : block.Tidy)
    (contributes : block.contribution? number = some contribution) :
    contribution.directive.toList.flatMap Directive.parts = block.parts := by
  cases block with
  | heading source level text =>
      cases contributes
      exact Directive.parts_unlessDropped fun _ => rfl
  | code source language text =>
      cases contributes
      exact Directive.parts_unlessDropped fun _ => rfl
  | list source ordered items =>
      cases contributes
      let directive : Directive := ⟨.list ordered, Text.joinLines (listLines ordered 1 0 items).1,
        number, none, (listLines ordered 1 0 items).2, ['\n', '\n']⟩
      have covers : directive.parts = items.flatMap StyledText.parts :=
        parts_listLines ordered 1 [] tidy
      have kept : (if directive.spans.isEmpty then none else some directive).toList.flatMap
          Directive.parts = directive.parts := Directive.parts_unlessDropped List.isEmpty_iff.mp
      exact kept.trans covers
  | paragraph source content =>
      cases contributes
      exact Directive.parts_unlessDropped List.isEmpty_iff.mp
  | table source grid =>
      cases contributes
      rfl
  | placeholder source token =>
      cases contributes
      rfl
  | diagram source language text => cases contributes

theorem Block.grid_contribution (contributes : block.contribution? number = some contribution) :
    contribution.table.map TableSpec.grid = block.grid? := by
  cases block with
  | diagram source language text => cases contributes
  | _ =>
      cases contributes
      rfl

theorem Block.bare_of_no_contribution (contributes : block.contribution? number = none) :
    block.isInserted = false ∧ block.parts = [] ∧ block.grid? = none := by
  cases block with
  | diagram source language text => exact ⟨rfl, rfl, rfl⟩
  | _ => cases contributes

end Block

/-! ## All blocks -/

/-- The blocks that come to requests, numbered from `number`, each with what it contributes. -/
def contributionsFrom (number : Nat) : List Block → List (Block × Contribution)
  | [] => []
  | block :: rest =>
      match block.contribution? number with
      | some contribution => (block, contribution) :: contributionsFrom (number + 1) rest
      | none => contributionsFrom number rest

/-- The characters that requests insert; a table counts none. -/
def insertedLength (requests : List Request) : Nat :=
  (requests.flatMap Request.insertedText).length

section Blocks

variable {number offset : Nat} {blocks : List Block}

theorem requests_compileFrom : (compileFrom number offset blocks).requests =
    (contributionsFrom number blocks).map (·.2.request) := by
  induction blocks generalizing number offset with
  | nil => rfl
  | cons block rest step =>
      cases contributes : block.contribution? number <;>
        simp only [compileFrom, contributionsFrom, contributes, List.map_cons, step]

theorem directives_compileFrom : (compileFrom number offset blocks).directives =
    (contributionsFrom number blocks).flatMap (·.2.directive.toList) := by
  induction blocks generalizing number offset with
  | nil => rfl
  | cons block rest step =>
      cases contributes : block.contribution? number <;>
        simp only [compileFrom, contributionsFrom, contributes, List.flatMap_cons, step]

theorem tables_compileFrom : (compileFrom number offset blocks).tables =
    (contributionsFrom number blocks).flatMap (·.2.table.toList) := by
  induction blocks generalizing number offset with
  | nil => rfl
  | cons block rest step =>
      cases contributes : block.contribution? number <;>
        simp only [compileFrom, contributionsFrom, contributes, List.flatMap_cons, step]

theorem offsets_compileFrom : (compileFrom number offset blocks).offsets =
    (List.range (compileFrom number offset blocks).requests.length).map fun place =>
      offset + insertedLength ((compileFrom number offset blocks).requests.take place) := by
  induction blocks generalizing number offset with
  | nil => rfl
  | cons block rest step =>
      cases contributes : block.contribution? number with
      | none =>
          simp only [compileFrom, contributes]
          exact step
      | some contribution =>
          simp only [compileFrom, contributes]
          rw [List.length_cons, List.range_succ_eq_map, List.map_cons, List.map_map, step]
          simp [insertedLength, Nat.add_assoc]

theorem blocks_contributionsFrom (number : Nat) :
    (contributionsFrom number blocks).map (·.1) = blocks.filter Block.isInserted := by
  induction blocks generalizing number with
  | nil => rfl
  | cons block rest step =>
      cases contributes : block.contribution? number with
      | none =>
          have dropped := (Block.bare_of_no_contribution contributes).1
          simp [contributionsFrom, contributes, step, dropped]
      | some contribution =>
          have kept := Block.isInserted_of_contribution contributes
          simp [contributionsFrom, contributes, step, kept]

/-- All that the spans of the blocks cover is covered by directives, in order and once. -/
theorem parts_directives (tidy : ∀ block ∈ blocks, block.Tidy) :
    (compileFrom number offset blocks).directives.flatMap Directive.parts =
      blocks.flatMap Block.parts := by
  induction blocks generalizing number offset with
  | nil => rfl
  | cons block rest step =>
      have further := fun number offset => @step number offset fun other mem =>
        tidy other (List.mem_cons_of_mem _ mem)
      cases contributes : block.contribution? number with
      | none =>
          have bare := (Block.bare_of_no_contribution contributes).2.1
          simp only [compileFrom, contributes, List.flatMap_cons, bare, further, List.nil_append]
      | some contribution =>
          have covers := Block.parts_contribution (tidy block List.mem_cons_self) contributes
          simp only [compileFrom, contributes, List.flatMap_append, List.flatMap_cons, covers,
            further]

theorem grids_tables : (compileFrom number offset blocks).tables.map TableSpec.grid =
    blocks.filterMap Block.grid? := by
  induction blocks generalizing number offset with
  | nil => rfl
  | cons block rest step =>
      cases contributes : block.contribution? number with
      | none =>
          have bare := (Block.bare_of_no_contribution contributes).2.2
          simp only [compileFrom, contributes, List.filterMap_cons, bare, step]
      | some contribution =>
          have grid := Block.grid_contribution contributes
          simp only [compileFrom, contributes, List.map_append, step, List.filterMap_cons, ← grid]
          cases contribution.table <;> rfl

theorem contributes_of_getElem? {place : Nat} {entry : Block × Contribution}
    (found : (contributionsFrom number blocks)[place]? = some entry) :
    entry.1 ∈ blocks ∧ entry.1.contribution? (number + place) = some entry.2 := by
  induction blocks generalizing number place with
  | nil => simp [contributionsFrom] at found
  | cons block rest step =>
      rw [contributionsFrom] at found
      split at found
      · rename_i contribution contributes
        cases place with
        | zero =>
            cases found
            exact ⟨List.mem_cons_self, contributes⟩
        | succ place =>
            rcases step found with ⟨mem, contributesThere⟩
            rw [Nat.add_right_comm] at contributesThere
            exact ⟨List.mem_cons_of_mem _ mem, contributesThere⟩
      · rcases step found with ⟨mem, contributesThere⟩
        exact ⟨List.mem_cons_of_mem _ mem, contributesThere⟩

/-- What a block contributes is numbered by the place of the block and of its request. -/
theorem exists_place_of_mem {entry : Block × Contribution}
    (mem : entry ∈ contributionsFrom 0 blocks) :
    ∃ place, entry.1 ∈ blocks ∧ entry.1.contribution? place = some entry.2 ∧
      (blocks.filter Block.isInserted)[place]? = some entry.1 ∧
      (compile blocks).requests[place]? = some entry.2.request := by
  rcases List.getElem?_of_mem mem with ⟨place, found⟩
  rcases contributes_of_getElem? found with ⟨blockMem, contributes⟩
  rw [Nat.zero_add] at contributes
  refine ⟨place, blockMem, contributes, ?_, ?_⟩
  · rw [← blocks_contributionsFrom 0, List.getElem?_map, found, Option.map_some]
  · rw [compile, requests_compileFrom, List.getElem?_map, found, Option.map_some]

end Blocks

/-- Whatever the Markdown: every block but a diagram has one request, and there is one offset for
every request, the number of characters that the requests before it insert. The directives name
their requests in ascending order. Each spells out the text of its request and covers what the
spans of the block behind the request cover, and each table specification has the size of the table
that its request inserts and fits into it. No span and no table of the blocks is missing. -/
theorem compile_spells (diagramLanguages : List Text) (markdown : Text) :
    let blocks := Markdown.classify diagramLanguages markdown
    let inserted := blocks.filter Block.isInserted
    let compiled := compile blocks
    compiled.requests.length = inserted.length ∧
      (compiled.offsets = (List.range compiled.requests.length).map fun number =>
        insertedLength (compiled.requests.take number)) ∧
      (compiled.directives.Pairwise fun first second => first.request < second.request) ∧
      (∀ directive ∈ compiled.directives, ∃ block request,
        inserted[directive.request]? = some block ∧
          compiled.requests[directive.request]? = some request ∧ directive.Spells block request) ∧
      (∀ spec ∈ compiled.tables, ∃ block request,
        inserted[spec.request]? = some block ∧
          compiled.requests[spec.request]? = some request ∧ spec.Sizes block request) ∧
      compiled.directives.flatMap Directive.parts = blocks.flatMap Block.parts ∧
      compiled.tables.map TableSpec.grid = blocks.filterMap Block.grid? := by
  dsimp only
  refine ⟨?_, ?_, (outline_compile diagramLanguages markdown).pairwise_request, ?_, ?_,
    parts_directives Markdown.tidy_classify, grids_tables⟩
  · rw [compile, requests_compileFrom, ← blocks_contributionsFrom 0, List.length_map,
      List.length_map]
  · rw [compile, offsets_compileFrom]
    simp only [Nat.zero_add]
  · intro directive mem
    rw [compile, directives_compileFrom, List.mem_flatMap] at mem
    rcases mem with ⟨entry, entryMem, styles⟩
    rcases exists_place_of_mem entryMem with ⟨place, blockMem, contributes, block, request⟩
    rcases Block.spells_contribution (Markdown.tidy_classify _ blockMem) contributes
      (Option.mem_toList.mp styles) with ⟨rfl, spells⟩
    exact ⟨_, _, block, request, spells⟩
  · intro spec mem
    rw [compile, tables_compileFrom, List.mem_flatMap] at mem
    rcases mem with ⟨entry, entryMem, fills⟩
    rcases exists_place_of_mem entryMem with ⟨place, blockMem, contributes, block, request⟩
    rcases Block.sizes_contribution (Markdown.tidy_classify _ blockMem) contributes
      (Option.mem_toList.mp fills) with ⟨rfl, sizes⟩
    exact ⟨_, _, block, request, sizes⟩

end DocBinder
