import DocBinder.Proofs.Sync.Watch

/-!
# Formatting the own texts

What the formatting of a document finds once its content and its tables are in place. Every
directive is found by the search forward, but the search begins at a position that leaves out the
line feeds before tables, so that an equal line that stands between that position and the directive's
own text is taken for it. The own texts are found just when no such line is in the way.
-/

namespace DocBinder

open Docs

/-- The text of a directive's own request stands in a buffer where the content before it ends. -/
structure Compiled.Owns (compiled : Compiled) (buffer : Buffer) (start : Nat)
    (directive : Directive) : Prop where
  inserted : compiled.requests[directive.request]? =
    some (.insertText (directive.anchor ++ directive.trailing) .bodyEnd)
  stands : ∃ before after : Buffer,
    buffer = before ++ ((directive.anchor ++ directive.trailing).map .char ++ after) ∧
    compiled.index start directive.request = before.width + 1

theorem Outline.exists_own {number offset : Nat} {requests : List Request}
    {directives : List Directive} {specs : List TableSpec} {offsets : List Nat}
    (outline : Outline number offset requests directives specs offsets) :
    ∀ directive ∈ directives, ∃ front back units,
      requests = front ++ .insertText (directive.anchor ++ directive.trailing) .bodyEnd :: back ∧
      directive.request = number + front.length ∧
      contentUnits requests specs = contentUnits front specs ++
        ((directive.anchor ++ directive.trailing).map .char ++ units) := by
  induction outline with
  | nil => exact fun _ mem => absurd mem List.not_mem_nil
  | plain text following step =>
      intro directive mem
      rcases step directive mem with ⟨front, back, units, rfl, request, content⟩
      refine ⟨.insertText text .bodyEnd :: front, back, units, rfl, ?_, ?_⟩
      · rw [request, List.length_cons]
        omega
      · simp only [contentUnits, content, List.append_assoc]
  | styled named describes following step =>
      rename_i requests directives specs offsets text own
      intro directive mem
      rcases List.mem_cons.mp mem with rfl | mem
      · refine ⟨[], requests, contentUnits requests specs,
          by rw [List.nil_append, ← describes.whole], ?_, ?_⟩
        · rw [named, List.length_nil, Nat.add_zero]
        · rw [contentUnits, ← describes.whole]
          rfl
      · rcases step directive mem with ⟨front, back, units, rfl, request, content⟩
        refine ⟨.insertText text .bodyEnd :: front, back, units, rfl, ?_, ?_⟩
        · rw [request, List.length_cons]
          omega
        · simp only [contentUnits, content, List.append_assoc]
  | table spansFit following step =>
      intro directive mem
      rcases step directive mem with ⟨front, back, units, rfl, request, content⟩
      refine ⟨.insertTable _ _ .bodyEnd :: front, back, units, rfl, ?_, ?_⟩
      · rw [request, List.length_cons]
        omega
      · simp only [contentUnits, content, List.append_assoc, List.cons_append]

/-- Every directive of compiled content has its own text in a buffer that holds the content. -/
theorem Outline.owns {compiled : Compiled} (body tail : Buffer)
    (outline : Outline 0 0 compiled.requests compiled.directives compiled.tables compiled.offsets) :
    ∀ directive ∈ compiled.directives,
      compiled.Owns (body ++ (compiled.units ++ tail)) (body.width + 1) directive := by
  intro directive mem
  rcases outline.exists_own directive mem with ⟨front, back, units, split, request, content⟩
  rw [Nat.zero_add] at request
  refine ⟨?_, body ++ contentUnits front compiled.tables, units ++ tail, ?_, ?_⟩
  · rw [split, request, List.getElem?_append_right (Nat.le_refl _), Nat.sub_self]
    rfl
  · rw [Compiled.units, content]
    simp only [List.append_assoc]
  · rw [Compiled.index, split, request, List.take_left, Buffer.width_append]
    omega

namespace Sync.Coordinator

/-- The phases of a document before its formatting, and what that then reads: where the content
begins, and a snapshot. -/
def beforeFormatting {σ : Type} (coordinator : Coordinator σ) (documentId path : String)
    (compiled : Compiled) : DocumentStep σ (Nat × Snapshot) := do
  let (start, existing) ← coordinator.applyContent documentId path compiled
  coordinator.populateTables documentId compiled existing
  return (start, ← coordinator.snapshot documentId)

theorem outline_compiled {σ : Type} (coordinator : Coordinator σ) (markdown : Text) :
    Outline 0 0 (coordinator.compiled markdown).requests (coordinator.compiled markdown).directives
      (coordinator.compiled markdown).tables (coordinator.compiled markdown).offsets :=
  outline_compile coordinator.diagramLanguages markdown

/-- What resolving the directives of content comes to when the content begins at an index of a
document with a buffer, as it is shown. -/
structure Finds (compiled : Compiled) (buffer : Buffer) (start : Nat) (snapshot : Snapshot)
    (items : List Resolved) : Prop where
  owns : ∀ directive ∈ compiled.directives, compiled.Owns buffer start directive
  resolves : ResolvesTo buffer
    ⟨snapshot.flatten false, start, snapshot.endIndex, some compiled.offsets⟩
    ((snapshot.flatten false).positionAtOrAfter start)
    ((snapshot.flatten false).positionAtOrAfter start)
    (fun request => (snapshot.flatten false).positionAtOrAfter start + compiled.position request)
    (compiled.index start) compiled.directives compiled.Unambiguous items
  resolved : (resolve compiled.directives snapshot start (some compiled.offsets) none).resolved =
    .ok items

/-- When the content and the tables of a document are in place, resolving its directives finds all
of them on a walk. Before that, only the failure of a call can end its phases. -/
theorem meets_beforeFormatting {σ : Type} {coordinator : Coordinator σ}
    {contract : coordinator.remote.Contract} {documentId : String} {session : Session σ}
    {body : Buffer} {compiled : Compiled}
    (outline : Outline 0 0 compiled.requests compiled.directives compiled.tables compiled.offsets)
    (wellFormed : (body ++ [BodyUnit.lineFeed] : Buffer).WellFormed) (path : String)
    (holds : contract.body? session.remote documentId = some (body ++ [BodyUnit.lineFeed]))
    (outcome : Outcome) :
    Meets (coordinator.beforeFormatting documentId path compiled) (session, outcome)
      (fun value reached => ∃ buffer items,
        contract.body? reached.1.remote documentId = some buffer ∧
        Finds compiled buffer value.1 value.2 items)
      (fun failure reached => contract.Troubled failure session.remote reached.1.remote) := by
  have begins : Holds contract documentId session (body ++ [BodyUnit.lineFeed]) session := .refl holds
  refine .bind ((meets_applyContent outline wellFormed path begins).mono ?_
    fun _ _ fails => fails.troubled)
  rintro _ ⟨session, outcome⟩ ⟨holds, _, rfl⟩
  refine .bind ((meets_populateTables outline wellFormed holds).mono ?_
    fun _ _ fails => fails.troubled)
  rintro _ ⟨session, outcome⟩ ⟨holds, _⟩
  refine .bind ((meets_snapshot holds).mono ?_ fun _ _ fails => fails.troubled)
  rintro snapshot ⟨session, outcome⟩ ⟨holds, _, title, shows⟩
  rcases outline.resolve wellFormed documentId title shows with
    ⟨floor, items, resolves, rfl, resolved⟩
  exact .pure _ ⟨_, items, holds.body, outline.owns body [BodyUnit.lineFeed], resolves, resolved⟩

/-- Without faults, the content and the tables of a document are put in place. -/
theorem exists_beforeFormatting {coordinator : Coordinator Service} {session : Session Service}
    {documentId : String} {buffer : Buffer} (serves : coordinator.remote = Service.remote)
    (quiet : session.remote.faults = .none)
    (there : session.remote.body? documentId = some buffer) (wellFormed : buffer.WellFormed)
    (path : String) (outcome : Outcome) (markdown : Text) :
    ∃ start snapshot reached buffer items,
      (coordinator.beforeFormatting documentId path (coordinator.compiled markdown)).run
        (session, outcome) = (.ok (start, snapshot), reached) ∧
      reached.1.remote.body? documentId = some buffer ∧
      Finds (coordinator.compiled markdown) buffer start snapshot items := by
  have outline := coordinator.outline_compiled markdown
  rcases coordinator with ⟨remote, languages, setup, chunkSize, now⟩
  change remote = Service.remote at serves
  subst serves
  rcases wellFormed.ends with ⟨body, rfl⟩
  have meets := @meets_beforeFormatting Service ⟨Service.remote, languages, setup, chunkSize, now⟩
    Service.contract documentId session body _ outline wellFormed path there outcome
  rcases (meets.mono (fun _ _ holds => holds) fun _ _ troubled => troubled quiet).exists_run with
    ⟨⟨start, snapshot⟩, reached, runs, buffer, items, body, finds⟩
  exact ⟨start, snapshot, reached, buffer, items, runs, body, finds⟩

/-- All items are in their own places when the list of them is the list of these. -/
theorem forall_placeAt_iff {buffer : Buffer} {scope : FormattingScope} {floor cursor : Nat}
    {position index : Nat → Nat} {directives : List Directive} {clear : Prop}
    {items : List Resolved}
    (resolves : ResolvesTo buffer scope floor cursor position index directives clear items) :
    (∀ item ∈ items, item = item.directive.placeAt (index item.directive.request)) ↔ clear := by
  rw [← resolves.exact]
  conv_rhs => rhs; rw [← resolves.inOrder, List.map_map]
  conv_rhs => lhs; rw [← List.map_id items]
  exact List.map_inj_left.symm

/-- Whatever the Markdown and the earlier content, the formatting of a document finds ranges for its
directives, and these are the own texts of all of them just when the content is unambiguous. -/
theorem exists_formatting {coordinator : Coordinator Service} {session : Session Service}
    {documentId : String} (serves : coordinator.remote = Service.remote)
    (reachable : Service.contract.Reachable session.remote) (quiet : session.remote.faults = .none)
    (there : (session.remote.body? documentId).isSome) (path : String) (outcome : Outcome)
    (markdown : Text) :
    ∃ start snapshot reached buffer items,
      (coordinator.beforeFormatting documentId path (coordinator.compiled markdown)).run
        (session, outcome) = (.ok (start, snapshot), reached) ∧
      reached.1.remote.body? documentId = some buffer ∧
      (∀ directive ∈ (coordinator.compiled markdown).directives,
        (coordinator.compiled markdown).Owns buffer start directive) ∧
      (resolve (coordinator.compiled markdown).directives snapshot start
        (some (coordinator.compiled markdown).offsets) none).resolved = .ok items ∧
      ((∀ item ∈ items, item = item.directive.placeAt
          ((coordinator.compiled markdown).index start item.directive.request)) ↔
        (coordinator.compiled markdown).Unambiguous) := by
  rcases Option.isSome_iff_exists.mp there with ⟨buffer, found⟩
  rcases exists_beforeFormatting serves quiet found (reachable.sound _ _ found) path outcome
    markdown with ⟨start, snapshot, reached, shown, items, runs, body, finds⟩
  exact ⟨start, snapshot, reached, shown, items, runs, body, finds.owns, finds.resolved,
    forall_placeAt_iff finds.resolves⟩

/-- Content with a table before a line is still unambiguous when its lines differ. -/
theorem exists_formatting_table :
    ∃ start snapshot reached buffer items,
      (Coordinator.plain.beforeFormatting "handbook" "a.md"
          (Coordinator.plain.compiled "| h |\n|---|\n| c |\n\nx\n".toList)).run
        (.onText "Old".toList .none, .start "a.md" "A") = (.ok (start, snapshot), reached) ∧
      reached.1.remote.body? "handbook" = some buffer ∧
      (∀ directive ∈ (Coordinator.plain.compiled "| h |\n|---|\n| c |\n\nx\n".toList).directives,
        (Coordinator.plain.compiled "| h |\n|---|\n| c |\n\nx\n".toList).Owns buffer start
          directive) ∧
      (resolve (Coordinator.plain.compiled "| h |\n|---|\n| c |\n\nx\n".toList).directives snapshot
        start (some (Coordinator.plain.compiled "| h |\n|---|\n| c |\n\nx\n".toList).offsets)
        none).resolved = .ok items ∧
      ((∀ item ∈ items, item = item.directive.placeAt
          ((Coordinator.plain.compiled "| h |\n|---|\n| c |\n\nx\n".toList).index start
            item.directive.request)) ↔
        (Coordinator.plain.compiled "| h |\n|---|\n| c |\n\nx\n".toList).Unambiguous) :=
  exists_formatting rfl (Service.reachable_ofTexts _ _) rfl rfl "a.md" (.start "a.md" "A")
    "| h |\n|---|\n| c |\n\nx\n".toList

/-- Two tables, and a heading below a line with the same text. -/
def repeatedLine : Text :=
  "| h |\n|---|\n| c |\n\n| h |\n|---|\n| c |\n\na\n# a\n".toList

/-- The line above is taken for the heading: the search leaves out the line feeds before the two
tables, which is as much as the line is long. -/
theorem not_all_formatted_own :
    ∃ start snapshot reached items,
      (Coordinator.plain.beforeFormatting "handbook" "a.md"
          (Coordinator.plain.compiled repeatedLine)).run
        (.onText [] .none, .start "a.md" "A") = (.ok (start, snapshot), reached) ∧
      (resolve (Coordinator.plain.compiled repeatedLine).directives snapshot start
        (some (Coordinator.plain.compiled repeatedLine).offsets) none).resolved = .ok items ∧
      ¬ ∀ item ∈ items, item = item.directive.placeAt
        ((Coordinator.plain.compiled repeatedLine).index start item.directive.request) := by
  have there : (Session.onText [] .none).remote.body? "handbook" = some (.ofText []) := rfl
  have serves : Coordinator.plain.remote = Service.remote := rfl
  rcases exists_beforeFormatting serves rfl there (Buffer.wellFormed_ofText []) "a.md"
      (.start "a.md" "A") repeatedLine with
    ⟨start, snapshot, reached, buffer, items, runs, _, finds⟩
  refine ⟨start, snapshot, reached, items, runs, finds.resolved, ?_⟩
  rw [forall_placeAt_iff finds.resolves]
  intro unambiguous
  apply unambiguous ⟨.heading (some 1), ['a'], 3, none, [], ['\n', '\n']⟩ (by decide +kernel)
    2 (by decide +kernel) (by decide +kernel) ?_ (by decide +kernel)
  decide +kernel

/-! ## Finding all directives -/

/-- With any faults, a document for which no call failed has no directive skipped. Whenever the content
and the tables of Markdown are in place, the search forward finds each of its directives in its
turn, at its own text or before it, and the floor of the search with the length of what was inserted
ahead never exceeds that. -/
theorem meets_walk {coordinator : Coordinator Watch} {session : Session Watch}
    {documentId : String} (serves : coordinator.remote = Watch.remote)
    (reachable : Watch.contract.Reachable session.remote)
    (there : (session.remote.service.body? documentId).isSome) :
    (∀ document, Meets (coordinator.writeDocument document documentId) session
      (fun outcome reached => session.remote.Quiet reached.remote →
        outcome.stats.directivesSkipped = 0)
      (fun _ reached => session.remote.Quiet reached.remote →
        ∃ failure, coordinator.build document session.builder = .error failure)) ∧
    ∀ path outcome markdown,
      Meets (coordinator.beforeFormatting documentId path (coordinator.compiled markdown))
        (session, outcome)
        (fun value reached => ∃ buffer items,
          reached.1.remote.service.body? documentId = some buffer ∧
          (∀ directive ∈ (coordinator.compiled markdown).directives,
            (coordinator.compiled markdown).Owns buffer value.1 directive) ∧
          Walk ⟨value.2.flatten false, value.1, value.2.endIndex,
              some (coordinator.compiled markdown).offsets⟩
            ((value.2.flatten false).positionAtOrAfter value.1)
            (fun request => (value.2.flatten false).positionAtOrAfter value.1 +
              (coordinator.compiled markdown).position request)
            ((coordinator.compiled markdown).index value.1)
            ((value.2.flatten false).positionAtOrAfter value.1)
            (coordinator.compiled markdown).directives items ∧
          (resolve (coordinator.compiled markdown).directives value.2 value.1
            (some (coordinator.compiled markdown).offsets) none).resolved = .ok items)
        (fun failure reached => session.remote.Troubled failure reached.1.remote) := by
  rcases Option.isSome_iff_exists.mp there with ⟨buffer, found⟩
  have wellFormed : buffer.WellFormed := reachable.sound _ _ found
  have outline := coordinator.outline_compiled
  rcases coordinator with ⟨remote, languages, setup, chunkSize, now⟩
  change remote = Watch.remote at serves
  subst serves
  rcases wellFormed.ends with ⟨body, rfl⟩
  constructor
  · intro document
    have meets := @meets_writeDocument Watch ⟨Watch.remote, languages, setup, chunkSize, now⟩
      Watch.contract documentId session document body wellFormed found
    refine meets.mono ?_ ?_
    · rintro outcome reached ⟨_, _, _, noneSkipped | spoiled, _⟩ quiet
      · exact noneSkipped
      · rcases spoiled.troubled with ⟨failure, troubled⟩
        exact absurd quiet troubled.not_quiet
    · rintro _ reached ⟨_, _, _, _, troubled⟩ quiet
      cases gives : build _ document session.builder with
      | ok built => exact absurd quiet (troubled ⟨built, gives⟩).not_quiet
      | error failure => exact ⟨failure, rfl⟩
  · intro path outcome markdown
    have meets := @meets_beforeFormatting Watch ⟨Watch.remote, languages, setup, chunkSize, now⟩
      Watch.contract documentId session body _ (outline markdown) wellFormed path found outcome
    refine meets.mono ?_ fun _ _ troubled => troubled
    rintro value reached ⟨buffer, items, body, finds⟩
    exact ⟨buffer, items, body, finds.owns, finds.resolves.walk, finds.resolved⟩

/-- A document without images, on a service that refuses them, has no directive skipped. -/
theorem meets_walk_refusingImages :
    Meets (watched.writeDocument
        ⟨"a.md", "A", "| h |\n|---|\n| c |\n\n# A\n".toList, "", none⟩ "handbook")
      refusingImages
      (fun outcome reached => Watch.Quiet refusingImages.remote reached.remote →
        outcome.stats.directivesSkipped = 0)
      (fun _ reached => Watch.Quiet refusingImages.remote reached.remote →
        ∃ failure, watched.build
          ⟨"a.md", "A", "| h |\n|---|\n| c |\n\n# A\n".toList, "", none⟩
          refusingImages.builder = .error failure) := by
  have reachable : Watch.contract.Reachable refusingImages.remote := by
    refine .texts fun documentId body found => ?_
    change (Service.ofTexts _ _).body? documentId = some body at found
    exact Service.exists_text_of_ofTexts found
  have there : (refusingImages.remote.service.body? "handbook").isSome := rfl
  have writes := (@meets_walk watched refusingImages "handbook" rfl reachable there).1
  -- The document itself is not to be evaluated.
  generalize (⟨"a.md", "A", "| h |\n|---|\n| c |\n\n# A\n".toList, "", none⟩ :
    SourceDocument) = document
  exact writes document

end Sync.Coordinator

end DocBinder
