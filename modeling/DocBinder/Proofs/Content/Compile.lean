import DocBinder.Proofs.Content.Append
import DocBinder.Proofs.Markdown.Spans
import DocBinder.Proofs.Text.Lines
import DocBinder.Resolve.Formatting

/-!
# What compilation promises

The phases behind the content batch rely on agreements that compilation makes: every text is
appended at the end of the body, a table is inserted with the size of its grid, a directive spells
out the text that its own request inserts, and no span reaches beyond the text it styles. This file
derives the agreements, from the lines of a list up to whole documents.
-/

namespace DocBinder

open Docs

/-! ## What directives and requests agree on -/

/-- What a directive knows of the text that its request inserts: the text is the anchor, which is not
empty, and what trails it, which begins a new line; the spans lie within the literal; and only code
has a label. -/
structure Directive.Describes (directive : Directive) (text : Text) : Prop where
  shows : directive.anchor ≠ []
  whole : text = directive.anchor ++ directive.trailing
  newLine : ∃ rest, directive.trailing = '\n' :: rest
  spansFit : ∀ span ∈ directive.spans, span.stop ≤ directive.literal.length
  labelled : directive.shownLabel? = none ∨ ∃ language, directive.kind = .code language

/-- What a block contributes as the request of a number. -/
inductive Contribution.Fits (number : Nat) : Contribution → Prop where
  | plain (text : Text) : Fits number ⟨appendText text, none, none⟩
  | styled {text : Text} {directive : Directive} (named : directive.request = number)
      (describes : directive.Describes text) :
      Fits number ⟨appendText text, some directive, none⟩
  | table {spec : TableSpec} (spansFit : spec.grid.SpansFit) :
      Fits number ⟨.insertTable spec.grid.rowCount spec.grid.columnCount .bodyEnd, none, some spec⟩

/-- The spans of a grid with tidy cells lie within the texts of its cells. -/
theorem Grid.Tidy.spansFit {grid : Grid} (tidy : grid.Tidy) : grid.SpansFit :=
  fun row column => (tidy.cells row column).within

theorem Contribution.Fits.ofOptional {number : Nat} {text : Text} {directive : Directive}
    {dropped : Bool} (named : directive.request = number)
    (describes : dropped = false → directive.Describes text) :
    Fits number ⟨appendText text, if dropped then none else some directive, none⟩ := by
  cases dropped
  · exact .styled named (describes rfl)
  · exact .plain text

theorem listLines_ne_nil {ordered : Bool} {number offset : Nat} {items : List StyledText}
    (nonempty : items ≠ []) : (listLines ordered number offset items).1 ≠ [] := by
  cases items with
  | nil => exact absurd rfl nonempty
  | cons item rest => simp [listLines]

/-- The spans of a list's lines are parts of the text that begins at the offset of the first line,
none of them empty, one behind the other. -/
theorem bounds_listLines (ordered : Bool) (number offset : Nat) {items : List StyledText}
    (tidy : ∀ item ∈ items, item.Tidy) :
    (∀ span ∈ (listLines ordered number offset items).2, offset ≤ span.start ∧
      span.start < span.stop ∧
      span.stop ≤ offset + (Text.joinLines (listLines ordered number offset items).1).length) ∧
    (listLines ordered number offset items).2.Pairwise fun first second =>
      first.stop ≤ second.start := by
  induction items generalizing number offset with
  | nil => exact ⟨fun _ mem => absurd mem List.not_mem_nil, .nil⟩
  | cons item rest step =>
      have own := tidy item List.mem_cons_self
      rcases step (number + 1) (offset + (itemMark ordered number ++ item.text).length + 1)
        (fun other mem => tidy other (List.mem_cons_of_mem _ mem)) with ⟨bounds, apart⟩
      simp only [listLines]
      constructor
      · intro span mem
        rcases List.mem_append.mp mem with mem | mem
        · rcases List.mem_map.mp mem with ⟨inner, innerMem, rfl⟩
          have nonempty := own.nonempty inner innerMem
          have within := own.within inner innerMem
          have fits := Text.length_le_joinLines (itemMark ordered number ++ item.text)
            (listLines ordered (number + 1)
              (offset + (itemMark ordered number ++ item.text).length + 1) rest).1
          simp only [Span.shift, List.length_append] at fits ⊢
          omega
        · have bound := bounds span mem
          have further : rest ≠ [] := by
            rintro rfl
            exact absurd mem List.not_mem_nil
          rw [Text.joinLines_cons _ (listLines_ne_nil further), List.length_append,
            List.length_cons]
          omega
      · rw [List.pairwise_append, List.pairwise_map]
        refine ⟨own.apart.imp fun behind => Nat.add_le_add_left behind _, apart, ?_⟩
        intro first firstMem second secondMem
        rcases List.mem_map.mp firstMem with ⟨inner, innerMem, rfl⟩
        have within := own.within inner innerMem
        have behind := (bounds second secondMem).1
        simp only [Span.shift, List.length_append] at behind ⊢
        omega

theorem tidy_listLines (ordered : Bool) (number : Nat) {items : List StyledText}
    (tidy : ∀ item ∈ items, item.Tidy) :
    StyledText.Tidy ⟨Text.joinLines (listLines ordered number 0 items).1,
      (listLines ordered number 0 items).2⟩ := by
  rcases bounds_listLines ordered number 0 tidy with ⟨bounds, apart⟩
  rw [Nat.zero_add] at bounds
  exact ⟨fun span mem => (bounds span mem).2.1, fun span mem => (bounds span mem).2.2, apart⟩

/-- The label above a code block is shown. -/
theorem shownLabel?_code (language : Option Text) (text trailing : Text) (number : Nat)
    (spans : List Span) (kind : DirectiveKind) :
    Directive.shownLabel? ⟨kind, text, number, codeLabel? language, spans, trailing⟩ =
      codeLabel? language := by
  rcases language with _ | _ | ⟨character, name⟩ <;> rfl

theorem describes_code {language : Option Text} {text : Text} (number : Nat)
    (shows : (text.isEmpty && (codeLabel? language).isNone) = false) :
    Directive.Describes ⟨.code language, text, number, codeLabel? language, [], ['\n', '\n']⟩
      (((codeLabel? language).map (· ++ ['\n'])).getD [] ++ text ++ ['\n', '\n']) := by
  refine ⟨?_, ?_, ⟨_, rfl⟩, fun _ mem => absurd mem List.not_mem_nil, .inr ⟨language, rfl⟩⟩
  · rw [Directive.anchor, shownLabel?_code]
    cases label : codeLabel? language with
    | none => simpa [label] using shows
    | some label => simp
  · rw [Directive.anchor, shownLabel?_code]
    cases codeLabel? language with
    | none => rfl
    | some label => simp

/-- A block's request, directive and table specification agree. -/
theorem Block.fits_contribution {number : Nat} {block : Block} {contribution : Contribution}
    (tidy : block.Tidy) (contributes : block.contribution? number = some contribution) :
    contribution.Fits number := by
  cases block with
  | heading source level text =>
      cases contributes
      refine .ofOptional rfl fun shows =>
        ⟨?_, rfl, ⟨_, rfl⟩, fun _ mem => absurd mem List.not_mem_nil, .inl rfl⟩
      exact List.isEmpty_eq_false_iff.mp shows
  | code source language text =>
      cases contributes
      exact .ofOptional rfl (describes_code number)
  | list source ordered items =>
      cases contributes
      have lines := tidy_listLines ordered 1 tidy
      exact .ofOptional rfl fun shows =>
        ⟨lines.text_ne_nil (List.isEmpty_eq_false_iff.mp shows), rfl, ⟨_, rfl⟩, lines.within,
          .inl rfl⟩
  | table source grid =>
      cases contributes
      have gridTidy : (TableSpec.mk grid number).grid.Tidy := tidy
      exact .table gridTidy.spansFit
  | paragraph source content =>
      cases contributes
      exact .ofOptional rfl fun shows =>
        ⟨tidy.text_ne_nil (List.isEmpty_eq_false_iff.mp shows), rfl, ⟨_, rfl⟩, tidy.within, .inl rfl⟩
  | placeholder source token =>
      cases contributes
      exact .plain _
  | diagram source language text => cases contributes

/-- Compiled content: requests numbered from `number` that append texts and tables behind `offset`
characters of text, the directives and table specifications that belong to them, and the lengths
of text before each of them. -/
inductive Outline : (number offset : Nat) → List Request → List Directive → List TableSpec →
    List Nat → Prop where
  | nil (number offset : Nat) : Outline number offset [] [] [] []
  | plain {number offset : Nat} {requests : List Request} {directives : List Directive}
      {specs : List TableSpec} {offsets : List Nat} (text : Text)
      (following : Outline (number + 1) (offset + text.length) requests directives specs offsets) :
      Outline number offset (.insertText text .bodyEnd :: requests) directives specs
        (offset :: offsets)
  | styled {number offset : Nat} {requests : List Request} {directives : List Directive}
      {specs : List TableSpec} {offsets : List Nat} {text : Text} {directive : Directive}
      (named : directive.request = number) (describes : directive.Describes text)
      (following : Outline (number + 1) (offset + text.length) requests directives specs offsets) :
      Outline number offset (.insertText text .bodyEnd :: requests) (directive :: directives) specs
        (offset :: offsets)
  | table {number offset : Nat} {requests : List Request} {directives : List Directive}
      {specs : List TableSpec} {offsets : List Nat} {spec : TableSpec}
      (spansFit : spec.grid.SpansFit)
      (following : Outline (number + 1) offset requests directives specs offsets) :
      Outline number offset
        (.insertTable spec.grid.rowCount spec.grid.columnCount .bodyEnd :: requests) directives
        (spec :: specs) (offset :: offsets)

theorem outline_compileFrom {number offset : Nat} {blocks : List Block}
    (tidy : ∀ block ∈ blocks, block.Tidy) :
    Outline number offset (compileFrom number offset blocks).requests
      (compileFrom number offset blocks).directives (compileFrom number offset blocks).tables
      (compileFrom number offset blocks).offsets := by
  induction blocks generalizing number offset with
  | nil => exact .nil number offset
  | cons block rest step =>
      have restTidy : ∀ other ∈ rest, other.Tidy := fun other mem =>
        tidy other (List.mem_cons_of_mem _ mem)
      cases contributes : block.contribution? number with
      | none =>
          simp only [compileFrom, contributes]
          exact step restTidy
      | some contribution =>
          simp only [compileFrom, contributes]
          cases Block.fits_contribution (tidy block List.mem_cons_self) contributes with
          | plain text => exact .plain text (step restTidy)
          | styled named describes => exact .styled named describes (step restTidy)
          | table spansFit => exact .table spansFit (step restTidy)

/-- Whatever the Markdown, its blocks compile to content. -/
theorem outline_compile (diagramLanguages : List Text) (markdown : Text) :
    let compiled := compile (Markdown.classify diagramLanguages markdown)
    Outline 0 0 compiled.requests compiled.directives compiled.tables compiled.offsets :=
  outline_compileFrom Markdown.tidy_classify

section Outline

variable {number offset : Nat} {requests : List Request} {directives : List Directive}
  {specs : List TableSpec} {offsets : List Nat}

theorem Outline.appends (outline : Outline number offset requests directives specs offsets) :
    Appends requests specs := by
  induction outline with
  | nil => exact .nil
  | plain text following step => exact .text text step
  | styled named describes following step => exact .text _ step
  | table spansFit following step => exact .table spansFit step

theorem Outline.le_request (outline : Outline number offset requests directives specs offsets) :
    ∀ directive ∈ directives, number ≤ directive.request := by
  induction outline with
  | nil => exact fun _ mem => absurd mem List.not_mem_nil
  | plain text following step =>
      intro directive mem
      have bound := step directive mem
      omega
  | styled named describes following step =>
      intro directive mem
      rcases List.mem_cons.mp mem with rfl | mem
      · omega
      · have bound := step directive mem
        omega
  | table spansFit following step =>
      intro directive mem
      have bound := step directive mem
      omega

theorem Outline.pairwise_request
    (outline : Outline number offset requests directives specs offsets) :
    directives.Pairwise fun first second => first.request < second.request := by
  induction outline with
  | nil => exact .nil
  | plain text following step => exact step
  | styled named describes following step =>
      refine .cons ?_ step
      intro directive mem
      have bound := following.le_request directive mem
      omega
  | table spansFit following step => exact step

theorem Outline.spansFit (outline : Outline number offset requests directives specs offsets) :
    ∀ directive ∈ directives, ∀ span ∈ directive.spans, span.stop ≤ directive.literal.length := by
  induction outline with
  | nil => exact fun _ mem => absurd mem List.not_mem_nil
  | plain text following step => exact step
  | styled named describes following step =>
      intro directive mem
      rcases List.mem_cons.mp mem with rfl | mem
      · exact describes.spansFit
      · exact step directive mem
  | table spansFit following step => exact step

end Outline

end DocBinder
