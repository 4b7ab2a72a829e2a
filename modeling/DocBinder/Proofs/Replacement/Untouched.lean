import DocBinder.Proofs.Markdown.ShownCode
import DocBinder.Proofs.Replacement.Backticks
import DocBinder.Proofs.Replacement.Letters

/-!
# Code is left as it is written

Inline code is cut out of a document before tokens are put into it, and read off the document with its
tokens again, line by line. Where no code is empty, where no line is joined to one in which a backtick
is left over, and where no row of a table is cut inside code, both find the same code.
-/

namespace DocBinder

theorem Text.mem_joinLines {character : Char} {texts : List Text}
    (mem : character ∈ joinLines texts) : character = '\n' ∨ ∃ text ∈ texts, character ∈ text := by
  induction texts with
  | nil => cases mem
  | cons text rest step =>
      by_cases isLast : rest = []
      · subst isLast
        exact .inr ⟨text, List.mem_cons_self, mem⟩
      · rw [joinLines_cons text isLast] at mem
        rcases List.mem_append.mp mem with mem | mem
        · exact .inr ⟨text, List.mem_cons_self, mem⟩
        · rcases List.mem_cons.mp mem with rfl | mem
          · exact .inl rfl
          · rcases step mem with isBreak | ⟨other, otherMem, mem⟩
            · exact .inl isBreak
            · exact .inr ⟨other, List.mem_cons_of_mem _ otherMem, mem⟩

namespace Placeholder

open Markdown

/-- The inline code of a segment, with its backticks. -/
def Segment.codes : Segment → List Text
  | .text source => ((codePieces 0 source).filter (·.1)).map (·.2)
  | .fence .. => []

/-- The inline code of a document as it is written, with its backticks. -/
def inlineCodes (markdown : Text) : List Text :=
  (segments markdown).flatMap Segment.codes

theorem Segment.mem_codes {segment : Segment} {code : Text} (mem : code ∈ segment.codes) :
    IsCode code ∧ code <:+: segment.source := by
  cases segment with
  | text source =>
      simp only [codes, List.mem_map, List.mem_filter] at mem
      rcases mem with ⟨⟨isCode, piece⟩, ⟨pieceMem, rfl⟩, rfl⟩
      exact ⟨(pieced_codePieces 0 source).isCode pieceMem, codePieces_isInfix pieceMem⟩
  | fence language body source => cases mem

theorem isInfix_of_mem_inlineCodes {markdown code : Text} (mem : code ∈ inlineCodes markdown) :
    code <:+: markdown := by
  rcases List.mem_flatMap.mp mem with ⟨segment, segmentMem, codeMem⟩
  exact (Segment.mem_codes codeMem).2.trans (segments_isInfix segmentMem)

/-! ## The lines of a document with tokens -/

/-- In the lines that begin like rows of a table, no code holds a bar. -/
def RowsWhole (lines : List Text) : Prop :=
  ∀ line ∈ lines, ['|'] <+: Text.strip line →
    ∀ emphasis ∈ scan .code line, '|' ∉ line.extract emphasis.innerStart emphasis.innerStop

instance (lines : List Text) : Decidable (RowsWhole lines) :=
  inferInstanceAs (Decidable (∀ line ∈ lines, _ → ∀ emphasis ∈ scan .code line, _))

variable {isKnown : Text → Prop}

theorem laid_of_linesCoded {text : Text} (coded : LinesCoded isKnown text)
    (rowsWhole : RowsWhole (Text.lines text)) : Laid isKnown (Text.lines text) := by
  rw [LinesCoded] at coded
  generalize Text.lines text = lines at coded rowsWhole
  induction lines with
  | nil => exact .done
  | cons line rest step =>
      rcases coded line List.mem_cons_self with ⟨codes, lineCoded, areKnown⟩
      have following := step (fun other mem => coded other (List.mem_cons_of_mem _ mem))
        fun other mem => rowsWhole other (List.mem_cons_of_mem _ mem)
      refine .line lineCoded.opensFence ⟨codes, lineCoded, areKnown, ?_⟩ following
      intro isRow code mem
      rw [← lineCoded.scan] at mem
      rcases List.mem_map.mp mem with ⟨emphasis, scanned, rfl⟩
      exact rowsWhole line List.mem_cons_self isRow emphasis scanned

theorem linesCoded_token (kind : TokenKind) (number : Nat) :
    LinesCoded isKnown (token kind number) := by
  apply LinesCoded.of_lone
  apply lone_of_single
  rw [List.count_eq_zero_of_not_mem (not_mem_token (by decide) (by decide) kind number)]
  exact Nat.zero_le 1

theorem laid_traces {lines : List Text} {parts : List (List Text ⊕ Segment)}
    (parted : Parted lines parts) (unbroken : ∀ line ∈ lines, '\n' ∉ line) {traces : List Trace}
    {put : List Text} (puts : Puts Trace.Fits (parts.map ofPart) traces put)
    (inLine : ∀ trace ∈ traces, ∀ stage ∈ trace.stages, stage.InLine)
    (known : ∀ part ∈ parts, ∀ source ∈ (ofPart part).codes, KnownCode isKnown source)
    (rowsWhole : RowsWhole (traces.flatMap fun trace => Text.lines trace.shown)) :
    Laid isKnown (traces.flatMap fun trace => Text.lines trace.shown) := by
  induction parted generalizing traces put with
  | done =>
      cases puts
      exact .done
  | text nonempty following step =>
      rename_i own rest parts
      cases puts with
      | cons fit others =>
          rename_i trace _ traces _
          cases fit with
          | text pieces =>
              rename_i stages
              have further := step (fun line mem => unbroken line (List.mem_append_right _ mem)) others
                (fun other mem => inLine other (List.mem_cons_of_mem _ mem))
                (fun part mem => known part (List.mem_cons_of_mem _ mem))
                (fun line mem => rowsWhole line (List.mem_append_right _ mem))
              refine Laid.append (laid_of_linesCoded ?_ ?_) further
              · refine linesCoded_stages (spaced_codePieces _) pieces (inLine _ List.mem_cons_self) ?_
                intro source mem
                apply known _ List.mem_cons_self
                simp only [ofPart, Segment.codes, List.mem_map, List.mem_filter]
                exact ⟨(true, source), ⟨mem, rfl⟩, rfl⟩
              · exact fun line mem => rowsWhole line (List.mem_append_left _ mem)
  | fence opens inside closes following step =>
      rename_i line closing body rest parts
      cases puts with
      | cons fit others =>
          have further := step
            (fun other mem => unbroken other (by simp [mem])) others
            (fun other mem => inLine other (List.mem_cons_of_mem _ mem))
            (fun part mem => known part (List.mem_cons_of_mem _ mem))
            (fun line mem => rowsWhole line (List.mem_append_right _ mem))
          cases fit with
          | fence =>
              have split : Text.lines (Text.joinLines (line :: body ++ [closing])) =
                  line :: body ++ [closing] := by
                have isPrefix : line :: body ++ [closing] <+: line :: (body ++ closing :: rest) :=
                  ⟨rest, by simp⟩
                apply Text.lines_joinLines (List.cons_ne_nil _ _)
                exact fun other mem => unbroken other (isPrefix.subset mem)
              have laid := Laid.fence opens inside closes further
              rw [List.flatMap_cons, Trace.shown, split]
              simpa using laid
          | diagram =>
              refine Laid.append (laid_of_linesCoded (linesCoded_token .diagram _) ?_) further
              exact fun line mem => rowsWhole line (List.mem_append_left _ mem)

/-! ## Carriage returns -/

theorem Stage.Fits.not_mem {piece : Bool × Text} {stage : Stage} {put : List Text}
    (fits : Stage.Fits piece stage put) {character : Char} (notLetter : character ∉ tokenLetters)
    (notDigit : character.isDigit = false) (absent : character ∉ piece.2) :
    character ∉ stage.shown := by
  cases fits with
  | code source => exact absent
  | plain imagesGo linksGo =>
      apply linksGo.not_mem (fun _ _ _ fit => fit.takes) notLetter notDigit
      exact imagesGo.not_mem (fun _ _ _ fit => fit.takes) notLetter notDigit absent

theorem Puts.exists_item {α β : Type} {fits : α → β → List Text → Prop} {items : List α}
    {results : List β} {put : List Text} (puts : Puts fits items results put) {result : β}
    (mem : result ∈ results) : ∃ item ∈ items, ∃ own, fits item result own := by
  induction puts with
  | nil => cases mem
  | cons fit following step =>
      rcases List.mem_cons.mp mem with rfl | mem
      · exact ⟨_, List.mem_cons_self, _, fit⟩
      · rcases step mem with ⟨item, itemMem, fits⟩
        exact ⟨item, List.mem_cons_of_mem _ itemMem, fits⟩

theorem Trace.Fits.not_mem {segment : Segment} {trace : Trace} {put : List Text}
    (fits : Trace.Fits segment trace put) {character : Char} (notLetter : character ∉ tokenLetters)
    (notDigit : character.isDigit = false) (absent : character ∉ segment.source) :
    character ∉ trace.shown := by
  cases fits with
  | text pieces =>
      intro mem
      rcases List.mem_flatMap.mp mem with ⟨stage, stageMem, mem⟩
      rcases pieces.exists_item stageMem with ⟨piece, pieceMem, own, fit⟩
      exact fit.not_mem notLetter notDigit
        (fun mem => absent ((codePieces_isInfix pieceMem).subset mem)) mem
  | fence => exact absent
  | diagram => exact not_mem_token notLetter notDigit _ _

/-! ## Code with and without tokens -/

theorem Text.IsToken.opening_isInfix {token : Text} (isToken : token.IsToken) :
    opening <:+: token := by
  rcases isToken with ⟨inner, rfl, _⟩
  exact ⟨[], inner ++ [']', ']', ']'], rfl⟩

section Build

variable {setup : Setup} {markdown : Text} {directory : Option String} {state : BuilderState}
  {built : Built} (builds : (build setup markdown directory state).1 = .ok built)

include builds

/-- Tokens bring no carriage returns with them. -/
theorem carriageReturn_not_mem_built (noReturn : '\r' ∉ markdown) : '\r' ∉ built.markdown := by
  rcases build_traced builds with ⟨shows, put, follows, _⟩
  intro mem
  rw [shows] at mem
  rcases Text.mem_joinLines mem with isBreak | ⟨shown, shownMem, mem⟩
  · revert isBreak
    decide
  · rcases List.mem_map.mp shownMem with ⟨trace, traceMem, rfl⟩
    rcases follows.exists_item traceMem with ⟨segment, segmentMem, own, fit⟩
    exact fit.not_mem (by decide) (by decide)
      (fun mem => noReturn ((segments_isInfix segmentMem).subset mem)) mem

theorem lines_built :
    Text.lines built.markdown =
      (traces setup directory markdown state).flatMap fun trace => Text.lines trace.shown := by
  rcases build_traced builds with ⟨shows, put, follows, _⟩
  have nonempty : (traces setup directory markdown state).map Trace.shown ≠ [] := by
    intro isEmpty
    rw [List.map_eq_nil_iff] at isEmpty
    have parted := parted_segmentLines 0 (Text.lines markdown)
    rw [isEmpty, segments_eq_map] at follows
    generalize segmentLines 0 (Text.lines markdown) = parts at follows parted
    cases parts with
    | nil =>
        generalize isLines : (Text.lines markdown).drop 0 = lines at parted
        cases parted
        exact Text.splitOn_ne_nil '\n' markdown isLines
    | cons part parts => cases follows
  rw [shows, Text.lines_joinLines_eq_flatMap nonempty, List.flatMap_map]

/-- What is shown as code in a document with its tokens is inline code of the document as it is written.
Hence no token stands in it, unless the brackets of tokens stand in the document as it is written. -/
theorem shownCode_written (diagramLanguages : List Text) (noReturn : '\r' ∉ markdown)
    (noEmpty : ['`', '`'] ∉ inlineCodes markdown)
    (inLine : ∀ trace ∈ traces setup directory markdown state, ∀ stage ∈ trace.stages, stage.InLine)
    (rowsWhole : RowsWhole (Text.lines built.markdown)) :
    ∀ block ∈ classify diagramLanguages built.markdown, ∀ code, block.ShowsCode code →
      '`' :: (code ++ ['`']) ∈ inlineCodes markdown ∧
        ∀ target ∈ targets built.links built.images, target.token <:+: code →
          opening <:+: markdown := by
  have split := lines_built builds
  rcases build_traced builds with ⟨_, put, follows, _⟩
  rw [segments_eq_map] at follows
  have known : ∀ part ∈ segmentLines 0 (Text.lines markdown), ∀ source ∈ (ofPart part).codes,
      KnownCode (fun code => '`' :: (code ++ ['`']) ∈ inlineCodes markdown) source := by
    intro part partMem source mem
    have written : source ∈ inlineCodes markdown := by
      rw [inlineCodes, segments_eq_map]
      exact List.mem_flatMap.mpr ⟨ofPart part, List.mem_map_of_mem partMem, mem⟩
    rcases (Segment.mem_codes mem).1 with ⟨inner, rfl, _⟩
    refine ⟨inner, ?_, rfl, written⟩
    rintro rfl
    exact noEmpty written
  have laid : Laid (fun code => '`' :: (code ++ ['`']) ∈ inlineCodes markdown)
      (documentLines built.markdown) := by
    have absent := carriageReturn_not_mem_built builds noReturn
    rw [documentLines, Text.normalizeNewlines_of_not_mem absent, split]
    rw [split] at rowsWhole
    refine laid_traces (parted_segmentLines 0 (Text.lines markdown)) ?_ follows inLine known rowsWhole
    exact fun line mem => Text.not_mem_of_mem_splitOn mem
  intro block mem code shows
  have written := code_of_classify laid block mem code shows
  refine ⟨written, ?_⟩
  intro target targetMem holds
  have isToken : target.token.IsToken := by
    rcases (build_cases setup markdown directory state).1 with ⟨other, otherBuilds, issued⟩ | ⟨_, _, fails⟩
    · rw [builds] at otherBuilds
      cases otherBuilds
      exact issued.isToken target targetMem
    · rw [builds] at fails
      cases fails
  have inside : code <:+: '`' :: (code ++ ['`']) := ⟨['`'], ['`'], rfl⟩
  exact ((Text.IsToken.opening_isInfix isToken).trans holds).trans
    (inside.trans (isInfix_of_mem_inlineCodes written))

end Build

/-- A document with a link that is written as code, and with links and code in a list and in a table. -/
def quoted : Text :=
  "Use `[a](b)` for [a](http://a.io)\n- `c` [d](e.md)\n| `k` |\n|-|\n| [v](http://v.io) `w` |".toList

theorem shownCode_written_quoted :
    '\r' ∉ quoted ∧ ['`', '`'] ∉ inlineCodes quoted ∧
      ∃ built, (build (.bare []) quoted none .initial).1 = .ok built ∧
        (∀ trace ∈ traces (.bare []) none quoted .initial, ∀ stage ∈ trace.stages, stage.InLine) ∧
        RowsWhole (Text.lines built.markdown) ∧
        ∀ block ∈ classify defaultDiagramLanguages built.markdown, ∀ code, block.ShowsCode code →
          '`' :: (code ++ ['`']) ∈ inlineCodes quoted ∧
            ∀ target ∈ targets built.links built.images, ¬ target.token <:+: code := by
  have noReturn : '\r' ∉ quoted := by decide +kernel
  have noEmpty : ['`', '`'] ∉ inlineCodes quoted := by decide +kernel
  have inLine : ∀ trace ∈ traces (.bare []) none quoted .initial, ∀ stage ∈ trace.stages,
      stage.InLine := by
    decide +kernel
  have whole : (build (.bare []) quoted none .initial).1.toOption.any (fun built =>
      RowsWhole (Text.lines built.markdown)) = true := by
    decide +kernel
  have calm : ¬ opening <:+: quoted := by decide +kernel
  rcases (Option.any_eq_true _ _).mp whole with ⟨built, found, rowsWhole⟩
  rw [decide_eq_true_eq] at rowsWhole
  have builds := Except.toOption_eq_some.mp found
  refine ⟨noReturn, noEmpty, built, builds, inLine, rowsWhole, ?_⟩
  intro block mem code shows
  rcases shownCode_written builds defaultDiagramLanguages noReturn noEmpty inLine rowsWhole block mem
    code shows with ⟨written, bracketed⟩
  exact ⟨written, fun target targetMem holds => calm (bracketed target targetMem holds)⟩

/-- A link between doubled backticks, which are taken for empty code. -/
def doubled : Text :=
  "``[x](http://y)``".toList

/-- The document with the token of the link. -/
def doubledShown : Text :=
  "``[[[LINK_0]]]``".toList

theorem paragraph_doubledShown :
    paragraph doubledShown =
      .paragraph doubledShown ⟨"`[[[LINK_0]]]`".toList, [⟨1, 13, .code⟩]⟩ := by
  have found : accepted doubledShown = [⟨.code, 1, 1, 12⟩] := by decide +kernel
  rw [paragraph, inlineSpans, found, List.mergeSort_singleton]
  rfl

theorem not_all_code_untouched :
    ¬ ∀ markdown built, (build (.bare []) markdown none .initial).1 = .ok built →
      ∀ block ∈ classify defaultDiagramLanguages built.markdown, ∀ code, block.ShowsCode code →
        ∀ target ∈ targets built.links built.images, ¬ target.token <:+: code := by
  intro untouched
  have replaced : (build (.bare []) doubled none .initial).1.toOption.map (fun built =>
      (built.markdown, (targets built.links built.images).map Target.token)) =
        some (doubledShown, ["[[[LINK_0]]]".toList]) := by
    decide +kernel
  rcases Option.map_eq_some_iff.mp replaced with ⟨built, found, same⟩
  rw [Prod.mk.injEq] at same
  rcases same with ⟨isShown, tokens⟩
  have mem : paragraph doubledShown ∈ classify defaultDiagramLanguages built.markdown := by
    rw [isShown]
    exact List.mem_singleton.mpr rfl
  have shows : (paragraph doubledShown).ShowsCode "[[[LINK_0]]]".toList := by
    rw [paragraph_doubledShown]
    exact ⟨_, .paragraph _ _, _, List.mem_cons_self, rfl, by decide +kernel⟩
  have isToken : "[[[LINK_0]]]".toList ∈ (targets built.links built.images).map Target.token := by
    rw [tokens]
    exact List.mem_cons_self
  rcases List.mem_map.mp isToken with ⟨target, targetMem, isTarget⟩
  apply untouched doubled built (Except.toOption_eq_some.mp found) _ mem _ shows target targetMem
  exact ⟨[], [], by rw [List.nil_append, List.append_nil, isTarget]⟩

end Placeholder

end DocBinder
