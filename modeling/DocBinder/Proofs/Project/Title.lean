import DocBinder.Project.Title
import DocBinder.Proofs.Markdown.Headings

/-!
# Titles and headings

The title of a document without a given one is what stands behind the first number sign at the start
of a line that blanks and a text follow. That is the text of a heading of the first level where the
line lies outside of closed fences and the text stands on it; the blanks may run over line feeds, and
then the text is that of a later line, whatever this is.
-/

namespace DocBinder.Project

open Markdown

/-- Whether a line begins behind a text, given whether one begins where the text does. -/
def startsLine (atStart : Bool) (before : Text) : Bool :=
  (before.getLast?.map (· == '\n')).getD atStart

theorem startsLine_cons (atStart : Bool) (character : Char) (before : Text) :
    startsLine atStart (character :: before) = startsLine (character == '\n') before := by
  cases before <;> simp [startsLine, List.getLast?_cons]

/-- The number sign between two texts is the first at the start of a line with a title behind it. -/
structure FirstSign (atStart : Bool) (before after title : Text) : Prop where
  starts : startsLine atStart before = true
  shows : headingAfter? after = some title
  first : ∀ front back, before = front ++ '#' :: back → startsLine atStart front = true →
    headingAfter? (back ++ '#' :: after) = none

theorem exists_of_headingFrom? {atStart : Bool} {text title : Text}
    (finds : headingFrom? atStart text = some title) :
    ∃ before after, text = before ++ '#' :: after ∧ FirstSign atStart before after title := by
  induction text generalizing atStart with
  | nil => cases finds
  | cons character rest step =>
      rw [headingFrom?] at finds
      cases here : if atStart && character == '#' then headingAfter? rest else none with
      | some found =>
          rw [here] at finds
          cases finds
          split at here
          · rename_i isSign
            rw [Bool.and_eq_true, beq_iff_eq] at isSign
            refine ⟨[], rest, by rw [isSign.2, List.nil_append], isSign.1, here, ?_⟩
            exact fun front back split => absurd split.symm (by simp)
          · cases here
      | none =>
          rw [here, Option.none_or] at finds
          rcases step finds with ⟨before, after, rfl, sign⟩
          refine ⟨character :: before, after, rfl, ?_, sign.shows, ?_⟩
          · rw [startsLine_cons]
            exact sign.starts
          · -- A sign at the head gave nothing, and further ones are signs of the rest.
            intro front back split starts
            rcases front with _ | ⟨first, front⟩
            · cases split
              have atStart : atStart = true := starts
              simpa [atStart] using here
            · rcases List.cons.inj split with ⟨rfl, same⟩
              rw [startsLine_cons] at starts
              exact sign.first front back same starts

/-! ## The line of the sign -/

/-- The number of the line that begins behind a text. -/
def lineNumber (before : Text) : Nat :=
  (Text.lines (Text.normalizeNewlines before)).length

/-- What a text begins with up to the end of its first line. -/
def lineRest (after : Text) : Text :=
  (Text.normalizeNewlines after).takeWhile (· != '\n')

theorem exists_lines (text : Text) :
    ∃ below, Text.lines text = text.takeWhile (· != '\n') :: below := by
  induction text with
  | nil => exact ⟨[], rfl⟩
  | cons character rest step =>
      rcases step with ⟨below, split⟩
      by_cases isBreak : character = '\n'
      · subst isBreak
        exact ⟨Text.lines rest, Text.splitOn_cons_self '\n' rest⟩
      · rcases Text.exists_splitOn_cons isBreak rest with ⟨head, tail, isSplit, splitCons⟩
        rw [Text.lines, isSplit] at split
        cases split
        refine ⟨below, ?_⟩
        rw [Text.lines, splitCons, List.takeWhile_cons_of_pos (by simpa using isBreak)]

theorem exists_documentLines_sign (after : Text) :
    ∃ below, documentLines ('#' :: after) = ('#' :: lineRest after) :: below := by
  rw [documentLines, Text.normalizeNewlines_cons (by decide)]
  exact exists_lines _

/-- The line of a sign among the lines of the document. -/
theorem exists_documentLines {before : Text} (starts : startsLine true before = true) (after : Text) :
    ∃ above below, documentLines (before ++ '#' :: after) = above ++ ('#' :: lineRest after) :: below ∧
      lineNumber before = 1 + above.length := by
  rcases exists_documentLines_sign after with ⟨below, split⟩
  rcases List.eq_nil_or_concat before with rfl | ⟨front, last, rfl⟩
  · exact ⟨[], below, split, rfl⟩
  · have isBreak : last = '\n' := by simpa [startsLine] using starts
    subst isBreak
    rcases Text.exists_normalizeNewlines_lineFeed front with ⟨image, parts⟩
    refine ⟨Text.lines image, below, ?_, ?_⟩
    · rw [← split, documentLines, documentLines, List.concat_eq_append, List.append_assoc,
        List.singleton_append, parts, Text.lines, Text.splitOn_append_cons_append]
      rfl
    · rw [lineNumber, List.concat_eq_append, parts, Text.lines, Text.splitOn_append_cons_append,
        List.length_append]
      exact Nat.add_comm _ _

/-- The line of a sign with blanks behind it is a heading of the first level outside of fences. -/
theorem headingOf?_sign {line : Text} (single : line.head? ≠ some '#') :
    headingOf? ('#' :: line) = some (1, Text.strip line) := by
  have kept : Text.trimStart ('#' :: line) = '#' :: line := rfl
  have isTop : level? ('#' :: line) = some 1 := by
    refine level?_eq_some_iff.mpr ⟨0, rfl, ?_, ?_⟩
    · rw [kept]
      exact ⟨line, rfl⟩
    · rw [kept]
      rintro ⟨rest, same⟩
      rw [← (List.cons.inj same).2] at single
      exact single rfl
  rcases Text.exists_strip_cons (show Text.isBlank '#' = false by decide) line with
    ⟨inner, back, rfl, stripped, areBlank⟩
  rw [headingOf?, isTop, stripped, Text.strip_append_blank areBlank]
  rfl

theorem head?_normalizeNewlines (character : Char) (rest : Text) :
    (Text.normalizeNewlines (character :: rest)).head? =
      some (if character = '\r' then '\n' else character) := by
  by_cases isReturn : character = '\r'
  · subst isReturn
    rw [Text.normalizeNewlines_cons_carriageReturn, if_pos rfl]
    split
    · rename_i isBreak
      rcases List.head?_eq_some_iff.mp isBreak with ⟨further, rfl⟩
      rw [Text.normalizeNewlines_cons (by decide)]
      rfl
    · rfl
  · rw [Text.normalizeNewlines_cons isReturn, if_neg isReturn]
    rfl

/-- A blank stands behind the sign. -/
theorem exists_blank_cons {after title : Text} (shows : headingAfter? after = some title) :
    ∃ character rest, after = character :: rest ∧ Text.isBlank character = true := by
  rcases after with _ | ⟨character, rest⟩
  · cases shows
  · refine ⟨character, rest, rfl, ?_⟩
    by_contra isShown
    rw [headingAfter?, List.takeWhile_cons_of_neg isShown] at shows
    cases shows

theorem head?_lineRest {after title : Text} (shows : headingAfter? after = some title) :
    (lineRest after).head? ≠ some '#' := by
  rcases exists_blank_cons shows with ⟨character, rest, rfl, isBlank⟩
  intro isSign
  rw [lineRest, List.head?_takeWhile, Option.filter_eq_some_iff, head?_normalizeNewlines] at isSign
  have same := Option.some.inj isSign.1
  split at same
  · cases same
  · rw [same] at isBlank
    cases isBlank

section Blanks

variable {blanks : Text} (areBlank : ∀ character ∈ blanks, Text.isBlank character = true)

include areBlank

/-- Blanks with a line feed leave nothing on the first line. -/
theorem strip_firstLine_of_mem (broken : '\n' ∈ blanks) (rest : Text) :
    Text.strip ((blanks ++ rest).takeWhile (· != '\n')) = [] := by
  rw [List.takeWhile_append, if_neg]
  · exact Text.strip_eq_nil fun character mem =>
      areBlank character ((List.takeWhile_prefix _).subset mem)
  · intro same
    have whole := List.Sublist.eq_of_length (List.takeWhile_prefix _).sublist same
    cases List.takeWhile_eq_self_iff.mp whole '\n' broken

theorem strip_firstLine_of_not_mem (unbroken : '\n' ∉ blanks) (rest : Text) :
    Text.strip ((blanks ++ rest).takeWhile (· != '\n')) = Text.strip (rest.takeWhile (· != '\n')) := by
  rw [List.takeWhile_append_of_pos, Text.strip_blank_append areBlank]
  intro character mem
  exact bne_iff_ne.mpr fun same => unbroken (same ▸ mem)

end Blanks

/-- Without carriage returns, the title is the rest of the line unless the blanks run over its end. -/
theorem strip_lineRest_eq_iff {after title : Text} (absent : '\r' ∉ after)
    (shows : headingAfter? after = some title) :
    Text.strip (lineRest after) = title ↔
      '\n' ∉ after.takeWhile Text.isBlank ∨ after.dropWhile Text.isBlank = [] := by
  have areBlank : ∀ character ∈ after.takeWhile Text.isBlank, Text.isBlank character = true :=
    fun _ mem => List.mem_takeWhile_imp mem
  have whole : after.takeWhile Text.isBlank ++ after.dropWhile Text.isBlank = after :=
    List.takeWhile_append_dropWhile
  have shown := List.head?_dropWhile_not Text.isBlank after
  rw [lineRest, Text.normalizeNewlines_of_not_mem absent]
  simp only [headingAfter?] at shows
  generalize after.takeWhile Text.isBlank = blanks at *
  generalize after.dropWhile Text.isBlank = rest at *
  subst whole
  split at shows
  · cases shows
  · rcases rest with _ | ⟨character, rest⟩
    · have nothing : title = [] := by
        rw [if_neg (by simp)] at shows
        split at shows
        · exact (Option.some.inj shows).symm
        · cases shows
      have isNothing : Text.strip (blanks.takeWhile (· != '\n')) = [] :=
        Text.strip_eq_nil fun character mem =>
          areBlank character ((List.takeWhile_prefix _).subset mem)
      simp [nothing, isNothing]
    · rw [if_pos (by simp), Option.some.injEq] at shows
      have isShown : Text.isBlank character = false := shown
      by_cases broken : '\n' ∈ blanks
      · have visible : (character != '\n') = true := bne_iff_ne.mpr fun same => by
          rw [same] at isShown
          cases isShown
        rcases Text.exists_strip_cons isShown (rest.takeWhile (· != '\n')) with
          ⟨inner, _, _, stripped, _⟩
        rw [List.takeWhile_cons, if_pos visible, stripped] at shows
        rw [strip_firstLine_of_mem areBlank broken, ← shows]
        simp [broken]
      · rw [strip_firstLine_of_not_mem areBlank broken, shows]
        simp [broken]

/-! ## The heading of the sign -/

/-- Whether the line of a number stands outside of closed fences. -/
def OutsideFences (number : Nat) (markdown : Text) : Prop :=
  ∃ text, .line number text ∈ stretches 1 0 (documentLines markdown)

theorem mem_outline_iff {before after title : Text} (sign : FirstSign true before after title)
    (diagramLanguages : List Text) :
    (lineNumber before, 1, title) ∈ outline diagramLanguages (before ++ '#' :: after) ↔
      OutsideFences (lineNumber before) (before ++ '#' :: after) ∧
        Text.strip (lineRest after) = title := by
  rcases exists_documentLines sign.starts after with ⟨above, below, split, number⟩
  have isLine {text : Text}
      (mem : .line (lineNumber before) text ∈ stretches 1 0 (documentLines (before ++ '#' :: after))) :
      text = '#' :: lineRest after := by
    rcases exists_getElem?_of_mem_stretches mem with ⟨index, same, found⟩
    have here : index = above.length := by omega
    rw [split, here, List.getElem?_append_right (Nat.le_refl _), Nat.sub_self] at found
    exact (Option.some.inj found).symm
  have isHeading := headingOf?_sign (head?_lineRest sign.shows)
  rw [outline_eq, List.mem_filterMap]
  constructor
  · rintro ⟨stretch, mem, entry⟩
    cases stretch with
    | fence number opening body closing => cases entry
    | line number text =>
        rcases Option.map_eq_some_iff.mp entry with ⟨found, isFound, same⟩
        cases same
        rw [isLine mem, isHeading] at isFound
        exact ⟨⟨text, mem⟩, congrArg Prod.snd (Option.some.inj isFound)⟩
  · rintro ⟨⟨text, mem⟩, own⟩
    refine ⟨_, mem, ?_⟩
    rw [Stretch.outlined?, isLine mem, isHeading, own]
    rfl

/-- A title from the body is the text of the heading on the line of the first sign exactly when this
line is outside of closed fences and the text stands on it. -/
theorem title_of_body {frontmatter : List (Value × Value)} {body title : Text} {path : String}
    (untitled : ((Value.lookup "title" frontmatter).getD .null).isEmpty = true)
    (finds : heading? body = some title) :
    titleOf frontmatter body path = String.ofList title ∧
      ∃ before after, body = before ++ '#' :: after ∧ FirstSign true before after title ∧
        ('\r' ∉ body → (Text.strip (lineRest after) = title ↔
          '\n' ∉ after.takeWhile Text.isBlank ∨ after.dropWhile Text.isBlank = [])) ∧
        ∀ diagramLanguages : List Text,
          ((lineNumber before, 1, title) ∈ outline diagramLanguages body ↔
            OutsideFences (lineNumber before) body ∧ Text.strip (lineRest after) = title) ∧
          (OutsideFences (lineNumber before) body → Text.strip (lineRest after) = title →
            ∃ source, .heading source 1 title ∈ classify diagramLanguages body) := by
  rcases exists_of_headingFrom? finds with ⟨before, after, rfl, sign⟩
  refine ⟨?_, before, after, rfl, sign, fun absent => ?_, fun diagramLanguages => ?_⟩
  · rw [titleOf, untitled, finds]
    rfl
  · exact strip_lineRest_eq_iff (fun mem => absent (by simp [mem])) sign.shows
  · have isEntry := mem_outline_iff sign diagramLanguages
    refine ⟨isEntry, fun outside own => ?_⟩
    have entry := List.mem_map_of_mem (f := (·.2)) (isEntry.mpr ⟨outside, own⟩)
    rw [map_snd_outline, List.mem_filterMap] at entry
    rcases entry with ⟨block, mem, isHeading⟩
    cases block <;> cases isHeading
    exact ⟨_, mem⟩

example : heading? "#\n\nText\n".toList = some "Text".toList := by
  decide +kernel

/-- A comment in a fence before a heading. -/
def commented : Text :=
  "```\n# comment\n```\n# Real\n".toList

/-- The title is that comment, which is no heading. -/
theorem not_all_titles_headings :
    ¬ ∀ (frontmatter : List (Value × Value)) (body title : Text) (diagramLanguages : List Text),
      ((Value.lookup "title" frontmatter).getD .null).isEmpty = true → heading? body = some title →
      ∃ source, .heading source 1 title ∈ classify diagramLanguages body := by
  intro areHeadings
  rcases areHeadings [] commented "comment".toList [] (by decide) (by decide +kernel) with
    ⟨source, mem⟩
  have entry : ((1 : Int), "comment".toList) ∈ (classify [] commented).filterMap Block.heading? :=
    List.mem_filterMap.mpr ⟨_, mem, rfl⟩
  exact absurd entry (by decide +kernel)

/-- The only number sign of the body begins its title. -/
theorem title_of_body_plain :
    titleOf [] "Hello\n\n# Hi\n".toList "a.md" = "Hi" ∧
      ∀ diagramLanguages : List Text,
        ∃ source, .heading source 1 "Hi".toList ∈ classify diagramLanguages "Hello\n\n# Hi\n".toList := by
  have untitled : ((Value.lookup "title" []).getD .null).isEmpty = true := by decide
  have finds : heading? "Hello\n\n# Hi\n".toList = some "Hi".toList := by decide +kernel
  rcases @title_of_body _ _ _ "a.md" untitled finds with ⟨isTitle, before, after, split, sign, _, stands⟩
  have once : before.count '#' + after.count '#' = 0 := by
    have count := congrArg (List.count '#') split
    rw [List.count_append, List.count_cons_self,
      show "Hello\n\n# Hi\n".toList.count '#' = 1 by decide +kernel] at count
    omega
  have absent : '#' ∉ before := List.count_eq_zero.mp (Nat.eq_zero_of_add_eq_zero_right once)
  have whole : "Hello\n\n".toList ++ '#' :: " Hi\n".toList = before ++ '#' :: after := split
  rcases Text.append_cons_inj (by decide +kernel) absent whole with ⟨rfl, rfl⟩
  have outside : OutsideFences (lineNumber "Hello\n\n".toList) "Hello\n\n# Hi\n".toList :=
    ⟨"# Hi".toList, List.mem_cons_of_mem _ (List.mem_cons_of_mem _ List.mem_cons_self)⟩
  exact ⟨isTitle, fun diagramLanguages => (stands diagramLanguages).2 outside (by decide +kernel)⟩

end DocBinder.Project
