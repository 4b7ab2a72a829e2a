import DocBinder.Proofs.Replacement.Fences
import DocBinder.Proofs.Replacement.Steady

/-!
# Headings with tokens around them

Images and links are read over the ends of lines, and then all headings between their brackets are lost.
Where each of them stands in one line, and nothing but a link's text is left of it that looks like a
fence or like further number signs, all headings stay where they are.
-/

namespace DocBinder.Placeholder

open Markdown

/-! ## What gives way -/

/-- A piece with tokens for its images alone. -/
def Stage.imaged : Stage → Text
  | .code source => source
  | .plain _ imaged _ => imaged

/-- A part of a document with tokens for its images alone. -/
def Trace.imaged : Trace → Text
  | .text stages => stages.flatMap Stage.imaged
  | .fence _ shown => shown

/-- Each reference that is read in a piece stands in one line, and where the text of a link is left, it
shows something first that is no backtick. -/
structure Stage.Tidy (stage : Stage) : Prop where
  inLine : ∀ reference ∈ stage.images ++ stage.links,
    '\n' ∉ reference.source ∧ '\r' ∉ reference.source
  shows : ∀ link ∈ stage.links, isExternal link.target = false →
    (Text.trimStart link.text).head?.any (· != '`') = true

instance (stage : Stage) : Decidable stage.Tidy :=
  decidable_of_iff ((∀ reference ∈ stage.images ++ stage.links,
      '\n' ∉ reference.source ∧ '\r' ∉ reference.source) ∧
    ∀ link ∈ stage.links, isExternal link.target = false →
      (Text.trimStart link.text).head?.any (· != '`') = true)
    ⟨fun ⟨inLine, shows⟩ => ⟨inLine, shows⟩, fun tidy => ⟨tidy.inLine, tidy.shows⟩⟩

/-- A token takes the place of an image. -/
def ImageTrades (source replacement : Text) : Prop :=
  Trades source replacement ∧ ['[', '['] <+: replacement

theorem trades_token {source : Text} (begins : source.head? = some '!' ∨ source.head? = some '[')
    (inLine : '\n' ∉ source ∧ '\r' ∉ source) (kind : TokenKind) (number : Nat) :
    Trades source (token kind number) where
  begins := begins
  shows := by cases kind <;> rfl
  apart isSign := by cases kind <;> cases isSign
  feeds := ⟨inLine.1, not_mem_token (by decide) (by decide) kind number⟩
  returns := ⟨inLine.2, not_mem_token (by decide) (by decide) kind number⟩

section Replaced

variable {text shown : Text} {found : List Reference} {put : List Text}

theorem Replaced.traded_images (replaced : Replaced ImageFits text found shown put)
    (inLine : ∀ image ∈ found, '\n' ∉ image.source ∧ '\r' ∉ image.source) :
    Traded ImageTrades text shown := by
  apply replaced.traded
  rintro image mem replacement own ⟨⟨_, inner, source⟩, ⟨rfl, _⟩ | ⟨number, rfl, _⟩⟩
  · exact .inl rfl
  · refine .inr ⟨trades_token (.inl ?_) (inLine image mem) .image number, ⟨_, rfl⟩⟩
    rw [source]
    rfl

theorem Replaced.traded_links (replaced : Replaced LinkFits text found shown put)
    (inLine : ∀ link ∈ found, '\n' ∉ link.source ∧ '\r' ∉ link.source)
    (shows : ∀ link ∈ found, isExternal link.target = false →
      (Text.trimStart link.text).head?.any (· != '`') = true) : Traded Trades text shown := by
  apply replaced.traded
  rintro link mem replacement own ⟨⟨_, inner, source⟩, nonempty, ⟨internal, rfl, _⟩ | ⟨number, rfl, _⟩⟩
  · have within : link.text ⊆ link.source := by
      intro character inside
      rw [source]
      simp [inside]
    rcases inLine link mem with ⟨notFeed, notReturn⟩
    refine .inr ⟨.inr ?_, shows link mem internal, ?_, ⟨notFeed, fun mem => notFeed (within mem)⟩,
      ⟨notReturn, fun mem => notReturn (within mem)⟩⟩
    · rw [source]
      rfl
    · intro isSign
      rcases List.head?_eq_some_iff.mp isSign with ⟨rest, isText⟩
      rw [source, isText]
      exact ⟨_, rfl⟩
  · refine .inr (trades_token (.inr ?_) (inLine link mem) .link number)
    rw [source]
    rfl

end Replaced

/-! ## Parts of a document -/

theorem traded_stages {pieces : List (Bool × Text)} {stages : List Stage} {put : List Text}
    (puts : Puts Stage.Fits pieces stages put) (tidy : ∀ stage ∈ stages, stage.Tidy) :
    Traded ImageTrades (pieces.flatMap Prod.snd) (stages.flatMap Stage.imaged) ∧
      Traded Trades (stages.flatMap Stage.imaged) (stages.flatMap Stage.shown) := by
  induction puts with
  | nil => exact ⟨.done, .done⟩
  | cons fit following step =>
      rcases step fun other mem => tidy other (List.mem_cons_of_mem _ mem) with ⟨images, links⟩
      have own := tidy _ List.mem_cons_self
      cases fit with
      | code source => exact ⟨(Traded.refl _ source).append images, (Traded.refl _ source).append links⟩
      | plain imagesGo linksGo =>
          have ownImages := imagesGo.traded_images fun image mem =>
            own.inLine image (List.mem_append_left _ mem)
          have ownLinks := linksGo.traded_links
            (fun link mem => own.inLine link (List.mem_append_right _ mem)) own.shows
          exact ⟨ownImages.append images, ownLinks.append links⟩

/-- A fence is shown as it is written. -/
def Trace.Still (trace : Trace) : Prop :=
  ∀ source shown, trace = .fence source shown → shown = source

/-- Without an uploader, fences stay as they are written. -/
theorem gives_trace_bare {setup : Setup} (alone : setup.uploader = none)
    (directory : Option String) (segment : Segment) :
    Build.Gives (fun trace put => Trace.Fits segment trace put ∧ trace.Still)
      (trace setup directory segment) := by
  cases segment with
  | text source =>
      refine .bind (.mapM (.stage setup directory) _) fun stages put pieces => .pure ?_
      rw [List.append_nil]
      exact ⟨.text pieces, nofun⟩
  | fence language body source =>
      have stays : Build.Gives (fun shown put => shown = source ∧ put = [])
          (processSegment setup directory (.fence language body source)) := by
        rw [processSegment]
        split
        · unfold processDiagram
          rw [alone]
          cases setup.renderer <;>
            exact Build.Quiet.bind (.count _) fun _ => .pure ⟨rfl, rfl⟩
        · exact .pure ⟨rfl, rfl⟩
      refine .bind stays ?_
      rintro shown put ⟨rfl, rfl⟩
      apply Build.Gives.pure
      refine ⟨.fence language body shown, ?_⟩
      rintro _ _ same
      cases same
      rfl

theorem traded_traces {segments : List Segment} {traces : List Trace} {put : List Text}
    (puts : Puts (fun segment trace own => Trace.Fits segment trace own ∧ trace.Still) segments traces
      put)
    (tidy : ∀ trace ∈ traces, ∀ stage ∈ trace.stages, stage.Tidy) :
    List.Forall₂ (Traded ImageTrades) (segments.map Segment.source) (traces.map Trace.imaged) ∧
      List.Forall₂ (Traded Trades) (traces.map Trace.imaged) (traces.map Trace.shown) := by
  induction puts with
  | nil => exact ⟨.nil, .nil⟩
  | cons fit following step =>
      rcases step fun other mem => tidy other (List.mem_cons_of_mem _ mem) with ⟨images, links⟩
      have own := tidy _ List.mem_cons_self
      rcases fit with ⟨fits, still⟩
      cases fits with
      | text pieces =>
          rename_i source stages
          rcases traded_stages pieces own with ⟨ownImages, ownLinks⟩
          rw [(pieced_codePieces 0 source).joined, List.drop_zero] at ownImages
          exact ⟨.cons ownImages images, .cons ownLinks links⟩
      | fence language body source =>
          exact ⟨.cons (.refl _ source) images, .cons (.refl _ source) links⟩
      | diagram language body source number =>
          have same : token .diagram number = source := still _ _ rfl
          have unchanged : Trace.imaged (.fence source (token .diagram number)) = source := same
          rw [List.map_cons, List.map_cons, List.map_cons, unchanged, Trace.shown, same]
          exact ⟨.cons (.refl _ source) images, .cons (.refl _ source) links⟩

section Build

variable {setup : Setup} {markdown : Text} {directory : Option String} {state : BuilderState}
  {built : Built}

/-- The document with tokens for its images stands between the two. -/
theorem traded_build (alone : setup.uploader = none)
    (builds : (build setup markdown directory state).1 = .ok built)
    (tidy : ∀ trace ∈ traces setup directory markdown state, ∀ stage ∈ trace.stages, stage.Tidy) :
    ∃ imaged, Traded ImageTrades markdown imaged ∧ Traded Trades imaged built.markdown := by
  rcases build_traced_of (gives_trace_bare alone directory) builds with ⟨shows, put, follows, _⟩
  rcases traded_traces follows tidy with ⟨images, links⟩
  have imagesGo := Traded.joinLines images
  rw [joinLines_segments] at imagesGo
  rw [shows]
  exact ⟨_, imagesGo, Traded.joinLines links⟩

/-- Where references stand within lines, what is left of links shows something else than backticks, and
no number signs come together, all headings keep their lines and levels. -/
theorem keeps_headings (alone : setup.uploader = none)
    (tidy : ∀ trace ∈ traces setup directory markdown state, ∀ stage ∈ trace.stages, stage.Tidy)
    (apart : ∀ line ∈ documentLines markdown, Apart line) :
    ∃ built, (build setup markdown directory state).1 = .ok built ∧ ∀ diagramLanguages,
      (headings diagramLanguages markdown).Sublist (headings diagramLanguages built.markdown) ∧
        ((classify diagramLanguages markdown).filterMap Block.level?).Sublist
          ((classify diagramLanguages built.markdown).filterMap Block.level?) := by
  rcases exists_build setup markdown directory state alone with ⟨built, builds, _⟩
  rcases traded_build alone builds tidy with ⟨imaged, images, links⟩
  have imageFits (source replacement : Text) (trades : ImageTrades source replacement) :
      Trades source replacement := trades.1
  have linkFits (source replacement : Text) : Trades source replacement → Trades source replacement :=
    id
  have imageLines := images.documentLines imageFits
  have linkLines := links.documentLines linkFits
  have imagedApart := Traded.apart_lines (fun _ _ trades => trades.2) imageLines apart
  have kept (diagramLanguages : List Text) :
      (headings diagramLanguages markdown).Sublist (headings diagramLanguages built.markdown) := by
    apply (sublist_headings diagramLanguages (Traded.steady_lines imageFits imageLines apart)).trans
    exact sublist_headings diagramLanguages (Traded.steady_lines linkFits linkLines imagedApart)
  refine ⟨built, builds, fun diagramLanguages => ⟨kept diagramLanguages, ?_⟩⟩
  rw [← map_snd_headings, ← map_snd_headings]
  exact (kept diagramLanguages).map _

end Build

/-- A document with references in headings and around them, and with number signs in a fence. -/
def titled : Text :=
  "# [A](http://a.io) b\n```\n# c\n```\n## ![i](http://i.io/x.png) [t](u.md)\n- [v](#w)\n\n#".toList

theorem keeps_headings_titled :
    let setup : Setup := .bare []
    setup.uploader = none ∧
      (∀ trace ∈ traces setup none titled .initial, ∀ stage ∈ trace.stages, stage.Tidy) ∧
      (∀ line ∈ documentLines titled, Apart line) ∧
      ∃ built, (build setup titled none .initial).1 = .ok built ∧
        headings [] titled = [(1, 1), (5, 2), (8, 1)] ∧
        (headings [] titled).Sublist (headings [] built.markdown) := by
  intro setup
  have tidy : ∀ trace ∈ traces setup none titled .initial, ∀ stage ∈ trace.stages, stage.Tidy := by
    decide +kernel
  have apart : ∀ line ∈ documentLines titled, Apart line := by decide +kernel
  rcases keeps_headings rfl tidy apart with ⟨built, builds, kept⟩
  have found : headings [] titled = [(1, 1), (5, 2), (8, 1)] := by decide +kernel
  exact ⟨rfl, tidy, apart, built, builds, found, (kept []).1⟩

/-- A bracket that is never closed above a heading, and a link below it. -/
def swallowing : Text :=
  "[ open\n# Title\n[x](http://y)".toList

theorem not_all_headings_kept :
    ¬ ∀ markdown built, (build (.bare []) markdown none .initial).1 = .ok built →
      ((classify defaultDiagramLanguages markdown).filterMap Block.level?).Sublist
        ((classify defaultDiagramLanguages built.markdown).filterMap Block.level?) := by
  intro kept
  have replaced : (build (.bare []) swallowing none .initial).1.toOption.map (·.markdown) =
      some "[[[LINK_0]]]".toList := by
    decide +kernel
  rcases Option.map_eq_some_iff.mp replaced with ⟨built, found, isShown⟩
  have levels := kept swallowing built (Except.toOption_eq_some.mp found)
  rw [isShown, ← map_snd_headings, ← map_snd_headings] at levels
  have before : (headings defaultDiagramLanguages swallowing).map (·.2) = [1] := by decide +kernel
  have behind : (headings defaultDiagramLanguages "[[[LINK_0]]]".toList).map (·.2) = [] := by
    decide +kernel
  rw [before, behind] at levels
  cases levels

end DocBinder.Placeholder
