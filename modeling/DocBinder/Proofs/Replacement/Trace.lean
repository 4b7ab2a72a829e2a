import DocBinder.Proofs.Replacement.Numbering
import DocBinder.Proofs.Replacement.References

/-!
# How a document gets its tokens

The same steps that put tokens into a document are taken here once more, so that what stands there
on the way can be spoken of: links are looked for in a text that holds tokens for images already.
-/

namespace DocBinder.Placeholder

/-- A piece of a text: code, which stays as it is, or plain text as it is written, with tokens for
its images, and with tokens for its links. -/
inductive Stage where
  | code (source : Text)
  | plain (written imaged linked : Text)

namespace Stage

/-- What a piece is in the end. -/
def shown : Stage → Text
  | .code source => source
  | .plain _ _ linked => linked

/-- The images that are read in a piece. -/
def images : Stage → List Reference
  | .code _ => []
  | .plain written _ _ => imagesIn written

/-- The links that are read in a piece. -/
def links : Stage → List Reference
  | .code _ => []
  | .plain _ imaged _ => linksIn imaged

end Stage

/-- A part of a document: the pieces of a text, or a fence as it is written and as it is shown. -/
inductive Trace where
  | text (stages : List Stage)
  | fence (source shown : Text)

namespace Trace

/-- The pieces of a part. -/
def stages : Trace → List Stage
  | .text stages => stages
  | .fence _ _ => []

/-- What a part is in the end. -/
def shown : Trace → Text
  | .text stages => stages.flatMap Stage.shown
  | .fence _ shown => shown

end Trace

section Tracing

variable (setup : Setup) (directory : Option String)

/-- Put tokens for images into plain text. -/
def putImages (text : Text) : Build Text :=
  substitute (fun _ => imageAt?) (·.source.length) (replaceImage setup directory) none 0 text

/-- Put tokens for links into plain text. -/
def putLinks (text : Text) : Build Text :=
  substitute linkAt? (·.source.length) (replaceLink setup directory) none 0 text

/-- Put tokens into a piece of a text. -/
def stage : Bool × Text → Build Stage
  | (true, source) => return .code source
  | (false, written) => do
      let imaged ← putImages setup directory written
      let linked ← putLinks setup directory imaged
      return .plain written imaged linked

/-- Put tokens into a part of a document. -/
def trace (segment : Segment) : Build Trace :=
  match segment with
  | .text source => return .text (← (codePieces 0 source).mapM (stage setup directory))
  | .fence _ _ source => return .fence source (← processSegment setup directory segment)

/-- How the parts of a document come to their tokens; none are told if that fails. -/
def traces (markdown : Text) (state : BuilderState) : List Trace :=
  match ((segments markdown).mapM (trace setup directory)).run ⟨state, [], [], .zero⟩ with
  | (.ok traces, _) => traces
  | (.error _, _) => []

theorem processPieces_eq_mapM (pieces : List (Bool × Text)) :
    processPieces setup directory pieces =
      (fun stages => stages.flatMap Stage.shown) <$> pieces.mapM (stage setup directory) := by
  induction pieces with
  | nil => simp [processPieces]
  | cons piece rest step =>
      rcases piece with ⟨isCode, text⟩
      cases isCode
      · simp [processPieces, step, stage, Stage.shown, processPlain, putImages, putLinks]
      · simp [processPieces, step, stage, Stage.shown]

theorem processSegment_eq_trace (segment : Segment) :
    processSegment setup directory segment = Trace.shown <$> trace setup directory segment := by
  cases segment with
  | text source => simp [processSegment, trace, processPieces_eq_mapM, Trace.shown]
  | fence language body source => simp [trace, Trace.shown]

theorem processSegments_eq_mapM (segments : List Segment) :
    processSegments setup directory segments =
      List.map Trace.shown <$> segments.mapM (trace setup directory) := by
  induction segments with
  | nil => simp [processSegments]
  | cons segment rest step => simp [processSegments, step, processSegment_eq_trace]

/-- A builder comes to a document by way of its parts. -/
theorem build_eq_mapM (markdown : Text) (state : BuilderState) :
    build setup markdown directory state =
      match ((segments markdown).mapM (trace setup directory)).run ⟨state, [], [], .zero⟩ with
      | (result, work) =>
          (result.map fun traces => ⟨Text.joinLines (traces.map Trace.shown), work.links, work.images,
            work.stats⟩, work.state) := by
  have mapped (work : Work) : (processSegments setup directory (segments markdown)).run work =
      (((segments markdown).mapM (trace setup directory)).run work).map
        (Except.map (List.map Trace.shown)) id := by
    rw [processSegments_eq_mapM, ExceptT.run_map]
    rfl
  rw [build, mapped]
  rcases ((segments markdown).mapM (trace setup directory)).run ⟨state, [], [], .zero⟩ with
    ⟨_ | _, _⟩ <;> rfl

end Tracing

/-! ## What steps give -/

/-- What each of some items comes to, and the tokens that they put one after the other. -/
inductive Puts {α β : Type} (fits : α → β → List Text → Prop) :
    List α → List β → List Text → Prop
  | nil : Puts fits [] [] []
  | cons {item : α} {result : β} {own : List Text} {items : List α} {results : List β}
      {put : List Text} (fit : fits item result own) (following : Puts fits items results put) :
      Puts fits (item :: items) (result :: results) (own ++ put)

/-- What a piece comes to. -/
inductive Stage.Fits : Bool × Text → Stage → List Text → Prop
  | code (source : Text) : Fits (true, source) (.code source) []
  | plain {written imaged linked : Text} {images links : List Text}
      (imagesGo : Replaced ImageFits written (imagesIn written) imaged images)
      (linksGo : Replaced LinkFits imaged (linksIn imaged) linked links) :
      Fits (false, written) (.plain written imaged linked) (images ++ links)

/-- What a part of a document comes to. -/
inductive Trace.Fits : Segment → Trace → List Text → Prop
  | text {source : Text} {stages : List Stage} {put : List Text}
      (pieces : Puts Stage.Fits (codePieces 0 source) stages put) :
      Fits (.text source) (.text stages) put
  | fence (language : Option Text) (body source : Text) :
      Fits (.fence language body source) (.fence source source) []
  | diagram (language : Option Text) (body source : Text) (number : Nat) :
      Fits (.fence language body source) (.fence source (token .diagram number))
        [token .diagram number]

namespace Build.Gives

theorem mapM {α β : Type} {fits : α → β → List Text → Prop} {act : α → Build β}
    (acts : ∀ item, Gives (fits item) (act item)) (items : List α) :
    Gives (Puts fits items) (items.mapM act) := by
  induction items with
  | nil =>
      rw [List.mapM_nil]
      exact pure .nil
  | cons item items step =>
      rw [List.mapM_cons]
      refine bind (acts item) fun result own fit => bind step fun results put following => ?_
      apply pure
      rw [List.append_nil]
      exact .cons fit following

/-- References are replaced one by one, from left to right. -/
theorem substitute {find : Option Char → Text → Option Reference}
    {fits : Reference → Text → List Text → Prop} {act : Reference → Build Text}
    (stands : ∀ before text reference, find before text = some reference →
      reference.source ≠ [] ∧ reference.source <+: text ∧ Gives (fits reference) (act reference))
    (before : Option Char) (skip : Nat) (text : Text) :
    Gives (Replaced fits (text.drop skip) (finds find (·.source.length) before skip text))
      (substitute find (·.source.length) act before skip text) := by
  induction text generalizing before skip with
  | nil =>
      rw [List.drop_nil]
      exact pure .done
  | cons character rest step =>
      cases skip with
      | succ skip => exact step (some character) skip
      | zero =>
          cases isFound : find before (character :: rest) with
          | some reference =>
              rw [Placeholder.substitute, finds, isFound]
              rcases stands _ _ _ isFound with ⟨nonempty, isPrefix, acts⟩
              refine bind acts fun replacement own fit =>
                bind (step (some character) (reference.source.length - 1))
                  fun shown put following => ?_
              apply pure
              have positive := List.length_pos_iff.mpr nonempty
              have passed : rest.drop (reference.source.length - 1) =
                  (character :: rest).drop reference.source.length := by
                rw [← List.drop_succ_cons, Nat.sub_add_cancel positive]
              rw [passed] at following
              have whole := Replaced.found fit following
              rwa [List.prefix_iff_eq_append.mp isPrefix, ← List.append_nil put] at whole
          | none =>
              rw [Placeholder.substitute, finds, isFound]
              refine bind (step (some character) 0) fun shown put following => ?_
              apply pure
              rw [List.append_nil]
              exact .kept character following

section Parts

variable (setup : Setup) (directory : Option String)

theorem replaceImage {image : Reference} (written : image.Written ['!', '[']) :
    Gives (ImageFits image) (replaceImage setup directory image) := by
  unfold Placeholder.replaceImage
  extract_lets place
  have placed (address : Option Text) : Gives (ImageFits image) (place address) := by
    cases address with
    | none => exact pure ⟨written, .inl ⟨rfl, rfl⟩⟩
    | some address =>
        refine issue .image
          (fun token work =>
            { work with images := work.images ++ [⟨token, address, image.text, .image⟩] })
          ?_ fun number => Quiet.bind (.count _) fun _ =>
            pure ⟨written, .inr ⟨number, rfl, rfl⟩⟩
        intro token work
        simp [Work.tokens]
  split
  · exact Quiet.bind (.pure _) placed
  · exact Quiet.bind (.uploadLocal setup directory _) placed

theorem replaceLink {link : Reference} (written : link.Written ['[']) (nonempty : link.text ≠ []) :
    Gives (LinkFits link) (replaceLink setup directory link) := by
  unfold Placeholder.replaceLink
  extract_lets external place
  have placed (address : Option Text)
      (known : address = none → isExternal link.target = false) :
      Gives (LinkFits link) (place address) := by
    cases address with
    | none => exact pure ⟨written, nonempty, .inl ⟨known rfl, rfl, rfl⟩⟩
    | some address =>
        refine issue .link
          (fun token work =>
            { work with links := work.links ++ [⟨token, link.text, address, external⟩] })
          ?_ fun number => Quiet.bind (.count _) fun _ =>
            pure ⟨written, nonempty, .inr ⟨number, rfl, rfl⟩⟩
        intro token work
        refine ⟨?_, rfl⟩
        simp only [Work.tokens, List.map_append, List.map_cons, List.map_nil, List.append_assoc]
        exact List.perm_append_comm.append_left _
  split
  · rw [pure_bind]
    exact placed (some link.target) nofun
  · rename_i internal
    have known : isExternal link.target = false := Bool.eq_false_iff.mpr internal
    split
    · exact Quiet.bind (.report _ _) fun _ => Quiet.bind (.pure _) fun address =>
        placed address fun _ => known
    · exact Quiet.bind (.uploadLocal setup directory _) fun address => placed address fun _ => known

theorem putImages (text : Text) :
    Gives (Replaced ImageFits text (imagesIn text)) (putImages setup directory text) := by
  refine substitute ?_ none 0 text
  intro _ text image isFound
  rcases written_of_imageAt? isFound with ⟨written, isPrefix⟩
  exact ⟨written.ne_nil, isPrefix, replaceImage setup directory written⟩

theorem putLinks (text : Text) :
    Gives (Replaced LinkFits text (linksIn text)) (putLinks setup directory text) := by
  refine substitute ?_ none 0 text
  intro before text link isFound
  rcases written_of_linkAt? isFound with ⟨written, nonempty, isPrefix⟩
  exact ⟨written.ne_nil, isPrefix, replaceLink setup directory written nonempty⟩

theorem stage (piece : Bool × Text) : Gives (Stage.Fits piece) (stage setup directory piece) := by
  rcases piece with ⟨isCode, text⟩
  cases isCode
  · refine bind (putImages setup directory text) fun imaged images imagesGo =>
      bind (putLinks setup directory imaged) fun linked links linksGo => ?_
    apply pure
    rw [List.append_nil]
    exact .plain imagesGo linksGo
  · exact pure (.code text)

/-- A diagram stays as it is written, or a token takes its place. -/
theorem processDiagram (written : Option Text) (language body source : Text) :
    Gives (fun shown => Trace.Fits (.fence written body source) (.fence source shown))
      (processDiagram setup language body source) := by
  unfold Placeholder.processDiagram
  extract_lets unrendered lowered key place
  clear_value lowered key
  have stays : Gives (fun shown => Trace.Fits (.fence written body source) (.fence source shown))
      unrendered :=
    Quiet.bind (.count _) fun _ => pure (.fence written body source)
  split
  · rename_i renderer uploader _ _
    have placed (address : Option String) :
        Gives (fun shown => Trace.Fits (.fence written body source) (.fence source shown))
          (place address) := by
      cases address with
      | none => exact Quiet.bind (.report _ _) fun _ => stays
      | some address =>
          refine issue .diagram
            (fun token work => { work with images := work.images ++
              [⟨token, address.toList, language ++ " diagram".toList, .diagram⟩] })
            ?_ fun number => Quiet.bind (.count _) fun _ =>
              pure (.diagram written body source number)
          intro token work
          simp [Work.tokens]
    refine Quiet.bind (.cached key) fun found => ?_
    cases found with
    | some address => exact Quiet.bind (.pure _) placed
    | none =>
        refine Quiet.bind (.render renderer body lowered) fun rendered => ?_
        split
        · exact Quiet.bind (.pure none) placed
        · exact Quiet.bind (.upload uploader _) fun result =>
            Quiet.bind (.remember _ _) fun _ => Quiet.bind (.count _) fun _ =>
              Quiet.bind (.pure _) placed
  · exact stays

theorem trace (segment : Segment) : Gives (Trace.Fits segment) (trace setup directory segment) := by
  cases segment with
  | text source =>
      refine bind (mapM (stage setup directory) _) fun stages put pieces => pure ?_
      rw [List.append_nil]
      exact .text pieces
  | fence language body source =>
      have shows : Gives (fun shown => Trace.Fits (.fence language body source)
          (.fence source shown)) (processSegment setup directory (.fence language body source)) := by
        rw [processSegment]
        split
        · exact processDiagram setup language _ body source
        · exact pure (.fence language body source)
      refine bind shows fun shown put fit => pure ?_
      rwa [List.append_nil]

end Parts

end Build.Gives

/-- What a builder makes of a document is what the parts of the document come to, as far as is known of
each part. -/
theorem build_traced_of {setup : Setup} {markdown : Text} {directory : Option String}
    {state : BuilderState} {built : Built} {fits : Segment → Trace → List Text → Prop}
    (gives : ∀ segment, Build.Gives (fits segment) (trace setup directory segment))
    (builds : (build setup markdown directory state).1 = .ok built) :
    built.markdown = Text.joinLines ((traces setup directory markdown state).map Trace.shown) ∧
      ∃ put, Puts fits (segments markdown) (traces setup directory markdown state) put ∧
        ((targets built.links built.images).map Target.token).Perm put ∧
        put.Perm (issuedBetween state.counters (build setup markdown directory state).2.counters) := by
  have meets := (Build.Gives.mapM gives (segments markdown) ⟨state, [], [], .zero⟩).run
  rw [Meets] at meets
  rw [build_eq_mapM] at builds ⊢
  rw [traces]
  split at meets
  · rename_i traced reached runs
    rcases meets with ⟨_, put, follows, adds⟩
    rw [runs] at builds ⊢
    cases builds
    refine ⟨rfl, put, follows, ?_, adds.issued⟩
    have tokens : (targets reached.links reached.images).map Target.token = reached.tokens := by
      simp [targets, Target.token, Work.tokens, Function.comp_def]
    exact (List.Perm.of_eq tokens).trans adds.collected
  · rename_i runs
    rw [runs] at builds
    cases builds

theorem build_traced {setup : Setup} {markdown : Text} {directory : Option String}
    {state : BuilderState} {built : Built}
    (builds : (build setup markdown directory state).1 = .ok built) :
    built.markdown = Text.joinLines ((traces setup directory markdown state).map Trace.shown) ∧
      ∃ put, Puts Trace.Fits (segments markdown) (traces setup directory markdown state) put ∧
        ((targets built.links built.images).map Target.token).Perm put ∧
        put.Perm (issuedBetween state.counters (build setup markdown directory state).2.counters) :=
  build_traced_of (Build.Gives.trace setup directory) builds

end DocBinder.Placeholder
