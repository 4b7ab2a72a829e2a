import DocBinder.Proofs.Replacement.Unique
import DocBinder.Proofs.Sync.Runs

/-!
# What stands before a document

A document is appended behind everything that a buffer holds, and its tables are counted from
there on. Only the search for its tokens goes through the whole buffer: a token that was issued
for the document, but does not stand in its content any more, may be found in an earlier text, which
is then replaced. Where no such token is in the way, all that stands before the document stays as it
is, wherever its phases end.
-/

namespace DocBinder.Sync

open Docs

variable {σ : Type}

namespace Coordinator

/-- The tokens that were issued for a document and stand once in a buffer with its content do not
begin in what stands before the content. -/
def Apart (coordinator : Coordinator σ) (builder : Placeholder.BuilderState)
    (document : SourceDocument) (body : Buffer) : Prop :=
  ∀ built, coordinator.build document builder = .ok built → ∀ target,
    StandsIn built (body ++ ((coordinator.compiled built.markdown).units ++ [BodyUnit.lineFeed])) target →
    ∀ place, target.token.StandsAt
        (Buffer.text (body ++ ((coordinator.compiled built.markdown).units ++ [BodyUnit.lineFeed])))
        place →
      body.text.length ≤ place

/-- The units that a document can come to, wherever its phases end. -/
def Becomes (coordinator : Coordinator σ) (builder : Placeholder.BuilderState)
    (document : SourceDocument) (own : Buffer) : Prop :=
  own = [] ∨ ∃ built, coordinator.build document builder = .ok built ∧
    (own = (coordinator.compiled built.markdown).requests.flatMap Request.units ∨
      Renders (· ∈ targets built.links built.images)
        (coordinator.compiled built.markdown).units own)

/-- Where no token is in the way, what a document leaves stands behind what was there before. -/
theorem LeavesOf.exists_own {coordinator : Coordinator σ} {builder : Placeholder.BuilderState}
    {document : SourceDocument} {body left : Buffer}
    (leaves : coordinator.LeavesOf builder document body left)
    (apart : coordinator.Apart builder document body) :
    ∃ own, left = body ++ own ∧ coordinator.Becomes builder document own := by
  rcases leaves with rfl | ⟨built, gives, leaves⟩
  · exact ⟨[], (List.append_nil _).symm, .inl rfl⟩
  · cases leaves with
    | nothing => exact ⟨[], (List.append_nil _).symm, .inl rfl⟩
    | empty => exact ⟨_, rfl, .inr ⟨built, gives, .inl rfl⟩⟩
    | whole renders =>
        have areTokens (target : Target) (stands : StandsIn built
            (body ++ ((coordinator.compiled built.markdown).units ++ [BodyUnit.lineFeed])) target) :
            target.token.IsToken := (issued_of_build gives).isToken target stands.1
        rcases renders.exists_behind areTokens (by
          intro target stands place there
          refine apart built gives target stands place ?_
          rw [← List.append_assoc, Buffer.text_append]
          have within := there.within (areTokens target stands).ne_nil
          exact (Text.standsAt_append_left _ within).mpr there) with
          ⟨own, rfl, ownRenders⟩
        exact ⟨own, rfl, .inr ⟨built, gives, .inr (ownRenders.imp fun _ => And.left)⟩⟩

/-- A replacement whose token stands before the content begins before it. -/
theorem exists_early_hit {units : Target → Buffer} {items : List Target} {body behind shown : Buffer}
    {hits : List Replacement} (cut : Cut units 1 (body ++ behind) hits shown)
    (all : ∀ target, target ∈ hits.map (·.target) ↔
      target ∈ items ∧ target.token.StandsOnce (Buffer.text (body ++ behind)))
    {target : Target} (isItem : target ∈ items)
    (once : target.token.StandsOnce (Buffer.text (body ++ behind))) {place : Nat}
    (stands : target.token.StandsAt (Buffer.text (body ++ behind)) place)
    (early : place < body.text.length) : ∃ hit ∈ hits, hit.start < body.width + 1 := by
  rcases List.mem_map.mp ((all target).mpr ⟨isItem, once⟩) with ⟨hit, mem, rfl⟩
  rcases cut.exists_spans hit mem with ⟨before, covered, after, split, spans, starts, _⟩
  refine ⟨hit, mem, ?_⟩
  have samePlace : before.text.length = place := by
    rcases once with ⟨only, isOnly⟩
    rw [(isOnly place).mp stands]
    refine (isOnly _).mp ?_
    rw [split, Buffer.text_append, Buffer.text_append, spans.spelled]
    exact Text.standsAt_append _ _ _
  rcases List.append_eq_append_iff.mp split with ⟨between, rfl, _⟩ | ⟨between, rfl, _⟩
  · rw [Buffer.text_append, List.length_append] at samePlace
    omega
  · have nonempty : between ≠ [] := by
      rintro rfl
      rw [List.append_nil] at early
      omega
    have positive := Buffer.width_pos nonempty
    rw [starts, Buffer.width_append]
    omega

/-- With any faults and any uploader, a document leaves all units before its own as they are, whether it
goes through all phases, fails, or the run is given up at it, provided that none of its tokens is
in the way. Otherwise, without faults, a replacement begins before its content. -/
theorem leaves_earlier {coordinator : Coordinator Service} {session : Session Service}
    {documentId : String} {body : Buffer} (serves : coordinator.remote = Service.remote)
    (reachable : Service.contract.Reachable session.remote)
    (there : session.remote.body? documentId = some (body ++ [BodyUnit.lineFeed]))
    (document : SourceDocument) :
    (coordinator.Apart session.builder document body →
      Meets (coordinator.writeDocument document documentId) session
        (fun _ reached => ∃ own, reached.remote.body? documentId = some (body ++ own))
        (fun _ reached => ∃ own, reached.remote.body? documentId = some (body ++ own))) ∧
    (¬ coordinator.Apart session.builder document body → session.remote.faults = .none →
      Meets (coordinator.writeDocument document documentId) session
        (fun outcome reached => outcome.phase = .done ∧
          ∃ built final hits, coordinator.build document session.builder = .ok built ∧
            reached.remote.body? documentId = some final ∧
            Cut Target.units 1
              (body ++ ((coordinator.compiled built.markdown).units ++ [BodyUnit.lineFeed])) hits final ∧
            ∃ hit ∈ hits, hit.start < body.width + 1)
        never) := by
  have wellFormed : (body ++ [BodyUnit.lineFeed] : Buffer).WellFormed := reachable.sound _ _ there
  rcases coordinator with ⟨remote, languages, setup, chunkSize, now⟩
  change remote = Service.remote at serves
  subst serves
  have meets := @meets_writeDocument Service ⟨Service.remote, languages, setup, chunkSize, now⟩
    Service.contract documentId session document body wellFormed there
  constructor
  · intro apart
    refine meets.mono ?_ ?_
    · rintro outcome reached ⟨left, _, holds, _, leaves, _⟩
      rcases leaves.exists_own apart with ⟨own, rfl, _⟩
      exact ⟨own ++ [BodyUnit.lineFeed], holds.body.trans (by rw [List.append_assoc])⟩
    · rintro failure reached ⟨left, _, holds, leaves, _⟩
      rcases leaves.exists_own apart with ⟨own, rfl, _⟩
      exact ⟨own ++ [BodyUnit.lineFeed], holds.body.trans (by rw [List.append_assoc])⟩
  · intro inTheWay quiet
    simp only [Apart, not_forall, Nat.not_le] at inTheWay
    rcases inTheWay with ⟨built, gives, target, stands, place, standsAt, early⟩
    refine meets.mono ?_ ?_
    · rintro outcome reached ⟨left, _, holds, _, _, _, meant⟩
      rcases meant ⟨built, gives⟩ with ⟨isDone, other, front, otherGives, split, substitutes⟩ |
        spoiled
      · rw [gives, Except.ok.injEq] at otherGives
        subst otherGives
        rcases List.append_inj' split rfl with ⟨rfl, _⟩
        rcases substitutes with ⟨hits, cut, _, all⟩
        exact ⟨isDone, built, _, hits, gives, holds.body, cut,
          exists_early_hit cut all stands.1 stands.2 standsAt early⟩
      · rcases spoiled.troubled with ⟨failure, troubled⟩
        exact absurd quiet troubled
    · rintro failure reached ⟨_, _, _, _, troubled⟩
      exact absurd quiet (troubled ⟨built, gives⟩)

/-- A document without tokens has none in the way. -/
theorem leaves_earlier_plain :
    Meets (Coordinator.plain.writeDocument ⟨"a.md", "A", "# A\n".toList, "", none⟩ "handbook")
      (.onText "Old".toList .none)
      (fun _ reached => ∃ own, reached.remote.body? "handbook" =
        some ("Old".toList.map .char ++ own))
      (fun _ reached => ∃ own, reached.remote.body? "handbook" =
        some ("Old".toList.map .char ++ own)) := by
  have there : (Session.onText "Old".toList .none).remote.body? "handbook" =
    some ("Old".toList.map .char ++ [BodyUnit.lineFeed]) := rfl
  have serves : Coordinator.plain.remote = Service.remote := rfl
  refine (leaves_earlier serves (Service.reachable_ofTexts _ _) there _).1 ?_
  intro built gives target stands
  have noTargets : (Coordinator.plain.build ⟨"a.md", "A", "# A\n".toList, "", none⟩
      .initial).toOption.map (fun built => targets built.links built.images) = some [] := by
    decide +kernel
  change Coordinator.plain.build _ .initial = .ok built at gives
  rw [gives, Except.toOption, Option.map_some, Option.some.injEq] at noTargets
  rw [StandsIn, noTargets] at stands
  exact absurd stands.1 List.not_mem_nil

/-- A table with a link in a cell beyond its header. -/
def droppedCell : SourceDocument :=
  ⟨"a.md", "A", "| h |\n|---|\n| c | [x](http://x) |\n".toList, "", none⟩

/-- The token of a dropped cell is found in an earlier text, which is replaced. -/
theorem not_leaves_earlier :
    ∃ final, ((Coordinator.plain.writeDocument droppedCell "handbook").run
        (.onText "[[[LINK_0]]]".toList .none)).2.remote.body? "handbook" = some final ∧
      ¬ "[[[LINK_0]]]".toList.map BodyUnit.char <+: final := by
  have edited : (((Coordinator.plain.writeDocument droppedCell "handbook").run
      (.onText "[[[LINK_0]]]".toList .none)).2.remote.body? "handbook").any
      (fun final => !("[[[LINK_0]]]".toList.map BodyUnit.char).isPrefixOf final) = true := by
    decide +kernel
  rcases (Option.any_eq_true _ _).mp edited with ⟨final, found, differs⟩
  refine ⟨final, found, ?_⟩
  rwa [← List.isPrefixOf_iff_prefix, Bool.not_eq_true, ← Bool.not_eq_true']

end Coordinator

end DocBinder.Sync
