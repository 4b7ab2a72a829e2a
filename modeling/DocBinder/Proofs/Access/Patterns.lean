import DocBinder.Proofs.Access.Masks

/-!
# Patterns of secrets

Three of the kinds of secret are alike: a word in any case, what stands between it and the value, and
a value that goes on up to a character of a certain sort. Such a pattern is found in a masked text only
where it was found before, whichever kind was masked, because words neither overlap masks nor begin
inside of them. What was found is a mask already, or has become one, and behind it stands what ends
a value, before the pass and after it. So the pass of a pattern leaves its own masks wherever it is found,
and passes of other kinds keep them.
-/

namespace DocBinder.Access

open Text (fold IsFolded Apart isBlank)

/-! ## Patterns -/

/-- A kind of secret that is given by a word. `after?` gives what is behind the value, read from behind
the word on. Masks write the word with `canon`, and `value` behind it; `stops` tells the characters
that end a value, and `blocks` some that can not stand behind the word. -/
structure Pattern where
  words : List Text
  after? : Text → Option Text
  canon : Text → Text
  value : Text
  stops : Char → Bool
  blocks : Char → Bool

namespace Pattern

/-- The masks of a pattern, in any case. -/
def forms (pattern : Pattern) : List Text :=
  pattern.words.map (· ++ pattern.value.map fold)

/-- What a pattern has to satisfy for its masks to be found like the secrets. -/
structure Lawful (pattern : Pattern) : Prop where
  folded : ∀ word ∈ pattern.words, ∀ letter ∈ word, IsFolded letter
  distinct : ∀ word ∈ pattern.words, ∀ other ∈ pattern.words, word <+: other → word = other
  opens : ∀ text ∈ pattern.words ++ pattern.forms, text.head?.any opensMask = true
  canon : ∀ spelled, spelled.map fold ∈ pattern.words →
    (pattern.canon spelled).map fold = spelled.map fold
  fixed : ∀ spelled, pattern.canon (pattern.canon spelled) = pattern.canon spelled
  suffix : ∀ rest after, pattern.after? rest = some after → after <:+ rest
  ends : ∀ rest after, pattern.after? rest = some after → after.head?.all pattern.stops = true
  masked : ∀ after, after.head?.all pattern.stops = true →
    pattern.after? (pattern.value ++ after) = some after
  stops : ∀ character, pattern.stops character = true → opensMask character = false
  blocks : ∀ character rest, pattern.blocks (fold character) = true →
    pattern.after? (character :: rest) = none
  reflects : ∀ {kind words forms before text out}, Shape kind words forms →
    Masks kind before text out → (pattern.after? out).isSome → (pattern.after? text).isSome

/-- A kind of secret finds what a pattern describes. -/
def Describes (pattern : Pattern) (kind : SecretKind) : Prop :=
  ∀ before text mask after, kind before text = some (mask, after) ↔
    ∃ spelled rest, text = spelled ++ rest ∧ spelled.map fold ∈ pattern.words ∧
      pattern.after? rest = some after ∧ mask = pattern.canon spelled ++ pattern.value

/-- The words of a pattern do not run into masks from before. -/
def Spares (pattern : Pattern) (forms : List Text) : Prop :=
  ∀ word ∈ pattern.words, ∀ later ∈ word.tail.tails, later ≠ [] → ∀ form ∈ forms,
    Apart later form ∨ (later <+: form ∧ (form.drop later.length).head?.any pattern.blocks = true)

/-- No word stands inside a text, and none begins there. -/
def Free (words : List Text) (text : Text) : Prop :=
  ∀ word ∈ words, ∀ later ∈ text.tails, later ≠ [] → Apart word later

instance (pattern : Pattern) (forms : List Text) : Decidable (pattern.Spares forms) :=
  inferInstanceAs (Decidable (∀ _ ∈ _, _))

instance (words : List Text) (text : Text) : Decidable (Free words text) :=
  inferInstanceAs (Decidable (∀ _ ∈ _, _))

variable {pattern : Pattern} {kind other : SecretKind} {words forms : List Text}

/-- Of words that do not begin each other, a text begins with one alone. -/
theorem spelled_unique (distinct : ∀ word ∈ words, ∀ other ∈ words, word <+: other → word = other)
    {spelled rest front behind : Text} (isWord : spelled.map fold ∈ words)
    (isOther : front.map fold ∈ words) (same : spelled ++ rest = front ++ behind) :
    spelled = front ∧ rest = behind := by
  have lengths : spelled.length = front.length := by
    rcases List.prefix_or_prefix_of_prefix (List.prefix_append spelled rest)
      (same ▸ List.prefix_append front behind) with within | beyond
    · have whole := distinct _ isWord _ isOther (within.map fold)
      simpa using congrArg List.length whole
    · have whole := distinct _ isOther _ isWord (beyond.map fold)
      simpa using (congrArg List.length whole).symm
  exact List.append_inj same lengths

theorem Lawful.shape (lawful : pattern.Lawful) (describes : pattern.Describes kind) :
    Shape kind pattern.words pattern.forms where
  begins found := by
    rcases (describes _ _ _ _).mp found with ⟨spelled, rest, rfl, isWord, _⟩
    exact ⟨_, isWord, by simp⟩
  cuts found := by
    rcases (describes _ _ _ _).mp found with ⟨spelled, rest, rfl, isWord, read, _⟩
    rcases lawful.suffix _ _ read with ⟨value, rfl⟩
    refine ⟨spelled ++ value, ?_, by simp⟩
    intro isEmpty
    have opens := lawful.opens _ (List.mem_append_left _ isWord)
    simp [(List.append_eq_nil_iff.mp isEmpty).1] at opens
  masks found := by
    rcases (describes _ _ _ _).mp found with ⟨spelled, rest, _, isWord, _, rfl⟩
    rw [List.map_append, lawful.canon spelled isWord]
    exact List.mem_map_of_mem isWord
  opens := lawful.opens

theorem exists_of_any_head? {text : Text} {holds : Char → Bool} (any : text.head?.any holds = true) :
    ∃ character rest, text = character :: rest ∧ holds character = true := by
  cases text with
  | nil => cases any
  | cons character rest => exact ⟨character, rest, rfl, any⟩

/-- A mask is found as itself. -/
theorem Lawful.settled_mask (lawful : pattern.Lawful) (describes : pattern.Describes kind)
    (before : Option Char) {spelled after : Text} (isWord : spelled.map fold ∈ pattern.words)
    (ends : after.head?.all pattern.stops = true) :
    Settled kind before (pattern.canon spelled ++ pattern.value ++ after) := by
  intro mask behind found
  rcases (describes _ _ _ _).mp found with ⟨front, rest, split, isOther, read, rfl⟩
  rw [List.append_assoc] at split
  have isCanon := lawful.canon spelled isWord
  rcases spelled_unique lawful.distinct (isCanon ▸ isWord) isOther split with ⟨rfl, rfl⟩
  rw [lawful.masked after ends, Option.some.injEq] at read
  rw [← read, lawful.fixed]

/-- What ends a value is kept behind it. -/
theorem Lawful.ends_of_masks (lawful : pattern.Lawful) (shape : Shape other words forms)
    {before : Option Char} {after out : Text} (masks : Masks other before after out)
    (ends : after.head?.all pattern.stops = true) : out.head?.all pattern.stops = true := by
  cases after with
  | nil => simp [(masks.nil_iff shape).mp rfl]
  | cons character rest =>
      have stops : pattern.stops character = true := ends
      rcases masks.exists_out shape (lawful.stops character stops) with ⟨others, rfl, _⟩
      exact ends

/-- What is found in a masked text where a character was kept was found there before. -/
theorem Lawful.reflect (lawful : pattern.Lawful) (describes : pattern.Describes kind)
    (shape : Shape other words forms) (spares : pattern.Spares forms) {before : Option Char}
    {character : Char} {text out mask after : Text} (masks : Masks other (some character) text out)
    (found : kind before (character :: out) = some (mask, after)) :
    ∃ spelled rest value last behind, character :: out = spelled ++ rest ∧
      pattern.after? rest = some after ∧ mask = pattern.canon spelled ++ pattern.value ∧
      character :: text = spelled ++ value ∧ spelled.map fold ∈ pattern.words ∧
      pattern.after? value = some behind ∧ Masks other last value rest := by
  rcases (describes _ _ _ _).mp found with ⟨spelled, rest, split, isWord, read, isMask⟩
  cases spelled with
  | nil =>
      have opens := lawful.opens _ (List.mem_append_left _ isWord)
      cases opens
  | cons first spelled =>
      rcases List.cons.inj split with ⟨rfl, isOut⟩
      have across : ∀ later, later <:+ spelled.map fold → later ≠ [] →
          ∀ before text mask after behind, other before text = some (mask, after) →
            ∀ spelled, mask ++ behind = spelled ++ rest → spelled.map fold ≠ later := by
        intro later isLater shows before text mask after behind found spelled same folds
        have isForm := shape.masks found
        have begins : later <+: mask.map fold ++ behind.map fold := by
          rw [← List.map_append, same, List.map_append, folds]
          exact List.prefix_append _ _
        rcases spares _ isWord later ((List.mem_tails _ _).mpr isLater) shows _ isForm with
          apart | ⟨within, blocked⟩
        · exact apart.not_isPrefix _ begins
        · -- the word would end inside the mask, before a character that cannot stand there
          rcases exists_of_any_head? blocked with ⟨letter, others, split, blocks⟩
          have length : later.length = spelled.length := by simp [← folds]
          have isRest : (mask ++ behind).drop spelled.length = rest := by
            rw [same, List.drop_left]
          rw [← length, List.drop_append_of_le_length (by simpa using within.length_le)] at isRest
          rw [← List.map_drop] at split
          cases kept : mask.drop later.length with
          | nil => simp [kept] at split
          | cons character remaining =>
              rw [kept, List.map_cons, List.cons.injEq] at split
              rw [kept, List.cons_append] at isRest
              have none := lawful.blocks character (remaining ++ behind) (split.1 ▸ blocks)
              rw [isRest, read] at none
              cases none
      rcases masks.exists_word across isOut rfl with ⟨last, value, rfl, further⟩
      have isRead : (pattern.after? rest).isSome := by simp [read]
      rcases Option.isSome_iff_exists.mp (lawful.reflects shape further isRead) with ⟨behind, reads⟩
      exact ⟨character :: spelled, rest, value, last, behind, split, read, isMask, rfl, isWord, reads,
        further⟩

/-- Masking a kind leaves masks wherever it is found. -/
theorem Lawful.clean_own (lawful : pattern.Lawful) (describes : pattern.Describes kind)
    (spares : pattern.Spares pattern.forms)
    (free : ∀ form ∈ pattern.forms, Free pattern.words form.tail) {before : Option Char}
    {text out : Text} (masks : Masks kind before text out) (context : Option Char) :
    Clean kind context out := by
  have shape := lawful.shape describes
  induction masks generalizing context with
  | ends => trivial
  | keeps isFree further step =>
      rename_i before character rest out
      refine ⟨?_, step _⟩
      intro mask after found
      rcases lawful.reflect describes shape spares further found with
        ⟨spelled, _, value, _, behind, _, _, _, split, isWord, reads, _⟩
      have stood := (describes before _ _ _).mpr ⟨spelled, value, split, isWord, reads, rfl⟩
      rw [isFree] at stood
      cases stood
  | hides found split nonempty further shows step =>
      rename_i before text secret after mask rest out
      subst shows
      rcases (describes _ _ _ _).mp found with ⟨spelled, tail, _, isWord, read, rfl⟩
      have ends := lawful.ends_of_masks shape further (lawful.ends _ _ read)
      have settled (before : Option Char) := lawful.settled_mask describes before isWord ends
      refine Clean.append ?_ (step _)
      intro earlier later split shows
      cases earlier with
      | nil =>
          rw [List.nil_append] at split
          rw [← split]
          exact settled _
      | cons first earlier =>
          have isForm := shape.masks found
          have isLater : later.map fold <:+ ((pattern.canon spelled ++ pattern.value).map fold).tail := by
            rw [split, List.map_append, List.map_cons, List.cons_append, List.tail_cons]
            exact List.suffix_append _ _
          have none : kind ((first :: earlier).getLast?.or context) (later ++ rest) = none :=
            shape.free_of_apart (fun word mem => free _ isForm word mem _
              ((List.mem_tails _ _).mpr isLater) (by simpa using shows)) rest
          intro mask after found
          rw [none] at found
          cases found

/-- Masking another kind keeps masks wherever a kind is found. -/
theorem Lawful.clean_other (lawful : pattern.Lawful) (describes : pattern.Describes kind)
    (shape : Shape other words forms) (spares : pattern.Spares forms)
    (free : ∀ form ∈ forms, Free pattern.words form)
    (inert : Free words (pattern.value.map fold)) {before : Option Char}
    {text out : Text} (masks : Masks other before text out) {given : Option Char}
    (clean : Clean kind given text) (context : Option Char) : Clean kind context out := by
  have own := lawful.shape describes
  induction masks generalizing given context with
  | ends => trivial
  | keeps isFree further step =>
      rename_i before character rest out
      refine ⟨?_, step clean.2 _⟩
      intro mask after found
      rcases lawful.reflect describes shape spares further found with
        ⟨spelled, tail, value, last, behind, shown, read, rfl, split, isWord, reads, masks⟩
      have stood := (describes given _ _ _).mpr ⟨spelled, value, split, isWord, reads, rfl⟩
      have settled := clean.1 _ _ stood
      rw [split, List.append_assoc] at settled
      have isCanon := lawful.canon spelled isWord
      rcases spelled_unique lawful.distinct isWord (isCanon ▸ isWord) settled with ⟨isSpelled, rfl⟩
      rcases masks.exists_append shape (fun later isLater shows word mem =>
          inert word mem _ ((List.mem_tails _ _).mpr (isLater.map fold)) (by simpa using shows)) with
        ⟨_, others, rfl, further⟩
      have ends := lawful.ends_of_masks shape further (lawful.ends _ _ reads)
      rw [lawful.masked others ends, Option.some.injEq] at read
      rw [shown, ← read, ← isSpelled, List.append_assoc]
  | hides found split nonempty further shows step =>
      rename_i before text secret after mask rest out
      subst shows
      have behind : ∃ given, Clean kind given after := ⟨_, Clean.of_append secret (split ▸ clean)⟩
      rcases behind with ⟨_, behind⟩
      refine Clean.append ?_ (step behind _)
      intro earlier later split shows
      have isForm := shape.masks found
      have isLater : later.map fold <:+ mask.map fold := by
        rw [split, List.map_append]
        exact List.suffix_append _ _
      have none : kind (earlier.getLast?.or context) (later ++ rest) = none :=
        own.free_of_apart (fun word mem => free _ isForm word mem _ ((List.mem_tails _ _).mpr isLater)
          (by simpa using shows)) rest
      intro mask after found
      rw [none] at found
      cases found

end Pattern

end DocBinder.Access
