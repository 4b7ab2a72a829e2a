import DocBinder.Proofs.Access.Patterns
import Mathlib.Data.List.TakeWhile

/-!
# Redaction is complete

Authorization headers, bearer tokens and assigned secrets are patterns, whose words and masks are far
enough apart for every pass to keep the masks of those before it. An access token is found by its
beginning, which no mask has. So what is left of a text by the four passes holds secrets of no kind but
masks, and a second redaction has nothing to do.
-/

namespace DocBinder.Access

open Text (fold IsFolded Apart isBlank)

/-! ## What is behind a value -/

theorem all_head?_dropWhile (drops : Char → Bool) (text : Text) :
    (text.dropWhile drops).head?.all (fun character => !drops character) = true := by
  have stops := List.head?_dropWhile_not drops text
  cases found : (text.dropWhile drops).head? with
  | none => rfl
  | some character =>
      rw [found] at stops
      simpa using stops

theorem length_dropWhile_lt {drops : Char → Bool} {text : Text} :
    (text.dropWhile drops).length < text.length ↔ text.head?.any drops = true := by
  cases text with
  | nil => simp
  | cons character rest =>
      by_cases isDropped : drops character = true
      · have shorter := (List.dropWhile_suffix drops (l := rest)).length_le
        simp only [List.dropWhile_cons_of_pos isDropped, List.length_cons, List.head?_cons,
          Option.any_some, isDropped, iff_true]
        omega
      · simp [List.dropWhile_cons_of_neg isDropped, isDropped]

theorem length_takeWhile_lt {takes : Char → Bool} {text : Text} :
    (text.takeWhile takes).length < text.length ↔ ∃ character ∈ text, takes character = false := by
  induction text with
  | nil => simp
  | cons character rest step =>
      by_cases isTaken : takes character = true
      · simp [List.takeWhile_cons_of_pos isTaken, isTaken, step]
      · simp [List.takeWhile_cons_of_neg isTaken, isTaken]

theorem dropWhile_of_all {drops : Char → Bool} {after : Text} (front : Text)
    (dropped : ∀ character ∈ front, drops character = true)
    (stops : after.head?.all (fun character => !drops character) = true) :
    (front ++ after).dropWhile drops = after := by
  rw [List.dropWhile_append_of_pos dropped]
  cases after with
  | nil => rfl
  | cons character rest =>
      apply List.dropWhile_cons_of_neg
      simpa using stops

/-! ### Headers -/

theorem not_opensMask_of_endsHeader {character : Char} (ends : endsHeader character = true) :
    opensMask character = false := by
  simp only [endsHeader, Bool.or_eq_true, beq_iff_eq] at ends
  rcases ends with rfl | rfl <;> decide

theorem exists_afterHeaderValue?_iff {text : Text} :
    (afterHeaderValue? text).isSome ↔ ∃ character ∈ text, endsHeader character = false := by
  rw [afterHeaderValue?]
  split
  · rename_i isBlank
    have reversed : (text.reverse.takeWhile endsHeader).length < text.length ↔
        ∃ character ∈ text, endsHeader character = false := by
      have shorter := @length_takeWhile_lt endsHeader text.reverse
      simpa only [List.length_reverse, List.mem_reverse] using shorter
    dsimp only
    rw [← reversed, List.length_reverse]
    split
    · rename_i shorter
      simp [shorter]
    · rename_i notShorter
      simp [notShorter]
  · rename_i shows
    simp only [Option.isSome_some, true_iff]
    cases trimmed : Text.trimStart text with
    | nil => exact absurd trimmed shows
    | cons character rest =>
        have mem : character ∈ text := by
          apply (List.dropWhile_suffix isBlank).subset
          rw [← Text.trimStart, trimmed]
          exact List.mem_cons_self
        have notBlank : isBlank character = false := by
          have stops := all_head?_dropWhile isBlank text
          rw [← Text.trimStart, trimmed] at stops
          simpa using stops
        refine ⟨character, mem, ?_⟩
        by_contra ends
        simp only [endsHeader, Bool.not_eq_false, Bool.or_eq_true, beq_iff_eq] at ends
        rcases ends with rfl | rfl <;> cases notBlank

/-- The name of an authorization header and the line behind it. -/
def headerPattern : Pattern :=
  ⟨["authorization:".toList], afterHeaderValue?, fun _ => "Authorization:".toList,
    ' ' :: redactionMark, endsHeader, fun _ => false⟩

/-- Words whose letters are all as they are looked for. -/
theorem folded_of_all {words : List Text} (all : ∀ word ∈ words,
    word.all (fun letter => decide (IsFolded letter)) = true) :
    ∀ word ∈ words, ∀ letter ∈ word, IsFolded letter :=
  fun word isWord => Text.forall_of_all (all word isWord)

theorem headerPattern_folded : ∀ word ∈ headerPattern.words, ∀ letter ∈ word, IsFolded letter :=
  folded_of_all (by decide)

theorem describes_header : headerPattern.Describes authorizationHeader := by
  intro before text mask after
  simp only [authorizationHeader, headerPattern, List.mem_singleton, Option.bind_eq_bind,
    Option.bind_eq_some_iff, Text.dropWord?_eq_some (headerPattern_folded _ (List.mem_singleton_self _))]
  constructor
  · rintro ⟨value, ⟨spelled, split, folds⟩, rest, read, same⟩
    cases same
    exact ⟨spelled, value, split, folds, read, rfl⟩
  · rintro ⟨spelled, rest, split, folds, read, rfl⟩
    exact ⟨rest, ⟨spelled, split, folds⟩, after, read, rfl⟩

/-- A pass over nothing but line ends changes nothing. -/
theorem Masks.eq_of_endsHeader {kind : SecretKind} {words forms : List Text}
    (shape : Shape kind words forms) {before : Option Char} {text out : Text}
    (masks : Masks kind before text out) (ends : ∀ character ∈ text, endsHeader character = true) :
    out = text := by
  induction masks with
  | ends => rfl
  | keeps free further step => rw [step fun character mem => ends character (.tail _ mem)]
  | hides found =>
      rcases shape.exists_cons found with ⟨first, rest, rfl, opens⟩
      rw [not_opensMask_of_endsHeader (ends first List.mem_cons_self)] at opens
      cases opens

theorem lawful_header : headerPattern.Lawful where
  folded := headerPattern_folded
  distinct := by decide
  opens := by decide
  canon spelled isWord := by
    rw [List.mem_singleton.mp isWord]
    exact (by decide : "Authorization:".toList.map fold = "authorization:".toList)
  fixed _ := rfl
  suffix rest after read := by
    simp only [headerPattern, afterHeaderValue?] at read
    split at read
    · split at read
      · cases read
        rw [← List.reverse_prefix, List.reverse_reverse]
        exact List.takeWhile_prefix _
      · cases read
    · cases read
      exact (List.dropWhile_suffix _).trans (List.dropWhile_suffix _)
  ends rest after read := by
    simp only [headerPattern, afterHeaderValue?] at read ⊢
    split at read
    · split at read
      · cases read
        rw [Option.all_eq_true]
        intro character isHead
        have mem := List.mem_of_mem_head? isHead
        exact List.mem_takeWhile_imp (List.mem_reverse.mp mem)
      · cases read
    · cases read
      simpa using all_head?_dropWhile (fun character => !endsHeader character)
        (Text.trimStart rest)
  masked after ends := by
    have dropped : (redactionMark ++ after).dropWhile (fun character => !endsHeader character) = after :=
      dropWhile_of_all redactionMark (Text.forall_of_all (by decide)) (by simpa [headerPattern] using ends)
    change some ((redactionMark ++ after).dropWhile fun character => !endsHeader character) = some after
    rw [dropped]
  stops character stops := not_opensMask_of_endsHeader stops
  blocks _ _ blocked := by cases blocked
  reflects shape masks isRead := by
    rename_i text out
    rw [show headerPattern.after? = afterHeaderValue? from rfl, exists_afterHeaderValue?_iff] at *
    by_contra none
    simp only [not_exists, not_and, Bool.not_eq_false] at none
    rcases isRead with ⟨character, mem, shows⟩
    rw [masks.eq_of_endsHeader shape none] at mem
    rw [none character mem] at shows
    cases shows

/-! ### Tokens behind blanks -/

/-- The text behind a token and the blanks before it, if there are any. -/
def afterToken? (gap : Text) : Option Text :=
  let token := Text.trimStart gap
  let after := token.dropWhile fun character => !isBlank character
  if token.length < gap.length && after.length < token.length then some after else none

theorem afterToken?_eq_some {gap after : Text} : afterToken? gap = some after ↔
    (gap.head?.any isBlank = true ∧ Text.trimStart gap ≠ []) ∧
      after = (Text.trimStart gap).dropWhile fun character => !isBlank character := by
  have shows : (Text.trimStart gap).head?.any (fun character => !isBlank character) = true ↔
      Text.trimStart gap ≠ [] := by
    have stops := all_head?_dropWhile isBlank gap
    rw [← Text.trimStart] at stops
    cases trimmed : Text.trimStart gap with
    | nil => simp
    | cons character rest => simpa [trimmed] using stops
  have blanks : (Text.trimStart gap).length < gap.length ↔ gap.head?.any isBlank = true :=
    length_dropWhile_lt
  simp only [afterToken?, Bool.and_eq_true, decide_eq_true_eq, length_dropWhile_lt, blanks, shows,
    Option.ite_none_right_eq_some, Option.some.injEq, eq_comm (a := after)]

/-- The name of a bearer token and the token behind it. -/
def bearerPattern : Pattern :=
  ⟨["bearer".toList], afterToken?, fun _ => "Bearer".toList, ' ' :: redactionMark, isBlank,
    fun character => !isBlank character⟩

theorem bearerPattern_folded : ∀ word ∈ bearerPattern.words, ∀ letter ∈ word, IsFolded letter :=
  folded_of_all (by decide)

theorem describes_bearer : bearerPattern.Describes bearerToken := by
  intro before text mask after
  have isToken : bearerToken before text = (Text.dropWord? "bearer".toList text).bind fun gap =>
      (afterToken? gap).map fun after => (bearerPattern.canon [] ++ bearerPattern.value, after) := by
    rw [bearerToken]
    congr 1
    funext gap
    simp only [afterToken?]
    split <;> rfl
  simp only [isToken, bearerPattern, List.mem_singleton, Option.bind_eq_some_iff,
    Option.map_eq_some_iff, Text.dropWord?_eq_some (bearerPattern_folded _ (List.mem_singleton_self _))]
  constructor
  · rintro ⟨gap, ⟨spelled, split, folds⟩, rest, read, same⟩
    cases same
    exact ⟨spelled, gap, split, folds, read, rfl⟩
  · rintro ⟨spelled, gap, split, folds, read, rfl⟩
    exact ⟨gap, ⟨spelled, split, folds⟩, after, read, rfl⟩

theorem lawful_bearer : bearerPattern.Lawful where
  folded := bearerPattern_folded
  distinct := by decide
  opens := by decide
  canon spelled isWord := by
    rw [List.mem_singleton.mp isWord]
    exact (by decide : "Bearer".toList.map fold = "bearer".toList)
  fixed _ := rfl
  suffix rest after read := by
    rw [(afterToken?_eq_some.mp read).2]
    exact (List.dropWhile_suffix _).trans (List.dropWhile_suffix _)
  ends rest after read := by
    rw [(afterToken?_eq_some.mp read).2]
    simpa [bearerPattern] using all_head?_dropWhile (fun character => !isBlank character)
      (Text.trimStart rest)
  masked after ends := by
    have trimmed : Text.trimStart (bearerPattern.value ++ after) = redactionMark ++ after := rfl
    refine afterToken?_eq_some.mpr ⟨⟨by rfl, ?_⟩, ?_⟩
    · rw [trimmed]
      exact List.cons_ne_nil _ _
    · rw [trimmed, dropWhile_of_all redactionMark (Text.forall_of_all (by decide)) (by simpa [bearerPattern] using ends)]
  stops character stops := not_opensMask_of_isBlank stops
  blocks character rest blocked := by
    rw [Option.eq_none_iff_forall_ne_some]
    intro after read
    have blank : isBlank character = true := (afterToken?_eq_some.mp read).1.1
    simp [bearerPattern, fold_of_isBlank blank, blank] at blocked
  reflects shape masks isRead := by
    rename_i text out
    rcases Option.isSome_iff_exists.mp isRead with ⟨after, read⟩
    rcases afterToken?_eq_some.mp read with ⟨⟨begins, shows⟩, _⟩
    rcases Pattern.exists_of_any_head? begins with ⟨character, rest, rfl, blank⟩
    rcases masks.trimStart shape with ⟨_, trimmed⟩
    rcases masks.exists_text shape (not_opensMask_of_isBlank blank) with ⟨others, rfl, _⟩
    refine Option.isSome_iff_exists.mpr ⟨_, afterToken?_eq_some.mpr ⟨⟨blank, ?_⟩, rfl⟩⟩
    intro isEmpty
    exact shows ((trimmed.nil_iff shape).mp isEmpty)

/-! ### Assigned values -/

theorem afterAssignment?_eq_some {text after : Text} : afterAssignment? text = some after ↔
    ∃ sign rest, Text.trimStart (dropQuote text) = sign :: rest ∧ (sign = ':' ∨ sign = '=') ∧
      (dropQuote (Text.trimStart rest)).head?.any isSecretChar = true ∧
      after = (dropQuote (Text.trimStart rest)).dropWhile isSecretChar := by
  rw [afterAssignment?]
  split
  · rename_i isEmpty
    simp [isEmpty]
  · rename_i sign rest isSign
    simp only [isSign, List.cons.injEq, length_dropWhile_lt, Bool.or_eq_true, beq_iff_eq,
      Option.ite_none_right_eq_some, Option.some.injEq]
    constructor
    · rintro ⟨signs, begins, rfl⟩
      exact ⟨sign, rest, ⟨rfl, rfl⟩, signs, begins, rfl⟩
    · rintro ⟨_, _, ⟨rfl, rfl⟩, signs, begins, rfl⟩
      exact ⟨signs, begins, rfl⟩

theorem dropQuote_suffix (text : Text) : dropQuote text <:+ text := by
  cases text with
  | nil => exact List.suffix_refl _
  | cons character rest =>
      rw [dropQuote]
      split
      · exact List.suffix_cons _ _
      · exact List.suffix_refl _

/-- A name that a secret is assigned to and the value. -/
def assignedPattern : Pattern :=
  ⟨secretNames, afterAssignment?, id, '=' :: redactionMark, fun character => !isSecretChar character,
    fun _ => false⟩

theorem secretNames_folded : ∀ word ∈ secretNames, ∀ letter ∈ word, IsFolded letter :=
  folded_of_all (by decide)

theorem secretNames_distinct :
    ∀ word ∈ secretNames, ∀ other ∈ secretNames, word <+: other → word = other := by
  decide

theorem findSome?_secretNames {text name rest : Text} :
    (secretNames.findSome? fun name =>
      (Text.dropWord? name text).map fun rest => (text.take name.length, rest)) = some (name, rest) ↔
      text = name ++ rest ∧ name.map fold ∈ secretNames := by
  have finds {text name rest : Text} (found : (secretNames.findSome? fun name =>
      (Text.dropWord? name text).map fun rest => (text.take name.length, rest)) = some (name, rest)) :
      text = name ++ rest ∧ name.map fold ∈ secretNames := by
    rcases List.exists_of_findSome?_eq_some found with ⟨word, mem, dropped⟩
    rcases Option.map_eq_some_iff.mp dropped with ⟨behind, drops, same⟩
    rcases (Text.dropWord?_eq_some (secretNames_folded word mem)).mp drops with ⟨spelled, rfl, rfl⟩
    rw [List.length_map, List.take_left, Prod.mk.injEq] at same
    rcases same with ⟨rfl, rfl⟩
    exact ⟨rfl, mem⟩
  constructor
  · exact finds
  · rintro ⟨split, mem⟩
    have dropped : Text.dropWord? (name.map fold) text = some rest :=
      (Text.dropWord?_eq_some (secretNames_folded _ mem)).mpr ⟨name, split, rfl⟩
    have isFound : (secretNames.findSome? fun name =>
        (Text.dropWord? name text).map fun rest => (text.take name.length, rest)).isSome := by
      rw [List.findSome?_isSome_iff]
      exact ⟨_, mem, by simp [dropped]⟩
    rcases Option.isSome_iff_exists.mp isFound with ⟨⟨front, behind⟩, found⟩
    rcases finds found with ⟨isSplit, isName⟩
    rcases Pattern.spelled_unique secretNames_distinct mem isName (split.symm.trans isSplit) with
      ⟨rfl, rfl⟩
    exact found

theorem describes_assigned : assignedPattern.Describes assignedSecret := by
  intro before text mask after
  simp only [assignedSecret, assignedPattern, Option.bind_eq_bind, Option.bind_eq_some_iff,
    Prod.exists, findSome?_secretNames, Option.pure_def, Option.some.injEq, Prod.mk.injEq, id]
  constructor
  · rintro ⟨name, rest, ⟨split, isName⟩, behind, read, rfl, rfl⟩
    exact ⟨name, rest, split, isName, read, rfl⟩
  · rintro ⟨name, rest, split, isName, read, rfl⟩
    exact ⟨name, rest, ⟨split, isName⟩, after, read, rfl, rfl⟩

theorem lawful_assigned : assignedPattern.Lawful where
  folded := secretNames_folded
  distinct := secretNames_distinct
  opens := by decide
  canon _ _ := rfl
  fixed _ := rfl
  suffix rest after read := by
    rcases afterAssignment?_eq_some.mp read with ⟨sign, value, isSign, _, _, rfl⟩
    have behind : value <:+ rest := calc
      value <:+ sign :: value := List.suffix_cons _ _
      _ = Text.trimStart (dropQuote rest) := isSign.symm
      _ <:+ dropQuote rest := List.dropWhile_suffix _
      _ <:+ rest := dropQuote_suffix rest
    calc
      _ <:+ dropQuote (Text.trimStart value) := List.dropWhile_suffix _
      _ <:+ Text.trimStart value := dropQuote_suffix _
      _ <:+ value := List.dropWhile_suffix _
      _ <:+ rest := behind
  ends rest after read := by
    rcases afterAssignment?_eq_some.mp read with ⟨_, _, _, _, _, rfl⟩
    exact all_head?_dropWhile isSecretChar _
  masked after ends := by
    have value : dropQuote (Text.trimStart (redactionMark ++ after)) = redactionMark ++ after := rfl
    have dropped : (redactionMark ++ after).dropWhile isSecretChar = after :=
      dropWhile_of_all redactionMark (Text.forall_of_all (by decide)) ends
    have read : afterAssignment? ('=' :: (redactionMark ++ after)) = some after :=
      afterAssignment?_eq_some.mpr ⟨'=', redactionMark ++ after, rfl, .inr rfl, rfl,
        by rw [value, dropped]⟩
    exact read
  stops character stops := by
    have notPart : isSecretChar character = false := by simpa [assignedPattern] using stops
    simp [opensMask, notPart]
  blocks _ _ blocked := by cases blocked
  reflects shape masks isRead := by
    rename_i text out
    rcases Option.isSome_iff_exists.mp isRead with ⟨after, read⟩
    rcases afterAssignment?_eq_some.mp read with ⟨sign, value, isSign, signs, begins, _⟩
    have closed : opensMask sign = false := by rcases signs with rfl | rfl <;> decide
    rcases masks.dropQuote shape with ⟨_, unquoted⟩
    rcases unquoted.trimStart shape with ⟨_, trimmed⟩
    rw [isSign] at trimmed
    rcases trimmed.exists_text shape closed with ⟨given, wasSign, behind⟩
    rcases behind.trimStart shape with ⟨_, trimmed⟩
    rcases trimmed.dropQuote shape with ⟨_, unquoted⟩
    rcases Pattern.exists_of_any_head? begins with ⟨first, others, isValue, part⟩
    rw [isValue] at unquoted
    rcases unquoted.head_text shape part with ⟨first, others, wasValue, part⟩
    refine Option.isSome_iff_exists.mpr ⟨_, afterAssignment?_eq_some.mpr
      ⟨sign, given, wasSign, signs, ?_, rfl⟩⟩
    rw [wasValue]
    exact part

/-! ## Access tokens -/

theorem drop?_eq_some {beginning text rest : Text} :
    Text.drop? beginning text = some rest ↔ text = beginning ++ rest := by
  induction beginning generalizing text with
  | nil => simp [Text.drop?]
  | cons expected beginning step =>
      cases text with
      | nil => simp [Text.drop?]
      | cons character text =>
          by_cases same : expected = character
          · simp [Text.drop?, same, step]
          · simp [Text.drop?, same, eq_comm]

theorem accessToken_eq_some {before : Option Char} {text mask after : Text} :
    accessToken before text = some (mask, after) ↔ ∃ rest, text = "ya29.".toList ++ rest ∧
      before.any Text.isWord = false ∧ rest.head?.any isTokenChar = true ∧
        mask = redactionMark ∧ after = rest.dropWhile isTokenChar := by
  simp only [accessToken, Option.bind_eq_bind, Option.bind_eq_some_iff, drop?_eq_some,
    Bool.and_eq_true, Bool.not_eq_true', decide_eq_true_eq, length_dropWhile_lt,
    Option.ite_none_right_eq_some, Option.pure_def, Option.some.injEq, Prod.mk.injEq, and_assoc,
    eq_comm (a := mask), eq_comm (a := after)]

theorem token_begins : "ya29.".toList = 'y' :: "a29.".toList :=
  rfl

theorem shape_accessToken : Shape accessToken ["ya29.".toList] [redactionMark.map fold] where
  begins found := by
    rcases accessToken_eq_some.mp found with ⟨rest, rfl, _⟩
    refine ⟨_, List.mem_singleton_self _, ?_⟩
    rw [List.map_append]
    exact List.prefix_append _ _
  cuts found := by
    rcases accessToken_eq_some.mp found with ⟨rest, rfl, _, _, _, rfl⟩
    refine ⟨"ya29.".toList ++ rest.takeWhile isTokenChar, List.cons_ne_nil _ _, ?_⟩
    rw [List.append_assoc, List.takeWhile_append_dropWhile]
  masks found := by
    rcases accessToken_eq_some.mp found with ⟨_, _, _, _, rfl, _⟩
    exact List.mem_singleton_self _
  opens := by decide

/-- The mark is no part of what begins an access token. -/
theorem mark_apart {later text mask after behind spelled tail : Text} {before : Option Char}
    (isLater : later <:+ "a29.".toList) (shows : later ≠ [])
    (found : accessToken before text = some (mask, after)) (same : mask ++ behind = spelled ++ tail) :
    spelled.map fold ≠ later := by
  intro folds
  have starts : ∀ later ∈ "a29.".toList.tails, later.head? ≠ some '*' := by decide
  apply starts later ((List.mem_tails _ _).mpr isLater)
  rcases accessToken_eq_some.mp found with ⟨_, _, _, _, rfl, _⟩
  cases spelled with
  | nil => exact absurd folds.symm shows
  | cons first spelled =>
      have isMark : first = '*' := (List.cons.inj same).1.symm
      rw [← folds, List.map_cons, List.head?_cons, isMark]
      exact (by decide : some (fold '*') = some '*')

/-- Masking access tokens leaves none, since what is in front of a character that was kept is as it was
or ends a token. -/
theorem clean_accessToken {before : Option Char} {text out : Text}
    (masks : Masks accessToken before text out) (context : Option Char)
    (fits : context = before ∨ text.head?.any isTokenChar = false) : Clean accessToken context out := by
  induction masks generalizing context with
  | ends => trivial
  | keeps free further step =>
      rename_i before character rest out
      refine ⟨?_, step _ (.inl rfl)⟩
      intro mask after found
      rcases accessToken_eq_some.mp found with ⟨tail, split, bounded, begins, _, _⟩
      rw [token_begins, List.cons_append] at split
      rcases List.cons.inj split with ⟨rfl, isOut⟩
      rcases fits with rfl | notPart
      · have across : ∀ later, later <:+ "a29.".toList → later ≠ [] → ∀ before text mask after behind,
            accessToken before text = some (mask, after) → ∀ spelled,
              mask ++ behind = spelled ++ tail → spelled.map fold ≠ later :=
          fun later isLater shows before text mask after behind found spelled same =>
            mark_apart isLater shows found same
        rcases further.exists_word across isOut (by decide) with ⟨last, front, rfl, masks⟩
        have stood : front.head?.any isTokenChar = true := by
          rcases Pattern.exists_of_any_head? begins with ⟨first, others, rfl, part⟩
          cases masks with
          | keeps _ _ => exact part
          | hides found _ _ _ _ =>
              rcases accessToken_eq_some.mp found with ⟨_, rfl, _⟩
              rfl
        have found : accessToken context ("ya29.".toList ++ front) = _ :=
          accessToken_eq_some.mpr ⟨front, rfl, bounded, stood, rfl, rfl⟩
        rw [token_begins, List.cons_append, free] at found
        cases found
      · cases notPart
  | hides found split nonempty further shows step =>
      rename_i before text secret after mask rest out
      subst shows
      rcases accessToken_eq_some.mp found with ⟨tail, _, _, _, rfl, rfl⟩
      refine Clean.append ?_ (step _ (.inr ?_))
      · intro earlier later split shows
        have isLater : later <:+ redactionMark := split ▸ List.suffix_append _ _
        have apart : ∀ later ∈ redactionMark.tails, later ≠ [] →
            ∀ word ∈ ["ya29.".toList], Apart word (later.map fold) := by decide
        have none : accessToken (earlier.getLast?.or context) (later ++ rest) = none :=
          shape_accessToken.free_of_apart (apart later ((List.mem_tails _ _).mpr isLater) shows) rest
        intro mask after found
        rw [none] at found
        cases found
      · have stops := all_head?_dropWhile isTokenChar tail
        cases behind : (tail.dropWhile isTokenChar).head? with
        | none => rfl
        | some character => simpa [behind] using stops

/-! ## The passes together -/

/-- No secret is in a text. Where one of the patterns is found, its value is the mark. -/
structure Redacted (text : Text) : Prop where
  headers : ∀ front rest, text = front ++ rest → ∀ mask after,
    authorizationHeader front.getLast? rest = some (mask, after) →
      rest = "Authorization: ".toList ++ redactionMark ++ after
  bearers : ∀ front rest, text = front ++ rest → ∀ mask after,
    bearerToken front.getLast? rest = some (mask, after) →
      rest = "Bearer ".toList ++ redactionMark ++ after
  assigned : ∀ front rest, text = front ++ rest → ∀ mask after,
    assignedSecret front.getLast? rest = some (mask, after) →
      ∃ name, name.map fold ∈ secretNames ∧ rest = name ++ "=".toList ++ redactionMark ++ after
  tokens : ∀ front rest, text = front ++ rest → accessToken front.getLast? rest = none

theorem Clean.settled {kind : SecretKind} {words forms : List Text} (shape : Shape kind words forms)
    {text : Text} (clean : Clean kind none text) {front rest : Text} (split : text = front ++ rest) :
    Settled kind front.getLast? rest := by
  have behind := Clean.of_append front (split ▸ clean)
  rw [Option.or_none] at behind
  cases rest with
  | nil =>
      intro mask after found
      rcases shape.exists_cons found with ⟨_, _, isEmpty, _⟩
      cases isEmpty
  | cons character rest => exact behind.1

theorem shape_header : Shape authorizationHeader headerPattern.words headerPattern.forms :=
  lawful_header.shape describes_header

theorem shape_bearer : Shape bearerToken bearerPattern.words bearerPattern.forms :=
  lawful_bearer.shape describes_bearer

theorem shape_assigned : Shape assignedSecret assignedPattern.words assignedPattern.forms :=
  lawful_assigned.shape describes_assigned

/-- After the four passes, masks stand wherever one of the kinds is found. -/
theorem clean_redact (text : Text) :
    Clean authorizationHeader none (redact text) ∧ Clean bearerToken none (redact text) ∧
      Clean assignedSecret none (redact text) ∧ Clean accessToken none (redact text) := by
  have first := masks_maskFrom shape_header none text
  have second := masks_maskFrom shape_bearer none (mask authorizationHeader text)
  have third := masks_maskFrom shape_assigned none (mask bearerToken (mask authorizationHeader text))
  have fourth := masks_maskFrom shape_accessToken none
    (mask assignedSecret (mask bearerToken (mask authorizationHeader text)))
  have headers : Clean authorizationHeader none (redact text) := by
    have own := lawful_header.clean_own describes_header (by decide) (by decide) first none
    have kept := lawful_header.clean_other describes_header shape_bearer (by decide) (by decide)
      (by decide) second own none
    have kept := lawful_header.clean_other describes_header shape_assigned (by decide) (by decide)
      (by decide) third kept none
    exact lawful_header.clean_other describes_header shape_accessToken (by decide) (by decide)
      (by decide) fourth kept none
  have bearers : Clean bearerToken none (redact text) := by
    have own := lawful_bearer.clean_own describes_bearer (by decide) (by decide) second none
    have kept := lawful_bearer.clean_other describes_bearer shape_assigned (by decide) (by decide)
      (by decide) third own none
    exact lawful_bearer.clean_other describes_bearer shape_accessToken (by decide) (by decide)
      (by decide) fourth kept none
  have assigned : Clean assignedSecret none (redact text) := by
    have own := lawful_assigned.clean_own describes_assigned (by decide) (by decide) third none
    exact lawful_assigned.clean_other describes_assigned shape_accessToken (by decide) (by decide)
      (by decide) fourth own none
  exact ⟨headers, bearers, assigned, clean_accessToken fourth none (.inl rfl)⟩

theorem redact_eq_of_clean {text : Text} (headers : Clean authorizationHeader none text)
    (bearers : Clean bearerToken none text) (assigned : Clean assignedSecret none text)
    (tokens : Clean accessToken none text) : redact text = text := by
  have first := (masks_maskFrom shape_header none text).eq_of_clean headers
  have second := (masks_maskFrom shape_bearer none text).eq_of_clean bearers
  have third := (masks_maskFrom shape_assigned none text).eq_of_clean assigned
  have fourth := (masks_maskFrom shape_accessToken none text).eq_of_clean tokens
  simp only [redact, mask, first, second, third, fourth]

/-- A redacted text holds no secret, and to redact it again changes nothing. -/
theorem redact_complete (text : Text) : redact (redact text) = redact text ∧ Redacted (redact text) := by
  rcases clean_redact text with ⟨headers, bearers, assigned, tokens⟩
  refine ⟨redact_eq_of_clean headers bearers assigned tokens, ?_, ?_, ?_, ?_⟩
  · intro front rest split mask after found
    rcases (describes_header _ _ _ _).mp found with ⟨_, _, _, _, _, rfl⟩
    exact headers.settled shape_header split _ after found
  · intro front rest split mask after found
    rcases (describes_bearer _ _ _ _).mp found with ⟨_, _, _, _, _, rfl⟩
    exact bearers.settled shape_bearer split _ after found
  · intro front rest split mask after found
    rcases (describes_assigned _ _ _ _).mp found with ⟨name, _, _, isName, _, rfl⟩
    refine ⟨name, isName, ?_⟩
    rw [List.append_assoc name]
    exact assigned.settled shape_assigned split _ after found
  · intro front rest split
    rw [Option.eq_none_iff_forall_ne_some]
    rintro ⟨mask, after⟩ found
    have settled := tokens.settled shape_accessToken split mask after found
    rcases accessToken_eq_some.mp found with ⟨_, begins, _, _, rfl, _⟩
    rw [begins] at settled
    cases settled

end DocBinder.Access
