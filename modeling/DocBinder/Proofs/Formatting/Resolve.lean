import DocBinder.Proofs.Formatting.Place

/-!
# Resolving the directives of a document

The texts that a document has appended follow each other in the flat text, each table with the one
line feed before it. The search for a directive starts no later than its own text: the cursor is
behind the texts of earlier directives, and the length of what was inserted before can only fall
short of the true position, by the line feeds of tables. So every directive with an anchor is found
by the forward search, at its own text or before it, and formatting never fails.

Whether it is its own text is a question about the content alone: some anchor line may also stand
between the position that the lengths give for it and the one it really has.
-/

namespace DocBinder

open Docs

/-! ## The flat text of content -/

/-- Whether a mode is inside a table. -/
def Docs.Mode.isInside : Mode → Bool
  | .body _ => false
  | _ => true

theorem Docs.topMarks_cons_reads {mode next : Mode} {unit : BodyUnit} (index : Nat)
    (rest : Buffer) (reads : mode.next? unit = some next) :
    topMarks index mode.isInside (unit :: rest) =
      topMarks index mode.isInside [unit] ++
        topMarks (index + unit.width) next.isInside rest := by
  rcases mode with isOpen | _ | _ | _ | isOpen <;> (try cases isOpen) <;> cases unit <;>
    simp [Mode.next?] at reads <;> subst next <;>
    simp [topMarks, Mode.isInside, BodyUnit.width]

/-- What was read before decides which of the following characters stand outside tables. -/
theorem Docs.topMarks_append_reads {mode reached : Mode} {first : Buffer} (index : Nat)
    (second : Buffer) (reads : mode.after? first = some reached) :
    topMarks index mode.isInside (first ++ second) =
      topMarks index mode.isInside first ++
        topMarks (index + first.width) reached.isInside second := by
  induction first generalizing mode index with
  | nil =>
      cases reads
      rfl
  | cons unit rest step =>
      rw [Mode.after?, Option.bind_eq_some_iff] at reads
      rcases reads with ⟨next, here, further⟩
      rw [List.cons_append, topMarks_cons_reads index _ here, topMarks_cons_reads index rest here,
        step _ further, Buffer.width_cons, List.append_assoc, Nat.add_assoc]

/-- The characters that a content request leaves outside tables. -/
def Docs.Request.shown : Request → Text
  | .insertText text _ => text
  | .insertTable .. => ['\n']
  | _ => []

/-- The characters that content requests leave outside tables. -/
def shownText (requests : List Request) : Text :=
  requests.flatMap Request.shown

theorem topMarks_text (index : Nat) (text : Text) (rest : Buffer) :
    topMarks index false (text.map .char ++ rest) =
      placeChars index text ++ topMarks (index + Text.width text) false rest := by
  rw [topMarks_append_inline index rest (Buffer.inline_chars text),
    unitMarks_chars, Buffer.width_chars]

theorem Grid.exists_units (grid : Grid) :
    ∃ inner : Buffer, grid.units = .tableStart :: (inner ++ [.tableEnd]) ∧
      BodyUnit.tableStart ∉ inner ∧ BodyUnit.tableEnd ∉ inner :=
  ⟨_, rfl, by simp [BodyUnit.lineFeed], by simp [BodyUnit.lineFeed]⟩

theorem topMarks_table (index : Nat) (grid : Grid) (rest : Buffer) :
    topMarks index false (.lineFeed :: grid.units ++ rest) =
      placeChars index ['\n'] ++
        topMarks (index + Buffer.width (.lineFeed :: grid.units)) false rest := by
  rcases grid.exists_units with ⟨inner, units, noMarker⟩
  have behind := topMarks_append_inside (index + 1 + 1) (.tableEnd :: rest) noMarker
  have begun (others : Buffer) : topMarks index false (.lineFeed :: .tableStart :: others) =
      ('\n', index) :: topMarks (index + 1 + 1) true others := rfl
  rw [units, List.cons_append, List.cons_append, List.append_assoc, List.singleton_append, begun,
    behind]
  have width : Buffer.width (.lineFeed :: .tableStart :: (inner ++ [.tableEnd])) =
      1 + (1 + (inner.width + 1)) := by
    rw [Buffer.width_cons, Buffer.width_cons, Buffer.width_append]
    rfl
  simp only [width, topMarks, placeChars, List.cons_append, List.nil_append, Nat.add_assoc]

/-! ## One directive -/

section Step

variable {buffer : Buffer} {marks front back : List (Char × Nat)} {index : Nat} {text : Text}
  {directive : Directive} (some : marks.Sublist (unitMarks 1 buffer))
  (split : marks = front ++ (placeChars index text ++ back))
  (describes : directive.Describes text)

include split describes

theorem standsAt_own :
    directive.anchor.StandsAt (marks.map (·.1)) front.length ∧
      (directive.anchor ++ ['\n']).StandsAt (marks.map (·.1)) front.length ∧
      directive.trailing.StandsAt (marks.map (·.1)) (front.length + directive.anchor.length) := by
  have characters (index : Nat) (text : Text) : (placeChars index text).map (·.1) = text := by
    induction text generalizing index with
    | nil => rfl
    | cons character rest step => rw [placeChars, List.map_cons, step]
  have flat : marks.map (·.1) = front.map (·.1) ++
      (directive.anchor ++ (directive.trailing ++ back.map (·.1))) := by
    rw [split, List.map_append, List.map_append, characters, describes.whole, List.append_assoc]
  have length : front.length = (front.map (·.1)).length := (List.length_map ..).symm
  rcases describes.newLine with ⟨rest, trailing⟩
  rw [flat, length]
  refine ⟨Text.standsAt_append _ _ _, ?_, ?_⟩
  · have whole : directive.anchor ++ (directive.trailing ++ back.map (·.1)) =
        directive.anchor ++ ['\n'] ++ (rest ++ back.map (·.1)) := by
      rw [trailing]
      simp
    rw [whole]
    exact Text.standsAt_append _ _ _
  · rw [Text.standsAt_append_right]
    exact Text.standsAt_append _ _ _

/-- A directive is found at its own text or before it, but not before the start of the search, and
no anchor line stands from there on before what is found. -/
theorem find_own {scope : FormattingScope} {floor cursor : Nat} (flat : scope.flat = ⟨marks⟩)
    (notBehind : forwardStart scope floor cursor directive ≤ front.length) :
    ∃ position ≤ front.length,
      scope.flat.find? (directive.anchor ++ ['\n'])
        (forwardStart scope floor cursor directive) = .some position ∧
      forwardStart scope floor cursor directive ≤ position ∧
      (directive.anchor ++ ['\n']).StandsAt (marks.map (·.1)) position ∧
      ∀ other, forwardStart scope floor cursor directive ≤ other → other < position →
        ¬ (directive.anchor ++ ['\n']).StandsAt (marks.map (·.1)) other := by
  rcases standsAt_own split describes with ⟨_, stands, _⟩
  rcases Text.exists_find? (by simp) stands notBehind with ⟨position, notAfter, finds⟩
  rcases Text.find?_eq_some finds with ⟨atLeast, there, first⟩
  refine ⟨position, notAfter, ?_, atLeast, there, first⟩
  rw [flat]
  exact finds

omit split in
theorem advance_le (marks : List (Char × Nat)) (position : Nat) :
    advance ⟨marks⟩ directive position ≤ position + text.length := by
  rw [advance, describes.whole, List.length_append]
  split <;> omega

theorem advance_own :
    advance ⟨marks⟩ directive front.length = front.length + text.length := by
  rcases standsAt_own split describes with ⟨_, _, stands⟩
  rw [advance, describes.whole, List.length_append, ← Nat.add_assoc, FlatText.text,
    if_pos (List.isPrefixOf_iff_prefix.mpr stands)]

/-- What begins before the own text of a directive has a lower index. -/
theorem lt_index_of_lt (ordered : marks.Pairwise fun first second => first.2 < second.2)
    {position first : Nat} (early : position < front.length)
    (begins : marks[position]?.map (·.2) = .some first) : first < index := by
  rcases Option.map_eq_some_iff.mp begins with ⟨mark, found, rfl⟩
  rw [split, List.getElem?_append_left early] at found
  have nonempty : text ≠ [] := by
    rw [describes.whole]
    simp [describes.shows]
  rcases List.exists_cons_of_ne_nil nonempty with ⟨character, rest, rfl⟩
  rw [split, List.pairwise_append] at ordered
  exact ordered.2.2 mark (List.mem_of_getElem? found) (character, index) (by simp [placeChars])

end Step

/-! ## All directives -/

/-- No anchor line of the directives stands between where its search may begin, which is behind
the texts of the directives before it, and where its own text stands. Positions are those of
`text`; `position` gives the own ones of requests and `ahead` those that lengths give. -/
def Clear (text : Text) (position ahead : Nat → Nat) (cursor : Nat)
    (directives : List Directive) : Prop :=
  ∀ directive ∈ directives,
    ∀ place, cursor ≤ place → ahead directive.request ≤ place →
      place < position directive.request →
      (∀ earlier ∈ directives, earlier.request < directive.request →
        position (earlier.request + 1) ≤ place) →
      ¬ (directive.anchor ++ ['\n']).StandsAt text place

/-- Behind its own text, a directive no longer matters. -/
theorem clear_cons {text : Text} {position ahead : Nat → Nat} {cursor : Nat}
    {directive : Directive} {directives : List Directive}
    (later : ∀ other ∈ directives, directive.request < other.request)
    (cursorBefore : cursor ≤ position (directive.request + 1))
    (alone : ∀ place, cursor ≤ place → ahead directive.request ≤ place →
      place < position directive.request →
      ¬ (directive.anchor ++ ['\n']).StandsAt text place) :
    Clear text position ahead cursor (directive :: directives) ↔
      Clear text position ahead (position (directive.request + 1)) directives := by
  constructor
  · intro clear other mem place behind aheadBefore before behindEarlier
    refine clear other (List.mem_cons_of_mem _ mem) place (by omega) aheadBefore before ?_
    intro earlier earlierMem isEarlier
    rcases List.mem_cons.mp earlierMem with rfl | earlierMem
    · exact behind
    · exact behindEarlier earlier earlierMem isEarlier
  · intro clear other mem place behind aheadBefore before behindEarlier
    rcases List.mem_cons.mp mem with rfl | mem
    · exact alone place behind aheadBefore before
    · refine clear other mem place
        (behindEarlier directive List.mem_cons_self (later other mem)) aheadBefore before ?_
      intro earlier earlierMem isEarlier
      exact behindEarlier earlier (List.mem_cons_of_mem _ earlierMem) isEarlier

/-- A walk through directives with a cursor: the search forward finds each of them, at its own text
or before it, which the floor and the length of what was inserted ahead of it never exceed.
`position` gives where the own texts of requests stand in the flat text, and `index` the units that
stand there. -/
inductive Walk (scope : FormattingScope) (floor : Nat) (position index : Nat → Nat) :
    Nat → List Directive → List Resolved → Prop where
  | done (cursor : Nat) : Walk scope floor position index cursor [] []
  | found {cursor found : Nat} {directive : Directive} {rest : List Directive} {item : Resolved}
      {items : List Resolved} (shows : directive.anchor ≠ [])
      (own : scope.flat.marks[position directive.request]?.map (·.2) =
        some (index directive.request))
      (ahead : floor + (scope.offsets.bind (·[directive.request]?)).getD 0 ≤
        position directive.request)
      (finds : scope.flat.find? (directive.anchor ++ ['\n'])
        (forwardStart scope floor cursor directive) = some found)
      (notAfter : found ≤ position directive.request)
      (placed : directive.place scope.flat found = .ok item)
      (following : Walk scope floor position index (advance scope.flat directive found) rest
        items) :
      Walk scope floor position index cursor (directive :: rest) (item :: items)

/-- Directives that a walk finds are resolved with nothing to report. -/
theorem Walk.resolveFrom {scope : FormattingScope} {floor cursor : Nat} {position index : Nat → Nat}
    {directives : List Directive} {items : List Resolved}
    (walk : Walk scope floor position index cursor directives items) (lastStop : Nat) :
    DocBinder.resolveFrom scope floor cursor lastStop directives = ⟨.ok items, []⟩ := by
  induction walk generalizing lastStop with
  | done cursor => rfl
  | found shows own ahead finds notAfter placed following step =>
      rw [DocBinder.resolveFrom, if_neg (by simpa using shows), findAnchor, finds]
      simp only [placed, step]
      rfl

/-- What resolving directives comes to: a walk finds all of them, to ranges that cover units of the
buffer, and these are their own texts just when no other anchor line is in the way. -/
structure ResolvesTo (buffer : Buffer) (scope : FormattingScope) (floor cursor : Nat)
    (position index : Nat → Nat) (directives : List Directive) (clear : Prop)
    (items : List Resolved) : Prop where
  walk : Walk scope floor position index cursor directives items
  inOrder : items.map (·.directive) = directives
  styles : ∀ item ∈ items, StylesOnly buffer item.requests
  exact : items = (directives.map fun directive =>
    directive.placeAt (index directive.request)) ↔ clear

theorem drop_succ_of_drop {known offsets : List Nat} {number offset : Nat}
    (further : known.drop number = offset :: offsets) : known.drop (number + 1) = offsets := by
  rw [← List.drop_drop, further]
  rfl

theorem positions_following {position : Nat → Nat} {number : Nat} {request : Request}
    {requests : List Request} {front shown : List (Char × Nat)}
    (positions : ∀ count, position (number + count) =
      front.length + (shownText ((request :: requests).take count)).length)
    (sameLength : shown.length = request.shown.length) :
    ∀ count, position (number + 1 + count) =
      (front ++ shown).length + (shownText (requests.take count)).length := by
  intro count
  have here := positions (count + 1)
  rw [List.take_succ_cons, shownText, List.flatMap_cons, List.length_append] at here
  rw [Nat.add_assoc, Nat.add_comm 1, here, List.length_append, sameLength, shownText,
    Nat.add_assoc]

theorem places_following {place : Nat → Nat} {number index width : Nat} {request : Request}
    {requests : List Request} {specs otherSpecs : List TableSpec}
    (places : ∀ count, place (number + count) =
      index + Buffer.width (contentUnits ((request :: requests).take count) specs))
    (moves : ∀ others, index + Buffer.width (contentUnits (request :: others) specs) =
      index + width + Buffer.width (contentUnits others otherSpecs)) :
    ∀ count, place (number + 1 + count) =
      index + width + Buffer.width (contentUnits (requests.take count) otherSpecs) := by
  intro count
  have here := places (count + 1)
  rw [List.take_succ_cons, moves] at here
  rw [Nat.add_assoc, Nat.add_comm 1, here]

theorem Outline.resolvesTo {number offset : Nat} {requests : List Request}
    {directives : List Directive} {specs : List TableSpec} {offsets : List Nat}
    (outline : Outline number offset requests directives specs offsets) {buffer : Buffer}
    {marks front : List (Char × Nat)} (scope : FormattingScope) (floor cursor : Nat)
    {index : Nat} (position place : Nat → Nat) {known : List Nat} (isFlat : scope.flat = ⟨marks⟩)
    (some : marks.Sublist (unitMarks 1 buffer))
    (split : marks = front ++ topMarks index false (contentUnits requests specs ++ [BodyUnit.lineFeed]))
    (isKnown : scope.offsets = .some known)
    (further : known.drop number = offsets) (short : floor + offset ≤ front.length)
    (notBehind : cursor ≤ front.length)
    (positions : ∀ count, position (number + count) =
      front.length + (shownText (requests.take count)).length)
    (places : ∀ count, place (number + count) =
      index + Buffer.width (contentUnits (requests.take count) specs)) :
    ∃ items, ResolvesTo buffer scope floor cursor position place directives
      (Clear (marks.map (·.1)) position (fun request => floor + known.getD request 0) cursor
        directives) items := by
  induction outline generalizing front index cursor with
  | nil number offset =>
      exact ⟨[], .done cursor, rfl, fun _ mem => absurd mem List.not_mem_nil,
        fun _ _ mem => absurd mem List.not_mem_nil, fun _ => rfl⟩
  | plain text following step =>
      rw [contentUnits, List.append_assoc, topMarks_text, ← List.append_assoc] at split
      refine step cursor split (drop_succ_of_drop further) ?_ ?_ ?_ ?_
      · rw [List.length_append, length_placeChars]
        omega
      · rw [List.length_append]
        omega
      · exact positions_following positions (by simp [Request.shown])
      · exact places_following places fun others => by
          rw [contentUnits, Buffer.width_append, Buffer.width_chars, Nat.add_assoc]
  | table spansFit following step =>
      rw [contentUnits, List.append_assoc, topMarks_table, ← List.append_assoc] at split
      refine step cursor split (drop_succ_of_drop further) ?_ ?_ ?_ ?_
      · rw [List.length_append]
        omega
      · rw [List.length_append]
        omega
      · exact positions_following positions (by simp [Request.shown])
      · exact places_following places fun others => by
          rw [contentUnits, Buffer.width_append, Nat.add_assoc]
  | styled named describes following step =>
      rename_i number offset requests directives specs offsets text directive
      rw [contentUnits, List.append_assoc, topMarks_text] at split
      have splitHere := split
      rw [← List.append_assoc] at split
      have behind (cursor : Nat) (within : cursor ≤ front.length + text.length) :=
        step cursor split (drop_succ_of_drop further)
          (by rw [List.length_append, length_placeChars]; omega)
          (by rw [List.length_append, length_placeChars]; exact within)
          (positions_following positions (by simp [Request.shown]))
          (places_following places fun others => by
            rw [contentUnits, Buffer.width_append, Buffer.width_chars, Nat.add_assoc])
      have ownPosition : position directive.request = front.length := by
        have here := positions 0
        rw [named]
        simpa [shownText] using here
      have nextPosition : position (directive.request + 1) = front.length + text.length := by
        have here := positions 1
        rw [named]
        simpa [shownText, Request.shown] using here
      have ownPlace : place directive.request = index := by
        have here := places 0
        rw [named]
        simpa [contentUnits] using here
      have later : ∀ other ∈ directives, directive.request < other.request := by
        intro other mem
        have bound := following.le_request other mem
        omega
      have ahead : (scope.offsets.bind (·[directive.request]?)).getD 0 = offset := by
        have here := congrArg List.head? further
        rw [List.head?_drop] at here
        rw [named, isKnown, Option.bind_some, here]
        rfl
      have sameAhead : known.getD directive.request 0 = offset := by
        rw [← ahead, isKnown]
        rfl
      have start : forwardStart scope floor cursor directive = max cursor (floor + offset) := by
        rw [← ahead, forwardStart]
      rcases find_own splitHere describes isFlat (by rw [start]; omega) with
        ⟨found, notAfter, finds, atLeast, stands, first⟩
      rw [start] at atLeast first
      have within := stands.of_append.within describes.shows
      rw [List.length_map] at within
      rcases Directive.exists_place describes some within with
        ⟨item, placed, same, styles, itemFirst⟩
      rw [isFlat.symm] at placed
      have notBeyond := advance_le describes marks found
      rcases behind (advance scope.flat directive found) (by rw [isFlat]; omega) with
        ⟨items, resolves⟩
      refine ⟨item :: items, ?_, ?_, ?_, ?_⟩
      · refine .found describes.shows ?_ (by omega) finds (by omega) placed resolves.walk
        rw [isFlat, splitHere, ownPosition, ownPlace, List.getElem?_append_right (Nat.le_refl _),
          Nat.sub_self]
        have nonempty : text ≠ [] := by
          rw [describes.whole]
          simp [describes.shows]
        rcases List.exists_cons_of_ne_nil nonempty with ⟨character, rest, rfl⟩
        rfl
      · rw [List.map_cons, same, resolves.inOrder]
      · intro other mem
        rcases List.mem_cons.mp mem with rfl | mem
        · exact styles
        · exact resolves.styles other mem
      · rw [List.map_cons, List.cons.injEq, ownPlace]
        by_cases hit : found = front.length
        · have own := Directive.place_own describes front
            (topMarks (index + Text.width text) false (contentUnits requests specs ++ [BodyUnit.lineFeed]))
            index
          rw [← splitHere, ← hit, ← isFlat, placed, Except.ok.injEq] at own
          have next : advance scope.flat directive found = position (directive.request + 1) := by
            rw [isFlat, hit, advance_own splitHere describes, nextPosition]
          have exact := resolves.exact
          rw [next] at exact
          rw [and_iff_right own, exact, clear_cons later (by omega)]
          intro other behindCursor aheadBefore before
          simp only [sameAhead] at aheadBefore
          exact first other (by omega) (by omega)
        · have early : found < front.length := by omega
          constructor
          · intro sameItems
            have indices := pairwise_unitMarks 1 buffer
            have lower := lt_index_of_lt splitHere describes (indices.sublist some) early itemFirst
            rw [sameItems.1, Directive.first_placeAt] at lower
            exact absurd lower (Nat.lt_irrefl _)
          · intro clear
            refine absurd stands (clear directive List.mem_cons_self found (by omega)
              (by simp only [sameAhead]; omega) (by omega) ?_)
            intro other mem isEarlier
            rcases List.mem_cons.mp mem with rfl | mem
            · exact absurd isEarlier (Nat.lt_irrefl _)
            · have bound := later other mem
              omega

theorem clear_append {front : List (Char × Nat)} {text : Text} {position ahead : Nat → Nat}
    {directives : List Directive} :
    Clear (front.map (·.1) ++ text) (fun request => front.length + position request)
        (fun request => front.length + ahead request) front.length directives ↔
      ∀ directive ∈ directives,
        ∀ place, ahead directive.request ≤ place → place < position directive.request →
          (∀ earlier ∈ directives, earlier.request < directive.request →
            position (earlier.request + 1) ≤ place) →
          ¬ (directive.anchor ++ ['\n']).StandsAt text place := by
  have stands (needle : Text) (place : Nat) :
      needle.StandsAt (front.map (·.1) ++ text) (front.length + place) ↔
        needle.StandsAt text place := by
    rw [← Text.standsAt_append_right needle (front.map (·.1)) text, List.length_map]
  simp only [Clear]
  constructor
  · intro clear directive mem place aheadBefore before behindEarlier there
    refine clear directive mem (front.length + place) (Nat.le_add_right _ _) (by omega)
      (by omega) ?_ ((stands _ place).mpr there)
    intro earlier earlierMem isEarlier
    have behind := behindEarlier earlier earlierMem isEarlier
    omega
  · intro clear directive mem place behindFront aheadBefore before behindEarlier there
    rcases Nat.exists_eq_add_of_le behindFront with ⟨distance, rfl⟩
    refine clear directive mem distance (by omega) (by omega) ?_ ((stands _ distance).mp there)
    intro earlier earlierMem isEarlier
    have behind := behindEarlier earlier earlierMem isEarlier
    omega

/-! ## A document -/

namespace Compiled

/-- What compiled content, with the line feed behind it, shows outside tables. -/
def shown (compiled : Compiled) : Text :=
  shownText compiled.requests ++ ['\n']

/-- Where the text of a request stands in what is shown. -/
def position (compiled : Compiled) (request : Nat) : Nat :=
  (shownText (compiled.requests.take request)).length

/-- The index of the first unit of a request, when the content begins at an index. -/
def index (compiled : Compiled) (start request : Nat) : Nat :=
  start + Buffer.width (contentUnits (compiled.requests.take request) compiled.tables)

/-- No anchor line stands between the position that the lengths of inserted texts give for it,
which leave out the line feeds of tables, and the position that it really has, other than in the
text of an earlier directive. -/
def Unambiguous (compiled : Compiled) : Prop :=
  ∀ directive ∈ compiled.directives,
    ∀ place, compiled.offsets.getD directive.request 0 ≤ place →
      place < compiled.position directive.request →
      (∀ earlier ∈ compiled.directives, earlier.request < directive.request →
        compiled.position (earlier.request + 1) ≤ place) →
      ¬ (directive.anchor ++ ['\n']).StandsAt compiled.shown place

end Compiled

theorem Appends.map_topMarks {requests : List Request} {specs : List TableSpec}
    (appends : Appends requests specs) (index : Nat) :
    (topMarks index false (contentUnits requests specs ++ [BodyUnit.lineFeed])).map (·.1) =
      shownText requests ++ ['\n'] := by
  have characters (index : Nat) (text : Text) : (placeChars index text).map (·.1) = text := by
    induction text generalizing index with
    | nil => rfl
    | cons character rest step => rw [placeChars, List.map_cons, step]
  induction appends generalizing index with
  | nil => rfl
  | text text following step =>
      rw [contentUnits, List.append_assoc, topMarks_text, List.map_append, step, characters,
        shownText, shownText, List.flatMap_cons, List.append_assoc]
      rfl
  | table spansFit following step =>
      rw [contentUnits, List.append_assoc, topMarks_table, List.map_append, step, characters,
        shownText, shownText, List.flatMap_cons, List.append_assoc]
      rfl

/-- In the flat text of a document, the search for the directives of its content begins where the
content does. -/
theorem Compiled.exists_front (compiled : Compiled) {body : Buffer}
    (wellFormed : (body ++ [BodyUnit.lineFeed] : Buffer).WellFormed) :
    ∃ front : List (Char × Nat),
      topMarks 1 false (body ++ (compiled.units ++ [BodyUnit.lineFeed])) =
        front ++ topMarks (body.width + 1) false (compiled.units ++ [BodyUnit.lineFeed]) ∧
      FlatText.positionAtOrAfter ⟨topMarks 1 false (body ++ (compiled.units ++ [BodyUnit.lineFeed]))⟩
        (body.width + 1) = front.length := by
  rcases Mode.exists_between wellFormed.reads with ⟨mode, readsBody, closes⟩
  rcases Mode.eq_body_of_region? (Mode.region?_of_closes closes) with ⟨isOpen, rfl⟩
  have split := topMarks_append_reads 1 (compiled.units ++ [BodyUnit.lineFeed]) readsBody
  rw [Nat.add_comm 1] at split
  refine ⟨topMarks 1 false body, split, ?_⟩
  have whole : topMarks 1 false (body ++ (compiled.units ++ [BodyUnit.lineFeed])) =
      topMarks 1 false body ++
        topMarks (body.width + 1) false (compiled.units ++ [BodyUnit.lineFeed]) := split
  rw [whole]
  refine FlatText.positionAtOrAfter_append ?_ ?_
  · intro mark mem
    have bounds := le_of_mem_unitMarks mark ((sublist_topMarks 1 false body).subset mem)
    omega
  · intro mark mem
    exact (le_of_mem_unitMarks mark ((sublist_topMarks _ _ _).subset mem)).1

section Document

variable {compiled : Compiled} {body : Buffer}
  (outline : Outline 0 0 compiled.requests compiled.directives compiled.tables compiled.offsets)
  (wellFormed : (body ++ [BodyUnit.lineFeed] : Buffer).WellFormed) (documentId title : String)

include outline wellFormed

/-- Resolving the directives of a document behind its content finds all of them on a walk, and hits
the own texts of all of them just when no other anchor line is in the way. -/
theorem Outline.resolve {snapshot : Snapshot}
    (shows : snapshot =
      Buffer.view (body ++ (compiled.units ++ [BodyUnit.lineFeed])) documentId title) :
    ∃ floor items, ResolvesTo (body ++ (compiled.units ++ [BodyUnit.lineFeed]))
        ⟨snapshot.flatten false, body.width + 1, snapshot.endIndex, some compiled.offsets⟩
        floor floor (fun request => floor + compiled.position request)
        (compiled.index (body.width + 1)) compiled.directives compiled.Unambiguous items ∧
      (snapshot.flatten false).positionAtOrAfter (body.width + 1) = floor ∧
      (resolve compiled.directives snapshot (body.width + 1) (some compiled.offsets)
        none).resolved = .ok items := by
  rcases compiled.exists_front wellFormed with ⟨front, split, floor⟩
  have filled : (body ++ (compiled.units ++ [BodyUnit.lineFeed]) : Buffer).WellFormed :=
    (outline.appends.wellFormed wellFormed).2
  have flat : snapshot.flatten false =
      ⟨topMarks 1 false (body ++ (compiled.units ++ [BodyUnit.lineFeed]))⟩ := by
    rw [shows, Buffer.flatten_view_top filled]
  have ordered : compiled.directives.mergeSort
      (fun first second => first.request ≤ second.request) = compiled.directives := by
    refine List.mergeSort_of_pairwise (outline.pairwise_request.imp ?_)
    intro first second below
    simpa using Nat.le_of_lt below
  have resolves := outline.resolvesTo
    ⟨snapshot.flatten false, body.width + 1, snapshot.endIndex, some compiled.offsets⟩
    front.length front.length (fun request => front.length + compiled.position request)
    (compiled.index (body.width + 1)) flat (sublist_topMarks 1 false _) split rfl (by simp)
    (by omega) (Nat.le_refl _) (fun count => by rw [Nat.zero_add]; rfl)
    (fun count => by rw [Nat.zero_add]; rfl)
  rw [← flat] at floor
  rcases resolves with ⟨items, walk, inOrder, styles, exact⟩
  refine ⟨front.length, items, ⟨walk, inOrder, styles, ?_⟩, floor, ?_⟩
  · rw [exact, split, List.map_append, clear_append]
    rw [Compiled.units, outline.appends.map_topMarks]
    rfl
  · simp only [DocBinder.resolve, floor, ordered, Option.getD_none, walk.resolveFrom]

end Document

end DocBinder
