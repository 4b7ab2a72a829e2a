import DocBinder.Proofs.Buffer.Edit

/-!
# The shape of a buffer

The units of a body follow a grammar: paragraphs end with a line feed, a table begins where no
paragraph is open, and each of its cells holds at least one paragraph. Edits happen in the middle
of a buffer, so the grammar is given as a reading from left to right whose mode tells what has been
opened. What an edit does to the shape is then a question about the modes at its two ends.

The modes are ordered: one mode is more permissive than another when it reads on through all that
the other does. An open paragraph is the least permissive mode of its region, which is why inline
units may be replaced by any others.
-/

namespace DocBinder.Docs

/-- What has been opened and not yet closed while a buffer is read. -/
inductive Mode where
  /-- Outside tables; `isOpen` tells that the paragraph has begun. -/
  | body (isOpen : Bool)
  /-- Behind the marker of a table. -/
  | table
  /-- Behind the marker of a row. -/
  | row
  /-- Behind the marker of a cell, which needs a paragraph. -/
  | emptyCell
  /-- In a cell with a paragraph; `isOpen` tells that one has begun. -/
  | cell (isOpen : Bool)
deriving DecidableEq, Repr

namespace Mode

/-- The mode behind a unit, if the unit may stand here. -/
def next? (mode : Mode) (unit : BodyUnit) : Option Mode :=
  match mode with
  | .body isOpen =>
      match unit with
      | .char character => some (.body (character != '\n'))
      | .image _ => some (.body true)
      | .tableStart => match isOpen with | false => some .table | true => none
      | .rowStart | .cellStart | .tableEnd => none
  | .table =>
      match unit with
      | .rowStart => some .row
      | .tableEnd => some (.body false)
      | .char _ | .tableStart | .cellStart | .image _ => none
  | .row =>
      match unit with
      | .rowStart => some .row
      | .cellStart => some .emptyCell
      | .tableEnd => some (.body false)
      | .char _ | .tableStart | .image _ => none
  | .emptyCell =>
      match unit with
      | .char character => some (.cell (character != '\n'))
      | .image _ => some (.cell true)
      | .tableStart | .rowStart | .cellStart | .tableEnd => none
  | .cell isOpen =>
      match unit with
      | .char character => some (.cell (character != '\n'))
      | .image _ => some (.cell true)
      | .cellStart => match isOpen with | false => some .emptyCell | true => none
      | .rowStart => match isOpen with | false => some .row | true => none
      | .tableEnd => match isOpen with | false => some (.body false) | true => none
      | .tableStart => none

/-- The mode behind units, if they may stand here. -/
def after? (mode : Mode) : Buffer → Option Mode
  | [] => some mode
  | unit :: rest => (mode.next? unit).bind fun next => next.after? rest

@[simp] theorem after?_nil (mode : Mode) : mode.after? [] = some mode :=
  rfl

theorem after?_append (mode : Mode) (first second : Buffer) :
    mode.after? (first ++ second) = (mode.after? first).bind fun next => next.after? second := by
  induction first generalizing mode with
  | nil => rfl
  | cons unit rest step =>
      simp only [List.cons_append, after?]
      cases mode.next? unit with
      | none => rfl
      | some next => exact step next

theorem after?_append_some {mode middle : Mode} {first second : Buffer}
    (begun : mode.after? first = some middle) :
    mode.after? (first ++ second) = middle.after? second := by
  rw [after?_append, begun, Option.bind_some]

/-- Reading on through two buffers passes a mode between them. -/
theorem exists_between {mode final : Mode} {first second : Buffer}
    (reads : mode.after? (first ++ second) = some final) :
    ∃ middle, mode.after? first = some middle ∧ middle.after? second = some final := by
  rw [after?_append, Option.bind_eq_some_iff] at reads
  exact reads

/-! ## Places and the order of modes -/

/-- Where inline units may stand: in the body itself, or in a cell. -/
inductive Region where
  | body
  | cell
deriving DecidableEq

/-- The region whose paragraphs a mode reads, if it reads any. -/
def region? : Mode → Option Region
  | .body _ => some .body
  | .emptyCell => some .cell
  | .cell _ => some .cell
  | _ => none

/-- The mode in which a paragraph of a region has begun, or has not. -/
def inRegion (isOpen : Bool) : Region → Mode
  | .body => .body isOpen
  | .cell => .cell isOpen

/-- A mode reads on through whatever the other reads. -/
inductive Permits : Mode → Mode → Prop where
  | same (mode : Mode) : Permits mode mode
  | body : Permits (.body false) (.body true)
  | cell : Permits (.cell false) (.cell true)
  | emptyCell : Permits .emptyCell (.cell true)
  | filled : Permits (.cell false) .emptyCell

theorem Permits.next? {wide narrow reached : Mode} {unit : BodyUnit} (permits : Permits wide narrow)
    (reads : narrow.next? unit = some reached) :
    ∃ other, wide.next? unit = some other ∧ Permits other reached := by
  cases permits with
  | same => exact ⟨reached, reads, .same reached⟩
  | body => cases unit <;> simp [Mode.next?] at reads ⊢ <;> subst reached <;> exact .same _
  | cell => cases unit <;> simp [Mode.next?] at reads ⊢ <;> subst reached <;> exact .same _
  | emptyCell => cases unit <;> simp [Mode.next?] at reads ⊢ <;> subst reached <;> exact .same _
  | filled => cases unit <;> simp [Mode.next?] at reads ⊢ <;> subst reached <;> exact .same _

/-- A more permissive mode ends where the other one does, or still more permissively. -/
theorem Permits.after? {wide narrow reached : Mode} {buffer : Buffer}
    (permits : Permits wide narrow) (reads : narrow.after? buffer = some reached) :
    ∃ other, wide.after? buffer = some other ∧ Permits other reached := by
  induction buffer generalizing wide narrow with
  | nil =>
      cases reads
      exact ⟨wide, rfl, permits⟩
  | cons unit rest step =>
      rw [Mode.after?, Option.bind_eq_some_iff] at reads
      rcases reads with ⟨middle, here, further⟩
      rcases permits.next? here with ⟨other, otherHere, otherPermits⟩
      rcases step otherPermits further with ⟨final, finalReads, finalPermits⟩
      refine ⟨final, ?_, finalPermits⟩
      rw [Mode.after?, otherHere, Option.bind_some, finalReads]

/-- Nothing is more permissive than the body between paragraphs. -/
theorem Permits.eq_of_body_closed {mode : Mode} (permits : Permits mode (.body false)) :
    mode = .body false := by
  cases permits
  rfl

/-! ## Inline units -/

theorem next?_inline {mode : Mode} {region : Region} {unit : BodyUnit}
    (there : mode.region? = some region) (isInline : unit.isInline = true) :
    mode.next? unit = some (inRegion (unit != .lineFeed) region) := by
  cases mode <;> cases unit <;>
    simp_all [region?, BodyUnit.isInline, next?, inRegion, BodyUnit.lineFeed] <;>
    subst there <;> simp [bne]

theorem next?_inline_open {mode : Mode} {region : Region} {unit : BodyUnit}
    (there : mode.region? = some region) (isInline : unit.isInline = true)
    (notBreak : unit ≠ .lineFeed) : mode.next? unit = some (inRegion true region) := by
  rw [next?_inline there isInline, bne_iff_ne.mpr notBreak]

@[simp] theorem region?_inRegion (isOpen : Bool) (region : Region) :
    (inRegion isOpen region).region? = some region := by
  cases region <;> rfl

theorem eq_body_of_region? {mode : Mode} (there : mode.region? = some .body) :
    ∃ isOpen, mode = .body isOpen := by
  cases mode with
  | body isOpen => exact ⟨isOpen, rfl⟩
  | table => cases there
  | row => cases there
  | emptyCell => cases there
  | cell isOpen => cases there

/-- Inline units can be read wherever paragraphs are, and lead to the same region. -/
theorem after?_inline {mode : Mode} {region : Region} {units : Buffer}
    (there : mode.region? = some region) (inline : ∀ unit ∈ units, unit.isInline = true) :
    ∃ reached, mode.after? units = some reached ∧ reached.region? = some region := by
  induction units generalizing mode with
  | nil => exact ⟨mode, rfl, there⟩
  | cons unit rest step =>
      have here := next?_inline there (inline unit List.mem_cons_self)
      rcases step (region?_inRegion (unit != .lineFeed) region)
          (fun other otherMem => inline other (List.mem_cons_of_mem _ otherMem)) with
        ⟨reached, reads, reachedRegion⟩
      exact ⟨reached, by rw [after?, here, Option.bind_some, reads], reachedRegion⟩

/-- A mode that reads paragraphs of a region permits what an open paragraph there does. -/
theorem permits_open {mode : Mode} {region : Region} (there : mode.region? = some region) :
    Permits mode (inRegion true region) := by
  cases mode with
  | body isOpen =>
      cases there
      cases isOpen
      · exact .body
      · exact .same _
  | emptyCell =>
      cases there
      exact .emptyCell
  | cell isOpen =>
      cases there
      cases isOpen
      · exact .cell
      · exact .same _
  | table => cases there
  | row => cases there

/-- In an open paragraph only inline units may follow. -/
theorem inline_of_next?_open {region : Region} {unit : BodyUnit} {reached : Mode}
    (reads : (inRegion true region).next? unit = some reached) : unit.isInline = true := by
  cases region <;> cases unit <;> simp_all [inRegion, next?, BodyUnit.isInline]

/-- A mode that reads an inline unit reads the paragraphs of some region. -/
theorem region?_of_next?_inline {mode reached : Mode} {unit : BodyUnit}
    (isInline : unit.isInline = true) (reads : mode.next? unit = some reached) :
    ∃ region, mode.region? = some region := by
  cases mode <;> cases unit <;> simp_all [region?, next?, BodyUnit.isInline]

/-- Units that begin in an open paragraph and hold no line feed are all inline, and leave the
paragraph open. -/
theorem inline_of_open {region : Region} {units : Buffer} {reached : Mode}
    (noBreak : BodyUnit.lineFeed ∉ units)
    (reads : (inRegion true region).after? units = some reached) :
    (∀ unit ∈ units, unit.isInline = true) ∧ reached = inRegion true region := by
  induction units with
  | nil =>
      cases reads
      exact ⟨by simp, rfl⟩
  | cons unit rest step =>
      rw [after?, Option.bind_eq_some_iff] at reads
      rcases reads with ⟨middle, here, further⟩
      have isInline := inline_of_next?_open here
      have notBreak : unit ≠ .lineFeed := fun same => noBreak (same ▸ List.mem_cons_self)
      have stays : middle = inRegion true region := by
        rw [next?_inline_open (region?_inRegion true region) isInline notBreak] at here
        exact (Option.some.inj here).symm
      subst middle
      rcases step (fun mem => noBreak (List.mem_cons_of_mem _ mem)) further with
        ⟨restInline, same⟩
      refine ⟨?_, same⟩
      intro other otherMem
      rcases List.mem_cons.mp otherMem with rfl | otherMem
      · exact isInline
      · exact restInline other otherMem

/-- Inline units without a line feed may be replaced by any inline units: what follows them can
still be read, to the same end. -/
theorem after?_replace {mode final : Mode} {covered units rest : Buffer} {character : Char}
    {others : Buffer} (begins : covered = .char character :: others)
    (noBreak : BodyUnit.lineFeed ∉ covered) (inline : ∀ unit ∈ units, unit.isInline = true)
    (reads : mode.after? (covered ++ rest) = some final) :
    ∃ reached, mode.after? (units ++ rest) = some reached ∧ Permits reached final := by
  subst covered
  rcases exists_between reads with ⟨behind, readsCovered, readsRest⟩
  rw [after?, Option.bind_eq_some_iff] at readsCovered
  rcases readsCovered with ⟨opened, here, further⟩
  have isInline : (BodyUnit.char character).isInline = true := rfl
  rcases region?_of_next?_inline isInline here with ⟨region, there⟩
  have notBreak : BodyUnit.char character ≠ .lineFeed :=
    fun same => noBreak (same ▸ List.mem_cons_self)
  have openedEq : opened = inRegion true region := by
    rw [next?_inline_open there rfl notBreak] at here
    exact (Option.some.inj here).symm
  subst opened
  have behindEq := (inline_of_open (fun mem => noBreak (List.mem_cons_of_mem _ mem)) further).2
  subst behind
  rcases after?_inline there inline with ⟨middle, readsUnits, middleRegion⟩
  rcases (permits_open middleRegion).after? readsRest with ⟨reached, readsOn, permits⟩
  exact ⟨reached, by rw [after?_append_some readsUnits, readsOn], permits⟩

end Mode

/-! ## Well-formed buffers -/

/-- A buffer follows the grammar and ends with the line feed of its last paragraph. -/
structure Buffer.WellFormed (buffer : Buffer) : Prop where
  reads : (Mode.body false).after? buffer = some (.body false)
  ends : ∃ body, buffer = body ++ [.lineFeed]

namespace Buffer

theorem inline_chars (text : Text) : ∀ unit ∈ text.map BodyUnit.char, unit.isInline = true := by
  intro unit mem
  rcases List.mem_map.mp mem with ⟨character, _, rfl⟩
  rfl

/-- The body that holds a text is well-formed. -/
theorem wellFormed_ofText (text : Text) : (ofText text).WellFormed := by
  refine ⟨?_, text.map .char, rfl⟩
  have outside : (Mode.body false).region? = some .body := rfl
  rcases Mode.after?_inline outside (inline_chars text) with ⟨reached, reads, there⟩
  rw [ofText, Mode.after?_append_some reads]
  cases reached <;> simp_all [Mode.region?, Mode.after?, Mode.next?, BodyUnit.lineFeed]

end Buffer

end DocBinder.Docs
