import DocBinder.Project.Frontmatter
import DocBinder.Proofs.Steps
import DocBinder.Proofs.Text.Lines

/-!
# Front matter and bodies

Front matter that is put in front of a body is taken off again, with the blank lines around the
closing line, as long as one of its lines shows something. Where none does, the closing line can be
taken for a part of the front matter: then all of the body up to its next line of three hyphens goes
with it. Without any line between the two of three hyphens, there is no front matter at all.
-/

namespace DocBinder

namespace Text

theorem drop?_line {separator : Char} {beginning : Text} (free : separator ∉ beginning)
    (line rest : Text) :
    drop? beginning (line ++ separator :: rest) =
      (drop? beginning line).map (· ++ separator :: rest) := by
  induction beginning generalizing line with
  | nil => rfl
  | cons expected beginning step =>
      rw [List.mem_cons, not_or] at free
      rcases line with _ | ⟨character, line⟩
      · rw [List.nil_append, drop?, drop?, if_neg (Ne.symm free.1)]
        rfl
      · rw [List.cons_append, drop?, drop?]
        split
        · exact step free.2 line
        · rfl

end Text

namespace Project.Frontmatter

open Text

/-- Whether a line shows nothing. -/
def isHollow (line : Text) : Bool :=
  line.all isBlank

/-- Whether a line holds three hyphens and blanks behind them only. -/
def isFenceLine (line : Text) : Bool :=
  match drop? fence line with
  | some rest => isHollow rest
  | none => false

/-- A body without the lines in front that show nothing. -/
def unpadded (body : Text) : Text :=
  joinLines ((lines body).dropWhile isHollow)

/-- Lines as front matter before a body. -/
def assemble (header : List Text) (body : Text) : Text :=
  fence ++ '\n' :: (header.flatMap (· ++ ['\n']) ++ (fence ++ '\n' :: body))

theorem assemble_eq (header : List Text) (body : Text) :
    assemble header body = joinLines (fence :: (header ++ fence :: lines body)) := by
  have further : fence :: lines body ≠ [] := List.cons_ne_nil _ _
  have closes : fence ++ '\n' :: body = joinLines (fence :: lines body) := by
    have nonempty : lines body ≠ [] := splitOn_ne_nil '\n' body
    rw [joinLines_cons _ nonempty, joinLines_lines]
  have opens : header.flatMap (· ++ ['\n']) ++ joinLines (fence :: lines body) =
      joinLines (header ++ fence :: lines body) := by
    induction header with
    | nil => rfl
    | cons line header step =>
        rw [List.cons_append, joinLines_cons _ (List.append_ne_nil_of_right_ne_nil _ further), ← step]
        simp
  rw [assemble, closes, opens, joinLines_cons _ (List.append_ne_nil_of_right_ne_nil _ further)]

/-! ## The lines in front -/

theorem blockStarts_hollow {line : Text} (hollow : isHollow line = true) (unbroken : '\n' ∉ line)
    (rest : Text) : blockStarts (line ++ '\n' :: rest) = blockStarts rest ++ [rest] := by
  induction line with
  | nil => rfl
  | cons character line step =>
      rw [isHollow, List.all_cons, Bool.and_eq_true] at hollow
      rw [List.mem_cons, not_or] at unbroken
      rw [List.cons_append, blockStarts, if_pos hollow.1, if_neg (by simpa using Ne.symm unbroken.1),
        List.append_nil, step hollow.2 unbroken.2]

theorem blockStarts_shown {line : Text} (shown : isHollow line = false) (unbroken : '\n' ∉ line)
    (rest : Text) : blockStarts (line ++ rest) = [] := by
  induction line with
  | nil => cases shown
  | cons character line step =>
      rw [List.mem_cons, not_or] at unbroken
      rw [List.cons_append, blockStarts]
      split
      · rename_i blank
        rw [isHollow, List.all_cons, blank, Bool.true_and] at shown
        rw [step shown unbroken.2, if_neg (by simpa using Ne.symm unbroken.1)]
        rfl
      · rfl

variable {line : Text} {more : List Text}

theorem blockStarts_joinLines_hollow (hollow : isHollow line = true) (unbroken : '\n' ∉ line)
    (further : more ≠ []) :
    blockStarts (joinLines (line :: more)) = blockStarts (joinLines more) ++ [joinLines more] := by
  rw [joinLines_cons _ further]
  exact blockStarts_hollow hollow unbroken _

theorem blockStarts_joinLines_shown (shown : isHollow line = false) (unbroken : '\n' ∉ line) :
    blockStarts (joinLines (line :: more)) = [] := by
  rcases more with _ | ⟨next, more⟩
  · have alone := blockStarts_shown shown unbroken []
    rwa [List.append_nil] at alone
  · rw [joinLines_cons _ (List.cons_ne_nil _ _)]
    exact blockStarts_shown shown unbroken _

theorem all_isBlank_joinLines (pieces : List Text) :
    (joinLines pieces).all isBlank = pieces.all isHollow := by
  induction pieces with
  | nil => rfl
  | cons line more step =>
      rcases more with _ | ⟨next, more⟩
      · simp [joinLines, join, isHollow]
      · rw [joinLines_cons _ (List.cons_ne_nil _ _), List.all_append, List.all_cons, step]
        simp [isHollow, show isBlank '\n' = true by decide]

/-- Behind a line that shows nothing, the lines that show nothing are left out. -/
theorem head?_blockStarts (hollow : isHollow line = true) (unbroken : '\n' ∉ line)
    (areLines : ∀ other ∈ more, '\n' ∉ other) (some : more.all isHollow = false) :
    (blockStarts (joinLines (line :: more))).head? =
      Option.some (joinLines (more.dropWhile isHollow)) := by
  induction more generalizing line with
  | nil => cases some
  | cons next more step =>
      have unbrokenNext := areLines next List.mem_cons_self
      rw [blockStarts_joinLines_hollow hollow unbroken (List.cons_ne_nil _ _)]
      cases hollowNext : isHollow next with
      | false =>
          rw [blockStarts_joinLines_shown hollowNext unbrokenNext, List.nil_append,
            List.dropWhile_cons_of_neg (by simp [hollowNext])]
          rfl
      | true =>
          rw [List.all_cons, hollowNext, Bool.true_and] at some
          rw [List.dropWhile_cons_of_pos hollowNext, List.head?_append,
            step hollowNext unbrokenNext (fun other mem => areLines other (List.mem_cons_of_mem _ mem))
              some]
          rfl

theorem bodyAfter?_joinLines (unbroken : '\n' ∉ line) (areLines : ∀ other ∈ more, '\n' ∉ other) :
    bodyAfter? (joinLines (line :: more)) =
      if isHollow line then some (joinLines (more.dropWhile isHollow)) else none := by
  rw [bodyAfter?, all_isBlank_joinLines, List.all_cons]
  cases hollow : isHollow line with
  | false =>
      rw [blockStarts_joinLines_shown hollow unbroken]
      rfl
  | true =>
      cases all : more.all isHollow with
      | true =>
          have none : more.dropWhile isHollow = [] := List.dropWhile_eq_nil_iff.mpr (by simpa using all)
          rw [none]
          rfl
      | false =>
          rw [head?_blockStarts hollow unbroken areLines all]
          rfl

/-! ## The closing line -/

theorem drop?_fence_joinLines (line : Text) (more : List Text) :
    drop? fence (joinLines (line :: more)) =
      (drop? fence line).map fun rest => joinLines (rest :: more) := by
  rcases more with _ | ⟨next, more⟩
  · simp [joinLines, join]
  · rw [joinLines_cons _ (List.cons_ne_nil _ _), drop?_line (by decide)]
    simp only [joinLines_cons _ (List.cons_ne_nil next more)]

theorem mem_of_drop? {beginning text rest : Text} (drops : drop? beginning text = some rest)
    {character : Char} (mem : character ∈ rest) : character ∈ text := by
  induction beginning generalizing text with
  | nil =>
      cases drops
      exact mem
  | cons expected beginning step =>
      rcases text with _ | ⟨first, text⟩
      · cases drops
      · rw [drop?] at drops
        split at drops
        · exact List.mem_cons_of_mem first (step drops)
        · cases drops

/-- What follows a line feed closes front matter when its first line is one of hyphens. -/
theorem bind_bodyAfter? (unbroken : '\n' ∉ line) (areLines : ∀ other ∈ more, '\n' ∉ other) :
    (drop? fence (joinLines (line :: more))).bind bodyAfter? =
      if isFenceLine line then some (joinLines (more.dropWhile isHollow)) else none := by
  rw [drop?_fence_joinLines, isFenceLine]
  cases drops : drop? fence line with
  | none => rfl
  | some rest =>
      have unbrokenRest : '\n' ∉ rest := fun mem => unbroken (mem_of_drop? drops mem)
      exact bodyAfter?_joinLines unbrokenRest areLines

theorem closing?_append {front : Text} (unbroken : '\n' ∉ front) (rest : Text) :
    closing? (front ++ rest) = (closing? rest).map fun (block, body) => (front ++ block, body) := by
  induction front with
  | nil =>
      rw [List.nil_append]
      cases closing? rest <;> rfl
  | cons character front step =>
      rw [List.mem_cons, not_or] at unbroken
      rw [List.cons_append, closing?, drop?, if_neg unbroken.1, Option.bind_none, step unbroken.2]
      cases closing? rest <;> rfl

theorem closing?_singleton (unbroken : '\n' ∉ line) : closing? (joinLines [line]) = none := by
  have alone := closing?_append unbroken []
  rwa [List.append_nil] at alone

theorem closing?_joinLines {next : Text} (unbroken : '\n' ∉ line) (unbrokenNext : '\n' ∉ next)
    (areLines : ∀ other ∈ more, '\n' ∉ other) :
    closing? (joinLines (line :: next :: more)) =
      if isFenceLine next then some (line, joinLines (more.dropWhile isHollow))
      else (closing? (joinLines (next :: more))).map fun (block, body) =>
        (line ++ '\n' :: block, body) := by
  rw [joinLines_cons _ (List.cons_ne_nil _ _), closing?_append unbroken, closing?, drop?, if_pos rfl,
    bind_bodyAfter? unbrokenNext areLines]
  cases isFenceLine next with
  | true => simp
  | false => cases closing? (joinLines (next :: more)) <;> rfl

/-- Without a line of hyphens, nothing is closed. -/
theorem closing?_of_free (unbroken : '\n' ∉ line)
    (areLines : ∀ other ∈ more, '\n' ∉ other) (free : ∀ other ∈ more, isFenceLine other = false) :
    closing? (joinLines (line :: more)) = none := by
  induction more generalizing line with
  | nil => exact closing?_singleton unbroken
  | cons next more step =>
      rw [List.forall_mem_cons] at areLines free
      rw [closing?_joinLines unbroken areLines.1 areLines.2, free.1, if_neg Bool.false_ne_true,
        step areLines.1 areLines.2 free.2]
      rfl

/-- The first line of hyphens closes. -/
theorem closing?_of_fence {front after : List Text} {closing : Text} (unbroken : '\n' ∉ line)
    (areLines : ∀ other ∈ front ++ closing :: after, '\n' ∉ other)
    (free : ∀ other ∈ front, isFenceLine other = false) (closes : isFenceLine closing = true) :
    closing? (joinLines (line :: (front ++ closing :: after))) =
      some (joinLines (line :: front), joinLines (after.dropWhile isHollow)) := by
  induction front generalizing line with
  | nil =>
      rw [List.nil_append, List.forall_mem_cons] at areLines
      rw [List.nil_append, closing?_joinLines unbroken areLines.1 areLines.2, if_pos closes]
      rfl
  | cons next front step =>
      rw [List.cons_append, List.forall_mem_cons] at areLines
      rw [List.forall_mem_cons] at free
      rw [List.cons_append, closing?_joinLines unbroken areLines.1 areLines.2, free.1,
        if_neg Bool.false_ne_true, step areLines.1 areLines.2 free.2,
        joinLines_cons line (List.cons_ne_nil next front)]
      rfl

/-! ## Taking front matter off -/

section Split

variable {header after : List Text} (areLines : ∀ line ∈ header, '\n' ∉ line)
  (free : ∀ line ∈ header, isFenceLine line = false) (areLinesAfter : ∀ line ∈ after, '\n' ∉ line)

theorem split?_joinLines (lines : List Text) (further : lines ≠ []) :
    split? (joinLines (fence :: lines)) =
      (blockStarts (joinLines lines) ++ [joinLines lines]).findSome? closing? := by
  have rest : drop? fence (joinLines (fence :: lines)) = some (joinLines ([] :: lines)) := by
    rw [drop?_fence_joinLines]
    rfl
  rw [split?, rest]
  exact congrArg (List.findSome? closing?) (blockStarts_joinLines_hollow rfl (by simp) further)

theorem isHollow_fence : isHollow fence = false := by
  decide

theorem isFenceLine_fence : isFenceLine fence = true := by
  decide

theorem isHollow_of_isFenceLine {line : Text} (isFence : isFenceLine line = true) :
    isHollow line = false := by
  rcases line with _ | ⟨character, rest⟩
  · cases isFence
  · by_cases same : '-' = character
    · subst same
      rfl
    · rw [isFenceLine, fence, drop?, if_neg same] at isFence
      cases isFence

include areLines free areLinesAfter in
theorem closing?_header {line : Text} (unbroken : '\n' ∉ line) :
    closing? (joinLines (line :: (header ++ fence :: after))) =
      some (joinLines (line :: header), joinLines (after.dropWhile isHollow)) := by
  refine closing?_of_fence unbroken (fun other mem => ?_) free isFenceLine_fence
  rcases List.mem_append.mp mem with mem | mem
  · exact areLines other mem
  · rcases List.mem_cons.mp mem with rfl | mem
    · decide
    · exact areLinesAfter other mem

include areLines free areLinesAfter in
/-- Where a line of the front matter shows something, what stands before it is left out. The starts
are tried from the last one on, so that the first try is the one behind all lines that show
nothing. -/
theorem findSome?_shown (shown : header.all isHollow = false) :
    (blockStarts (joinLines (header ++ fence :: after)) ++
        [joinLines (header ++ fence :: after)]).findSome? closing? =
      some (joinLines (header.dropWhile isHollow), joinLines (after.dropWhile isHollow)) := by
  induction header with
  | nil => cases shown
  | cons line header step =>
      rw [List.forall_mem_cons] at areLines free
      have own := closing?_header areLines.2 free.2 areLinesAfter areLines.1
      cases hollow : isHollow line with
      | false =>
          rw [List.cons_append, blockStarts_joinLines_shown hollow areLines.1, List.nil_append,
            List.findSome?_singleton, own, List.dropWhile_cons_of_neg (by simp [hollow])]
      | true =>
          rw [List.all_cons, hollow, Bool.true_and] at shown
          rw [List.cons_append, blockStarts_joinLines_hollow hollow areLines.1 (by simp),
            List.findSome?_append, step areLines.2 free.2 shown, List.dropWhile_cons_of_pos hollow]
          rfl

include areLines free areLinesAfter in
/-- Where none does, the closing line is first tried as a part of the front matter. -/
theorem findSome?_hollow (hollow : header.all isHollow = true) :
    (blockStarts (joinLines (header ++ fence :: after)) ++
        [joinLines (header ++ fence :: after)]).findSome? closing? =
      (closing? (joinLines (fence :: after))).or
        (header.getLast?.map fun line => (line, joinLines (after.dropWhile isHollow))) := by
  induction header with
  | nil =>
      rw [List.nil_append, blockStarts_joinLines_shown isHollow_fence (by decide), List.nil_append,
        List.findSome?_singleton]
      simp
  | cons line header step =>
      rw [List.forall_mem_cons] at areLines free
      rw [List.all_cons, Bool.and_eq_true] at hollow
      have own := closing?_header areLines.2 free.2 areLinesAfter areLines.1
      -- What begins further up is tried last, and comes too late unless the rest gives nothing.
      rw [List.cons_append, blockStarts_joinLines_hollow hollow.1 areLines.1 (by simp),
        List.findSome?_append, step areLines.2 free.2 hollow.2, List.findSome?_singleton, own,
        Option.or_assoc, List.getLast?_cons]
      rcases header.eq_nil_or_concat with rfl | ⟨front, last, rfl⟩
      · rfl
      · simp

end Split

section Documents

variable {header : List Text} {body : Text} (areLines : ∀ line ∈ header, '\n' ∉ line)
  (free : ∀ line ∈ header, isFenceLine line = false)

theorem not_mem_of_mem_lines {line : Text} (mem : line ∈ lines body) : '\n' ∉ line :=
  not_mem_of_mem_splitOn mem

include areLines free

theorem ofText_shown (shown : header.all isHollow = false) (path : String) :
    ofText path (assemble header body) =
      ofBlock path (joinLines (header.dropWhile isHollow)) (unpadded body) := by
  rw [ofText, assemble_eq, split?_joinLines _ (by simp),
    findSome?_shown areLines free (fun _ => not_mem_of_mem_lines) shown]
  rfl

/-- Without anything shown between the lines of hyphens, the front matter goes on to the next line of
hyphens in the body. -/
theorem ofText_swallowed (hollow : header.all isHollow = true) {front after : List Text}
    {closing : Text} (split : lines body = front ++ closing :: after)
    (early : ∀ line ∈ front, isFenceLine line = false) (closes : isFenceLine closing = true)
    (path : String) :
    ofText path (assemble header body) =
      ofBlock path (joinLines (fence :: front)) (joinLines (after.dropWhile isHollow)) := by
  have areOthers : ∀ line ∈ lines body, '\n' ∉ line := fun _ => not_mem_of_mem_lines
  rw [ofText, assemble_eq, split?_joinLines _ (by simp), findSome?_hollow areLines free areOthers hollow]
  rw [split] at areOthers ⊢
  rw [closing?_of_fence (by decide) areOthers early closes]
  rfl

example : split? (assemble [[]] "# Title\n\n---\n\nText\n".toList) =
    some ("---\n# Title\n".toList, "Text\n".toList) := by
  decide +kernel

/-- Where the body has none, the last line of the front matter is left. -/
theorem ofText_hollow (hollow : header.all isHollow = true)
    (absent : ∀ line ∈ lines body, isFenceLine line = false) (path : String) :
    ofText path (assemble header body) =
      match header.getLast? with
      | some line => ofBlock path line (unpadded body)
      | none => .ok ⟨[], assemble header body⟩ := by
  have areOthers : ∀ line ∈ lines body, '\n' ∉ line := fun _ => not_mem_of_mem_lines
  rw [ofText, assemble_eq, split?_joinLines _ (by simp), findSome?_hollow areLines free areOthers hollow,
    closing?_of_free (by decide) areOthers absent, Option.none_or]
  cases header.getLast? <;> rfl

end Documents

/-! ## How much of a body is left -/

theorem body_of_ofBlock {path : String} {block body : Text} {front : Frontmatter}
    (loads : ofBlock path block body = .ok front) : front.body = body := by
  rw [ofBlock] at loads
  split at loads
  · cases loads
  · cases loads
  · split at loads
    · cases loads
      rfl
    · split at loads
      · cases loads
      · cases loads
        rfl
    · cases loads

theorem length_joinLines_le (front back : List Text) :
    (joinLines back).length ≤ (joinLines (front ++ back)).length := by
  induction front with
  | nil => exact Nat.le_refl _
  | cons line front step =>
      by_cases last : front ++ back = []
      · rw [(List.append_eq_nil_iff.mp last).2]
        exact Nat.zero_le _
      · rw [List.cons_append, joinLines_cons line last, List.length_append, List.length_cons]
        omega

theorem length_joinLines_dropWhile_le (lines : List Text) :
    (joinLines (lines.dropWhile isHollow)).length ≤ (joinLines lines).length := by
  have whole := length_joinLines_le (lines.takeWhile isHollow) (lines.dropWhile isHollow)
  rwa [List.takeWhile_append_dropWhile] at whole

theorem length_unpadded_le (body : Text) : (unpadded body).length ≤ body.length := by
  have less := length_joinLines_dropWhile_le (lines body)
  rwa [joinLines_lines] at less

theorem exists_dropWhile_append {line : Text} (shown : isHollow line = false) (front after : List Text) :
    ∃ early, (front ++ line :: after).dropWhile isHollow = early ++ line :: after := by
  rw [List.dropWhile_append]
  split
  · exact ⟨[], List.dropWhile_cons_of_neg (by simp [shown])⟩
  · exact ⟨_, rfl⟩

/-- What follows a line that shows something is shorter than the whole. -/
theorem length_behind_lt {body line : Text} {front after : List Text} (shown : isHollow line = false)
    (split : lines body = front ++ line :: after) :
    (joinLines (after.dropWhile isHollow)).length < (unpadded body).length := by
  have nonempty : line ≠ [] := by
    rintro rfl
    cases shown
  have own : (joinLines after).length < (joinLines (line :: after)).length := by
    rcases after with _ | ⟨next, after⟩
    · exact List.length_pos_iff.mpr nonempty
    · rw [joinLines_cons line (List.cons_ne_nil next after), List.length_append, List.length_cons]
      omega
  rcases exists_dropWhile_append shown front after with ⟨early, dropped⟩
  have all := length_joinLines_le early (line :: after)
  have less := length_joinLines_dropWhile_le after
  rw [unpadded, split, dropped]
  omega

/-! ## Taking off what was put in front -/

/-- Lines load to entries, as they are and without lines in front that show nothing. -/
def Loads (header : List Text) (entries : List (Value × Value)) : Prop :=
  ∀ front back, header = front ++ back → front.all isHollow = true →
    ∀ path body, ofBlock path (joinLines back) body = .ok ⟨entries, body⟩

/-- Nothing can be left out in front of a line that shows something. -/
theorem loads_of_shown {line : Text} {more : List Text} {entries : List (Value × Value)}
    (shown : isHollow line = false)
    (loads : ∀ path body, ofBlock path (joinLines (line :: more)) body = .ok ⟨entries, body⟩) :
    Loads (line :: more) entries := by
  intro front back split hollow
  rcases front with _ | ⟨first, front⟩
  · rw [List.nil_append] at split
    rw [← split]
    exact loads
  · rw [List.cons_append] at split
    rw [← (List.cons.inj split).1, List.all_cons, shown] at hollow
    cases hollow

theorem ofText_assemble_iff {header : List Text} (areLines : ∀ line ∈ header, '\n' ∉ line)
    (free : ∀ line ∈ header, isFenceLine line = false) {entries : List (Value × Value)}
    (loads : Loads header entries) (path : String) (body : Text) :
    ofText path (assemble header body) = .ok ⟨entries, unpadded body⟩ ↔
      header.all isHollow = false ∨
        header ≠ [] ∧ ∀ line ∈ lines body, isFenceLine line = false := by
  cases hollow : header.all isHollow with
  | false =>
      have kept := loads (header.takeWhile isHollow) (header.dropWhile isHollow)
        List.takeWhile_append_dropWhile.symm
        (List.all_eq_true.mpr fun _ mem => List.mem_takeWhile_imp mem)
      rw [ofText_shown areLines free hollow, kept]
      simp
  | true =>
      cases first : (lines body).find? isFenceLine with
      | none =>
          have absent : ∀ line ∈ lines body, isFenceLine line = false := by
            simpa using List.find?_eq_none.mp first
          rw [ofText_hollow areLines free hollow absent]
          rcases header.eq_nil_or_concat with rfl | ⟨front, last, rfl⟩
          · have longer : assemble [] body ≠ unpadded body := by
              intro same
              have less := length_unpadded_le body
              rw [← same, assemble, List.length_append, List.length_cons, List.flatMap_nil,
                List.nil_append, List.length_append, List.length_cons] at less
              omega
            simp [longer]
          · rw [List.concat_eq_append, List.all_append, Bool.and_eq_true] at hollow
            have kept : ofBlock path last (unpadded body) = .ok ⟨entries, unpadded body⟩ :=
              loads front [last] (List.concat_eq_append ..) hollow.1 path (unpadded body)
            simpa [List.getLast?_concat, kept] using absent
      | some closing =>
          rcases List.find?_eq_some_iff_append.mp first with ⟨closes, front, after, split, early⟩
          have swallowed := ofText_swallowed areLines free hollow split (by simpa using early) closes
          have shorter := length_behind_lt (isHollow_of_isFenceLine closes) split
          rw [swallowed path]
          refine iff_of_false (fun same => ?_) ?_
          · have sameBody : unpadded body = joinLines (after.dropWhile isHollow) := body_of_ofBlock same
            rw [sameBody] at shorter
            exact Nat.lt_irrefl _ shorter
          · rintro (shown | ⟨_, absent⟩)
            · cases shown
            · rw [absent closing (by simp [split])] at closes
              cases closes

/-- Front matter with a line that shows something is taken off any body, and is what its lines load
to, beginning with that line. Lines that load to entries are taken off again exactly when one of them
shows something, or there are some and no line of the body is one of three hyphens. -/
theorem ofText_assemble {header : List Text} (areLines : ∀ line ∈ header, '\n' ∉ line)
    (free : ∀ line ∈ header, isFenceLine line = false) (path : String) (body : Text) :
    (header.all isHollow = false → ofText path (assemble header body) =
        ofBlock path (joinLines (header.dropWhile isHollow)) (unpadded body)) ∧
      ∀ entries, Loads header entries →
        (ofText path (assemble header body) = .ok ⟨entries, unpadded body⟩ ↔
          header.all isHollow = false ∨
            header ≠ [] ∧ ∀ line ∈ lines body, isFenceLine line = false) :=
  ⟨fun shown => ofText_shown areLines free shown path,
    fun _ loads => ofText_assemble_iff areLines free loads path body⟩

/-- Between the lines of hyphens nothing stands, and they are no front matter. -/
theorem not_all_taken_off :
    ¬ ∀ (header : List Text) (entries : List (Value × Value)) (path : String) (body : Text),
      (∀ line ∈ header, '\n' ∉ line) → (∀ line ∈ header, isFenceLine line = false) →
      Loads header entries → ofText path (assemble header body) = .ok ⟨entries, unpadded body⟩ := by
  intro takenOff
  have loads : Loads [] [] := by
    intro front back split _ path body
    rcases List.nil_eq_append_iff.mp split with ⟨_, rfl⟩
    rfl
  have taken := takenOff [] [] "a.md" "Body".toList (by simp) (by simp) loads
  have whole : ofText "a.md" (assemble [] "Body".toList) = .ok ⟨[], assemble [] "Body".toList⟩ := by
    rw [ofText_hollow (by simp) (by simp) rfl (by decide)]
    rfl
  rw [whole, Except.ok.injEq, Frontmatter.mk.injEq] at taken
  exact absurd taken.2 (by decide)

/-- Front matter with a title, before a body that begins with a blank line and a line of hyphens. -/
theorem ofText_assemble_titled :
    ∃ entries, (Value.lookup "title" entries).bind Value.string? = some "A" ∧
      ofText "a.md" (assemble ["title: A".toList] "\n---\nText\n".toList) =
        .ok ⟨entries, "---\nText\n".toList⟩ := by
  have shape : (Yaml.read "title: A".toList).toOption.map (fun content =>
      (content.isEndless || isDeeper maxDepth content.value,
        (content.value.get? "title").bind Value.string?)) = some (false, some "A") := by
    decide +kernel
  rcases Option.map_eq_some_iff.mp shape with ⟨⟨value, isEndless⟩, reads, same⟩
  rcases Prod.mk.inj same with ⟨shallow, titled⟩
  cases value with
  | map entries =>
      have loads : Loads ["title: A".toList] entries := by
        refine loads_of_shown (by decide) fun path body => ?_
        rw [joinLines, join, ofBlock, Except.toOption_eq_some.mp reads]
        dsimp only at shallow ⊢
        rw [shallow]
        rfl
      have taken := (ofText_assemble (by decide) (by decide) "a.md" "\n---\nText\n".toList).2 entries loads
      exact ⟨entries, titled, taken.mpr (.inl (by decide))⟩
  | _ => cases titled

end Project.Frontmatter

end DocBinder
