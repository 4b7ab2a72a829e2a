import DocBinder.Yaml.Writer
import Mathlib.Data.List.Infix

/-!
# What YAML texts are written with

Whatever is written only adds to a page, and adds no carriage return: a string that holds one is written
in double quotes, where it becomes an escape. Therefore a YAML text is the same after its line ends are
read as line feeds, and a mapping with entries shows the colon behind its first key.
-/

namespace DocBinder

/-! ## Data -/

/-- Values without numbers other than whole ones, moments, bytes and sets. -/
inductive Value.IsData : Value → Prop where
  | null : IsData .null
  | int (number : Int) : IsData (.int number)
  | str (text : String) : IsData (.str text)
  | list {items : List Value} (areData : ∀ item ∈ items, item.IsData) : IsData (.list items)
  | map {entries : List (Value × Value)} (keys : ∀ entry ∈ entries, entry.1.IsData)
      (values : ∀ entry ∈ entries, entry.2.IsData) : IsData (.map entries)

theorem Value.IsData.record {fields : List (String × Value)} (areData : ∀ field ∈ fields, field.2.IsData) :
    (Value.record fields).IsData := by
  refine .map ?_ ?_
  · intro entry mem
    rcases List.mem_map.mp mem with ⟨field, _, rfl⟩
    exact .str field.1
  · intro entry mem
    rcases List.mem_map.mp mem with ⟨field, isField, rfl⟩
    exact areData field isField

namespace Yaml

/-! ## Digits -/

theorem exists_digitChar {base number : Nat} {character : Char} (many : 1 < base)
    (mem : character ∈ Nat.toDigits base number) : ∃ digit < base, character = Nat.digitChar digit := by
  induction number using Nat.strong_induction_on with
  | _ number step =>
      rw [Nat.toDigits_eq_if many] at mem
      split at mem
      · rename_i small
        exact ⟨number, small, List.mem_singleton.mp mem⟩
      · rename_i large
        rcases List.mem_append.mp mem with mem | mem
        · exact step _ (Nat.div_lt_self (by omega) many) mem
        · exact ⟨number % base, Nat.mod_lt _ (by omega), List.mem_singleton.mp mem⟩

theorem digitChar_ne : ∀ digit < 16, Nat.digitChar digit ≠ '\r' ∧ (Nat.digitChar digit).toUpper ≠ '\r' := by
  decide

theorem not_mem_toDigits (number : Nat) : '\r' ∉ Nat.toDigits 10 number := by
  intro mem
  rcases exists_digitChar (by decide) mem with ⟨digit, small, same⟩
  exact (digitChar_ne digit (by omega)).1 same.symm

theorem not_mem_toString (number : Int) : '\r' ∉ (toString number).toList := by
  rw [Int.toString_eq_repr]
  cases number with
  | ofNat number =>
      change '\r' ∉ number.repr.toList
      rw [Nat.toList_repr]
      exact not_mem_toDigits number
  | negSucc number =>
      change '\r' ∉ ("-" ++ (number + 1).repr).toList
      rw [String.toList_append, Nat.toList_repr, List.mem_append, not_or]
      exact ⟨by decide, not_mem_toDigits _⟩

/-! ## Escapes -/

theorem not_mem_escapeOf (character : Char) : '\r' ∉ escapeOf character := by
  have digits (width : Nat) : '\r' ∉ (hexDigits width character.toNat).map Char.toUpper := by
    intro mem
    rcases List.mem_map.mp mem with ⟨digit, mem, same⟩
    rcases List.mem_append.mp mem with mem | mem
    · rw [(List.mem_replicate.mp mem).2] at same
      exact absurd same (by decide)
    · rcases exists_digitChar (by decide) mem with ⟨number, small, rfl⟩
      exact (digitChar_ne number small).2 same
  rw [escapeOf]
  split
  · rename_i letter isLetter
    have mem : (character, letter) ∈ letterEscapes := by
      rcases List.lookup_eq_some_iff.mp isLetter with ⟨front, back, split, _⟩
      rw [split]
      exact List.mem_append_right _ List.mem_cons_self
    have others : letterEscapes.all (fun escape => escape.2 != '\r') = true := by decide
    have differs : letter ≠ '\r' := bne_iff_ne.mp (List.all_eq_true.mp others _ mem)
    simp [differs.symm]
  · have marked (mark : Char) (width : Nat) (differs : '\r' ≠ mark) :
        '\r' ∉ '\\' :: mark :: (hexDigits width character.toNat).map Char.toUpper := by
      simp only [List.mem_cons, not_or]
      exact ⟨by decide, differs, digits width⟩
    split
    · exact marked 'x' 2 (by decide)
    · split
      · exact marked 'u' 4 (by decide)
      · exact marked 'U' 8 (by decide)

theorem isSpecial_return : isSpecial '\r' = true := by
  decide

theorem not_mem_of_allowsPlain {text : Text} (allows : allowsPlain text = true) : '\r' ∉ text := by
  intro mem
  have special : text.any isSpecial = true := List.any_eq_true.mpr ⟨_, mem, isSpecial_return⟩
  simp [allowsPlain, special] at allows

theorem not_mem_of_allowsQuotes {text : Text} (allows : allowsQuotes text = true) : '\r' ∉ text := by
  intro mem
  have special : text.any isSpecial = true := List.any_eq_true.mpr ⟨_, mem, isSpecial_return⟩
  simp [allowsQuotes, special] at allows

/-! ## Pages -/

namespace Page

/-- A page goes on from another, without a carriage return in what was added. -/
def Extends (further page : Page) : Prop :=
  ∃ added : Text, further.reversed = added ++ page.reversed ∧ '\r' ∉ added

variable {page further last : Page} {characters : Text} {character : Char}

@[refl]
theorem Extends.refl (page : Page) : page.Extends page :=
  ⟨[], rfl, List.not_mem_nil⟩

theorem Extends.trans (second : last.Extends further) (first : further.Extends page) :
    last.Extends page := by
  rcases first with ⟨added, isFurther, free⟩
  rcases second with ⟨more, isLast, alsoFree⟩
  refine ⟨more ++ added, ?_, ?_⟩
  · rw [isLast, isFurther, List.append_assoc]
  · rw [List.mem_append, not_or]
    exact ⟨alsoFree, free⟩

theorem Extends.mem (extended : further.Extends page) (mem : character ∈ page.reversed) :
    character ∈ further.reversed := by
  rcases extended with ⟨added, isFurther, _⟩
  rw [isFurther]
  exact List.mem_append_right _ mem

theorem extends_put (page : Page) (free : '\r' ∉ characters) : (page.put characters).Extends page :=
  ⟨characters.reverse, rfl, by rwa [List.mem_reverse]⟩

theorem extends_mark (page : Page) (free : '\r' ∉ characters) (needsBlank ofCollection : Bool) :
    (page.mark characters needsBlank ofCollection).Extends page := by
  have spaced : '\r' ∉ if page.isSpaced || !needsBlank then characters else ' ' :: characters := by
    split
    · exact free
    · rw [List.mem_cons, not_or]
      exact ⟨by decide, free⟩
  exact extends_put page spaced

theorem extends_endLine (page : Page) (differs : character ≠ '\r') :
    (page.endLine character).Extends page :=
  ⟨[character], rfl, by rw [List.mem_singleton]; exact differs.symm⟩

theorem extends_blanks (page : Page) (count : Nat) : (page.put (List.replicate count ' ')).Extends page :=
  extends_put page fun mem => absurd (List.mem_replicate.mp mem).2 (by decide)

theorem extends_pad (page : Page) (column : Nat) : (page.pad column).Extends page := by
  rw [pad]
  split
  · exact extends_blanks page _
  · rfl

theorem extends_indent (page : Page) (column : Nat) : (page.indent column).Extends page := by
  rw [indent]
  refine (extends_pad _ column).trans ?_
  split
  · exact extends_endLine page (by decide)
  · rfl

theorem extends_afterWord (page : Page) : page.afterWord.Extends page :=
  ⟨[], rfl, List.not_mem_nil⟩

end Page

open Page

/-! ## Strings -/

/-- No carriage return is in a run of characters. -/
def Piece.Free : Piece → Prop
  | .word text => '\r' ∉ text
  | .blanks _ => True
  | .breaks text => '\r' ∉ text

theorem Piece.free_cons {character : Char} {pieces : List Piece} (differs : '\r' ≠ character)
    (free : ∀ piece ∈ pieces, piece.Free) : ∀ piece ∈ Piece.cons character pieces, piece.Free := by
  have single : '\r' ∉ [character] := by
    rw [List.mem_singleton]
    exact differs
  unfold Piece.cons
  split
  · split
    · rename_i count rest
      rw [List.forall_mem_cons] at free ⊢
      exact ⟨trivial, free.2⟩
    · exact List.forall_mem_cons.mpr ⟨trivial, free⟩
  · split
    · split
      · rename_i text rest
        rw [List.forall_mem_cons] at free ⊢
        exact ⟨List.not_mem_cons_of_ne_of_not_mem differs free.1, free.2⟩
      · exact List.forall_mem_cons.mpr ⟨single, free⟩
    · split
      · rename_i text rest
        rw [List.forall_mem_cons] at free ⊢
        exact ⟨List.not_mem_cons_of_ne_of_not_mem differs free.1, free.2⟩
      · exact List.forall_mem_cons.mpr ⟨single, free⟩

theorem Piece.free_ofText {text : Text} (free : '\r' ∉ text) :
    ∀ piece ∈ Piece.ofText text, piece.Free := by
  induction text with
  | nil => exact nofun
  | cons character text step =>
      rw [List.mem_cons, not_or] at free
      exact Piece.free_cons free.1 (step free.2)

theorem extends_putPlain (column : Nat) (mayBreak : Bool) {pieces : List Piece} (page : Page)
    (free : ∀ piece ∈ pieces, piece.Free) : (putPlain column mayBreak page pieces).Extends page := by
  induction pieces generalizing page with
  | nil => rfl
  | cons piece rest step =>
      rw [List.forall_mem_cons] at free
      cases piece with
      | word text => exact (step _ free.2).trans (extends_put page free.1)
      | breaks text => exact (step _ free.2).trans (extends_put page free.1)
      | blanks count =>
          refine (step _ free.2).trans ?_
          split
          · exact (extends_afterWord _).trans (extends_indent page column)
          · exact extends_blanks page count

theorem not_mem_doubleQuotes {text : Text} (free : '\r' ∉ text) : '\r' ∉ doubleQuotes text := by
  intro mem
  rcases List.mem_flatMap.mp mem with ⟨character, isPart, mem⟩
  split at mem
  · exact absurd mem (by decide)
  · rw [List.mem_singleton.mp mem] at free
    exact free isPart

theorem extends_foldl_endLine {breaks : Text} (page : Page) (free : '\r' ∉ breaks) :
    (breaks.foldl Page.endLine page).Extends page := by
  induction breaks generalizing page with
  | nil => rfl
  | cons character breaks step =>
      rw [List.mem_cons, not_or] at free
      exact (step _ free.2).trans (extends_endLine page (Ne.symm free.1))

theorem extends_putBreaks (column : Nat) {breaks : Text} (page : Page) (free : '\r' ∉ breaks) :
    (putBreaks column page breaks).Extends page := by
  refine (extends_indent _ column).trans ((extends_foldl_endLine _ free).trans ?_)
  split
  · exact extends_endLine page (by decide)
  · rfl

theorem extends_putSingle (column : Nat) (mayBreak isFirst : Bool) {pieces : List Piece} (page : Page)
    (free : ∀ piece ∈ pieces, piece.Free) :
    (putSingle column mayBreak isFirst page pieces).Extends page := by
  induction pieces generalizing page isFirst with
  | nil => rfl
  | cons piece rest step =>
      rw [List.forall_mem_cons] at free
      cases piece with
      | word text =>
          exact (step _ _ free.2).trans (extends_put page (not_mem_doubleQuotes free.1))
      | breaks text => exact (step _ _ free.2).trans (extends_putBreaks column page free.1)
      | blanks count =>
          refine (step _ _ free.2).trans ?_
          split
          · exact extends_indent page column
          · exact extends_blanks page count

theorem differs_of_not_isEscaped {character : Char} (plain : ¬ isEscaped character = true) :
    '\r' ≠ character := by
  rintro rfl
  exact plain (by decide)

theorem extends_putDouble (column : Nat) (mayBreak isFirst : Bool) {pending : Text} (page : Page)
    (text : Text) (free : '\r' ∉ pending) :
    (putDouble column mayBreak isFirst pending page text).Extends page := by
  induction text generalizing page pending isFirst with
  | nil => exact extends_put page free
  | cons character rest step =>
      have broken (page : Page) {pending : Text} (free : '\r' ∉ pending) (next : Bool) :
          (let page := (((page.put pending).put ['\\']).indent column).afterWord
          if next then page.put ['\\'] else page).Extends page := by
        have slashed : ((((page.put pending).put ['\\']).indent column).afterWord).Extends page :=
          (extends_afterWord _).trans ((extends_indent _ column).trans
            ((extends_put _ (by decide)).trans (extends_put page free)))
        dsimp only
        split
        · exact (extends_put _ (by decide)).trans slashed
        · exact slashed
      rw [putDouble]
      dsimp only
      by_cases escaped : isEscaped character = true
      · have written : ((page.put pending).put (escapeOf character)).Extends page :=
          (extends_put _ (not_mem_escapeOf character)).trans (extends_put page free)
        simp only [escaped, if_true]
        refine (step _ _ List.not_mem_nil).trans ?_
        split
        · exact (broken _ List.not_mem_nil _).trans written
        · exact written
      · have differs := differs_of_not_isEscaped escaped
        simp only [escaped, Bool.false_eq_true, if_false]
        refine (step _ _ ?_).trans ?_
        · rw [List.mem_append, List.mem_singleton, not_or]
          refine ⟨?_, differs⟩
          split
          · exact List.not_mem_nil
          · exact free
        · split
          · exact broken page free _
          · rfl

theorem allowsPlain_of_styleOf {text : Text} {isKey : Bool} (isStyle : styleOf text isKey = .plain) :
    allowsPlain text = true := by
  rw [styleOf] at isStyle
  split at isStyle
  · rename_i allows
    exact (Bool.and_eq_true_iff.mp allows).2
  · split at isStyle <;> cases isStyle

theorem allowsQuotes_of_styleOf {text : Text} {isKey : Bool} (isStyle : styleOf text isKey = .single) :
    allowsQuotes text = true := by
  rw [styleOf] at isStyle
  split at isStyle
  · cases isStyle
  · split at isStyle
    · rename_i allows
      exact (Bool.and_eq_true_iff.mp allows).1
    · cases isStyle

theorem extends_putString (column : Nat) (isKey : Bool) (text : Text) (page : Page) :
    (putString column isKey text page).Extends page := by
  rw [putString]
  cases isStyle : styleOf text isKey with
  | plain =>
      have free := Piece.free_ofText (not_mem_of_allowsPlain (allowsPlain_of_styleOf isStyle))
      refine (extends_putPlain _ _ _ free).trans ((extends_afterWord _).trans ?_)
      split
      · rfl
      · exact extends_put page (by decide)
  | single =>
      have free := Piece.free_ofText (not_mem_of_allowsQuotes (allowsQuotes_of_styleOf isStyle))
      exact (extends_mark _ (by decide) _ _).trans
        ((extends_putSingle _ _ _ _ free).trans (extends_mark page (by decide) _ _))
  | double =>
      exact (extends_mark _ (by decide) _ _).trans
        ((extends_putDouble _ _ _ _ text List.not_mem_nil).trans (extends_mark page (by decide) _ _))

/-! ## Values -/

theorem extends_putWord {word : Text} (page : Page) (free : '\r' ∉ word) :
    ((if page.isSpaced then page else page.put [' ']).put word).afterWord.Extends page := by
  refine (extends_afterWord _).trans ((extends_put _ free).trans ?_)
  split
  · rfl
  · exact extends_put page (by decide)

theorem extends_putKey (column : Nat) (key : Value) (page : Page) {put : Page → Page}
    (extended : ∀ page, (put page).Extends page) : (putKey column key put page).Extends page := by
  have indented := extends_indent page column
  unfold putKey
  split
  · split
    · exact (extends_mark _ (by decide) _ _).trans ((extends_putString _ _ _ _).trans indented)
    · exact (extends_mark _ (by decide) _ _).trans ((extended _).trans indented)
  · exact (extends_mark _ (by decide) _ _).trans ((extends_indent _ column).trans
      ((extended _).trans ((extends_mark _ (by decide) _ _).trans indented)))

theorem mem_mark {character : Char} {characters : Text} (mem : character ∈ characters) (page : Page)
    (needsBlank ofCollection : Bool) :
    character ∈ (page.mark characters needsBlank ofCollection).reversed := by
  apply List.mem_append_left
  rw [List.mem_reverse]
  split
  · exact mem
  · exact List.mem_cons_of_mem _ mem

theorem colon_mem_putKey (column : Nat) (key : Value) (put : Page → Page) (page : Page) :
    ':' ∈ (putKey column key put page).reversed := by
  unfold putKey
  split
  · split <;> exact mem_mark List.mem_cons_self _ _ _
  · exact mem_mark List.mem_cons_self _ _ _

mutual

theorem extends_putValue {value : Value} (isData : value.IsData) (indent : Option Nat)
    (inMapping : Bool) (page : Page) : (putValue indent inMapping page value).Extends page := by
  cases isData with
  | null => exact extends_putWord page (by decide)
  | int number => exact extends_putWord page (not_mem_toString number)
  | str text => exact extends_putString _ _ _ page
  | list areData =>
      rename_i items
      cases items with
      | nil => exact (extends_put _ (by decide)).trans (extends_mark page (by decide) _ _)
      | cons first rest =>
          rw [putValue]
          exact extends_putItems areData _ page
  | map keys values =>
      rename_i entries
      cases entries with
      | nil => exact (extends_put _ (by decide)).trans (extends_mark page (by decide) _ _)
      | cons first rest =>
          rw [putValue]
          exact extends_putEntries _ page keys values
termination_by sizeOf value

theorem extends_putItems {items : List Value} (areData : ∀ item ∈ items, item.IsData) (column : Nat)
    (page : Page) : (putItems column page items).Extends page := by
  cases items with
  | nil => rfl
  | cons item rest =>
      rw [List.forall_mem_cons] at areData
      have marked : ((page.indent column).mark ['-'] true true).Extends page :=
        (extends_mark _ (by decide) _ _).trans (extends_indent page column)
      have valued := extends_putValue areData.1 (some column) false
        ((page.indent column).mark ['-'] true true)
      have further := extends_putItems areData.2 column
        (putValue (some column) false ((page.indent column).mark ['-'] true true) item)
      rw [putItems]
      exact further.trans (valued.trans marked)
termination_by sizeOf items

theorem extends_putEntries (column : Nat) (page : Page) : ∀ {entries : List (Value × Value)},
    (∀ entry ∈ entries, entry.1.IsData) → (∀ entry ∈ entries, entry.2.IsData) →
      (putEntries column page entries).Extends page
  | [], _, _ => .refl page
  | (key, value) :: rest, keys, values => by
      rw [List.forall_mem_cons] at keys values
      have keyed := extends_putKey column key page (extends_putValue keys.1 (some column) true)
      have valued := extends_putValue values.1 (some column) true
        (putKey column key (fun page => putValue (some column) true page key) page)
      have further := extends_putEntries column (putValue (some column) true
        (putKey column key (fun page => putValue (some column) true page key) page) value) keys.2
        values.2
      rw [putEntries]
      exact further.trans (valued.trans keyed)
termination_by entries => sizeOf entries

end

/-! ## Texts -/

/-- A text of data holds no carriage return. -/
theorem not_mem_write {value : Value} (isData : value.IsData) : '\r' ∉ write value := by
  have whole := (extends_indent _ 0).trans (extends_putValue isData none false Page.blank)
  rcases whole with ⟨added, isAdded, free⟩
  rw [write, Page.text, isAdded, List.mem_reverse, List.mem_append, not_or]
  exact ⟨free, List.not_mem_nil⟩

/-- A mapping with entries shows the colon behind its first key. -/
theorem colon_mem_write {key value : Value} {rest : List (Value × Value)}
    (isData : (Value.map ((key, value) :: rest)).IsData) :
    ':' ∈ write (.map ((key, value) :: rest)) := by
  cases isData with
  | map keys values =>
      rw [List.forall_mem_cons] at keys values
      have shown := colon_mem_putKey 0 key (fun page => putValue (some 0) true page key) Page.blank
      have valued := (extends_putValue values.1 (some 0) true _).mem shown
      have further := (extends_putEntries 0 _ keys.2 values.2).mem valued
      rw [write, Page.text, List.mem_reverse]
      apply (extends_indent _ 0).mem
      rw [putValue, putEntries]
      exact further

end Yaml

end DocBinder
