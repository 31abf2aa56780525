import Mathlib.Algebra.GroupWithZero.Nat
import ReefCards.Text.Columns

/-!
# Columns of a text and of its characters

`columns` measures a text as a whole, while `loneColumns` adds up its characters as if each stood
alone. The books of a measure are kept from the end of the text: `Ahead.debt` is what the
characters in front may still take back of the columns counted, `Ahead.credit` what they may still
add to their own, and `Ahead.accounted_step` says that one more character keeps both in bounds.

Main statements: `measure_nonneg`, no column is ever taken back that was not counted before;
`columns_le_add_countP`, a text is at most as wide as its characters apart from one column for each
of the characters that `isUncounted` lists; `columns_concat_ellipsis`, an ellipsis at the end takes
a column.
-/

namespace ReefCards

/-- A character between two bounds is in no set whose ranges are outside of them. -/
theorem CharSet.contains_eq_false_of_outside (set : CharSet) {c : Char} (low high : Nat)
    (hset : ∀ range ∈ set.ranges, high < range.1 ∨ range.2 < low)
    (hc : low ≤ c.toNat ∧ c.toNat ≤ high) : set.contains c = false := by
  rw [CharSet.contains, List.any_eq_false]
  intro range hrange
  have := hset range hrange
  simp only [Bool.and_eq_true, decide_eq_true_eq]
  omega

namespace Text

/-- The columns of the characters of a text, each on its own. -/
def loneColumns (text : Text) : Nat := (text.map loneCharColumns).sum

@[simp] theorem loneColumns_nil : loneColumns [] = 0 := rfl

@[simp] theorem loneColumns_cons (c : Char) (rest : Text) :
    loneColumns (c :: rest) = loneCharColumns c + loneColumns rest := by
  simp [loneColumns]

/-- Stretches of the characters without one of zero width. The characters that add more than their
own columns, or have some taken back, lie in them. -/
def drawnStretches : List (Nat × Nat) := [
  -- Few and wide, for each of them is compared with all of `zeroWidthChars`.
  (0x0000, 0x00AC), (0x00AE, 0x02FF), (0x1774, 0x17B3), (0x2010, 0x2029), (0x202F, 0x205F),
  (0x20F1, 0x2CEE), (0x2CF2, 0x2DDF), (0x3030, 0x3098), (0x3165, 0xA66E), (0x16B37, 0x16F4E),
  (0x1E94B, 0xDFFFF)]

/-- A character between two bounds within a drawn stretch takes a column. -/
theorem one_le_charColumns {c : Char} (bounds : Nat × Nat)
    (hdrawn : ∃ stretch ∈ drawnStretches, stretch.1 ≤ bounds.1 ∧ bounds.2 ≤ stretch.2)
    (hc : bounds.1 ≤ c.toNat ∧ c.toNat ≤ bounds.2) : 1 ≤ charColumns c := by
  have hzero : ∀ stretch ∈ drawnStretches, ∀ range ∈ zeroWidthChars.ranges,
      stretch.2 < range.1 ∨ range.2 < stretch.1 := by decide +kernel
  obtain ⟨stretch, hstretch, hlow, hhigh⟩ := hdrawn
  have := zeroWidthChars.contains_eq_false_of_outside stretch.1 stretch.2 (hzero stretch hstretch)
    (show stretch.1 ≤ c.toNat ∧ c.toNat ≤ stretch.2 by omega)
  grind [charColumns]

/-- A character of a set takes a column if the ranges of the set are within drawn stretches. -/
theorem one_le_charColumns_of_mem (set : CharSet) {c : Char}
    (hset : ∀ bounds ∈ set.ranges,
      ∃ stretch ∈ drawnStretches, stretch.1 ≤ bounds.1 ∧ bounds.2 ≤ stretch.2)
    (hc : set.contains c = true) : 1 ≤ charColumns c := by
  rw [CharSet.contains, List.any_eq_true] at hc
  obtain ⟨bounds, hbounds, hin⟩ := hc
  exact one_le_charColumns bounds (hset bounds hbounds) (by simpa using hin)

namespace Tail

/-- What the characters before a tail may take back of the columns counted. -/
def debt : Tail → Int
  -- The letter and the joiner are drawn with the letter before them.
  | .letter .khmer _ => 1
  | .letter .tifinaghPair _ => 1
  -- A second letter makes the first part of the picture.
  | .joinedFlagLetters count => if count % 2 = 1 then 1 else 0
  | _ => 0

/-- What the characters before a tail may add to their own columns. -/
def credit : Tail → Int
  -- A third letter leaves the picture without its flag, and the flag takes its columns.
  | .joinedFlagLetters count => if count % 2 = 1 then 0 else 2
  | _ => 0

theorem debt_nonneg (tail : Tail) : 0 ≤ tail.debt := by
  fun_cases debt tail <;> decide

theorem credit_nonneg (tail : Tail) : 0 ≤ tail.credit := by
  fun_cases credit tail <;> decide

/-- An effect of the character on the tail takes back no more than what is owed, and adds no more
than the character's columns and what is credited. -/
structure Accounted (tail : Tail) (c : Char) (effect : Effect) : Prop where
  owed : effect.2.debt ≤ tail.debt + effect.1
  credited : effect.1 + effect.2.credit ≤ tail.credit + charColumns c

variable {tail : Tail} {c : Char} {effect : Effect}

/-- A character may add some of its columns if they cover what is owed after it. -/
theorem Accounted.covered {added : Int} {next : Tail} (hdebt : next.debt ≤ added)
    (hadded : added ≤ charColumns c) (hcredit : next.credit = 0) :
    tail.Accounted c (added, next) where
  owed := by have := tail.debt_nonneg; simp only; omega
  credited := by have := tail.credit_nonneg; simp only; omega

/-- A character may add no column if it leaves neither debt nor credit. -/
theorem Accounted.settled {next : Tail} (hdebt : next.debt = 0) (hcredit : next.credit = 0) :
    tail.Accounted c (0, next) :=
  .covered (Int.le_of_eq hdebt) (Int.natCast_nonneg _) hcredit

/-- A letter that the one before it can take back takes a column itself. -/
theorem debt_letter_le {last : TailLetter} (h : TailLetter.ofChar? c = some last)
    (joined : Bool) : (letter last joined).debt ≤ charColumns c := by
  revert h
  fun_cases TailLetter.ofChar? c with
  | case2 _ hkhmer =>
    rintro ⟨⟩
    have := one_le_charColumns_of_mem subjoinedKhmer (by decide) hkhmer
    simp only [debt]
    omega
  | _ => rintro ⟨⟩ <;> simp [debt]

/-- What is owed after a character that stands apart is covered by its columns. -/
theorem debt_ofChar_le (c : Char) : (ofChar c).debt ≤ charColumns c := by
  fun_cases ofChar c with
  | case8 _ _ _ _ _ _ _ last h => exact debt_letter_le h false
  | _ => simp [debt]

theorem credit_ofChar (c : Char) : (ofChar c).credit = 0 := by
  fun_cases ofChar c <;> rfl

/-- Only the joiner of a pair adds its column, and the two letters that owe one let it be taken. -/
theorem accounted_fuseLetter? {joined : Bool} {last : TailLetter}
    (h : fuseLetter? c joined last = some effect) : (letter last joined).Accounted c effect := by
  cases last <;> simp only [fuseLetter?, Option.ite_none_right_eq_some, Option.some.injEq] at h
  case khmer | tifinaghPair =>
    obtain ⟨-, rfl⟩ := h
    exact ⟨by simp [debt], by simp [credit]⟩
  case tifinagh =>
    split at h
    next hjoiner =>
      obtain rfl := Option.some.inj h
      have : 1 ≤ charColumns c :=
        one_le_charColumns (0x2D7F, 0x2D7F) (by decide) (by rw [hjoiner]; decide)
      exact .covered (Int.le_refl _) (by omega) rfl
    next =>
      simp only [Option.ite_none_right_eq_some, Option.some.injEq] at h
      obtain ⟨-, rfl⟩ := h
      exact .settled rfl rfl
  all_goals
    obtain ⟨-, rfl⟩ := h
    exact .settled rfl rfl

theorem accounted_fuseKiratVowel? {double : Bool}
    (h : fuseKiratVowel? c double = some effect) : (kiratVowel double).Accounted c effect := by
  revert h
  fun_cases fuseKiratVowel? c double with
  | case4 _ _ _ hvowel =>
    rintro ⟨⟩
    have : 1 ≤ charColumns c := one_le_charColumns (0x16D68, 0x16D68) (by decide) (by simp [hvowel])
    exact .covered (by decide) (by omega) rfl
  | _ => rintro ⟨⟩ <;> exact .settled rfl rfl

theorem accounted_fuseJoiner? (tail : Tail) (h : fuseJoiner? c = some effect) :
    tail.Accounted c effect := by
  simp only [fuseJoiner?, Option.ite_none_right_eq_some, Option.some.injEq] at h
  obtain ⟨-, rfl⟩ := h
  exact .settled rfl rfl

/-- A letter of a flag takes a column. -/
theorem one_le_charColumns_of_isFlagLetter (h : isFlagLetter c = true) : 1 ≤ charColumns c :=
  one_le_charColumns (0x1F1E6, 0x1F1FF) (by decide) (by simpa [isFlagLetter] using h)

theorem accounted_fuseJoined? {keycap : Bool} (h : fuseJoined? c = some effect) :
    (joiner keycap).Accounted c effect := by
  revert h
  fun_cases fuseJoined? c with
  | case2 _ hflag =>
    rintro ⟨⟩
    have := one_le_charColumns_of_isFlagLetter hflag
    exact .covered (Int.le_refl _) (by omega) rfl
  | _ => rintro ⟨⟩ <;> exact .settled rfl rfl

/-- The last pair of an even number of flag letters is part of the picture, and takes its columns
back. An odd letter before it breaks the pair up, and brings these columns beside its own. -/
theorem accounted_fuseJoinedFlag? {count : Nat} (h : fuseJoinedFlag? c count = some effect) :
    (joinedFlagLetters count).Accounted c effect := by
  revert h
  fun_cases fuseJoinedFlag? c count with
  | case1 hflag =>
    rintro ⟨⟩
    have := one_le_charColumns_of_isFlagLetter hflag
    constructor <;> simp only [debt, credit] <;> grind
  | case2 => exact accounted_fuseJoiner? _
  | case3 => rintro ⟨⟩

theorem accounted_fuseJoinedTags? {letters digits : Nat}
    (h : fuseJoinedTags? c letters digits = some effect) :
    (joinedTags letters digits).Accounted c effect := by
  revert h
  fun_cases fuseJoinedTags? c letters digits <;> rintro ⟨⟩ <;> exact .settled rfl rfl

/-- A character that fuses with the tail keeps the books. -/
theorem accounted_fuse? (h : tail.fuse? c = some effect) : tail.Accounted c effect := by
  cases tail with
  | plain => cases h
  | lineFeed =>
    simp only [fuse?, Option.ite_none_right_eq_some, Option.some.injEq] at h
    obtain ⟨-, rfl⟩ := h
    exact .settled rfl rfl
  | alef =>
    simp only [fuse?] at h
    split at h
    · obtain rfl := Option.some.inj h
      exact .settled rfl rfl
    · simp only [Option.ite_none_right_eq_some, Option.some.injEq] at h
      obtain ⟨-, rfl⟩ := h
      exact .settled rfl rfl
  | letter last joined => exact accounted_fuseLetter? h
  | kiratVowel double => exact accounted_fuseKiratVowel? h
  | picture => exact accounted_fuseJoiner? _ h
  | skinTone =>
    simp only [fuse?] at h
    split at h
    · obtain rfl := Option.some.inj h
      exact .settled rfl rfl
    · exact accounted_fuseJoiner? _ h
  | flagLetters count =>
    simp only [fuse?] at h
    split at h
    next hflag =>
      obtain rfl := Option.some.inj h
      have := one_le_charColumns_of_isFlagLetter hflag
      exact .covered Int.one_nonneg (by omega) rfl
    next =>
      rw [Option.ite_none_right_eq_some] at h
      exact accounted_fuseJoiner? _ h.2
  | joiner keycap =>
    cases keycap with
    | false => exact accounted_fuseJoined? h
    | true => cases h
  | joinedFlagLetters count => exact accounted_fuseJoinedFlag? h
  | joinedTags letters digits => exact accounted_fuseJoinedTags? h

/-- A character before a tail keeps the books, whether it fuses or stands apart. -/
theorem accounted_before (tail : Tail) (c : Char) : tail.Accounted c (tail.before c) := by
  rw [before]
  cases h : tail.fuse? c with
  | some effect => exact accounted_fuse? h
  | none => exact .covered (debt_ofChar_le c) (Int.le_refl _) (credit_ofChar c)

end Tail

/-- What the selector that a character is may add to the columns of the character before it. -/
def selectorColumns (c : Char) : Nat :=
  match Selector.ofChar? c with
  | some .picture | some .wideQuote => 1
  | some .sign | none => 0

namespace Ahead

/-- What the characters before a place may take back of the columns counted. -/
def debt (ahead : Ahead) : Int := ahead.tail.debt

/-- What the characters before a place may add to their own columns. -/
def credit (ahead : Ahead) : Int :=
  ahead.tail.credit + (if ahead.picture then 1 else 0) + (if ahead.wideQuote then 1 else 0)

/-- An effect of the character takes back no more than what is owed, and adds no more than the
character's columns, those that it selects and what is credited. -/
structure Accounted (ahead : Ahead) (c : Char) (effect : Int × Ahead) : Prop where
  owed : effect.2.debt ≤ ahead.debt + effect.1
  credited : effect.1 + effect.2.credit ≤ ahead.credit + charColumns c + selectorColumns c

variable {ahead less : Ahead} {c : Char} {effect : Int × Ahead}

theorem debt_nonneg (ahead : Ahead) : 0 ≤ ahead.debt := ahead.tail.debt_nonneg

theorem credit_nonneg (ahead : Ahead) : 0 ≤ ahead.credit := by
  have := ahead.tail.credit_nonneg
  unfold credit
  grind

/-- No more is owed and no more is credited in the one than in the other. -/
structure HasNoMore (less ahead : Ahead) : Prop where
  debt_le : less.debt ≤ ahead.debt
  credit_le : less.credit ≤ ahead.credit

theorem HasNoMore.refl (ahead : Ahead) : ahead.HasNoMore ahead := ⟨Int.le_refl _, Int.le_refl _⟩

/-- A character may heed less than what is ahead. -/
theorem Accounted.of_hasNoMore (h : less.Accounted c effect) (hless : less.HasNoMore ahead) :
    ahead.Accounted c effect where
  owed := by have := h.owed; have := hless.debt_le; omega
  credited := by have := h.credited; have := hless.credit_le; omega

theorem hasNoMore_throughSelector (ahead : Ahead) : ahead.throughSelector.HasNoMore ahead := by
  fun_cases throughSelector ahead with
  | case3 => exact ⟨ahead.debt_nonneg, ahead.credit_nonneg⟩
  | _ => exact .refl ahead

theorem hasNoMore_withoutPicture (ahead : Ahead) : ahead.withoutPicture.HasNoMore ahead := by
  fun_cases withoutPicture ahead with
  | case1 =>
    have hthrough := ahead.hasNoMore_throughSelector
    have hcredit := hthrough.credit_le
    refine ⟨hthrough.debt_le, ?_⟩
    unfold credit at hcredit ⊢
    grind
  | case2 => exact .refl ahead

/-- Asking for a picture credits at most one column more. -/
theorem credit_picture_le (ahead : Ahead) :
    credit { ahead with picture := true } ≤ ahead.credit + 1 := by
  unfold credit
  grind

/-- Asking for a wide quotation mark credits at most one column more. -/
theorem credit_wideQuote_le (ahead : Ahead) :
    credit { ahead with wideQuote := true } ≤ ahead.credit + 1 := by
  unfold credit
  grind

/-- A selector lets what is owed through, and is credited the columns that it may add. -/
theorem accounted_select (ahead : Ahead) {selector : Selector}
    (h : Selector.ofChar? c = some selector) : ahead.Accounted c (0, ahead.select selector) := by
  obtain ⟨hdebt, hcredit⟩ := ahead.hasNoMore_throughSelector
  suffices hnext : (ahead.select selector).debt ≤ ahead.debt ∧
      (ahead.select selector).credit ≤ ahead.credit + selectorColumns c by
    exact ⟨by simp only; omega, by simp only; omega⟩
  cases selector with
  | picture =>
    have hcolumns : selectorColumns c = 1 := by simp [selectorColumns, h]
    have hhere := ahead.credit_picture_le
    have hthrough := ahead.throughSelector.credit_picture_le
    rw [select, hcolumns]
    split
    · exact ⟨Int.le_refl _, hhere⟩
    · exact ⟨hdebt, Int.le_trans hthrough (by omega)⟩
  | sign =>
    have hsame : (ahead.select .sign).credit = ahead.throughSelector.credit := rfl
    exact ⟨hdebt, by omega⟩
  | wideQuote =>
    have hcolumns : selectorColumns c = 1 := by simp [selectorColumns, h]
    have hthrough := ahead.throughSelector.credit_wideQuote_le
    rw [select, hcolumns]
    exact ⟨hdebt, Int.le_trans hthrough (by omega)⟩

/-- The effect on the tail, which a wide quotation mark does not heed. -/
theorem accounted_apart (ahead : Ahead) (c : Char) :
    ahead.Accounted c
      (stepTail.apart (Tail.before (if ahead.wideQuote then .plain else ahead.tail) c)) := by
  obtain ⟨howed, hcredited⟩ :=
    (if ahead.wideQuote then Tail.plain else ahead.tail).accounted_before c
  have hdebt := ahead.tail.debt_nonneg
  have hcredit := ahead.tail.credit_nonneg
  constructor
  · simp only [stepTail.apart, debt]
    grind [Tail.debt]
  · simp only [stepTail.apart, credit]
    grind [Tail.credit]

theorem accounted_stepTail (ahead : Ahead) (c : Char) : ahead.Accounted c (ahead.stepTail c) := by
  unfold stepTail
  split
  next last joined htail =>
    split
    · constructor
      · simp only [debt, htail]
        cases last <;> simp [Tail.debt]
      · simp only [credit, htail, Tail.credit]
        omega
    · split
      · constructor <;> simp only <;> omega
      · rw [← htail]
        exact ahead.accounted_apart c
  next tail htail => exact ahead.accounted_apart c

/-- A picture that a selector turns into a sign takes a column. -/
theorem one_le_charColumns_of_selectable (h : selectable.contains c = true) : 1 ≤ charColumns c :=
  one_le_charColumns_of_mem selectable (by decide +kernel) h

/-- A curved quotation mark takes a column, and a second one where a selector makes it wide. -/
theorem one_le_charColumns_of_isCurvedQuote (h : isCurvedQuote c = true) : 1 ≤ charColumns c := by
  simp only [isCurvedQuote, Bool.or_eq_true, decide_eq_true_eq] at h
  obtain ((rfl | rfl) | rfl) | rfl := h <;> decide +kernel

/-- A character may add columns that are its own or credited if nothing is owed after it. -/
theorem Accounted.covered {added : Int} {next : Tail} (hnonneg : 0 ≤ added)
    (hdebt : next.debt = 0) (hcredit : next.credit = 0)
    (hadded : added ≤ ahead.credit + charColumns c) :
    ahead.Accounted c (added, { tail := next }) where
  owed := by
    have := ahead.debt_nonneg
    simp only [debt, hdebt] at this ⊢
    omega
  credited := by
    have hnext : credit { tail := next } = 0 := by simp [credit, hcredit]
    rw [hnext]
    omega

theorem accounted_stepSign (ahead : Ahead) (c : Char) : ahead.Accounted c (ahead.stepSign c) := by
  fun_cases stepSign ahead c with
  | case1 _ hsign =>
    have := ahead.credit_nonneg
    have : 1 ≤ charColumns c := by
      simp only [hasSign, Bool.and_eq_true] at hsign
      exact one_le_charColumns_of_selectable hsign.1.1
    exact .covered Int.one_nonneg rfl rfl (by omega)
  | case2 =>
    exact (accounted_stepTail { ahead with sign := false } c).of_hasNoMore
      ⟨Int.le_refl _, Int.le_refl _⟩
  | case3 _ hquote =>
    have := ahead.tail.credit_nonneg
    simp only [Bool.and_eq_true] at hquote
    have hcolumn := one_le_charColumns_of_isCurvedQuote hquote.2
    exact .covered (by decide) rfl rfl (by simp only [credit, hquote.1]; grind)
  | case4 =>
    exact (accounted_stepTail { ahead with wideQuote := false } c).of_hasNoMore
      ⟨Int.le_refl _, by simp only [credit]; grind⟩

/-- A character keeps the books of what is ahead. -/
theorem accounted_step (ahead : Ahead) (c : Char) : ahead.Accounted c (ahead.step c) := by
  fun_cases step ahead c with
  | case1 h =>
    simp only [Bool.and_eq_true] at h
    have hcolumn := one_le_charColumns_of_selectable h.2
    have := ahead.tail.credit_nonneg
    refine .covered ?_ rfl rfl ?_ <;> simp only [pictureColumns, credit, h.1] <;> grind
  | case2 _ selector hselector =>
    exact (accounted_select ahead.withoutPicture hselector).of_hasNoMore
      ahead.hasNoMore_withoutPicture
  | case3 =>
    exact (accounted_stepSign ahead.withoutPicture c).of_hasNoMore ahead.hasNoMore_withoutPicture

end Ahead

/-- The books of a text hold: what was counted covers what may be taken back, and stays within the
columns of the characters and those that selectors add. -/
theorem measure_accounted (text : Text) :
    (measure text).2.debt ≤ (measure text).1 ∧
    (measure text).1 + (measure text).2.credit ≤
      (text.map fun c => charColumns c + selectorColumns c).sum := by
  induction text with
  | nil => decide
  | cons c rest ih =>
    -- What the character adds is the same on both sides of each of the two books.
    obtain ⟨howed, hcredited⟩ := (measure rest).2.accounted_step c
    simp only [measure, List.map_cons, List.sum_cons]
    omega

/-- No column is taken back that was not counted. -/
theorem measure_nonneg (text : Text) : 0 ≤ (measure text).1 :=
  Int.le_trans (measure text).2.debt_nonneg (measure_accounted text).1

/-- Whether a text may count a column for the character that the character does not take on its
own: control characters, and the selectors that make the character before them wider. -/
def isUncounted (c : Char) : Bool :=
  isControl c || c = '\uFE0F' || c = '\uFE01'

/-- A control character takes a column within a text. -/
theorem charColumns_of_isControl {c : Char} (h : isControl c = true) : charColumns c = 1 := by
  have hlow : c.toNat < 0xA0 := by
    simp only [isControl, Bool.or_eq_true, Bool.and_eq_true, decide_eq_true_eq] at h
    omega
  have hzero := zeroWidthChars.contains_eq_false_of_lt 0xA0 c (by decide +kernel) hlow
  have hwide := wideChars.contains_eq_false_of_lt 0xA0 c (by decide +kernel) hlow
  have hne : c ≠ '\u17D8' := by
    rintro rfl
    exact absurd hlow (by decide)
  simp only [charColumns, hzero, hwide, hne, Bool.false_eq_true, if_false, ite_self]

/-- The selectors that add a column are those that make a picture or a quotation mark wide. -/
theorem selectorColumns_eq (c : Char) :
    selectorColumns c = if c = '\uFE0F' ∨ c = '\uFE01' then 1 else 0 := by
  simp only [selectorColumns, Selector.ofChar?]
  grind

/-- What a text may count for a character, in terms of what the character takes on its own. -/
theorem charColumns_add_selectorColumns (c : Char) :
    charColumns c + selectorColumns c = loneCharColumns c + if isUncounted c then 1 else 0 := by
  rw [selectorColumns_eq]
  by_cases hcontrol : isControl c = true
  · have hselector : ¬(c = '\uFE0F' ∨ c = '\uFE01') := by
      rintro (rfl | rfl) <;> exact absurd hcontrol (by decide)
    simp [isUncounted, loneCharColumns, hcontrol, hselector, charColumns_of_isControl]
  · simp [isUncounted, loneCharColumns, hcontrol]

/-- A text is no wider than its characters, apart from a column for each uncounted one. -/
theorem columns_le_add_countP (text : Text) :
    columns text ≤ loneColumns text + text.countP isUncounted := by
  have hsum : (text.map fun c => charColumns c + selectorColumns c).sum =
      loneColumns text + text.countP isUncounted := by
    induction text with
    | nil => rfl
    | cons c rest ih =>
      simp only [List.map_cons, List.sum_cons, charColumns_add_selectorColumns c, ih,
        loneColumns_cons, List.countP_cons]
      omega
  have hcredit := (measure text).2.credit_nonneg
  have hbound := (measure_accounted text).2
  unfold columns
  omega

/-- A text without uncounted characters is no wider than its characters. -/
theorem columns_le_loneColumns {text : Text} (h : ∀ c ∈ text, isUncounted c = false) :
    columns text ≤ loneColumns text := by
  have hnone : text.countP isUncounted = 0 := List.countP_eq_zero.2 fun c hc => by simp [h c hc]
  have := columns_le_add_countP text
  omega

/-- An ellipsis at the end takes a column and changes nothing before it. -/
theorem measure_concat_ellipsis (text : Text) :
    measure (text ++ ['…']) = ((measure text).1 + 1, (measure text).2) := by
  induction text with
  | nil => decide +kernel
  | cons c rest ih =>
    simp only [List.cons_append, measure, ih, Int.add_right_comm]

/-- An ellipsis at the end takes a column. -/
theorem columns_concat_ellipsis (text : Text) :
    columns (text ++ ['…']) = columns text + 1 := by
  have := measure_nonneg text
  rw [columns, columns, measure_concat_ellipsis]
  omega

end Text
end ReefCards
