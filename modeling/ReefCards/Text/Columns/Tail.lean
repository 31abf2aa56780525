import ReefCards.Text.Columns.Table

/-!
# What a character takes alone and before a tail

Widths are summed from the end of a text, so that a character is met together with what stands
after it. `Tail` keeps as much of that as can change the columns of the character, and `Tail.fuse?`
lists the characters that fuse with their tail: the parts of an emoji, letters of a ligature and a
line break of two characters. Main statement: `Tail.ofChar_of_ascii`.
-/

namespace ReefCards.Text

/-- The columns of a character within a text, where a control character takes one. -/
def charColumns (c : Char) : Nat :=
  if c.toNat < 0x7F then 1
  else if c = '\u17D8' then 3
  else if zeroWidthChars.contains c then 0
  else if wideChars.contains c then 2
  else 1

/-- Whether the character is one of the five skin tones of the emoji. -/
def isSkinTone (c : Char) : Bool := 0x1F3FB ≤ c.toNat && c.toNat ≤ 0x1F3FF

/-- Whether the character is one of the letters that spell a flag in pairs. -/
def isFlagLetter (c : Char) : Bool := 0x1F1E6 ≤ c.toNat && c.toNat ≤ 0x1F1FF

/-- Whether the character is one of the invisible letters that name the region of a flag. -/
def isTagLetter (c : Char) : Bool := 0xE0061 ≤ c.toNat && c.toNat ≤ 0xE007A

/-- Whether the character is one of the invisible digits that name the region of a flag. -/
def isTagDigit (c : Char) : Bool := 0xE0030 ≤ c.toNat && c.toNat ≤ 0xE0039

/-- The joiner that asks its neighbours to fuse. -/
def zeroWidthJoiner : Char := '\u200D'

/-- Arabic letters of the shape of alef. -/
def alefs : CharSet where
  ranges := [
    (0x0622, 0x0623), (0x0625, 0x0625), (0x0627, 0x0627), (0x0671, 0x0673), (0x0675, 0x0675),
    (0x0773, 0x0774), (0x0870, 0x0882)]

/-- Arabic letters of the shape of lam, which fuse with an alef after them. -/
def lams : CharSet where
  ranges := [
    (0x0644, 0x0644), (0x06B5, 0x06B8), (0x076A, 0x076A), (0x08A6, 0x08A6), (0x08C7, 0x08C7)]

/-- Khmer letters with a form below another letter. -/
def subjoinedKhmer : CharSet where
  ranges := [
    (0x1780, 0x1782), (0x1784, 0x1787), (0x1789, 0x178C), (0x178E, 0x1793), (0x1795, 0x1798),
    (0x179B, 0x179D), (0x17A0, 0x17A0), (0x17A2, 0x17A2), (0x17A7, 0x17A7), (0x17AB, 0x17AC),
    (0x17AF, 0x17AF)]

/-- Tifinagh consonants, two of which fuse around a joiner. -/
def tifinaghConsonants : CharSet where
  ranges := [(0x2D31, 0x2D65), (0x2D6F, 0x2D6F)]

/-- The letters, and beginnings of ligatures, that fuse with a letter before them. Marks that are
never drawn may stand in between. -/
inductive TailLetter where
  | hebrewLamed
  | khmer
  | bugineseYa
  | bugineseVowelYa
  | tifinagh
  | tifinaghPair
  | lisuTone
  | turkicI
  deriving DecidableEq, Repr

/-- The letter that a character is to the letters before it. -/
def TailLetter.ofChar? (c : Char) : Option TailLetter :=
  if c = '\u05DC' then some .hebrewLamed
  else if subjoinedKhmer.contains c then some .khmer
  else if c = '\u1A10' then some .bugineseYa
  else if tifinaghConsonants.contains c then some .tifinagh
  else if c = '\uA4FC' ∨ c = '\uA4FD' then some .lisuTone
  else if c.toNat = 0x10C03 then some .turkicI
  else none

/-- What stands right after a place in a text, as far as it changes the columns before it. -/
inductive Tail where
  | plain
  | lineFeed
  | alef
  /-- A letter, and whether a joiner stands before it. -/
  | letter (letter : TailLetter) (joined : Bool)
  /-- One or two of the Kirat Rai vowel E. -/
  | kiratVowel (double : Bool)
  | picture
  | skinTone
  | flagLetters (count : Nat)
  /-- A joiner before a picture, perhaps with the frame of a keycap before it. -/
  | joiner (keycap : Bool)
  /-- Flag letters before a joiner and a picture. -/
  | joinedFlagLetters (count : Nat)
  /-- The end of a flag's region name before a joiner and a picture. -/
  | joinedTags (letters digits : Nat)
  deriving DecidableEq, Repr

/-- What a character does to the width of a text: the columns it adds, and what it is for the
character before it. -/
abbrev Tail.Effect := Int × Tail

namespace Tail

/-- What a character is by itself for the character before it. -/
def ofChar (c : Char) : Tail :=
  if c = '\n' then .lineFeed
  else if alefs.contains c then .alef
  else if c.toNat = 0x16D67 then .kiratVowel false
  else if c.toNat = 0x16D68 then .kiratVowel true
  else if isFlagLetter c then .flagLetters 1
  else if isSkinTone c then .skinTone
  else if pictures.contains c then .picture
  else match TailLetter.ofChar? c with
    | some last => .letter last false
    | none => .plain

/-- The effect of a character before a letter that it fuses with. -/
def fuseLetter? (c : Char) (joined : Bool) : TailLetter → Option Effect
  | .hebrewLamed => if joined ∧ c = '\u05D0' then some (0, .plain) else none
  | .khmer => if c = '\u17D2' then some (-1, .plain) else none
  | .bugineseYa =>
    if joined ∧ c = '\u1A17' then some (0, .letter .bugineseVowelYa true) else none
  | .bugineseVowelYa => if c = '\u1A15' then some (0, .plain) else none
  | .tifinagh =>
    if c = '\u2D7F' then some (1, .letter .tifinaghPair true)
    else if joined ∧ tifinaghConsonants.contains c then some (0, .plain)
    else none
  | .tifinaghPair => if tifinaghConsonants.contains c then some (-1, .plain) else none
  | .lisuTone => if '\uA4F8' ≤ c ∧ c ≤ '\uA4FB' then some (0, .plain) else none
  | .turkicI => if joined ∧ c.toNat = 0x10C32 then some (0, .plain) else none

/-- The effect of a character before one or two of the Kirat Rai vowel E, as if every vowel were
written with its parts. -/
def fuseKiratVowel? (c : Char) (double : Bool) : Option Effect :=
  if c.toNat = 0x16D63 then some (0, .plain)
  else if double then none
  else if c.toNat = 0x16D67 then some (0, .kiratVowel true)
  else if c.toNat = 0x16D68 then some (1, .kiratVowel false)
  else if c.toNat = 0x16D69 then some (0, .plain)
  else none

/-- The effect of a joiner before something that a picture may fuse with. -/
def fuseJoiner? (c : Char) : Option Effect :=
  if c = zeroWidthJoiner then some (0, .joiner false) else none

/-- The effect of a character before a joiner and a picture. The columns of the fused picture are
those of its last part. -/
def fuseJoined? (c : Char) : Option Effect :=
  if c = '\u20E3' then some (0, .joiner true)
  else if isFlagLetter c then some (1, .joinedFlagLetters 1)
  else if isSkinTone c then some (0, .skinTone)
  else if c.toNat = 0xE007F then some (0, .joinedTags 0 0)
  else if pictures.contains c then some (0, .picture)
  else none

/-- The effect of a character before flag letters, a joiner and a picture. The last pair of an even
number of letters is the flag that the picture fuses with, and a lone last letter stands apart. -/
def fuseJoinedFlag? (c : Char) (count : Nat) : Option Effect :=
  if isFlagLetter c then
    some (if count % 2 = 1 then -1 else 3, .joinedFlagLetters (count + 1))
  else if 1 < count then fuseJoiner? c
  else none

/-- The effect of a character before the end of a flag's region name, which has either three to six
letters, or three digits and up to four letters. -/
def fuseJoinedTags? (c : Char) (letters digits : Nat) : Option Effect :=
  if isTagLetter c ∧ digits = 0 ∧ letters < 6 then some (0, .joinedTags (letters + 1) 0)
  else if isTagDigit c ∧ digits < 3 ∧ letters ≤ 4 then some (0, .joinedTags letters (digits + 1))
  else if c.toNat = 0x1F3F4 ∧ (digits = 3 ∨ digits = 0 ∧ 3 ≤ letters) then some (0, .picture)
  else none

/-- The effect of a character that fuses with the tail; any other has its own. -/
def fuse? (tail : Tail) (c : Char) : Option Effect :=
  match tail with
  | .plain => none
  | .lineFeed => if c = '\r' then some (0, .plain) else none
  | .alef =>
    if lams.contains c then some (0, .plain)
    else if zeroWidthChars.contains c && !separatingChars.contains c then some (0, .alef)
    else none
  | .letter last joined => fuseLetter? c joined last
  | .kiratVowel double => fuseKiratVowel? c double
  | .picture => fuseJoiner? c
  | .skinTone => if toneBases.contains c then some (0, .picture) else fuseJoiner? c
  | .flagLetters count =>
    if isFlagLetter c then some (1, .flagLetters (count + 1))
    else if 1 < count then fuseJoiner? c
    else none
  | .joiner keycap => if keycap then none else fuseJoined? c
  | .joinedFlagLetters count => fuseJoinedFlag? c count
  | .joinedTags letters digits => fuseJoinedTags? c letters digits

/-- The effect of a character before the tail. -/
def before (tail : Tail) (c : Char) : Effect :=
  (tail.fuse? c).getD (charColumns c, .ofChar c)

/-- A printable ASCII character means nothing to the one before it. -/
theorem ofChar_of_ascii (c : Char) (hlow : 0x20 ≤ c.toNat) (hhigh : c.toNat < 0x7F) :
    ofChar c = .plain := by
  have hne (d : Char) (hd : d.toNat < 0x20 ∨ 0x7F ≤ d.toNat) : c ≠ d := by
    rintro rfl
    omega
  have hset (set : CharSet) (h : ∀ range ∈ set.ranges, 0x7F ≤ range.1) :
      set.contains c = false := set.contains_eq_false_of_lt 0x7F c h hhigh
  have hflag : isFlagLetter c = false := by
    simp only [isFlagLetter, Bool.and_eq_false_iff, decide_eq_false_iff_not]
    omega
  have htone : isSkinTone c = false := by
    simp only [isSkinTone, Bool.and_eq_false_iff, decide_eq_false_iff_not]
    omega
  have hnumber (n : Nat) (hn : 0x7F ≤ n) : c.toNat ≠ n := by omega
  have hletter : TailLetter.ofChar? c = none := by
    simp only [TailLetter.ofChar?, hne '\u05DC' (by decide), hne '\u1A10' (by decide),
      hne '\uA4FC' (by decide), hne '\uA4FD' (by decide), hnumber 0x10C03 (by decide),
      hset subjoinedKhmer (by decide), hset tifinaghConsonants (by decide), or_self,
      Bool.false_eq_true, if_false]
  simp only [ofChar, hne '\n' (by decide), hset alefs (by decide),
    hset pictures (by decide +kernel), hnumber 0x16D67 (by decide), hnumber 0x16D68 (by decide),
    hflag, htone, hletter, Bool.false_eq_true, if_false]

end Tail
end ReefCards.Text
