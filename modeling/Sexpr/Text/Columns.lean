/-
Display columns of a text.

Alone, a character takes one column, two when it is wide, and none when it is
attached to a neighbour.  In a text some characters form one shape with what
follows them: cursive letters and ligatures, pictures joined to pictures, pairs
of flag letters, and characters whose style a variation selector chooses.  So
the text is read from its end, and each character adds columns according to the
start of the text after it.

ASCII has no such shapes.  There every character takes one column, the control
characters included, and `columns_of_ascii` says that the width of an ASCII text
is its length.
-/
import Sexpr.Text.Attached
import Sexpr.Text.Emoji
import Sexpr.Text.Wide

namespace Sexpr
namespace Text

/-- The number of columns a character takes alone.  The Khmer sign for "and so
on" stands for three letters. -/
def charColumns (c : Char) : Nat :=
  if c.toNat < 0x80 then 1
  else if c.toNat = 0x17D8 then 3
  else if isAttached c then 0
  else if isWide c then 2
  else 1

/-! ## Letters that take part in ligatures -/

/-- The Arabic letters of the shape of alef. -/
def alefRanges : List (Nat × Nat) :=
  [(0x622, 0x623), (0x625, 0x625), (0x627, 0x627), (0x671, 0x673), (0x675, 0x675),
   (0x773, 0x774), (0x870, 0x882)]

/-- The Arabic letters of the shape of lam. -/
def lamRanges : List (Nat × Nat) :=
  [(0x644, 0x644), (0x6B5, 0x6B8), (0x76A, 0x76A), (0x8A6, 0x8A6), (0x8C7, 0x8C7)]

/-- The Khmer letters that can be written below another. -/
def subscriptRanges : List (Nat × Nat) :=
  [(0x1780, 0x1782), (0x1784, 0x1787), (0x1789, 0x178C), (0x178E, 0x1793), (0x1795, 0x1798),
   (0x179B, 0x179D), (0x17A0, 0x17A0), (0x17A2, 0x17A2), (0x17A7, 0x17A7), (0x17AB, 0x17AC),
   (0x17AF, 0x17AF)]

def consonantRanges : List (Nat × Nat) :=
  [(0x2D31, 0x2D65), (0x2D6F, 0x2D6F)]

def isConsonant (c : Char) : Bool := inRanges consonantRanges c.toNat

/-- The first marks of a Lisu tone written with two marks. -/
def isToneStart (c : Char) : Bool := 0xA4F8 ≤ c.toNat && c.toNat ≤ 0xA4FB

/-- The last marks of a Lisu tone written with two marks. -/
def isToneEnd (c : Char) : Bool := 0xA4FC ≤ c.toNat && c.toNat ≤ 0xA4FD

/-- The curly quotation marks, which have a wide form. -/
def isCurlyQuote (c : Char) : Bool :=
  c.toNat = 0x2018 || c.toNat = 0x2019 || c.toNat = 0x201C || c.toNat = 0x201D

def isJoiner (c : Char) : Bool := c.toNat = 0x200D

/-! ## What follows a character -/

/-- The start of the text after a character, as far as it bears on the columns
the character adds.  Where `joined` is true, a zero width joiner comes first. -/
inductive Follower where
  | other
  | lineFeed
  | alef
  /-- The Hebrew letter lamed. -/
  | lamed (joined : Bool)
  | subscript
  /-- The Buginese letter ya. -/
  | ya (joined : Bool)
  /-- The Buginese vowel sign i, joined to the letter ya. -/
  | vowelYa
  | consonant (joined : Bool)
  | joinerConsonant
  | toneEnd
  /-- The Old Turkic letter i. -/
  | orkhonI (joined : Bool)
  /-- The Kirat Rai vowel sign e. -/
  | vowelE
  /-- The Kirat Rai vowel sign ai, or e twice. -/
  | vowelAi
  | tone
  | flagLetter
  | flagLetters
  | picture
  | joinedPicture
  | joinedKeycap
  | joinedFlagLetter
  /-- Two or more flag letters, a joiner and a picture. -/
  | joinedFlagLetters (even : Bool)
  /-- The name of a region so far, the end of a tag, a joiner and a picture. -/
  | joinedTag (letters digits : Nat)
deriving DecidableEq

namespace Follower

/-- How a character looks to the one before it. -/
def ofChar (c : Char) : Follower :=
  let n := c.toNat
  if n = 0x0A then lineFeed
  else if n < 0x80 then other
  else if inRanges alefRanges n then alef
  else if n = 0x5DC then lamed false
  else if inRanges subscriptRanges n then subscript
  else if n = 0x1A10 then ya false
  else if isConsonant c then consonant false
  else if isToneEnd c then toneEnd
  else if n = 0x10C03 then orkhonI false
  else if n = 0x16D67 then vowelE
  else if n = 0x16D68 then vowelAi
  else if isTone c then tone
  else if isFlagLetter c then flagLetter
  else if isPicture c then picture
  else other

/-- Letters whose ligatures do not mind ignored marks in between. -/
def isLetter : Follower → Bool
  | lamed _ | subscript | ya _ | vowelYa | consonant _ | joinerConsonant | toneEnd | orkhonI _ =>
    true
  | _ => false

/-- Whether a picture joined from the right absorbs the one before it. -/
def isJoined : Follower → Bool
  | joinedPicture | joinedKeycap => true
  | _ => false

/-- A letter with a joiner before it. -/
def join : Follower → Follower
  | lamed _ => lamed true
  | ya _ => ya true
  | consonant _ => consonant true
  | orkhonI _ => orkhonI true
  | f => f

/-- The columns a letter adds and how it looks from its left, where it forms a
ligature with what follows it. -/
def ligature? (c : Char) : Follower → Option (Int × Follower)
  | alef =>
    if inRanges lamRanges c.toNat then some (0, other)
    else if isTransparent c then some (0, alef)
    else none
  | lamed true => if c.toNat = 0x5D0 then some (0, other) else none
  | subscript => if c.toNat = 0x17D2 then some (-1, other) else none
  | ya true => if c.toNat = 0x1A17 then some (0, vowelYa) else none
  | vowelYa => if c.toNat = 0x1A15 then some (0, other) else none
  | consonant joined =>
    if c.toNat = 0x2D7F then some (1, joinerConsonant)
    else if joined && isConsonant c then some (0, other)
    else none
  | joinerConsonant => if isConsonant c then some (-1, other) else none
  | toneEnd => if isToneStart c then some (0, other) else none
  | orkhonI true => if c.toNat = 0x10C32 then some (0, other) else none
  | vowelE =>
    if c.toNat = 0x16D63 || c.toNat = 0x16D69 then some (0, other)
    else if c.toNat = 0x16D67 then some (0, vowelAi)
    else if c.toNat = 0x16D68 then some (1, vowelE)
    else none
  | vowelAi => if c.toNat = 0x16D63 then some (0, other) else none
  | _ => none

/-- The same for what belongs to a picture: skin tones, flag letters, and the
parts of a joined picture. -/
def picture? (c : Char) : Follower → Option (Int × Follower)
  | tone =>
    if takesTone c then some (0, picture)
    else if isJoiner c then some (0, joinedPicture)
    else none
  | flagLetter => if isFlagLetter c then some (1, flagLetters) else none
  | flagLetters =>
    if isFlagLetter c then some (1, flagLetters)
    else if isJoiner c then some (0, joinedPicture)
    else none
  | picture => if isJoiner c then some (0, joinedPicture) else none
  | joinedPicture =>
    if c.toNat = 0x20E3 then some (0, joinedKeycap)
    else if isFlagLetter c then some (1, joinedFlagLetter)
    else if isTone c then some (0, tone)
    else if c.toNat = 0xE007F then some (0, joinedTag 0 0)
    else if isPicture c then some (0, picture)
    else none
  | joinedFlagLetter => if isFlagLetter c then some (-1, joinedFlagLetters true) else none
  | joinedFlagLetters even =>
    if isFlagLetter c then some (if even then 3 else -1, joinedFlagLetters (!even))
    else if isJoiner c then some (0, joinedPicture)
    else none
  | joinedTag letters digits =>
    if isTagLetter c && digits = 0 && letters < 6 then some (0, joinedTag (letters + 1) 0)
    else if isTagDigit c && (digits = 0 && letters < 5 || 0 < digits && digits < 3) then
      some (0, joinedTag 0 (digits + 1))
    else if c.toNat = 0x1F3F4 && (3 ≤ letters || digits = 3) then some (0, picture)
    else none
  | _ => none

/-- The columns a character adds before `f`, and how it looks from its left. -/
def step (c : Char) (f : Follower) : Int × Follower :=
  if f.isLetter && isJoiner c then (0, f.join)
  else if f.isLetter && isIgnoredMark c then (0, f)
  else ((f.ligature? c).or (f.picture? c)).getD (charColumns c, ofChar c)

end Follower

/-! ## Variation selectors -/

/-- The selectors that bear on the columns of the character before them. -/
inductive Selector where
  | picture
  | text
  | quotation
deriving DecidableEq

def Selector.ofChar? (c : Char) : Option Selector :=
  if c.toNat = 0xFE0F then some picture
  else if c.toNat = 0xFE0E then some text
  else if c.toNat = 0xFE01 then some quotation
  else none

/-- The text after a character: a selector, if one comes first, and what follows
that. -/
structure Ahead where
  selector : Option Selector
  follower : Follower
deriving DecidableEq

namespace Ahead

def of (f : Follower) : Ahead := { selector := none, follower := f }

/-- A selector is an ignored mark, so a ligature shows through it.  Nothing else
does, and a joined picture only up to the character the selector is for. -/
def unselected (a : Ahead) : Follower :=
  if a.selector = none || a.follower.isLetter || a.follower = .alef then a.follower else .other

def select (s : Selector) (a : Ahead) : Ahead :=
  let f := a.unselected
  let shows := f.isLetter || f = .alef || (s = .picture && f.isJoined)
  { selector := some s, follower := if shows then f else .other }

/-- The columns a character adds before `a`, and the text from it on. -/
def step (c : Char) (a : Ahead) : Int × Ahead :=
  if a.selector = some .picture && hasTwoStyles c then
    (if a.follower.isJoined then 0 else 2, of .picture)
  else if c.toNat ≤ 0xA0 then
    (if c = '\r' && a.unselected = .lineFeed then 0 else 1, of (.ofChar c))
  else
    match Selector.ofChar? c with
    | some s => (0, a.select s)
    | none =>
      if a.selector = some .text && isNarrowAsText c then (1, of .other)
      else if a.selector = some .quotation && isCurlyQuote c then (2, of .other)
      else
        let (n, f) := a.unselected.step c
        (n, of f)

end Ahead

/-! ## Texts -/

/-- The columns of a text and how it looks from its left. -/
def measure (text : List Char) : Int × Ahead :=
  text.foldr (fun c r =>
    let s := r.2.step c
    (r.1 + s.1, s.2)) (0, Ahead.of .other)

/-- The number of columns a text takes on one line.  A line feed inside the text
counts as one column, and so does a carriage return with a line feed unless the
whole text is ASCII. -/
def columns (text : String) : Nat :=
  if text.toList.all (·.toNat < 0x80) then text.length
  else (measure text.toList).1.toNat

theorem columns_of_ascii {text : String} (h : ∀ c ∈ text.toList, c.toNat < 0x80) :
    columns text = text.length := by
  have hall : text.toList.all (·.toNat < 0x80) = true :=
    List.all_eq_true.mpr fun c hc => decide_eq_true (h c hc)
  rw [columns, if_pos hall]

end Text
end Sexpr
