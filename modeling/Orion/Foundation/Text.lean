import Mathlib

/-! # Text

Immutable UTF-8 text as a list of Unicode scalar values. Offsets and lengths
are counted in bytes, and a slice exists only between character boundaries.
-/

namespace Orion.Foundation

open List

/-- UTF-8 text, held as its characters. -/
abbrev Text := List Char

namespace Text

def len (text : Text) : Nat :=
  (text.map fun character => character.utf8Size).sum

/-- Split at a byte offset; `none` when the offset is out of range or inside a
character. -/
def splitAt? : Text → Nat → Option (Text × Text)
  | [], offset => if offset = 0 then some ([], []) else none
  | character :: rest, offset =>
    if offset = 0 then
      some ([], character :: rest)
    else if character.utf8Size ≤ offset then
      (splitAt? rest (offset - character.utf8Size)).map fun (before, after) =>
        (character :: before, after)
    else
      none

theorem splitAt?_append (before after : Text) (offset : Nat) :
    splitAt? (before ++ after) (before.len + offset) =
      (splitAt? after offset).map fun parts => (before ++ parts.1, parts.2) := by
  induction before with
  | nil => simp [len]
  | cons character before induction =>
    have positive := character.utf8Size_pos
    have total : len (character :: before) + offset =
        character.utf8Size + (len before + offset) := by
      simp [len, Nat.add_assoc]
    rw [cons_append, total, splitAt?, if_neg (by omega), if_pos (by omega),
      Nat.add_sub_cancel_left, induction]
    simp [Function.comp_def]

def slice? (text : Text) (first last : Nat) : Option Text := do
  let (_, after) ← splitAt? text first
  let (middle, _) ← splitAt? after (last - first)
  return middle

def find? (text needle : Text) : Option Nat :=
  match text with
  | [] => if needle = [] then some 0 else none
  | character :: rest =>
    if needle.isPrefixOf (character :: rest) then
      some 0
    else
      (find? rest needle).map (character.utf8Size + ·)

def toAsciiLower (text : Text) : Text := text.map Char.toLower

theorem toLower_idem (character : Char) : character.toLower.toLower = character.toLower := by
  unfold Char.toLower
  split
  · rename_i upper
    -- Adding 32 to a capital letter leaves the range of capital letters.
    rw [dif_neg]
    intro stillUpper
    have shifted := stillUpper.2
    simp only [ge_iff_le, UInt32.le_iff_toNat_le] at upper shifted
    simp [UInt32.toNat_add] at upper shifted
    omega
  · rfl

theorem toLower_eq_dot (lower : character.toLower = '.') : character = '.' := by
  unfold Char.toLower at lower
  split at lower
  · rename_i upper
    have shifted := congrArg (fun character : Char => character.val.toNat) lower
    simp only [ge_iff_le, UInt32.le_iff_toNat_le] at upper
    simp [UInt32.toNat_add] at upper shifted
    omega
  · exact lower

theorem toAsciiLower_idem (text : Text) : text.toAsciiLower.toAsciiLower = text.toAsciiLower := by
  rw [toAsciiLower, toAsciiLower, map_map]
  congr 1
  funext character
  exact toLower_idem character

def eqIgnoreAsciiCase (left right : Text) : Bool :=
  left.toAsciiLower == right.toAsciiLower

theorem eqIgnoreAsciiCase_iff {left : Text} :
    left.eqIgnoreAsciiCase right ↔ left.toAsciiLower = right.toAsciiLower :=
  beq_iff_eq

def trim (text : Text) : Text :=
  ((text.dropWhile Char.isWhitespace).reverse.dropWhile Char.isWhitespace).reverse

def isAscii (text : Text) : Bool :=
  text.all fun character => character.utf8Size = 1

theorem isAscii_cons : isAscii (character :: rest) ↔ character.utf8Size = 1 ∧ isAscii rest := by
  simp [isAscii]

section

variable {text : Text} (ascii : text.isAscii = true)

include ascii

theorem len_of_isAscii : text.len = text.length := by
  induction text with
  | nil => rfl
  | cons character rest induction =>
    rcases isAscii_cons.mp ascii with ⟨oneByte, restAscii⟩
    have restLength := induction restAscii
    simp only [len, map_cons, sum_cons, length_cons] at *
    omega

theorem splitAt?_of_isAscii (within : offset ≤ text.length) :
    text.splitAt? offset = some (text.take offset, text.drop offset) := by
  induction text generalizing offset with
  | nil =>
    have zero : offset = 0 := by simpa using within
    simp [splitAt?, zero]
  | cons character rest induction =>
    rcases isAscii_cons.mp ascii with ⟨oneByte, restAscii⟩
    cases offset with
    | zero => simp [splitAt?]
    | succ offset =>
      have withinRest : offset ≤ rest.length := by simpa using within
      simp [splitAt?, oneByte, induction restAscii withinRest]

theorem isAscii_drop (count : Nat) : isAscii (text.drop count) := by
  simp only [isAscii, all_eq_true] at ascii ⊢
  intro character member
  exact ascii character (mem_of_mem_drop member)

theorem slice?_of_isAscii (ordered : first ≤ last) (within : last ≤ text.length) :
    text.slice? first last = some ((text.drop first).take (last - first)) := by
  have remaining : last - first ≤ (text.drop first).length := by
    rw [length_drop]
    omega
  simp [slice?, splitAt?_of_isAscii ascii (Nat.le_trans ordered within),
    splitAt?_of_isAscii (isAscii_drop ascii first) remaining]

end

end Text

end Orion.Foundation
