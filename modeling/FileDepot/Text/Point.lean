/-!
# Code points

A text is a sequence of code points. Nearly all of them are characters. A *surrogate* is half of what
some encodings write for one character; alone it stands for nothing, but a text may hold it.
-/

namespace FileDepot

/-- A code point. -/
inductive Point where
  /-- a character -/
  | char (c : Char)
  /-- a surrogate, by its place among the 2048 surrogates -/
  | surrogate (place : Fin 0x800)
  deriving DecidableEq, Repr

namespace Point

/-- The number of a code point. -/
def toNat : Point → Nat
  | .char c => c.toNat
  | .surrogate place => 0xd800 + place.val

/-- The code point with a number; numbers that are too large give the null character. -/
def ofNat (n : Nat) : Point :=
  if h : 0xd800 ≤ n ∧ n < 0xe000 then .surrogate ⟨n - 0xd800, by omega⟩ else .char (Char.ofNat n)

/-- Whether a code point is a surrogate. -/
def isSurrogate : Point → Bool
  | .char _ => false
  | .surrogate _ => true

/-- The character that two surrogates stand for, given by their numbers. -/
def joined (first second : Nat) : Point :=
  ofNat (0x10000 + (first - 0xd800) * 1024 + (second - 0xdc00))

/-- The code points of a string. -/
def ofString (s : String) : List Point := s.toList.map .char

/-- The character of a code point that is one. -/
def char? : Point → Option Char
  | .char c => some c
  | .surrogate _ => none

theorem toNat_ofNat {n : Nat} (h : n.isValidChar ∨ (0xd800 ≤ n ∧ n < 0xe000)) :
    (ofNat n).toNat = n := by
  unfold ofNat
  split
  · simp only [toNat]
    omega
  · rename_i hn
    rcases h with h | h
    · rw [toNat, Char.ofNat, dif_pos h]
      rfl
    · exact absurd h hn

end Point

end FileDepot
