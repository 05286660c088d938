/-!
# Syllables of Hangul

A syllable is made of an initial, a vowel and maybe a final, and the syllables stand in the order of
these three. Each of the letters also has a sign of its own, for writing it alone.
-/

namespace FileDepot.Text.Hangul

/-- The number of the first syllable. -/
def firstSyllable : Nat := 0xac00

/-- How many syllables there are. -/
def syllableCount : Nat := 19 * 21 * 28

/-- Whether a character is a syllable. -/
def isSyllable (c : Char) : Bool :=
  firstSyllable ≤ c.toNat && c.toNat < firstSyllable + syllableCount

/-- The syllable with an initial, a vowel and a final, which is zero if there is none. -/
def syllable (initial vowel final : Nat) : Char :=
  Char.ofNat (firstSyllable + (initial * 21 + vowel) * 28 + final)

/-- The initial, the vowel and the final of a syllable. -/
def parts (c : Char) : Nat × Nat × Nat :=
  let n := c.toNat - firstSyllable
  (n / 588, n / 28 % 21, n % 28)

/-- The number of the sign of the first letter. -/
def firstSign : Nat := 0x3131

/-- The number of the sign of the first vowel. -/
def firstVowelSign : Nat := 0x314f

/-- The places of the initials among the signs. -/
def initialPlaces : List Nat :=
  [0, 1, 3, 6, 7, 8, 16, 17, 18, 20, 21, 22, 23, 24, 25, 26, 27, 28, 29]

/-- The places of the finals among the signs. Of the 28 finals the missing one has no sign. -/
def finalPlaces : List Nat :=
  [0, 1, 2, 3, 4, 5, 6, 8, 9, 10, 11, 12, 13, 14, 15, 16, 17, 19, 20, 21, 22, 23, 25, 26, 27, 28,
    29]

end FileDepot.Text.Hangul
