import FileDepot.Encoding.CodedSet
import FileDepot.Encoding.Scan

/-!
# Encodings with one, two or more bytes for each character

A `WideTable` tells which bytes stand for a character alone, and which characters the codes of two
bytes and of three bytes have. Two characters in a row may have a code of their own, so a character
that begins such a pair waits for the next one when it is written.
-/

namespace FileDepot.Encoding

/-- The reason given when bytes or a character have no meaning in an encoding. -/
def illegalSequence : String := "illegal multibyte sequence"

/-- The reason given when the data ends inside a character. -/
def incompleteSequence : String := "incomplete multibyte sequence"

/-- An encoding with one, two or more bytes for each character. -/
structure WideTable where
  /-- the character that a byte stands for alone -/
  lone? : UInt8 → Option Char
  /-- the byte that stands for a character alone -/
  byte? : Char → Option UInt8
  /-- whether a byte begins a code of more bytes -/
  isLead : UInt8 → Bool
  /-- the characters with codes of two bytes -/
  pairs : CodedSet
  /-- the characters with codes of two bytes that follow the byte 8f -/
  triples : Option CodedSet
  /-- the codes of two bytes for two characters in a row -/
  combined : List (Nat × Char × Char)
  /-- the codes of two bytes that are refused together, not byte by byte -/
  withdrawn : List Nat

namespace WideTable

/-- The byte that codes of three bytes begin with. -/
def tripleMark : UInt8 := 0x8f

/-- The number that two bytes spell. -/
def code (a b : UInt8) : Nat := twoBytesToNat .big a b

/-- The two bytes of a number. -/
def codeBytes (n : Nat) : Bytes := [UInt8.ofNat (n / 256), UInt8.ofNat n]

/-- The text for a code of two bytes. -/
def pairText? (t : WideTable) (n : Nat) : Option (List Point) :=
  match t.combined.lookup n with
  | some (c, d) => some [.char c, .char d]
  | none => (t.pairs.char? n).map fun c => [.char c]

/-- Scan the bytes after a byte `a` that begins a longer code. -/
def scanLong (t : WideTable) (final : Bool) (a : UInt8) (rest : Bytes) : Scan Unit :=
  match rest with
  | [] => .short final 1 incompleteSequence
  | b :: rest =>
    match a == tripleMark, t.triples with
    | true, some triples =>
      match rest with
      | [] => .short final 2 incompleteSequence
      | c :: _ =>
        match triples.char? (code b c) with
        | some c => .text [.char c] 2 ()
        | none => .bad 1 illegalSequence
    | _, _ =>
      match t.pairText? (code a b) with
      | some s => .text s 1 ()
      | none => .bad (if t.withdrawn.contains (code a b) then 2 else 1) illegalSequence

/-- Scan for a character. -/
def scan (t : WideTable) (final : Bool) : PlainScan
  | [] => .hold
  | a :: rest =>
    match t.lone? a with
    | some c => .text [.char c] 0 ()
    | none => if t.isLead a then t.scanLong final a rest else .bad 1 illegalSequence

/-- The bytes of a character on its own. -/
def bytes? (t : WideTable) (c : Char) : Option Bytes :=
  match t.byte? c with
  | some b => some [b]
  | none =>
    match t.pairs.code? c with
    | some n => some (codeBytes n)
    | none => (t.triples.bind (·.code? c)).map fun n => tripleMark :: codeBytes n

/-- What stands after a character, as far as a code of both matters. -/
inductive Next where
  /-- a character -/
  | char (c : Char)
  /-- nothing, and nothing will come -/
  | ended
  /-- what comes is not known yet -/
  | unknown
  deriving DecidableEq, Repr

/-- The bytes of a character, and whether the next one is written with it. No answer means that the
character must wait for the next one. -/
def write (t : WideTable) (c : Char) (next : Next) : Option (Option Bytes × Bool) :=
  let codes := t.combined.filter fun code => code.2.1 == c
  if codes.isEmpty then some (t.bytes? c, false)
  else match next with
    | .unknown => none
    | .ended => some (t.bytes? c, false)
    | .char d =>
      match codes.find? fun code => code.2.2 == d with
      | some code => some (some (codeBytes code.1), true)
      | none => some (t.bytes? c, false)

/-- The half-wide signs of Katakana, from `code` on. -/
def halfKatakana (code : Nat) : CodedSet := .block code 0xff61 63

/-- A byte below 80 as itself. -/
def ascii? (b : UInt8) : Option Char := if b < 0x80 then some (Char.ofNat b.toNat) else none

/-- The byte of a character below 80. -/
def asciiByte? (c : Char) : Option UInt8 :=
  if c.toNat < 0x80 then some (UInt8.ofNat c.toNat) else none

/-- An encoding in which each byte from 80 on begins a code of two bytes. -/
def ofPairs (pairs : CodedSet) : WideTable where
  lone? := ascii?
  byte? := asciiByte?
  isLead b := 0x80 ≤ b
  pairs := pairs
  triples := none
  combined := []
  withdrawn := []

end WideTable

end FileDepot.Encoding
