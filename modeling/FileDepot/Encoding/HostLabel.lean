import FileDepot.Encoding.Nameprep
import FileDepot.Encoding.Punycode

/-!
# Labels of host names

A host name is a row of labels between points. In its ASCII form a label beyond ASCII is prepared and
written as a code after a mark; reading it back takes the code apart, and refuses codes that would be
written otherwise. Names that arrive in pieces wait for the point after a label.
-/

namespace FileDepot.Encoding.HostLabel

/-- The mark of a label that is written as a code. -/
def mark : List Char := ['x', 'n', '-', '-']

/-- Whether a code point is one of the four points between labels. -/
def isPoint (p : Point) : Bool := [0x2e, 0x3002, 0xff0e, 0xff61].contains p.toNat

/-- The pieces of a text between its points. -/
def split {α : Type} (isPoint : α → Bool) : List α → List (List α)
  | [] => [[]]
  | p :: rest =>
    if isPoint p then [] :: split isPoint rest
    else match split isPoint rest with
      | piece :: pieces => (p :: piece) :: pieces
      | [] => [[p]]

/-- The characters of a text that is all ASCII. -/
def ascii? (s : List Point) : Option (List Char) :=
  s.mapM fun p => p.char?.filter fun c => c.toNat < 128

/-- A label of a length that a name may have. -/
def sized (label : List Char) : Except Fault (List Char) :=
  if 0 < label.length && label.length < 64 then .ok label
  else .error (.other "label empty or too long")

/-- The ASCII form of a label. -/
def write (label : List Point) : Except Fault (List Char) := do
  match ascii? label with
  | some s => sized s
  | none =>
    let name ← Nameprep.prepare label
    match ascii? name with
    | some s => sized s
    | none =>
      if (mark.map Point.char).isPrefixOf name then
        .error (.other "Label starts with ACE prefix")
      else sized (mark ++ Punycode.encode name)

/-- A text as bytes, as it is shown. -/
def quotedBytes (s : List Char) : String := "b" ++ Text.quoted (String.ofList s)

/-- A fault of a code, as it is told of a label. -/
def codeFault : Fault → Fault
  | .other reason =>
    .other ("decoding with 'punycode' codec failed (UnicodeError: " ++ reason ++ ")")
  | f => f

/-- The label of an ASCII form. -/
def read (s : List Char) : Except Fault (List Point) :=
  if !mark.isPrefixOf s then .ok (s.map .char)
  else do
    let label ←
      (Punycode.decode ((s.drop 4).map fun c => UInt8.ofNat c.toNat)).mapError codeFault
    let again ← write label
    if s.map Char.toLower ≠ again then
      .error (.other ("('IDNA does not round-trip', " ++ quotedBytes s ++ ", " ++
        quotedBytes again ++ ")"))
    else .ok label

/-- The labels of a piece of a name that can be told, and whether a point follows them. -/
def labels {α : Type} (isPoint : α → Bool) (final : Bool) (s : List α) : List (List α) × Bool :=
  let pieces := split isPoint s
  if (pieces.getLast?.getD []).isEmpty then (pieces.dropLast, true)
  else if final then (pieces, false)
  else (pieces.dropLast, pieces.length ≠ 1)

/-- How much of a text some labels are; an empty label at the front counts without its point. -/
def sizeOf {α : Type} (labels : List (List α)) (ended : Bool) : Nat :=
  labels.foldl (fun size label => (if size = 0 then 0 else size + 1) + label.length) 0 +
    (if ended then 1 else 0)

/-- Write a text of which some may wait already: the bytes, and the text that waits now. -/
def feed (text : List Point) (final : Bool) : Except Fault (List Char × List Point) :=
  if text.isEmpty then .ok ([], [])
  else do
    let (pieces, ended) := labels isPoint final text
    let names ← pieces.mapM write
    let written := ['.'].intercalate names ++ (if ended then ['.'] else [])
    pure (written, text.drop (sizeOf pieces ended))

/-- Read bytes of which some may have waited already: the text, and the bytes that wait now. -/
def unfeed (data : Bytes) (final : Bool) : Except Fault (List Point × Bytes) :=
  if data.isEmpty then .ok ([], [])
  else do
    let s ← Punycode.readAscii data
    let (pieces, ended) := labels (· == '.') final s
    let names ← pieces.mapM read
    let text := [Point.char '.'].intercalate names ++ (if ended then [Point.char '.'] else [])
    pure (text, data.drop (sizeOf pieces ended))

end FileDepot.Encoding.HostLabel
