import FileDepot.Compression.Wrapped
import FileDepot.Encoding.Encoder
import FileDepot.Text.Blank
import FileDepot.Text.Case

/-!
# Replies

A scripted server answers with a status, headers and a body, or does not answer. Headers are ASCII. They
can tell that the body is compressed, in several ways one after the other.
-/

namespace FileDepot.Web.Scripted

/-- What a server does with a request. -/
inductive Reply where
  /-- it answers -/
  | answer (status : Nat) (headers : List (String × String)) (body : Bytes)
  /-- it does not answer, for a reason with a name and a wording -/
  | broken (reason message : String)
  deriving DecidableEq, Repr

namespace Reply

/-! ## Headers -/

/-- Hold a text of a header against the rules. -/
def checkText (s : String) : Except Encoding.Fault Unit :=
  (((Encoding.Encoder.start .ascii).feed (Point.ofString s) true).1).map fun _ => ()

/-- Hold headers against the rules. -/
def checkHeaders : List (String × String) → Except Encoding.Fault Unit
  | [] => .ok ()
  | (name, value) :: rest => do
    checkText name
    checkText value
    checkHeaders rest

/-- The value of a header, whose name has no capital letters. Several values are joined. -/
def header? (headers : List (String × String)) (name : String) : Option String :=
  match (headers.filter fun h => Text.lower h.1 = name).map (·.2) with
  | [] => none
  | values => some (", ".intercalate values)

/-! ## Bodies -/

/-- A way in which a body is packed. -/
inductive Packing where
  /-- in the long wrapper -/
  | long
  /-- in the short wrapper, or in none -/
  | short
  /-- not at all -/
  | plain
  deriving DecidableEq, Repr

/-- The packing with a name. -/
def Packing.ofName? (name : String) : Option Packing :=
  [("gzip", .long), ("deflate", .short), ("identity", .plain)].lookup name

/-- Unpack a body. Without data there is nothing to unpack. -/
def Packing.unpack (p : Packing) (data : Bytes) : Except Compression.WrapFault Bytes :=
  if data.isEmpty then .ok []
  else match p with
    | .plain => .ok data
    | .long => Compression.unwrapLong data
    | .short =>
      match Compression.unwrapShort data with
      | .ok contents => .ok contents
      | .error _ => Compression.unwrapNone data

/-- The pieces of a list of names. -/
def names (s : String) : List String :=
  (s.splitOn ",").map fun name => Text.lower (Text.strip name)

/-- The ways in which a body is packed, the last one first. Ways that are not known do not count. -/
def packings (headers : List (String × String)) : List Packing :=
  match header? headers "content-encoding" with
  | none => []
  | some value => ((names value).filterMap Packing.ofName?).reverse

/-- The body of an answer, unpacked. -/
def unpacked (headers : List (String × String)) (body : Bytes) :
    Except Compression.WrapFault Bytes :=
  (packings headers).foldlM (fun data p => p.unpack data) body

end Reply

end FileDepot.Web.Scripted
