import FileDepot.Lob

/-!
# Payloads

What can be saved: characters, which are written in the encoding of the depot; bytes; XML documents,
whose text is always written as UTF-8; and the contents of a large object.
-/

namespace FileDepot

open Encoding

/-- Something to be saved. -/
inductive Payload (σ : Type) where
  /-- characters -/
  | characters (text : TextReader)
  /-- bytes -/
  | binary (data : ByteReader)
  /-- an XML document as text -/
  | xmlText (document : List Point)
  /-- an XML document as bytes -/
  | xmlBytes (document : ByteReader)
  /-- the contents of a large object -/
  | lob (l : Lob σ)
  /-- something else, by the name of its type -/
  | other (type : String)

namespace Payload

variable {σ : Type}

/-- The bytes that a payload is saved as, when they begin to be read: streams must not be closed by then. -/
def toReader (p : Payload σ) (charset : Charset) : Op σ ByteReader :=
  match p with
  | .characters text => encoded text
  | .binary data => Op.ofExcept data.enter
  | .xmlText document => do
    pure (.bytes (← Op.ofExcept ((encodeUtf8 document).mapError .coding)))
  | .xmlBytes document => Op.ofExcept document.enter
  | .lob l =>
    match l.charset with
    | some own => do encoded (← l.takeText own)
    | none => do Op.ofExcept (ByteReader.ofSupply (← l.take)).enter
  | .other type => Op.fail (.refused (.content type))
where
  /-- Text in the encoding of the depot. -/
  encoded (text : TextReader) : Op σ ByteReader := do
    let codec ← Op.ofExcept (charset.require.mapError .charset)
    pure (.ofText codec text)

end Payload

end FileDepot
