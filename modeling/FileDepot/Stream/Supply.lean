import FileDepot.Fault

/-!
# What streams give out

A stream that somebody else gives out has some bytes to give. Then it ends, or it fails: from there on, each
read meets the same fault, as it does from the start where the stream is closed. Text cannot even be begun to
be read from a closed stream.
-/

namespace FileDepot

/-- The bytes that a stream gives out, and the fault that it then fails with, if it does. -/
structure Supply where
  /-- the bytes -/
  bytes : Bytes
  /-- the fault that reading beyond them meets; none at a plain end -/
  fault? : Option Fault
  /-- whether the stream is closed -/
  isClosed : Bool
  deriving DecidableEq, Repr

namespace Supply

/-- Bytes that come whole. -/
def whole (data : Bytes) : Supply := ⟨data, none, false⟩

/-- What a closed stream gives out. -/
def closed : Supply := ⟨[], some (.value .closed), true⟩

@[simp] theorem whole_bytes (data : Bytes) : (whole data).bytes = data := rfl

@[simp] theorem whole_fault? (data : Bytes) : (whole data).fault? = none := rfl

@[simp] theorem whole_isClosed (data : Bytes) : (whole data).isClosed = false := rfl

end Supply

end FileDepot
