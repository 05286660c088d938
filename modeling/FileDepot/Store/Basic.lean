import FileDepot.Operation
import FileDepot.Stream.ByteReader

/-!
# Stores

A store keeps files by path. Patterns are resolved to *handles*: a handle tells the path and the name
of a file at once, and its times, size and contents when asked. `σ` is the state of the store and `η`
the type of its handles.
-/

namespace FileDepot

/-- Where opened contents are read from. -/
inductive Medium where
  /-- a piece of memory -/
  | memory
  /-- a file on a disk -/
  | file
  deriving DecidableEq, Repr

/-- What reading bytes reports once they are closed. -/
def Medium.afterClose : Medium → ValueFault
  | .memory => .closed
  | .file => .closedFile

/-- What every store offers. -/
structure Store (σ η : Type) where
  /-- the files that a pattern stands for -/
  resolve : String → Op σ (List η)
  /-- what the contents of a file come from -/
  contents : η → Op σ Supply
  /-- store contents at a path -/
  write : String → ByteReader → Op σ Unit
  /-- remove the file at a path; the answer tells whether there was one -/
  remove : String → Op σ Bool
  /-- the path of a file -/
  path : η → String
  /-- the name of a file -/
  name : η → String
  /-- the time of the last change of a file -/
  modified : η → Op σ Moment
  /-- the time a file was made, where it is known -/
  created : η → Op σ (Option Moment)
  /-- the size of a file in bytes -/
  size : η → Op σ Nat
  /-- where opened contents are read from -/
  medium : Medium

/-- Whether one text comes before another, character by character, or is the same. -/
def charOrder : List Char → List Char → Bool
  | [], _ => true
  | _ :: _, [] => false
  | c :: s, d :: t => if c = d then charOrder s t else c < d

/-- Whether one string comes before another, character by character, or is the same. -/
def textOrder (a b : String) : Bool := charOrder a.toList b.toList

end FileDepot
