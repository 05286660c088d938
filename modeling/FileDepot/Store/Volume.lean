import FileDepot.Store.Local

/-!
# Names that a disk cannot have

On a disk a name is bytes, so that a system call takes a path only once it is encoded. The encoding of names
has the characters of ASCII, and it may lack others. UTF-8 lacks lone surrogates, code points that are no
characters but that a text given from outside may have: such a text is held with characters of a private area
in their places, and the encoding tells which of them stand for which code points.

A `Volume` is a store on disk with the encoding of its names. A path is followed name by name, and each name
on the way goes into a system call; so the first one that cannot be encoded, or has a NUL character, ends the
search for the place of the path. Where the encoding lacks nothing, a volume is its store (`Local`).
-/

namespace FileDepot

/-- The encoding of the names on a disk. -/
structure NameCodec where
  /-- what it is called -/
  name : String
  /-- why it does not have a code point that it lacks -/
  reason : String
  /-- the code point that a character stands for, if the encoding lacks it -/
  lacking? : Char → Option Point
  /-- it has the characters of ASCII -/
  hasAscii : ∀ c, c.toNat < 0x80 → lacking? c = none

namespace NameCodec

/-- An encoding that lacks nothing. -/
def full : NameCodec := ⟨"utf-8", "surrogates not allowed", fun _ => none, fun _ _ => rfl⟩

/-- ASCII, which lacks all characters beyond it. -/
def ascii : NameCodec where
  name := "ascii"
  reason := "ordinal not in range(128)"
  lacking? c := if c.toNat < 0x80 then none else some (.char c)
  hasAscii _ h := if_pos h

variable (n : NameCodec)

/-- Whether a character is lacking. -/
def lacks (c : Char) : Bool := (n.lacking? c).isSome

/-- Whether a text has a character that is lacking, so that it cannot be encoded. -/
def fails (text : String) : Bool := text.toList.any n.lacks

/-- Whether a system call takes a name. -/
def takes (name : String) : Bool := !n.fails name && !name.toList.contains '\x00'

/-- A name as a system call meets it: one that cannot be encoded is taken no more than a NUL. -/
def met (name : String) : String := if n.fails name then "\x00" else name

/-- The trouble of encoding a text: its first characters in a row that are lacking. -/
def trouble (text : String) : Encoding.Fault :=
  let before := text.toList.takeWhile (!n.lacks ·)
  let row := (text.toList.drop before.length).takeWhile n.lacks
  .encode n.name ((row.head?.bind n.lacking?).getD (.char '\x00')) before.length
    (before.length + row.length) n.reason

end NameCodec

/-- A store on disk, with the encoding of the names on the disk. -/
structure Volume where
  /-- the store -/
  files : Local
  /-- the encoding -/
  names : NameCodec

namespace Volume

/-- Why names from the top have no place, where one of them is not taken: the first one decides. What is
before it is at its real location by then. -/
def refusal (v : Volume) (d : Disk) (names : List String) : Fault :=
  let before := names.takeWhile v.names.takes
  match names.drop before.length with
  | name :: _ =>
    if v.names.fails name then
      let here := match d.real before with
        | .found l => l
        | _ => before
      .coding (v.names.trouble (Location.text (here ++ [name])))
    else .value .nulInPath
  | [] => .value .nulInPath

/-- The real location of a path, which must lie below the root, and whose names system calls must take. From
links that lead in a circle on, a path is taken as a whole, without its steps upwards. -/
def place (v : Volume) (d : Disk) (path : String) : Except Fault Location :=
  let names := v.files.joined path
  match d.real (names.map v.names.met), d.real names with
  | .nul, _ => .error (v.refusal d names)
  | .looped _, .looped pieces =>
    let l := Location.ofPieces pieces
    if l.any v.names.fails then .error (.coding (v.names.trouble l.text))
    else v.files.realPlace d path
  | _, _ => v.files.realPlace d path

/-- Ask for the place of a path. -/
def look (v : Volume) (path : String) : Op Disk Location := Op.ask fun d => v.place d path

/-- The operations of a store on disk: each asks for the place of its path first. -/
def store (v : Volume) : Store Disk LocalFile :=
  { v.files.store with
    resolve := fun pattern => do
      let _ ← v.look (Path.splitPattern (Path.normalize pattern)).1
      v.files.store.resolve pattern
    contents := fun h => do
      let _ ← v.look h.path
      v.files.store.contents h
    write := fun path content => do
      let _ ← v.look path
      v.files.store.write path content
    remove := fun path => do
      let _ ← v.look path
      v.files.store.remove path }

end Volume

end FileDepot
