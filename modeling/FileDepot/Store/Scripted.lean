import FileDepot.Store.Basic

/-!
# A scripted store

A store for trying out what works on stores: it answers as it was told to, whatever is asked, and
keeps a list of the calls it got.
-/

namespace FileDepot

/-- A piece of metadata of a file. -/
inductive Field where
  /-- the time of the last change -/
  | modified
  /-- the time the file was made -/
  | created
  /-- the size -/
  | size
  deriving DecidableEq, Repr

/-- A call that a scripted store got. -/
inductive Call where
  /-- a pattern was to be resolved -/
  | resolved (pattern : String)
  /-- contents were asked for -/
  | opened (path : String)
  /-- contents were stored -/
  | written (path : String) (data : Bytes)
  /-- a file was to be removed -/
  | removed (path : String)
  /-- metadata was asked for -/
  | asked (field : Field) (path : String)
  deriving DecidableEq, Repr

/-- A file of a scripted store. -/
structure ScriptedFile where
  /-- the path -/
  path : String
  /-- the contents -/
  data : Bytes
  /-- the time of the last change -/
  modified : Moment
  /-- the time the file was made, where it is known -/
  created : Option Moment
  /-- the piece of metadata that cannot be read, and why -/
  broken : Option (Field × Fault)
  deriving DecidableEq, Repr

/-- What a scripted store answers. -/
structure Script where
  /-- the files that every pattern stands for -/
  files : List ScriptedFile
  /-- why no pattern can be resolved -/
  resolveFault : Option Fault
  /-- why no contents can be opened -/
  openFault : Option Fault
  /-- why nothing can be stored -/
  writeFault : Option Fault
  /-- why nothing can be removed -/
  removeFault : Option Fault
  /-- whether there was a file to remove -/
  removeAnswer : Bool
  deriving DecidableEq, Repr

namespace Script

/-- Keep a call. -/
def keep (c : Call) : Op (List Call) Unit :=
  Op.onStore fun calls => (.ok (), calls ++ [c])

/-- Fail if there is a reason to. -/
def failIf (f : Option Fault) : Op (List Call) Unit :=
  match f with
  | some f => Op.fail f
  | none => pure ()

/-- Note that metadata was asked for, and fail if it cannot be read. -/
def askField (field : Field) (h : ScriptedFile) : Op (List Call) Unit := do
  keep (.asked field h.path)
  match h.broken with
  | some (broken, f) => if broken = field then Op.fail f else pure ()
  | none => pure ()

/-- The operations of a scripted store. -/
def store (s : Script) : Store (List Call) ScriptedFile where
  resolve pattern := do
    keep (.resolved pattern)
    failIf s.resolveFault
    pure s.files
  contents h := do
    keep (.opened h.path)
    failIf s.openFault
    pure (.whole h.data)
  write path content := do
    failIf s.writeFault
    let data ← Op.ofExcept content.drain
    keep (.written path data)
  remove path := do
    keep (.removed path)
    failIf s.removeFault
    pure s.removeAnswer
  path h := h.path
  name h := Path.baseName h.path
  modified h := do
    askField .modified h
    pure h.modified
  created h := do
    askField .created h
    pure h.created
  size h := do
    askField .size h
    pure h.data.length
  medium := .memory

end Script

end FileDepot
