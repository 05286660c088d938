import FileDepot.Text.Point

/-!
# Line ends

Text read from a file has one kind of line end: a carriage return, with or without a line feed after
it, becomes a line feed. When a text arrives in pieces, a carriage return at the end of a piece waits
for the next one.
-/

namespace FileDepot.Encoding.Newline

/-- Write every line end of a text as a line feed. -/
def unify : List Point → List Point
  | .char '\r' :: .char '\n' :: rest => .char '\n' :: unify rest
  | p :: rest => (if p = .char '\r' then .char '\n' else p) :: unify rest
  | [] => []

/-- Take one piece: the text it gives, and whether a carriage return now waits. `waiting` tells
whether one waited before, and `final` that this is the last piece. -/
def feed (waiting : Bool) (piece : List Point) (final : Bool) : List Point × Bool :=
  let released := waiting && (final || !piece.isEmpty)
  let text := if released then .char '\r' :: piece else piece
  if !final && text.getLast? = some (.char '\r') then (unify text.dropLast, true)
  else (unify text, waiting && !released)

end FileDepot.Encoding.Newline
