/-!
# Backtraces

The places a script was at when an error was made, innermost first, one a line. `Backtrace.render`
writes them; `Backtrace.lineIn` finds the line of the first place in a file.
-/

namespace Drawbridge

/-- A place in a source, lines and columns counted from 1. -/
structure Place where
  file : String
  line : Nat
  column : Nat
  deriving DecidableEq, Repr

/-- A place as `file:line:column`. -/
def Place.render (p : Place) : String :=
  p.file ++ ":" ++ toString p.line ++ ":" ++ toString p.column

/-- One line of a backtrace: a function by name, unless the place is not within one, and its place,
unless the function is built in. -/
structure Frame where
  name : Option String
  place : Option Place
  deriving DecidableEq, Repr

/-- A frame as a line of its own, with `(native)` where a function has no place. -/
def Frame.render (f : Frame) : String :=
  match f.name, f.place with
  | some name, some place => "    at " ++ name ++ " (" ++ place.render ++ ")\n"
  | some name, none => "    at " ++ name ++ " (native)\n"
  | none, some place => "    at " ++ place.render ++ "\n"
  | none, none => ""

namespace Backtrace

/-- The frames, one a line. -/
def render (frames : List Frame) : String := String.join (frames.map Frame.render)

/-- The number that the digits at the head of a text write, if there are any and it fits 32 bits. -/
def leadingLine? (cs : List Char) : Option UInt32 :=
  let digits := cs.takeWhile Char.isDigit
  let n := digits.foldl (fun n d => 10 * n + (d.toNat - '0'.toNat)) 0
  if digits.isEmpty || UInt32.size ≤ n then none else some n.toUInt32

/-- The line number after the first occurrence of the marker that has one. Occurrences do not
overlap: `skip` characters still belong to the last one. -/
def search (marker : List Char) : Nat → List Char → Option UInt32
  | _, [] => none
  | skip + 1, _ :: rest => search marker skip rest
  | 0, c :: rest =>
    if marker.isPrefixOf (c :: rest) then
      match leadingLine? ((c :: rest).drop marker.length) with
      | some line => some line
      | none => search marker (marker.length - 1) rest
    else search marker 0 rest

/-- The line after the first `file:` in a rendered backtrace. -/
def lineIn (file stack : String) : Option UInt32 :=
  search (file.toList ++ [':']) 0 stack.toList

end Backtrace

end Drawbridge
