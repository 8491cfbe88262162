import FaultRelay.Url.Percent

/-!
# Paths of addresses

A path with structure is a list of segments; `.` and `..` are carried out while it is
read.  Where there is no authority and no slash, the path is one opaque text.
-/

namespace FaultRelay
namespace Url

/-- What the scheme of an address says about its structure. -/
inductive Family where
  | file
  | special
  | other
  deriving DecidableEq, Repr

/-- The path of an address. -/
inductive Path where
  | opaqueText (text : List Char)
  | segments (parts : List (List Char))
  deriving DecidableEq, Repr

/-- The written form of a path. -/
def Path.chars : Path → List Char
  | .opaqueText text => text
  | .segments parts => parts.flatMap ('/' :: ·)

/-- Whether a character ends a segment. -/
def Family.isSlash (family : Family) (c : Char) : Bool :=
  c == '/' || (c == '\\' && family != .other)

/-- A text without the codes of dots. -/
def plainDots : List Char → List Char
  | '%' :: '2' :: 'e' :: rest | '%' :: '2' :: 'E' :: rest => '.' :: plainDots rest
  | c :: rest => c :: plainDots rest
  | [] => []

/-- The letter of a disk and a colon. -/
def isDrive : List Char → Bool
  | [c, ':'] => c.isAlpha
  | _ => false

/-- Leaves out the last segment; the disk of a file stays. -/
def shorten (family : Family) (segments : List (List Char)) : List (List Char) :=
  match family, segments with
  | .file, [drive] => if isDrive drive then [drive] else []
  | _, segments => segments.dropLast

/-- A segment as it is kept: the first one of a file may name a disk with a bar. -/
def kept (family : Family) (before : List (List Char)) (segment : List Char) : List Char :=
  match family, before, segment with
  | .file, [], [c, '|'] => if c.isAlpha then [c, ':'] else segment
  | _, _, segment => segment

/-- One segment read; `last` tells that no slash follows it. -/
def readSegment (family : Family) (before : List (List Char)) (segment : List Char)
    (last : Bool) : List (List Char) :=
  let dots := plainDots segment
  if dots = ['.', '.'] then shorten family before ++ (if last then [[]] else [])
  else if dots = ['.'] then before ++ (if last then [[]] else [])
  else before ++ [kept family before segment]

/-- The segments of a list of written ones. -/
def readSegments (family : Family) : List (List Char) → List (List Char) → List (List Char)
  | before, [] => before
  | before, [segment] => readSegment family before segment true
  | before, segment :: rest =>
      readSegments family (readSegment family before segment false) rest

/-- A text cut at every character that meets a condition. -/
def cutAt (isCut : Char → Bool) : List Char → List (List Char)
  | [] => [[]]
  | c :: rest =>
      if isCut c then [] :: cutAt isCut rest
      else
        match cutAt isCut rest with
        | first :: more => (c :: first) :: more
        | [] => [[c]]

/-- The disk of a file stands for itself, even where no slash follows it. -/
def cutDrive : List (List Char) → List (List Char)
  | (c :: ':' :: d :: more) :: rest =>
      if c.isAlpha then [c, ':'] :: (d :: more) :: rest else (c :: ':' :: d :: more) :: rest
  | segments => segments

/-- The path that a text after the first slash gives. -/
def readPath (family : Family) (text : List Char) : List (List Char) :=
  let written := (cutAt family.isSlash text).map (encodeChars inPath)
  match family with
  | .file =>
      match (readSegments family [] (cutDrive written)).dropWhile (·.isEmpty) with
      | [] => [[]]
      | segments => segments
  | _ => readSegments family [] written

end Url
end FaultRelay
