import NfsWatch.Url.Parts
import NfsWatch.Url.Percent

/-!
# Path — the segments of a URL

A path is the list of its segments, so that `/a/b/` is `a`, `b` and an empty one, and `/` is one
empty segment. In a path given as a whole, `.` names the directory it stands in and `..` the one
above; both may also be spelt with `%2e`. A segment that names a drive, as `C:`, has nothing above
it. `extend` appends segments that are given by themselves: there a segment `.` or `..` is left
out, and tabs and line breaks inside a segment do not count.
-/

namespace NfsWatch.Url

abbrev Path := List String

def pathText (path : Path) : String := String.join (path.map (fun segment => "/" ++ segment))

/-- Tabs and line breaks, which do not count. -/
def isIgnored (c : Char) : Bool := c == '\t' || c == '\n' || c == '\r'

def withoutIgnored (cs : List Char) : List Char := cs.filter (fun c => !isIgnored c)

/-! ## Directories -/

/-- A segment with the spelling `%2e` of its dots resolved. -/
def plainDots : List Char → List Char
  | '%' :: '2' :: 'e' :: rest => '.' :: plainDots rest
  | '%' :: '2' :: 'E' :: rest => '.' :: plainDots rest
  | c :: rest => c :: plainDots rest
  | [] => []

def isHere (segment : List Char) : Bool := plainDots segment == ['.']

def isAbove (segment : List Char) : Bool := plainDots segment == ['.', '.']

/-- Whether a segment begins with the name of a drive: a letter and a colon or bar, and then
nothing or a backslash. -/
def beginsWithDrive : List Char → Bool
  | letter :: mark :: rest =>
      letter.isAlpha && (mark == ':' || mark == '|') && (rest.isEmpty || rest.head? == some '\\')
  | _ => false

def above (path : Path) : Path :=
  if path.getLast?.any (fun segment => beginsWithDrive segment.toList) then path
  else path.dropLast

/-- Appends one segment to the directories before it; `last` tells whether none follows. -/
def addSegment (path : Path) (segment : List Char) (last : Bool) : Path :=
  if isAbove segment then (if last then above path ++ [""] else above path)
  else if isHere segment then (if last then path ++ [""] else path)
  else path ++ [String.ofList segment]

def addSegments (path : Path) : List (List Char) → Path
  | [] => path
  | [segment] => addSegment path segment true
  | segment :: rest => addSegments (addSegment path segment false) rest

/-- Whether a character separates segments; a backslash does so in a special URL. -/
def isSlash (special : Bool) (c : Char) : Bool := c == '/' || (special && c == '\\')

def parsePath (special : Bool) (cs : List Char) : Path :=
  addSegments [] ((parts (isSlash special) cs).map (encode inPath))

/-! ## Files -/

def isDrive (segment : List Char) : Bool := segment.length = 2 && beginsWithDrive segment

/-- The text after a drive and a tab or line break, if a segment goes on behind them. -/
def afterDrive? (segment : List Char) : Option (Char × List Char) :=
  match segment.dropWhile isIgnored with
  | letter :: rest =>
      match rest.dropWhile isIgnored with
      | ':' :: gap :: rest =>
          let tail := withoutIgnored rest
          if letter.isAlpha && isIgnored gap && !tail.isEmpty then some (letter, tail) else none
      | _ => none
  | [] => none

structure FilePath where
  segments : Path
  /-- Whether the path begins with a drive, so that no host counts. -/
  onDrive : Bool
deriving DecidableEq, Repr, Inhabited

/-- Appends one segment, given with its tabs and line breaks, to the path of a file. A drive at the
start is written with a colon. A tab or line break right behind its colon ends the segment there,
and what follows is taken as it is. -/
def FilePath.add (path : FilePath) (segment : List Char) (last : Bool) : FilePath :=
  let plain := encode inPath (withoutIgnored segment)
  if !path.segments.isEmpty then { path with segments := addSegment path.segments plain last }
  else
    match afterDrive? segment with
    | some (letter, rest) =>
        { path with segments := [String.ofList [letter, ':'], String.ofList (encode inPath rest)] }
    | none =>
        if isDrive plain then
          { segments := [String.ofList (plain.take 1 ++ [':'])], onDrive := true }
        else { path with segments := addSegment [] plain last }

def FilePath.addAll (path : FilePath) : List (List Char) → FilePath
  | [] => path
  | [segment] => path.add segment true
  | segment :: rest => (path.add segment false).addAll rest

/-- The path of a file that a text after the first slash gives, without empty segments at its
start. -/
def parseFilePath (cs : List Char) : FilePath :=
  let path := (FilePath.mk [] false).addAll (parts (isSlash true) cs)
  let segments := path.segments.dropWhile (· == "")
  { path with segments := if segments.isEmpty then [""] else segments }

/-! ## Appending -/

/-- What segments are appended to: a path that is only a slash gives way. -/
def appendable (path : Path) : Path := if path = [""] then [] else path

def push (special : Bool) (path : Path) (segment : String) : Path :=
  if segment = "." ∨ segment = ".." then path
  else
    addSegment (appendable path)
      (encode (if special then inSpecialSegment else inSegment)
        (withoutIgnored segment.toList)) true

/-- Appends segments that are given by themselves; an empty one at the end of the path gives
way. -/
def extend (special : Bool) (path : Path) (segments : List String) : Path :=
  let start := if 1 < path.length ∧ path.getLast? = some "" then path.dropLast else path
  segments.foldl (push special) start

end NfsWatch.Url
