import PageHarvest.Url.Basic
import PageHarvest.Url.Percent

namespace PageHarvest.Url

def isDrive : List Char → Bool
  | [letter, mark] => letter.isAlpha && (mark == ':' || mark == '|')
  | _ => false

def isPlainDrive (s : List Char) : Bool :=
  isDrive s && s.getLast? == some ':'

def endsSegment (c : Char) : Bool :=
  c == '/' || c == '\\' || c == '?' || c == '#'

def startsWithDrive (s : List Char) : Bool :=
  isDrive (s.take 2) && (s.drop 2).head?.all endsSegment

def endsWithSlash (path : List Char) : Bool :=
  path.getLast? == some '/'

def lastSegment (path : List Char) : List Char :=
  (path.reverse.takeWhile (· != '/')).reverse

def uptoLastSlash (path : List Char) : List Char :=
  (path.reverse.dropWhile (· != '/')).reverse

/-- Goes up one level; a drive letter stays. -/
def popSegment (kind : SchemeKind) (path : List Char) : List Char :=
  if kind == .file && isPlainDrive (lastSegment path) then path else uptoLastSlash path

/-- Whether a slash at the end may go, since it is neither the first nor behind a drive letter. -/
def mayDropSlash (path : List Char) : Bool :=
  let before := path.dropLast
  before.contains '/' && !startsWithDrive (lastSegment before ++ ['/'])

def isUpSegment (s : List Char) : Bool :=
  ["..", "%2e%2e", "%2e.", ".%2e"].contains (String.ofList (s.map Char.toLower))

def isSameSegment (s : List Char) : Bool :=
  [".", "%2e"].contains (String.ofList (s.map Char.toLower))

/-- A path on its way, and whether a drive letter takes the place of the host. -/
structure PathState where
  text : List Char
  dropsHost : Bool := false

def PathState.add (kind : SchemeKind) (p : PathState) (segment : List Char) (slash : Bool) :
    PathState :=
  let tail := if slash then ['/'] else []
  let text :=
    if kind == .file && !segment.isEmpty && isPlainDrive (p.text.drop 1) then p.text ++ ['/']
    else p.text
  let coded := encode needsPathCode segment
  if isUpSegment coded then
    let text := if endsWithSlash text && mayDropSlash text then text.dropLast else text
    let text := popSegment kind text
    { p with text := if slash && !endsWithSlash text then text ++ ['/'] else text }
  else if isSameSegment coded then
    { p with text := if endsWithSlash text then text else text ++ ['/'] }
  else if kind == .file && text.length == 1 && isDrive coded then
    { text := text ++ coded.take 1 ++ [':'] ++ tail, dropsHost := true }
  else { p with text := text ++ coded ++ tail }

def isSlash (kind : SchemeKind) (c : Char) : Bool :=
  c == '/' || (kind.takesBackslash && c == '\\')

def addSegments (kind : SchemeKind) (p : PathState) : List (List Char) → PathState
  | [] => p
  | [segment] => p.add kind segment false
  | segment :: rest => addSegments kind (p.add kind segment true) rest

/-- Adds what is written in `s` to a path. The path of a file starts with one slash only. -/
def extendPath (kind : SchemeKind) (path s : List Char) : PathState :=
  let p := addSegments kind { text := path } (Text.fields (isSlash kind) s)
  if kind == .file then { p with text := '/' :: p.text.dropWhile (· == '/') } else p

end PageHarvest.Url
