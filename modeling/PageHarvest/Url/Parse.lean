import PageHarvest.Url.Basic
import PageHarvest.Url.PathText
import PageHarvest.Url.SiteName

namespace PageHarvest.Url

/-- Drops blanks and controls around a text, and line ends and tabs anywhere. -/
def cleaned (s : List Char) : List Char :=
  let outer (c : Char) := c.toNat ≤ 0x20
  (Text.dropTrailing outer (s.dropWhile outer)).filter fun c =>
    c != '\t' && c != '\n' && c != '\r'

def isSchemeChar (c : Char) : Bool :=
  c.isAlphanum || c == '+' || c == '-' || c == '.'

def readScheme? (s : List Char) : Option (List Char × List Char) :=
  if s.head?.any Char.isAlpha then
    match s.dropWhile isSchemeChar with
    | ':' :: r => some ((s.takeWhile isSchemeChar).map Char.toLower, r)
    | _ => none
  else none

def startsTail (c : Char) : Bool :=
  c == '?' || c == '#'

def beforeTail (s : List Char) : List Char :=
  s.takeWhile (!startsTail ·)

def fragmentOf (s : List Char) : List Char :=
  encode needsFragmentCode s

/-- Takes query and fragment from the end of a text. -/
def withTail (u : Url) (s : List Char) : Url :=
  match s.dropWhile (!startsTail ·) with
  | '?' :: r =>
    let needsCode := if u.kind.takesBackslash then needsSpecialQueryCode else needsQueryCode
    let query := encode needsCode (r.takeWhile (· != '#'))
    match r.dropWhile (· != '#') with
    | _ :: f => { u with query := some query, fragment := some (fragmentOf f) }
    | [] => { u with query := some query, fragment := none }
  | _ :: f => { u with query := none, fragment := some (fragmentOf f) }
  | [] => { u with query := none, fragment := none }

def withFragment (u : Url) (s : List Char) : Url :=
  { u with fragment := some (fragmentOf s) }

def readIpv6 (s : List Char) : Except Fault Host :=
  if s.getLast? == some ']' then
    match ipv6? (s.drop 1).dropLast with
    | some pieces => .ok (.ipv6 pieces)
    | none => .error .ipv6
  else .error .ipv6

def readSite (s : List Char) : Except Fault Host :=
  if s.head? == some '[' then readIpv6 s
  else
    match (decode? s).bind asciiName? with
    | none => .error .domain
    | some [] => .error .emptyHost
    | some name =>
      if endsInNumber name then
        match ipv4? name with
        | some address => .ok (.ipv4 address)
        | none => .error .ipv4
      else .ok (.named name)

def isUnfitForHost (c : Char) : Bool :=
  ['\x00', '\t', '\n', '\r', ' ', '#', '/', ':', '<', '>', '?', '@', '[', '\\', ']', '^',
    '|'].contains c

def readOtherHost (s : List Char) : Except Fault Host :=
  if s.head? == some '[' then readIpv6 s
  else if s.any isUnfitForHost then .error .hostCharacter
  else .ok (.named (encode isUnprintable s))

/-- Cuts a text behind the host; a colon in brackets belongs to the host. -/
def cutHost (kind : SchemeKind) (inBrackets : Bool) : List Char → List Char × List Char
  | [] => ([], [])
  | c :: r =>
    if (c == ':' && !inBrackets) || isSlash kind c || startsTail c then ([], c :: r)
    else
      let inBrackets := if c == '[' then true else if c == ']' then false else inBrackets
      let (host, rest) := cutHost kind inBrackets r
      (c :: host, rest)

/-- The port behind a colon, unless it is the usual one, and the text behind it. -/
def readPort (scheme s : List Char) : Except Fault (Option Nat × List Char) :=
  let digits := s.takeWhile Char.isDigit
  let rest := s.dropWhile Char.isDigit
  let n := digits.foldl (fun n d => 10 * n + (d.toNat - '0'.toNat)) 0
  if 65535 < n || !rest.head?.all endsSegment then .error .port
  else .ok (if digits.isEmpty || defaultPort? scheme == some n then none else some n, rest)

def cutCredentials? (kind : SchemeKind) (s : List Char) : Option (List Char × List Char) :=
  let authority := s.takeWhile fun c => !isSlash kind c && !startsTail c
  if authority.contains '@' then
    let host := (authority.reverse.takeWhile (· != '@')).reverse
    let user := authority.take (authority.length - host.length - 1)
    some (user, s.drop (user.length + 1))
  else none

def readCredentials (s : List Char) : List Char × Option (List Char) :=
  let user := encode needsUserCode (s.takeWhile (· != ':'))
  match (s.dropWhile (· != ':')).drop 1 with
  | [] => (user, none)
  | password => (user, some (encode needsUserCode password))

/-- What stands before an at sign, if anything, as user name and password. -/
def credentialsOf (cut : Option (List Char × List Char)) : List Char × Option (List Char) :=
  (cut.map fun c => readCredentials c.1).getD ([], none)

def readHost (kind : SchemeKind) (s : List Char) : Except Fault Host :=
  if kind == .other then readOtherHost s else readSite s

def readAfterHost (scheme : List Char) : List Char → Except Fault (Option Nat × List Char)
  | ':' :: r => readPort scheme r
  | r => .ok (none, r)

def pathAfterHost (kind : SchemeKind) (s : List Char) : List Char :=
  match kind, s with
  | .other, [] => []
  | .other, '/' :: _ => (extendPath kind [] s).text
  | .other, _ => (extendPath kind ['/'] s).text
  | _, c :: r => (extendPath kind ['/'] (if isSlash kind c then r else c :: r)).text
  | _, [] => ['/']

def readAuthority (scheme s : List Char) : Except Fault Url := do
  let kind := schemeKind scheme
  let credentials := cutCredentials? kind s
  let (user, password) := credentialsOf credentials
  let r := (credentials.map (·.2)).getD s
  let bareSign := credentials.any fun (c, r) =>
    c.isEmpty && r.head?.any fun c => isSlash kind c || startsTail c
  if bareSign then .error .emptyHost
  let (hostText, afterHost) := cutHost kind false r
  if kind == .special && hostText.isEmpty then .error .emptyHost
  let host ← readHost kind hostText
  if host == .named [] && (afterHost.head? == some ':' || !user.isEmpty || password.isSome) then
    .error .emptyHost
  let (port, rest) ← readAfterHost scheme afterHost
  let path := pathAfterHost kind (beforeTail rest)
  return withTail
    { scheme, authority := some { user, password, host, port }, path := .segments path } rest

def fileUrl (host : Host) (path s : List Char) : Url :=
  let p := extendPath .file path (beforeTail s)
  withTail { scheme := "file".toList, authority := some { host }, path := .segments p.text } s

def firstSegment (path : List Char) : List Char :=
  (path.drop 1).takeWhile (· != '/')

def hostOf (u : Url) : Host :=
  match u.authority with
  | some a => a.host
  | none => .named []

/-- Behind two slashes a file has a host, but a drive letter is none. -/
def readFileHost (s : List Char) : Except Fault Url := do
  let hostText := s.takeWhile (!endsSegment ·)
  let rest := s.dropWhile (!endsSegment ·)
  if isDrive hostText then return fileUrl (.named []) ['/'] s
  else if hostText.isEmpty then return fileUrl (.named []) ['/'] rest
  else
    let host ← readSite hostText
    if host == .named "localhost".toList then return fileUrl (.named []) ['/'] rest
    else
      let path := match rest with
        | c :: r => if isSlash .file c then r else c :: r
        | [] => []
      let dropsHost := (extendPath .file ['/'] (beforeTail path)).dropsHost
      return fileUrl (if dropsHost then .named [] else host) ['/'] path

def readFile (base? : Option Url) (s : List Char) : Except Fault Url :=
  match s with
  | c :: d :: r =>
    if isSlash .file c && isSlash .file d then readFileHost r
    else readLocal c (d :: r)
  | [c] => readLocal c []
  | [] =>
    match base? with
    | some base => .ok { base with fragment := none }
    | none => .ok (fileUrl (.named []) ['/'] [])
where
  readLocal (c : Char) (r : List Char) : Except Fault Url :=
    match base? with
    | none => .ok (fileUrl (.named []) (if isSlash .file c then [] else ['/']) (c :: r))
    | some base =>
      let path := base.path.chars
      if isSlash .file c then
        if startsWithDrive r then .ok (fileUrl (.named []) [] (c :: r))
        else
          let first := firstSegment path
          if isPlainDrive first then .ok (fileUrl (.named []) ('/' :: first) (c :: r))
          else .ok (fileUrl (hostOf base) [] (c :: r))
      else if c == '?' then .ok (withTail base (c :: r))
      else if c == '#' then .ok (withFragment base r)
      else if startsWithDrive (c :: r) then .ok (fileUrl (.named []) ['/'] (c :: r))
      else .ok (fileUrl (hostOf base) (popSegment .file path) (c :: r))

def readRelative (base : Url) (s : List Char) : Except Fault Url :=
  let kind := base.kind
  let withPath (path rest : List Char) : Url :=
    let p := extendPath kind path (beforeTail rest)
    withTail { base with path := .segments p.text } rest
  match s with
  | [] => .ok { base with fragment := none }
  | '?' :: _ => .ok (withTail base s)
  | '#' :: r => .ok (withFragment base r)
  | c :: r =>
    if c == '/' || c == '\\' then
      let slashes := s.takeWhile fun c => c == '/' || c == '\\'
      if 2 ≤ slashes.length then
        readAuthority base.scheme
          (if ['/', '/'].isPrefixOf s then s.drop 2 else s.drop slashes.length)
      else .ok (withPath ['/'] r)
    else
      let path := popSegment kind base.path.chars
      .ok (withPath (if path.isEmpty then ['/'] else path) s)

def readWithScheme (base? : Option Url) (scheme s : List Char) : Except Fault Url :=
  match schemeKind scheme with
  | .file => readFile (base?.filter fun b => b.kind == .file) s
  | .special =>
    let slashes := s.takeWhile fun c => c == '/' || c == '\\'
    match base?.filter fun b => slashes.length < 2 && b.scheme == scheme with
    | some base => readRelative base s
    | none => readAuthority scheme (s.drop slashes.length)
  | .other =>
    match s with
    | '/' :: '/' :: r => readAuthority scheme r
    | '/' :: r =>
      .ok (withTail { scheme, path := .segments (extendPath .other ['/'] (beforeTail r)).text } r)
    | _ => .ok (withTail { scheme, path := .unsplit (encode isUnprintable (beforeTail s)) } s)

def read (base? : Option Url) (text : String) : Except Fault Url :=
  let s := cleaned text.toList
  match readScheme? s, base? with
  | some (scheme, r), _ => readWithScheme base? scheme r
  | none, none => .error .relativeWithoutBase
  | none, some base =>
    match s with
    | '#' :: r => .ok (withFragment base r)
    | _ =>
      if base.isOpaque then .error .relativeToOpaque
      else if base.kind == .file then readFile (some base) s
      else readRelative base s

def parse (text : String) : Except Fault Url :=
  read none text

/-- What a text means on the page with the URL `base`. -/
def join (base : Url) (text : String) : Except Fault Url :=
  read (some base) text

end PageHarvest.Url
