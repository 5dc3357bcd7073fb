import PageHarvest.Text.Basic

namespace PageHarvest

inductive BrowserProfile
  | chrome
  | firefox
  | edge
  | safari
deriving DecidableEq, Repr, Inhabited

namespace BrowserProfile

def all : List BrowserProfile := [chrome, firefox, edge, safari]

def label : BrowserProfile → String
  | chrome => "chrome"
  | firefox => "firefox"
  | edge => "edge"
  | safari => "safari"

def userAgent : BrowserProfile → String
  | chrome =>
    "Mozilla/5.0 (Windows NT 10.0; Win64; x64) AppleWebKit/537.36 (KHTML, like Gecko) " ++
      "Chrome/124.0.0.0 Safari/537.36"
  | firefox => "Mozilla/5.0 (Windows NT 10.0; Win64; x64; rv:125.0) Gecko/20100101 Firefox/125.0"
  | edge =>
    "Mozilla/5.0 (Windows NT 10.0; Win64; x64) AppleWebKit/537.36 (KHTML, like Gecko) " ++
      "Chrome/124.0.0.0 Safari/537.36 Edg/124.0.0.0"
  | safari =>
    "Mozilla/5.0 (Macintosh; Intel Mac OS X 14_4) AppleWebKit/605.1.15 (KHTML, like Gecko) " ++
      "Version/17.4 Safari/605.1.15"

/-- The class of the classic engine that drives this browser. -/
def driverClass : BrowserProfile → String
  | chrome => "Chrome"
  | firefox => "Firefox"
  | edge => "Edge"
  | safari => "Safari"

/-- The class of the classic engine that holds this browser's options. -/
def optionsClass (p : BrowserProfile) : String :=
  p.driverClass ++ "Options"

def family : BrowserProfile → String
  | chrome => "chromium"
  | firefox => "firefox"
  | edge => "chromium"
  | safari => "webkit"

/-- The release channel that the modern engine has to be told. -/
def channel? : BrowserProfile → Option String
  | edge => some "msedge"
  | _ => none

end BrowserProfile

structure Network where
  proxies : List String := []
  requestDelayMs : UInt64 := 0
  browserProfile : BrowserProfile := .chrome
deriving DecidableEq, Repr, Inhabited

namespace Network

def usableProxies (texts : List String) : List String :=
  (texts.map Text.trimmed).filter (· ≠ "")

def proxyList (n : Network) : List String :=
  usableProxies n.proxies

def hasProxies (n : Network) : Bool :=
  n.proxies.any fun p => !Text.allBlank p

def withProxyText (n : Network) (text : String) : Network :=
  { n with proxies := usableProxies ((Text.lines text.toList).map String.ofList) }

def withProxy (n : Network) (proxy : String) : Network :=
  { n with proxies := n.proxies ++ [proxy] }

def threeDigits (n : Nat) : String :=
  let digits := toString n
  String.ofList (List.replicate (3 - digits.length) '0') ++ digits

def delaySeconds (n : Network) : String :=
  toString (n.requestDelayMs.toNat / 1000) ++ "." ++ threeDigits (n.requestDelayMs.toNat % 1000)

end Network
end PageHarvest
