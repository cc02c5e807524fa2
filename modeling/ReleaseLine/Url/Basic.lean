import ReleaseLine.Url.Form
import ReleaseLine.Url.Host
import ReleaseLine.Url.Path

namespace ReleaseLine

namespace Url

/-- Who and where: user information, host and port. An empty password is no password. -/
structure Authority where
  username : String
  password : String
  host : Option Host
  port : Option Nat
deriving DecidableEq

end Url

/-- A URL, every part in its encoded form. -/
structure Url where
  scheme : String
  authority : Option Url.Authority
  path : Url.Path
  query : Option String
  fragment : Option String
deriving DecidableEq

namespace Url

/-- The port that a scheme uses unless the URL names another. -/
def defaultPort? (scheme : String) : Option Nat :=
  if scheme = "http" ∨ scheme = "ws" then some 80
  else if scheme = "https" ∨ scheme = "wss" then some 443
  else if scheme = "ftp" then some 21
  else none

/-- Schemes whose URLs have a host and whose paths may be written with backslashes. -/
def isSpecialScheme (scheme : String) : Bool := (defaultPort? scheme).isSome || scheme = "file"

def isSpecial (url : Url) : Bool := isSpecialScheme url.scheme

def isLocal (url : Url) : Bool := url.scheme = "file"

/-- Extend the path of a URL, less an empty segment at its end, by texts as segments. The dot that
is written before an empty first segment where there is no authority stays when that segment is
replaced. -/
def extend (url : Url) (texts : List String) : Url :=
  match url.path with
  | .rootless _ => url
  | .segments list =>
    let longer := texts.foldl (Path.push url.isSpecial url.isLocal) (Path.dropEmptyEnd list)
    let dotted := url.authority.isNone ∧ list = ["", ""]
    { url with path := .segments (if dotted then "." :: longer else longer) }

def appendPair (url : Url) (name value : String) : Url :=
  { url with query := some (Form.append url.query name value) }

/-- Whether the URL has no path that segments could be added to. -/
def isRootless (url : Url) : Bool :=
  match url.path with
  | .rootless _ => true
  | .segments _ => false

def host? (url : Url) : Option Host := url.authority.bind (·.host)

/-- The port in use: the one named, or the default of the scheme. -/
def effectivePort? (url : Url) : Option Nat :=
  (url.authority.bind (·.port)).or (defaultPort? url.scheme)

def pathText (url : Url) : String :=
  match url.path with
  | .rootless text => text
  | .segments list => String.join (list.map ("/" ++ ·))

def portText (port : Option Nat) : String :=
  match port with
  | none => ""
  | some n => ":" ++ toString n

def queryText (url : Url) : String :=
  match url.query with
  | none => ""
  | some text => "?" ++ text

def Authority.userInfoText (a : Authority) : String :=
  if a.username = "" ∧ a.password = "" then ""
  else if a.password = "" then a.username ++ "@"
  else a.username ++ ":" ++ a.password ++ "@"

def Authority.hostText (a : Authority) : String :=
  (a.host.map Host.render).getD "" ++ portText a.port

def authorityText (url : Url) : String :=
  match url.authority with
  | some a => "//" ++ a.userInfoText ++ a.hostText
  | none =>
    -- Without this a path that starts with two slashes would read as an authority.
    match url.path with
    | .segments ("" :: _ :: _) => "/."
    | _ => ""

def render (url : Url) : String :=
  url.scheme ++ ":" ++ url.authorityText ++ url.pathText ++ url.queryText ++
    (match url.fragment with
    | none => ""
    | some text => "#" ++ text)

/-- What a request line names of a URL: path and query. -/
def target (url : Url) : String := url.pathText ++ url.queryText

def withoutUserInfo (url : Url) : Url :=
  { url with authority := url.authority.map fun a => { a with username := "", password := "" } }

def bare (url : Url) : Url := { url.withoutUserInfo with fragment := none }

end Url

end ReleaseLine
