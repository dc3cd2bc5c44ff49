import SchemaCheck.Url.Path

namespace SchemaCheck.Url

def isEdge (c : Char) : Bool := c ≤ ' '

def isSkipped (c : Char) : Bool := c = '\t' || c = '\n' || c = '\r'

def significant (cs : List Char) : List Char :=
  (((cs.dropWhile isEdge).reverse.dropWhile isEdge).reverse).filter (!isSkipped ·)

def cut (stops : Char → Bool) (cs : List Char) : List Char × List Char :=
  (cs.takeWhile (!stops ·), cs.dropWhile (!stops ·))

def isSchemeChar (c : Char) : Bool := c.isAlphanum || c = '+' || c = '-' || c = '.'

/-- A scheme starts with a letter and ends at a colon. -/
def splitScheme? (cs : List Char) : Option (String × List Char) :=
  match cut (!isSchemeChar ·) cs with
  | (c :: name, ':' :: rest) =>
    if c.isAlpha then some (.ofList ((c :: name).map Char.toLower), rest) else none
  | _ => none

def splitUserinfo (cs : List Char) : Option (List Char) × List Char :=
  let host := (cs.reverse.takeWhile (· ≠ '@')).reverse
  if host.length < cs.length then (some (cs.take (cs.length - host.length - 1)), host)
  else (none, cs)

/-- A host ends at the first colon outside brackets. -/
def splitHost (inside : Bool) : List Char → List Char × List Char
  | [] => ([], [])
  | c :: rest =>
    if c = ':' ∧ !inside then ([], c :: rest)
    else
      let (host, tail) := splitHost (c = '[' || inside && c ≠ ']') rest
      (c :: host, tail)

def endsPort (c : Char) : Bool := "/\\?#".toList.contains c

/-- The port after a host, and the text after it. A colon may stand there without a port. -/
def splitPort? : List Char → Option (Option Nat × List Char)
  | ':' :: rest =>
    let (digits, rest) := cut (!Char.isDigit ·) rest
    let port := Text.decimal digits
    if port < UInt16.size ∧ rest.head?.all endsPort then
      some (if digits = [] then none else some port, rest)
    else none
  | rest => some (none, rest)

def Scheme.host? : Scheme → List Char → Option Host
  | .plain, cs => Host.plain? cs
  | _, cs => Host.special? cs

def Scheme.defaultPort : Scheme → Option Nat
  | .special port => some port
  | _ => none

def username (userinfo : List Char) : String :=
  Percent.encode Percent.keptInUserinfo (userinfo.takeWhile (· ≠ ':'))

def password (userinfo : List Char) : String :=
  Percent.encode Percent.keptInUserinfo ((userinfo.dropWhile (· ≠ ':')).drop 1)

/-- The authority at the start of a text, and the text after it. Without a host there can be neither
a port nor credentials. -/
def splitAuthority? (s : Scheme) (cs : List Char) : Option (Authority × List Char) := do
  let (region, rest) := cut s.endsAuthority cs
  let (userinfo, hostPort) := splitUserinfo region
  if userinfo = some [] ∧ hostPort = [] ∧ rest ≠ [] then none
  let (hostText, tail) := splitHost false hostPort
  let userinfo := userinfo.getD []
  let authority : Authority :=
    { username := username userinfo
      password := password userinfo
      host := ← s.host? hostText }
  if authority.host.isEmpty ∧ (tail ≠ [] ∨ authority.userinfo ≠ "") then none
  let (port, rest) ← splitPort? (tail ++ rest)
  pure ({ authority with port := if port = s.defaultPort then none else port }, rest)

def withoutSlash (s : Scheme) : List Char → List Char
  | c :: rest => if s.isSlash c then rest else c :: rest
  | [] => []

/-- The path that follows an authority. Only in schemes that the web does not know it may be
empty. -/
def pathAfterAuthority (s : Scheme) (cs : List Char) : Path :=
  if s = .plain ∧ cs = [] then .segments []
  else .ofRaw (Path.rawSegments s (withoutSlash s cs))

def pathAlone : List Char → Path
  | '/' :: rest => .ofRaw (Path.rawSegments .plain rest)
  | cs => .flat (Percent.encode Percent.isPlain cs)

def keptInQuery (s : Scheme) : Percent.Keeps :=
  if s.isSpecial then Percent.keptInSpecialQuery else Percent.keptInQuery

def query? (s : Scheme) : List Char → Option String
  | '?' :: rest => some (Percent.encode (keptInQuery s) (rest.takeWhile (· ≠ '#')))
  | _ => none

def fragment? (cs : List Char) : Option String :=
  match cs.dropWhile (· ≠ '#') with
  | '#' :: rest => some (Percent.encode Percent.keptInFragment rest)
  | _ => none

def finish (scheme : String) (s : Scheme) (authority : Option Authority) (path : Path)
    (tail : List Char) : Url :=
  ⟨scheme, authority, path, query? s tail, fragment? tail⟩

/-- The host of a file, which this machine has no name for, and its path. -/
def splitFileHost? (cs : List Char) : Option (Host × List Char) :=
  match cs with
  | a :: b :: rest =>
    if Scheme.file.isSlash a ∧ Scheme.file.isSlash b then
      let (hostText, path) := cut Scheme.file.endsAuthority rest
      if hostText = [] then some (.empty, path)
      else if Path.isDrive hostText then some (.empty, rest)
      else do
        let host ← Host.special? hostText
        pure (if host = .name "localhost" then .empty else host, path)
    else some (.empty, cs)
  | _ => some (.empty, cs)

/-- A path that starts with a drive has no host. -/
def parseFile? (scheme : String) (cs : List Char) : Option Url := do
  let (host, rest) ← splitFileHost? cs
  let (pathText, tail) := cut Scheme.endsPath rest
  let segments := Path.rawSegments .file (withoutSlash .file pathText)
  let host := if segments.head?.any Path.isDrive then .empty else host
  pure (finish scheme .file (some { host }) (.ofRaw (Path.withoutEmptyFront segments)) tail)

def parseAfterSlashes? (scheme : String) (s : Scheme) (cs : List Char) : Option Url := do
  let (authority, rest) ← splitAuthority? s cs
  let (pathText, tail) := cut Scheme.endsPath rest
  pure (finish scheme s (some authority) (pathAfterAuthority s pathText) tail)

def parseWith? (scheme : String) (s : Scheme) (cs : List Char) : Option Url :=
  match s with
  | .file => parseFile? scheme cs
  | .special _ => parseAfterSlashes? scheme s (cs.dropWhile s.isSlash)
  | .plain =>
    match cs with
    | '/' :: '/' :: rest => parseAfterSlashes? scheme s rest
    | _ =>
      let (pathText, tail) := cut Scheme.endsPath cs
      some (finish scheme s none (pathAlone pathText) tail)

def parse? (source : String) : Option Url := do
  let (scheme, rest) ← splitScheme? (significant source.toList)
  parseWith? scheme (Scheme.ofName scheme) rest

end SchemaCheck.Url
