import SchemaCheck.Url.Host

namespace SchemaCheck

namespace Url

structure Authority where
  username : String := ""
  password : String := ""
  host : Host
  /-- Left out if it is the default of the scheme. -/
  port : Option Nat := none
deriving DecidableEq

inductive Path
  | flat (text : String)
  | segments (names : List String)
deriving DecidableEq

/-- A password follows a colon, and an at-sign follows the two if there is one of them. -/
def Authority.userinfo (a : Authority) : String :=
  let password := if a.password.isEmpty then "" else ":" ++ a.password
  if a.username.isEmpty && a.password.isEmpty then "" else a.username ++ password ++ "@"

def Authority.text (a : Authority) : String :=
  a.userinfo ++ a.host.text ++
    match a.port with
    | some port => ":" ++ toString port
    | none => ""

def Path.text : Path → String
  | flat text => text
  | segments names => String.join (names.map ("/" ++ ·))

/-- Two solidi at the start of a path would be read as those of an authority. -/
def Path.needsPoint : Path → Bool
  | flat _ => false
  | segments names => names.head? = some "" && 2 ≤ names.length

end Url

structure Url where
  scheme : String
  authority : Option Url.Authority
  path : Url.Path
  query : Option String
  fragment : Option String
deriving DecidableEq

namespace Url

def after (mark : String) : Option String → String
  | some text => mark ++ text
  | none => ""

def text (u : Url) : String :=
  u.scheme ++ ":" ++
    (match u.authority with
      | some authority => "//" ++ authority.text
      | none => if u.path.needsPoint then "/." else "") ++
    u.path.text ++ after "?" u.query ++ after "#" u.fragment

end Url

end SchemaCheck
