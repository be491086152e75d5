import HttpAuth.Url.Form

namespace HttpAuth

/-- All parts are in the form in which they are written. A URL without a host has a path alone behind its
scheme. -/
structure Url where
  scheme : String
  username : String := ""
  password : String := ""
  host? : Option String := none
  port? : Option Nat := none
  path : String := ""
  query? : Option String := none
  fragment? : Option String := none
deriving DecidableEq, Repr

namespace Url

def userInfoText (u : Url) : String :=
  if u.username.isEmpty && u.password.isEmpty then ""
  else u.username ++ (if u.password.isEmpty then "" else ":" ++ u.password) ++ "@"

def authorityText (u : Url) : String :=
  match u.host? with
  | none => ""
  | some host =>
    "//" ++ u.userInfoText ++ host ++
      (match u.port? with
        | some port => ":" ++ toString port
        | none => "")

def withMark (mark : String) : Option String → String
  | some s => mark ++ s
  | none => ""

/-- A path that begins with two slashes would be read as an authority if none stands before it. -/
def pathText (u : Url) : String :=
  if u.host?.isNone && u.path.startsWith "//" then "/." ++ u.path else u.path

def text (u : Url) : String :=
  u.scheme ++ ":" ++ u.authorityText ++ u.pathText ++ withMark "?" u.query? ++
    withMark "#" u.fragment?

/-- Adds pairs of texts behind the query. -/
def appendPairs (u : Url) (pairs : List (String × String)) : Url :=
  { u with query? := some (String.ofList (Form.append (u.query?.getD "").toList pairs)) }

end Url

end HttpAuth
