import HttpAuth.Challenge.Basic

namespace HttpAuth.Challenge

/-- Puts a backslash before quotes and backslashes. -/
def escape (value : String) : String :=
  String.ofList (value.toList.flatMap fun c => if c = '"' ∨ c = '\\' then ['\\', c] else [c])

def renderParam (e : Name × String) : String := e.1.text ++ "=\"" ++ escape e.2 ++ "\""

/-- A challenge such as `basic charset="UTF-8", realm="r"`. Every value is quoted. -/
def render (c : Challenge) : String :=
  if c.isBare then c.scheme.text
  else c.scheme.text ++ " " ++ ", ".intercalate (c.params.entries.map renderParam)

/-- A bare challenge is followed by a blank, for a comma may not follow a scheme. One that ends the text
after another bare one is too, for else it would be taken for credentials of that one. -/
def renderAll : List Challenge → String
  | [] => ""
  | [c] => c.render
  | [c, d] =>
    c.render ++ (if c.isBare then " " else ", ") ++ d.render ++ (if c.isBare ∧ d.isBare then " " else "")
  | c :: d :: rest => c.render ++ (if c.isBare then " " else ", ") ++ renderAll (d :: rest)

end HttpAuth.Challenge
