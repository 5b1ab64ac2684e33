import RcProtocol.Library.Text

/-!
JSON values and their compact text. Object members stand in the order they are
written in.
-/

namespace RcProtocol.Library

inductive Json where
  | null
  | bool (value : Bool)
  | num (value : Int)
  | str (value : String)
  | arr (items : List Json)
  | obj (members : List (String × Json))

namespace Json

def escapeChar (c : Char) : String :=
  match c with
  | '"' => "\\\""
  | '\\' => "\\\\"
  | '\n' => "\\n"
  | '\r' => "\\r"
  | '\t' => "\\t"
  | c =>
      if c.toNat = 8 then "\\b"
      else if c.toNat = 12 then "\\f"
      else if c.toNat < 32 then "\\u" ++ hexEncode [0, UInt8.ofNat c.toNat]
      else c.toString

def quote (s : String) : String :=
  "\"" ++ String.join (s.toList.map escapeChar) ++ "\""

mutual

def render : Json → String
  | null => "null"
  | bool b => if b then "true" else "false"
  | num n => toString n
  | str s => quote s
  | arr items => "[" ++ ",".intercalate (renderItems items) ++ "]"
  | obj members => "\x7b" ++ ",".intercalate (renderMembers members) ++ "\x7d"

def renderItems : List Json → List String
  | [] => []
  | item :: items => render item :: renderItems items

def renderMembers : List (String × Json) → List String
  | [] => []
  | (name, value) :: members => (quote name ++ ":" ++ render value) :: renderMembers members

end

/-- The bytes the value is signed and hashed under. -/
def toBytes (j : Json) : List UInt8 := utf8 j.render

/-- The string member of that name. -/
def strMember (name : String) : Json → Option String
  | obj members =>
      match members.find? (·.1 = name) with
      | some (_, str s) => some s
      | _ => none
  | _ => none

def ofOption : Option String → Json
  | some s => str s
  | none => null

end Json

end RcProtocol.Library
