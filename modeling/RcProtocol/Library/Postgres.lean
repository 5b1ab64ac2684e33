import Mathlib.Algebra.BigOperators.Group.List.Defs
import Mathlib.Data.List.Sort
import RcProtocol.Library.Json

/-!
Values of PostgreSQL columns and the text the server sends for them: arrays of text,
and JSONB; and the text it takes for one.
-/

namespace RcProtocol.Library

/-- One dimension of an array: the subscript it starts at, and its length. -/
structure Dimension where
  lower : Int
  length : Nat
  length_pos : 0 < length

def Dimension.bounds (d : Dimension) : String :=
  "[" ++ toString d.lower ++ ":" ++ toString (d.lower + d.length - 1) ++ "]"

/-- So many elements an array of these dimensions has; without dimensions it is empty. -/
def arraySize : List Dimension → Nat
  | [] => 0
  | d :: rest => d.length * (rest.map (·.length)).prod

/-- A value of a `TEXT[]` column, its elements in the order they are stored. -/
structure TextArray where
  dimensions : List Dimension
  elements : List (Option String)
  length_eq : elements.length = arraySize dimensions

namespace TextArray

/-- The array `ARRAY[…]` writes. -/
def ofList : List String → TextArray
  | [] => ⟨[], [], rfl⟩
  | s :: rest =>
      ⟨[⟨1, rest.length + 1, Nat.succ_pos _⟩], (s :: rest).map some, by simp [arraySize]⟩

/-- `s = ANY(a)`. -/
def any (a : TextArray) (s : String) : Bool := a.elements.contains (some s)

/-- `array_isspace`. -/
def isSpace (c : Char) : Bool := c = ' ' || (9 ≤ c.toNat && c.toNat ≤ 13)

def needsQuotes (s : String) : Bool :=
  s = "" || asciiUpper s = "NULL" ||
    s.toList.any fun c => isSpace c || ['"', '\\', '\x7b', '\x7d', ','].contains c

def escapeElement (s : String) : String :=
  String.ofList (s.toList.flatMap fun c => if c = '"' || c = '\\' then ['\\', c] else [c])

def elementOut : Option String → String
  | none => "NULL"
  | some s => if needsQuotes s then "\"" ++ escapeElement s ++ "\"" else s

def nestedOut : List Dimension → List (Option String) → String
  | [], es => elementOut es.head?.join
  | d :: rest, es =>
      let size := (rest.map (·.length)).prod
      "\x7b" ++ ",".intercalate ((List.range d.length).map fun i =>
        nestedOut rest ((es.drop (i * size)).take size)) ++ "\x7d"

/-- `array_out`: the bounds come first when a subscript does not start at one. -/
def out (a : TextArray) : String :=
  if a.dimensions.isEmpty then "\x7b\x7d"
  else
    (if a.dimensions.any (·.lower ≠ 1) then String.join (a.dimensions.map (·.bounds)) ++ "=" else "")
      ++ nestedOut a.dimensions a.elements

example : (ofList ["asset.sold", "a b", "null", "c\"d"]).out =
    "\x7basset.sold,\"a b\",\"null\",\"c\\\"d\"\x7d" := by decide

theorem nestedOut_cons (d : Dimension) (rest : List Dimension) (es : List (Option String)) :
    ∃ cs, (nestedOut (d :: rest) es).toList = '\x7b' :: cs := by
  rw [nestedOut]
  exact ⟨_, by simp only [String.toList_append]; rfl⟩

theorem toString_int_cons (n : Int) :
    ∃ c cs, (toString n).toList = c :: cs ∧ (c = '-' ∨ c.isDigit = true) := by
  have hdigits : ∀ m : Nat, ∃ c cs, m.repr.toList = c :: cs ∧ c.isDigit = true := by
    intro m
    rw [Nat.toList_repr]
    cases hm : Nat.toDigits 10 m with
    | nil => exact absurd hm Nat.toDigits_ne_nil
    | cons c cs =>
        have hmem : c ∈ Nat.toDigits 10 m := by
          rw [hm]
          exact .head _
        exact ⟨c, cs, rfl, Nat.isDigit_of_mem_toDigits (by decide) (by decide) hmem⟩
  cases n with
  | ofNat m =>
      obtain ⟨c, cs, hcs, hc⟩ := hdigits m
      exact ⟨c, cs, hcs, .inr hc⟩
  | negSucc m =>
      refine ⟨'-', m.succ.repr.toList, ?_, .inl rfl⟩
      show ("-" ++ m.succ.repr).toList = _
      rw [String.toList_append]
      rfl

theorem bounds_cons (d : Dimension) :
    ∃ c cs, d.bounds.toList = '[' :: c :: cs ∧ (c = '-' ∨ c.isDigit = true) := by
  obtain ⟨c, cs, hcs, hc⟩ := toString_int_cons d.lower
  rw [Dimension.bounds, String.append_assoc, String.append_assoc]
  exact ⟨c, _, by rw [String.toList_append, String.toList_append, hcs]; rfl, hc⟩

/-- The text opens with a brace, or with a bracket and a number. -/
theorem out_cons (a : TextArray) :
    (∃ cs, a.out.toList = '\x7b' :: cs) ∨
      ∃ c cs, a.out.toList = '[' :: c :: cs ∧ (c = '-' ∨ c.isDigit = true) := by
  obtain ⟨dimensions, elements, hlength⟩ := a
  cases dimensions with
  | nil => exact .inl ⟨['\x7d'], by simp [out]⟩
  | cons d rest =>
      obtain ⟨cs, hcs⟩ := nestedOut_cons d rest elements
      rw [out]
      dsimp only [List.isEmpty_cons]
      rw [if_neg (by decide)]
      split
      · right
        obtain ⟨c, tail, hbounds, hc⟩ := bounds_cons d
        rw [List.map_cons, String.join_cons, String.append_assoc, String.append_assoc]
        exact ⟨c, _, by rw [String.toList_append, hbounds]; rfl, hc⟩
      · left
        exact ⟨cs, by rw [String.toList_append, hcs]; rfl⟩

end TextArray

/-- The value of a `TEXT` parameter. What is not UTF-8 is refused, and so is the zero byte. -/
def textIn (bytes : List UInt8) : Option String :=
  if bytes.contains 0 then none else String.fromUTF8? ⟨bytes.toArray⟩

example : textIn (utf8 "é") = some "é" ∧ textIn ((utf8 "é").take 1) = none := by decide +kernel

/-- JSONB keeps the shorter member names first, and of a repeated name the last value. -/
def jsonbOrder (a b : String × String) : Bool :=
  let n := (utf8 a.1).length
  let m := (utf8 b.1).length
  n < m || n = m && a.1 ≤ b.1

def keepLast : List (String × String) → List (String × String)
  | [] => []
  | member :: rest =>
      if rest.any (·.1 = member.1) then keepLast rest else member :: keepLast rest

mutual

/-- `jsonb_out`. -/
def jsonbOut : Json → String
  | .null => "null"
  | .bool b => if b then "true" else "false"
  | .num n => toString n
  | .str s => Json.quote s
  | .arr items => "[" ++ ", ".intercalate (jsonbItems items) ++ "]"
  | .obj members =>
      let members := (keepLast (jsonbMembers members)).insertionSort fun a b => jsonbOrder a b
      "\x7b" ++ ", ".intercalate (members.map fun m => Json.quote m.1 ++ ": " ++ m.2) ++ "\x7d"

def jsonbItems : List Json → List String
  | [] => []
  | item :: items => jsonbOut item :: jsonbItems items

def jsonbMembers : List (String × Json) → List (String × String)
  | [] => []
  | (name, value) :: members => (name, jsonbOut value) :: jsonbMembers members

end

end RcProtocol.Library
