import RcProtocol.Library.Text

/-!
Query strings, as bytes, and how they are read: by `form_urlencoded` of Rust, for which
what is no escape stands for itself, and by `url.ParseQuery` of Go, which leaves out a
setting that has one.
-/

namespace RcProtocol.Library

/-- What comes before the first separator, and what comes after it. -/
def cut (sep : UInt8) (text : List UInt8) : List UInt8 × List UInt8 :=
  (text.takeWhile (· ≠ sep), (text.dropWhile (· ≠ sep)).tail)

/-- The settings that are not empty. -/
def settings (query : List UInt8) : List (List UInt8) :=
  (query.splitOn '&'.toUInt8).filter (· ≠ [])

/-- The byte two hexadecimal digits stand for. -/
def hexPair (a b : UInt8) : Option UInt8 := do
  let high ← hexDigit (Char.ofNat a.toNat)
  let low ← hexDigit (Char.ofNat b.toNat)
  some (UInt8.ofNat (16 * high + low))

def plusToSpace (c : UInt8) : UInt8 := if c = '+'.toUInt8 then ' '.toUInt8 else c

def decodeForm : List UInt8 → List UInt8
  | [] => []
  | c :: a :: b :: rest =>
      if c = '%'.toUInt8 then
        match hexPair a b with
        | some v => v :: decodeForm rest
        | none => c :: decodeForm (a :: b :: rest)
      else plusToSpace c :: decodeForm (a :: b :: rest)
  | c :: rest => plusToSpace c :: decodeForm rest

/-- `form_urlencoded::parse`. A text is kept as its bytes, before what is not UTF-8 in it is
replaced. -/
def formPairs (query : List UInt8) : List (List UInt8 × List UInt8) :=
  (settings query).map fun setting =>
    let (name, value) := cut '='.toUInt8 setting
    (decodeForm name, decodeForm value)

def queryUnescape : List UInt8 → Option (List UInt8)
  | [] => some []
  | c :: a :: b :: rest =>
      if c = '%'.toUInt8 then (hexPair a b).bind fun v => (queryUnescape rest).map (v :: ·)
      else (queryUnescape (a :: b :: rest)).map (plusToSpace c :: ·)
  | c :: rest =>
      if c = '%'.toUInt8 then none else (queryUnescape rest).map (plusToSpace c :: ·)

/-- `url.ParseQuery`; its error is ignored. -/
def parseQuery (query : List UInt8) : List (List UInt8 × List UInt8) :=
  (settings query).filterMap fun setting =>
    if setting.contains ';'.toUInt8 then none
    else
      let (key, value) := cut '='.toUInt8 setting
      (queryUnescape key).bind fun key => (queryUnescape value).map fun value => (key, value)

/-- `Values.Get`: the first value of the key, or the empty text. -/
def getFirst (values : List (List UInt8 × List UInt8)) (key : String) : List UInt8 :=
  ((values.find? (·.1 = utf8 key)).map (·.2)).getD []

/-- The bytes as characters; all that are not ASCII are none that a number has. -/
def asChars (bytes : List UInt8) : List Char := bytes.map fun b => Char.ofNat b.toNat

example : formPairs (utf8 "a=1+2&&b%3d=%7") = [(utf8 "a", utf8 "1 2"), (utf8 "b=", utf8 "%7")] := by
  decide

example : parseQuery (utf8 "a=1+2&&b%3d=%7&c;d=1&e") =
    [(utf8 "a", utf8 "1 2"), (utf8 "e", [])] := by
  decide

end RcProtocol.Library
