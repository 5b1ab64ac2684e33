import RcProtocol.Library.Json

/-!
Reading a JSON text into a list of strings, as `json.Unmarshal` does into a `[]string`.
Besides `null` only an array of strings and nulls is one; any other value is of the
wrong type, any other text no value, and both are errors.
-/

namespace RcProtocol.Library.JsonStrings

def isSpace (c : Char) : Bool := c = ' ' || c = '\t' || c = '\n' || c = '\r'

def skipSpace (cs : List Char) : List Char := cs.dropWhile isSpace

/-- The four digits of a `\u` escape. -/
def codeUnit (a b c d : Char) : Option Nat := do
  let a ← hexDigit a
  let b ← hexDigit b
  let c ← hexDigit c
  let d ← hexDigit d
  some (4096 * a.val + 256 * b.val + 16 * c.val + d.val)

def simpleEscape (c : Char) : Option Nat :=
  match c with
  | '"' => some 34
  | '\\' => some 92
  | '/' => some 47
  | 'b' => some 8
  | 'f' => some 12
  | 'n' => some 10
  | 'r' => some 13
  | 't' => some 9
  | _ => none

/-- The code points of a string, after its opening quote, and what follows it. A `\u`
escape stands for one unit of UTF-16. -/
def parseString : List Char → Option (List Nat × List Char)
  | [] => none
  | '"' :: rest => some ([], rest)
  | '\\' :: 'u' :: a :: b :: c :: d :: rest => do
      let n ← codeUnit a b c d
      let (ns, rest) ← parseString rest
      some (n :: ns, rest)
  | '\\' :: c :: rest => do
      let n ← simpleEscape c
      let (ns, rest) ← parseString rest
      some (n :: ns, rest)
  | c :: rest =>
      if c.toNat < 32 then none
      else (parseString rest).map fun (ns, rest) => (c.toNat :: ns, rest)

def isHigh (n : Nat) : Bool := 0xD800 ≤ n && n < 0xDC00

def isLow (n : Nat) : Bool := 0xDC00 ≤ n && n < 0xE000

/-- A pair of surrogates is one character, a surrogate alone the replacement character. -/
def joinSurrogates : List Nat → List Char
  | [] => []
  | [n] => [if isHigh n || isLow n then '\uFFFD' else Char.ofNat n]
  | n :: m :: rest =>
      if isHigh n && isLow m then
        Char.ofNat (0x10000 + (n - 0xD800) * 0x400 + (m - 0xDC00)) :: joinSurrogates rest
      else (if isHigh n || isLow n then '\uFFFD' else Char.ofNat n) :: joinSurrogates (m :: rest)

/-- A string, or the null that leaves the empty one. -/
def parseItem : List Char → Option (String × List Char)
  | '"' :: rest => (parseString rest).map fun (ns, rest) => (.ofList (joinSurrogates ns), rest)
  | 'n' :: 'u' :: 'l' :: 'l' :: rest => some ("", rest)
  | _ => none

/-- The items up to the closing bracket; the first argument bounds their number. -/
def parseItems : Nat → List Char → Option (List String × List Char)
  | 0, _ => none
  | fuel + 1, cs => do
      let (s, rest) ← parseItem (skipSpace cs)
      match skipSpace rest with
      | ',' :: rest => (parseItems fuel rest).map fun (items, rest) => (s :: items, rest)
      | ']' :: rest => some ([s], rest)
      | _ => none

def atEnd (cs : List Char) : Bool := (skipSpace cs).isEmpty

def unmarshalChars (cs : List Char) : Option (List String) :=
  match skipSpace cs with
  | 'n' :: 'u' :: 'l' :: 'l' :: rest => if atEnd rest then some [] else none
  | '[' :: cs =>
      match skipSpace cs with
      | ']' :: rest => if atEnd rest then some [] else none
      | _ =>
          match parseItems (cs.length + 1) cs with
          | some (items, rest) => if atEnd rest then some items else none
          | none => none
  | _ => none

def unmarshalStrings (text : String) : Option (List String) := unmarshalChars text.toList

example : unmarshalStrings "[\"asset.sold\", null, \"\\ud83d\\ude00\"] " =
    some ["asset.sold", "", "😀"] := by decide

theorem skipSpace_cons {c : Char} (hc : isSpace c = false) (cs : List Char) :
    skipSpace (c :: cs) = c :: cs := by
  simp [skipSpace, hc]

theorem parseString_simple {c : Char} {n : Nat} (hc : simpleEscape c = some n) (rest : List Char) :
    parseString ('\\' :: c :: rest) = (parseString rest).map fun r => (n :: r.1, r.2) := by
  have hu : c ≠ 'u' := by
    rintro rfl
    cases hc
  rw [parseString]
  · rw [hc]
    cases parseString rest <;> rfl
  · intro _ _ _ _ _ h
    exact absurd h hu

theorem parseString_unit {a b c d : Char} {n : Nat} (hn : codeUnit a b c d = some n)
    (rest : List Char) :
    parseString ('\\' :: 'u' :: a :: b :: c :: d :: rest) =
      (parseString rest).map fun r => (n :: r.1, r.2) := by
  rw [parseString, hn]
  cases parseString rest <;> rfl

theorem parseString_plain {c : Char} (h : 32 ≤ c.toNat) (hq : c ≠ '"') (hb : c ≠ '\\')
    (rest : List Char) :
    parseString (c :: rest) = (parseString rest).map fun r => (c.toNat :: r.1, r.2) := by
  rw [parseString.eq_def]
  split <;> simp_all

theorem codeUnit_hexChar (a b c d : Fin 16) :
    codeUnit (hexChar a) (hexChar b) (hexChar c) (hexChar d) =
      some (4096 * a.val + 256 * b.val + 16 * c.val + d.val) := by
  simp [codeUnit]

theorem parseString_control {c : Char} (hc : c.toNat < 32) (rest : List Char) :
    parseString (("\\u" ++ hexEncode [0, UInt8.ofNat c.toNat]).toList ++ rest) =
      (parseString rest).map fun r => (c.toNat :: r.1, r.2) := by
  have hbyte : (UInt8.ofNat c.toNat).toNat = c.toNat := by
    rw [UInt8.toNat_ofNat']
    omega
  have hunit := codeUnit_hexChar 0 0 (Fin.ofNat 16 (c.toNat / 16)) (Fin.ofNat 16 c.toNat)
  have hvalue : 4096 * (0 : Fin 16).val + 256 * (0 : Fin 16).val +
      16 * (Fin.ofNat 16 (c.toNat / 16)).val + (Fin.ofNat 16 c.toNat).val = c.toNat := by
    simp only [Fin.ofNat, Fin.val_zero]
    omega
  rw [hvalue] at hunit
  have h := parseString_unit hunit rest
  simpa [hexEncode, hbyte] using h

theorem parseString_escape (c : Char) (rest : List Char) :
    parseString ((Json.escapeChar c).toList ++ rest) =
      (parseString rest).map fun r => (c.toNat :: r.1, r.2) := by
  unfold Json.escapeChar
  split
  · exact parseString_simple rfl rest
  · exact parseString_simple rfl rest
  · exact parseString_simple rfl rest
  · exact parseString_simple rfl rest
  · exact parseString_simple rfl rest
  · next hq hb _ _ _ =>
    split
    · next h =>
      rw [h]
      exact parseString_simple rfl rest
    split
    · next h =>
      rw [h]
      exact parseString_simple rfl rest
    split
    · next h => exact parseString_control h rest
    · next h =>
      rw [Char.toString, String.toList_singleton]
      exact parseString_plain (by omega) hq hb rest

theorem parseString_escapes (cs rest : List Char) :
    parseString (cs.flatMap (fun c => (Json.escapeChar c).toList) ++ '"' :: rest) =
      some (cs.map Char.toNat, rest) := by
  induction cs with
  | nil => rfl
  | cons c cs ih =>
      rw [List.flatMap_cons, List.append_assoc, parseString_escape, ih]
      rfl

theorem not_surrogate (c : Char) : isHigh c.toNat = false ∧ isLow c.toNat = false := by
  have hvalid := c.valid
  simp only [UInt32.isValidChar, Nat.isValidChar] at hvalid
  have hval : c.val.toNat = c.toNat := rfl
  simp only [isHigh, isLow, Bool.and_eq_false_iff, decide_eq_false_iff_not]
  omega

theorem joinSurrogates_map (cs : List Char) : joinSurrogates (cs.map Char.toNat) = cs := by
  induction cs with
  | nil => rfl
  | cons c cs ih =>
      obtain ⟨hhigh, hlow⟩ := not_surrogate c
      cases cs with
      | nil => simp [joinSurrogates, hhigh, hlow]
      | cons d cs =>
          simp only [List.map_cons] at ih ⊢
          simp [joinSurrogates, hhigh, hlow, ih]

theorem parseItem_quote (s : String) (rest : List Char) :
    parseItem ((Json.quote s).toList ++ rest) = some (s, rest) := by
  have hquote : (Json.quote s).toList ++ rest =
      '"' :: (s.toList.flatMap (fun c => (Json.escapeChar c).toList) ++ '"' :: rest) := by
    simp [Json.quote, List.flatMap_map]
  rw [hquote, parseItem, parseString_escapes, Option.map_some]
  dsimp only
  rw [joinSurrogates_map, String.ofList_toList]

theorem skipSpace_quote (s : String) (rest : List Char) :
    skipSpace ((Json.quote s).toList ++ rest) = (Json.quote s).toList ++ rest := by
  simp [Json.quote, skipSpace, isSpace]

/-- The items as they stand between the brackets. -/
def itemChars (items : List String) : List Char :=
  [','].intercalate (items.map fun s => (Json.quote s).toList)

theorem parseItems_itemChars (s : String) (items : List String) (rest : List Char) {n : Nat}
    (hn : items.length < n) :
    parseItems n (itemChars (s :: items) ++ ']' :: rest) = some (s :: items, rest) := by
  induction items generalizing s n with
  | nil =>
      obtain ⟨n, rfl⟩ := Nat.exists_eq_add_of_lt hn
      simp [itemChars, parseItems, skipSpace_quote, parseItem_quote, skipSpace_cons (c := ']') rfl]
  | cons t items ih =>
      cases n with
      | zero => cases hn
      | succ n =>
          have ih := ih t (n := n) (by simpa using hn)
          simp only [itemChars, List.map_cons, List.intercalate_cons_cons, List.append_assoc] at ih ⊢
          simp [parseItems, skipSpace_quote, parseItem_quote, skipSpace_cons (c := ',') rfl, ih]

theorem length_lt_itemChars (s : String) (items : List String) :
    items.length < (itemChars (s :: items)).length := by
  induction items generalizing s with
  | nil => simp [itemChars, Json.quote]
  | cons t items ih =>
      have ih := ih t
      simp only [itemChars, List.map_cons, List.intercalate_cons_cons, List.length_append,
        List.length_cons] at ih ⊢
      omega

theorem itemChars_eq_cons (s : String) (items : List String) :
    ∃ rest, itemChars (s :: items) = '"' :: rest := by
  cases items with
  | nil => simp [itemChars, Json.quote]
  | cons t items => simp [itemChars, Json.quote, List.intercalate_cons_cons]

theorem renderItems_str (items : List String) :
    Json.renderItems (items.map .str) = items.map Json.quote := by
  induction items with
  | nil => rfl
  | cons s items ih => rw [List.map_cons, Json.renderItems, ih, Json.render, List.map_cons]

/-- An array of strings is read back from its own text. -/
theorem unmarshalStrings_render (items : List String) :
    unmarshalStrings (Json.arr (items.map .str)).render = some items := by
  cases items with
  | nil => decide
  | cons s items =>
      have htext : (Json.arr ((s :: items).map .str)).render.toList =
          '[' :: (itemChars (s :: items) ++ [']']) := by
        rw [Json.render, renderItems_str]
        simp [itemChars, Function.comp_def]
      have hlength := length_lt_itemChars s items
      have hitems := parseItems_itemChars s items [] (n := (itemChars (s :: items) ++ [']']).length + 1)
        (by rw [List.length_append]; omega)
      obtain ⟨rest, hrest⟩ := itemChars_eq_cons s items
      rw [unmarshalStrings, htext]
      rw [hrest, List.cons_append] at hitems ⊢
      simp only [unmarshalChars, skipSpace_cons (c := '[') rfl, skipSpace_cons (c := '"') rfl, hitems]
      rfl

theorem unmarshalChars_brace (cs : List Char) : unmarshalChars ('\x7b' :: cs) = none := by
  simp only [unmarshalChars, skipSpace_cons (c := '\x7b') rfl]
  rfl

/-- A number is neither the end of an array nor an item of the list. -/
theorem unmarshalChars_number {c : Char} (hc : c = '-' ∨ c.isDigit = true) (cs : List Char) :
    unmarshalChars ('[' :: c :: cs) = none := by
  have hne : ∀ d : Char, d ≠ '-' → d.isDigit = false → c ≠ d := by
    intro d hminus hdigit hcd
    subst hcd
    obtain hc | hc := hc
    · exact hminus hc
    · rw [hdigit] at hc
      cases hc
  have hspace : isSpace c = false := by
    simp [isSpace, hne ' ' (by decide) (by decide), hne '\t' (by decide) (by decide),
      hne '\n' (by decide) (by decide), hne '\r' (by decide) (by decide)]
  have hitem : parseItem (c :: cs) = none := by
    rw [parseItem.eq_def]
    split
    · next h => exact absurd (List.cons.inj h).1 (hne '"' (by decide) (by decide))
    · next h => exact absurd (List.cons.inj h).1 (hne 'n' (by decide) (by decide))
    · rfl
  simp only [unmarshalChars, skipSpace_cons (c := '[') rfl, skipSpace_cons hspace]
  split
  · next h => exact absurd (List.cons.inj h).1 (hne ']' (by decide) (by decide))
  · simp [parseItems, skipSpace_cons hspace, hitem]

end RcProtocol.Library.JsonStrings
