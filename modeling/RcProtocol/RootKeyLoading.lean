import RcProtocol.Crypto.RootKey

/-!
What the root key is loaded from. The text is cut into pairs of bytes without a look at its
characters, and each pair is read by a parser of numbers, which takes a sign for a digit.
-/

namespace RcProtocol
open Library

/-- A pair that is read as a number. -/
def Readable (c d : Char) : Prop :=
  (c = '+' ∨ (hexDigit c).isSome = true) ∧ (hexDigit d).isSome = true

instance (c d : Char) : Decidable (Readable c d) := inferInstanceAs (Decidable (_ ∧ _))

/-- The text from its first pair on that is not read as a number. -/
def unread : List Char → List Char
  | c :: d :: cs => if Readable c d then unread cs else c :: d :: cs
  | cs => cs

/-- The first two bytes are whole characters. -/
def Aligned : List Char → Prop
  | [] => False
  | [c] => c.utf8Size = 2
  | c :: d :: _ => c.utf8Size = 2 ∨ (c.utf8Size = 1 ∧ d.utf8Size = 1)

instance : (cs : List Char) → Decidable (Aligned cs)
  | [] => isFalse id
  | [_] => inferInstanceAs (Decidable (_ = _))
  | _ :: _ :: _ => inferInstanceAs (Decidable (_ ∨ _))

/-- The bytes of the pairs. -/
def pairValues : List Char → List UInt8
  | c :: d :: cs => (fromStrRadix16 [c, d]).getD 0 :: pairValues cs
  | _ => []

section Pairs
variable {c d : Char} {cs rest before hexStr : List Char} {i n : Nat}

theorem size_of_hexDigit (h : (hexDigit c).isSome = true) : c.utf8Size = 1 := by
  unfold hexDigit at h
  split at h
  all_goals first | rfl | cases h

theorem size_of_readable (h : Readable c d) : c.utf8Size = 1 ∧ d.utf8Size = 1 := by
  refine ⟨?_, size_of_hexDigit h.2⟩
  obtain rfl | hc := h.1
  · rfl
  · exact size_of_hexDigit hc

theorem ne_plus_of_hexDigit (h : (hexDigit c).isSome = true) : c ≠ '+' := by
  rintro rfl
  cases h

theorem fromStrRadix16_digits {h l : Fin 16} (hc : hexDigit c = some h) (hd : hexDigit d = some l) :
    fromStrRadix16 [c, d] = some (UInt8.ofNat (16 * h.val + l.val)) := by
  have hne : c ≠ '+' := ne_plus_of_hexDigit (by rw [hc]; rfl)
  have hlt : 16 * h.val + l.val < 256 := by omega
  unfold fromStrRadix16
  split
  · next heq => exact absurd (List.cons.inj heq).1 hne
  · simp [hexValue, hc, hd, hlt]

theorem fromStrRadix16_isSome : (fromStrRadix16 [c, d]).isSome = true ↔ Readable c d := by
  unfold fromStrRadix16 Readable
  by_cases hplus : c = '+'
  · subst hplus
    cases hd : hexDigit d with
    | none => simp [hexValue, hd]
    | some l =>
        have hlt : l.val < 256 := by omega
        simp [hexValue, hd, hlt]
  · split
    · next heq => exact absurd (List.cons.inj heq).1 hplus
    · cases hc : hexDigit c with
      | none => simp [hexValue, hc, hplus]
      | some h =>
          cases hd : hexDigit d with
          | none => simp [hexValue, hc, hd]
          | some l =>
              have hlt : 16 * h.val + l.val < 256 := by omega
              simp [hexValue, hc, hd, hlt]

theorem fromStrRadix16_wide (h : c.utf8Size = 2) : fromStrRadix16 [c] = none := by
  have hnone : hexDigit c = none := by
    rw [← Option.not_isSome_iff_eq_none]
    intro hsome
    rw [size_of_hexDigit hsome] at h
    cases h
  simp [fromStrRadix16, hexValue, hnone]

/-- The loop on what it has not read yet. -/
def readRest : Nat → List Char → Option (Except KmsError (List UInt8))
  | 0, _ => some (.ok [])
  | n + 1, rest =>
      (splitBytes rest 2).bind fun (pair, after) =>
        match fromStrRadix16 pair with
        | none => some (.error .rootKeyInvalidFormat)
        | some b => (readRest n after).map (Except.map (b :: ·))

/-- By induction on the pairs that are left. -/
theorem readPairs_eq (h : splitBytes hexStr (i * 2) = some (before, rest)) :
    readPairs hexStr (List.range' i n) = readRest n rest := by
  induction n generalizing i before rest with
  | zero => rfl
  | succ n ih =>
      have hslice : byteSlice hexStr (i * 2) (i * 2 + 2) = (splitBytes rest 2).map (·.1) := by
        rw [byteSlice, h, Option.bind_some, Nat.add_sub_cancel_left]
      rw [List.range'_succ, readPairs, hslice, readRest]
      cases hpair : splitBytes rest 2 with
      | none => rfl
      | some split =>
          obtain ⟨pair, after⟩ := split
          have hnext : splitBytes hexStr ((i + 1) * 2) = some (before ++ pair, after) := by
            rw [Nat.succ_mul, splitBytes_add h, hpair]
            rfl
          cases hvalue : fromStrRadix16 pair with
          | none => simp [hvalue]
          | some b => simp [hvalue, ih hnext]

theorem splitBytes_aligned (h : Aligned rest) : ∃ pair after,
    splitBytes rest 2 = some (pair, after) ∧
      ((∃ c, pair = [c] ∧ c.utf8Size = 2) ∨ ∃ c d, pair = [c, d] ∧ rest = c :: d :: after) := by
  match rest, h with
  | [c], hsize => 
      have hsize : c.utf8Size = 2 := hsize
      exact ⟨[c], [], by simp [splitBytes, hsize], .inl ⟨c, rfl, hsize⟩⟩
  | c :: d :: cs, hsize =>
      have hsize : c.utf8Size = 2 ∨ (c.utf8Size = 1 ∧ d.utf8Size = 1) := hsize
      obtain hsize | ⟨hc, hd⟩ := hsize
      · exact ⟨[c], d :: cs, by simp [splitBytes, hsize], .inl ⟨c, rfl, hsize⟩⟩
      · exact ⟨[c, d], cs, by simp [splitBytes, hc, hd], .inr ⟨c, d, rfl, rfl⟩⟩

theorem splitBytes_unaligned (h : ¬Aligned rest) : splitBytes rest 2 = none := by
  match rest, h with
  | [], _ => rfl
  | [c], hsize =>
      have hsize : ¬c.utf8Size = 2 := hsize
      have hpos := c.utf8Size_pos
      by_cases hle : c.utf8Size ≤ 2
      · have hone : c.utf8Size = 1 := by omega
        simp [splitBytes, hone]
      · simp [splitBytes, hle]
  | c :: d :: cs, hsize =>
      have hsize : ¬(c.utf8Size = 2 ∨ (c.utf8Size = 1 ∧ d.utf8Size = 1)) := hsize
      have hpos := c.utf8Size_pos
      have hpos' := d.utf8Size_pos
      by_cases hle : c.utf8Size ≤ 2
      · have hone : c.utf8Size = 1 := by omega
        have hwide : ¬d.utf8Size ≤ 1 := by omega
        simp [splitBytes, hone, hwide]
      · simp [splitBytes, hle]

/-- The loop ends at a pair of bytes that is not read as a number. -/
theorem readRest_stop (hread : ∀ c d cs, rest = c :: d :: cs → ¬Readable c d) :
    readRest (n + 1) rest =
      if Aligned rest then some (.error .rootKeyInvalidFormat) else none := by
  rw [readRest]
  split
  · next haligned =>
    obtain ⟨pair, after, hsplit, hpair⟩ := splitBytes_aligned haligned
    have hvalue : fromStrRadix16 pair = none := by
      obtain ⟨c, rfl, hsize⟩ | ⟨c, d, rfl, hrest⟩ := hpair
      · exact fromStrRadix16_wide hsize
      · rw [← Option.not_isSome_iff_eq_none, fromStrRadix16_isSome]
        exact hread c d after hrest
    rw [hsplit, Option.bind_some]
    dsimp only
    rw [hvalue]
  · next hunaligned => rw [splitBytes_unaligned hunaligned, Option.bind_none]

theorem unread_stop (hread : ∀ c d cs, rest = c :: d :: cs → ¬Readable c d) : unread rest = rest := by
  match rest, hread with
  | [], _ => rfl
  | [c], _ => rfl
  | c :: d :: cs, hread => rw [unread, if_neg (hread c d cs rfl)]

/-- By induction on the pairs: the loop goes on as far as they are read as numbers, and then
fails where the next pair of bytes is whole characters and panics where it is not. -/
theorem readRest_eq (h : byteLen rest = 2 * n) :
    readRest n rest =
      if unread rest = [] then some (.ok (pairValues rest))
      else if Aligned (unread rest) then some (.error .rootKeyInvalidFormat) else none := by
  induction n generalizing rest with
  | zero =>
      obtain rfl := byteLen_eq_zero.mp h
      rfl
  | succ n ih =>
      by_cases hread : ∃ c d cs, rest = c :: d :: cs ∧ Readable c d
      · obtain ⟨c, d, cs, rfl, hread⟩ := hread
        obtain ⟨hc, hd⟩ := size_of_readable hread
        have hlength : byteLen cs = 2 * n := by
          simp only [byteLen, hc, hd] at h
          omega
        have hsplit : splitBytes (c :: d :: cs) 2 = some ([c, d], cs) := by
          simp [splitBytes, hc, hd]
        obtain ⟨b, hb⟩ := Option.isSome_iff_exists.mp (fromStrRadix16_isSome.mpr hread)
        rw [unread, if_pos hread, readRest, hsplit, Option.bind_some]
        dsimp only
        rw [hb, ih hlength]
        simp only [pairValues, hb, Option.getD_some]
        split
        · rfl
        · split <;> rfl
      · have hstop : ∀ c d cs, rest = c :: d :: cs → ¬Readable c d := by
          intro c d cs hrest hcd
          exact hread ⟨c, d, cs, hrest, hcd⟩
        have hne : rest ≠ [] := by
          rintro rfl
          simp [byteLen] at h
        rw [readRest_stop hstop, unread_stop hstop, if_neg hne]

/-- A text that is read to its end consists of digits and signs. -/
theorem mem_of_unread (h : unread cs = []) : ∀ c ∈ cs, c = '+' ∨ (hexDigit c).isSome = true := by
  induction cs using unread.induct with
  | case1 c d cs hread ih =>
      rw [unread, if_pos hread] at h
      intro e he
      obtain rfl | rfl | he := by simpa using he
      · exact hread.1
      · exact .inr hread.2
      · exact ih h e he
  | case2 c d cs hread =>
      rw [unread, if_neg hread] at h
      cases h
  | case3 cs hcs =>
      rw [unread] at h
      · subst h
        intro c hc
        cases hc
      · exact hcs

theorem byteLen_of_digits (h : ∀ c ∈ cs, (hexDigit c).isSome = true) : byteLen cs = cs.length := by
  induction cs with
  | nil => rfl
  | cons c cs ih =>
      rw [byteLen, size_of_hexDigit (h c List.mem_cons_self),
        ih fun d hd => h d (List.mem_cons_of_mem _ hd), List.length_cons]
      omega

/-- Digits in pairs are read to the end, as the bytes they denote. -/
theorem unread_of_digits (hlength : cs.length = 2 * n) (h : ∀ c ∈ cs, (hexDigit c).isSome = true) :
    unread cs = [] ∧ hexDecodeChars cs = some (pairValues cs) ∧ (pairValues cs).length = n := by
  induction n generalizing cs with
  | zero =>
      obtain rfl := List.length_eq_zero_iff.mp hlength
      exact ⟨rfl, rfl, rfl⟩
  | succ n ih =>
      match cs, hlength, h with
      | c :: d :: cs, hlength, h =>
          have hc := h c List.mem_cons_self
          have hd := h d (List.mem_cons_of_mem _ List.mem_cons_self)
          have hrest : cs.length = 2 * n := by
            simp only [List.length_cons] at hlength
            omega
          obtain ⟨hunread, hdecode, hvalues⟩ :=
            ih hrest fun e he => h e (List.mem_cons_of_mem _ (List.mem_cons_of_mem _ he))
          obtain ⟨a, ha⟩ := Option.isSome_iff_exists.mp hc
          obtain ⟨b, hb⟩ := Option.isSome_iff_exists.mp hd
          refine ⟨?_, ?_, ?_⟩
          · rw [unread, if_pos ⟨.inr hc, hd⟩, hunread]
          · simp [hexDecodeChars, pairValues, ha, hb, hdecode, fromStrRadix16_digits ha hb]
          · rw [pairValues, List.length_cons, hvalues]

end Pairs

section Keys
variable {s : String}

/-- Exactly 64 hexadecimal digits. -/
def IsHexKey (s : String) : Prop :=
  s.toList.length = 64 ∧ ∀ c ∈ s.toList, (hexDigit c).isSome = true

/-- A key of digits is loaded as the bytes they denote; for every other text there is an
error. -/
def LoadsRight (s : String) : Prop :=
  (IsHexKey s → ∃ key, loadRootKeyFromEnv (some s) = some (.ok key) ∧
      hexDecode s = some key.toList) ∧
    (¬IsHexKey s → ∃ e, loadRootKeyFromEnv (some s) = some (.error e))

/-- A text of 64 bytes that is read to its end has no sign; one that is not goes on with whole
characters in its next pair of bytes. -/
def LoadsSafely (s : String) : Prop :=
  s.utf8ByteSize = 64 →
    if unread s.toList = [] then '+' ∉ s.toList else Aligned (unread s.toList)

theorem IsHexKey.utf8ByteSize (h : IsHexKey s) : s.utf8ByteSize = 64 := by
  rw [← byteLen_toList, byteLen_of_digits h.2, h.1]

theorem IsHexKey.unread (h : IsHexKey s) : unread s.toList = [] ∧
    hexDecode s = some (pairValues s.toList) ∧ (pairValues s.toList).length = 32 :=
  unread_of_digits h.1 h.2

theorem isHexKey_iff (hsize : s.utf8ByteSize = 64) :
    IsHexKey s ↔ RcProtocol.unread s.toList = [] ∧ '+' ∉ s.toList := by
  constructor
  · intro h
    refine ⟨h.unread.1, ?_⟩
    intro hplus
    exact ne_plus_of_hexDigit (h.2 _ hplus) rfl
  · rintro ⟨hunread, hplus⟩
    have hdigits : ∀ c ∈ s.toList, (hexDigit c).isSome = true := by
      intro c hc
      obtain rfl | hdigit := mem_of_unread hunread c hc
      · exact absurd hc hplus
      · exact hdigit
    refine ⟨?_, hdigits⟩
    rw [← byteLen_of_digits hdigits, byteLen_toList, hsize]

/-- What is loaded from a text of 64 bytes. -/
theorem load_eq (hsize : s.utf8ByteSize = 64) : loadRootKeyFromEnv (some s) =
    if RcProtocol.unread s.toList = [] then
      some (.ok (.ofFn fun i => (pairValues s.toList).getD i.val 0))
    else if Aligned (RcProtocol.unread s.toList) then some (.error .rootKeyInvalidFormat)
    else none := by
  have hpairs : readPairs s.toList (List.range 32) = readRest 32 s.toList := by
    rw [List.range_eq_range']
    exact readPairs_eq (splitBytes_zero _)
  have hlength : byteLen s.toList = 2 * 32 := by
    rw [byteLen_toList, hsize]
  rw [loadRootKeyFromEnv, if_neg (not_not_intro hsize), hpairs, readRest_eq hlength]
  split
  · rfl
  · split <;> rfl

theorem ofFn_getD {n : Nat} {bytes : List UInt8} (h : bytes.length = n) :
    (Bytes.ofFn fun i : Fin n => bytes.getD i.val 0).toList = bytes := by
  apply List.ext_getElem
  · rw [Bytes.length_eq, h]
  · intro i hi hi'
    simp [Bytes.ofFn, hi']

/-- The loading is right exactly where a text of 64 bytes has no signs among its digits and is
not cut within a character. -/
theorem loads_right_iff (s : String) : LoadsRight s ↔ LoadsSafely s := by
  by_cases hsize : s.utf8ByteSize = 64
  · have hload := load_eq hsize
    have hkey := isHexKey_iff hsize
    rw [LoadsRight, LoadsSafely, hload]
    simp only [hsize, true_implies]
    by_cases hunread : unread s.toList = []
    · rw [if_pos hunread, if_pos hunread]
      constructor
      · rintro ⟨-, hother⟩ hplus
        obtain ⟨e, he⟩ := hother fun h => (hkey.mp h).2 hplus
        cases he
      · intro hplus
        have hhex := hkey.mpr ⟨hunread, hplus⟩
        obtain ⟨-, hdecode, hvalues⟩ := hhex.unread
        refine ⟨fun _ => ⟨_, rfl, ?_⟩, fun h => absurd hhex h⟩
        rw [hdecode, ofFn_getD hvalues]
    · have hnot : ¬IsHexKey s := fun h => hunread (hkey.mp h).1
      rw [if_neg hunread, if_neg hunread]
      by_cases haligned : Aligned (unread s.toList)
      · rw [if_pos haligned]
        exact ⟨fun _ => haligned, fun _ => ⟨fun h => absurd h hnot, fun _ => ⟨_, rfl⟩⟩⟩
      · rw [if_neg haligned]
        constructor
        · rintro ⟨-, hother⟩
          obtain ⟨e, he⟩ := hother hnot
          cases he
        · intro h
          exact absurd h haligned
  · have hload : loadRootKeyFromEnv (some s) = some (.error .rootKeyInvalidFormat) := by
      rw [loadRootKeyFromEnv, if_pos hsize]
    rw [LoadsRight, LoadsSafely, hload]
    constructor
    · intro _ h
      exact absurd h hsize
    · intro _
      exact ⟨fun h => absurd h.utf8ByteSize hsize, fun _ => ⟨_, rfl⟩⟩

/-- A sign for the first digit of each pair. -/
def signedKey : String := "+f+f+f+f+f+f+f+f+f+f+f+f+f+f+f+f+f+f+f+f+f+f+f+f+f+f+f+f+f+f+f+f"

/-- The second character has three bytes, so that the text has 64. -/
def cutKey : String := "0€000000000000000000000000000000000000000000000000000000000000"

/-- The one is loaded as a key, and the other is a panic. -/
theorem signed_key_loaded :
    loadRootKeyFromEnv (some signedKey) = some (.ok (.ofFn fun _ => 15)) ∧
      loadRootKeyFromEnv (some cutKey) = none ∧ ¬LoadsRight signedKey ∧ ¬LoadsRight cutKey := by
  have hsigned : loadRootKeyFromEnv (some signedKey) = some (.ok (.ofFn fun _ => 15)) := by
    decide +kernel
  have hcut : loadRootKeyFromEnv (some cutKey) = none := by decide +kernel
  refine ⟨hsigned, hcut, ?_, ?_⟩
  · rintro ⟨-, hother⟩
    have hnot : ¬IsHexKey signedKey := fun h => absurd (h.2 '+' (by decide +kernel)) (by decide)
    obtain ⟨e, he⟩ := hother hnot
    rw [hsigned] at he
    cases he
  · rintro ⟨-, hother⟩
    have hnot : ¬IsHexKey cutKey := fun h => absurd (h.2 '€' (by decide +kernel)) (by decide)
    obtain ⟨e, he⟩ := hother hnot
    rw [hcut] at he
    cases he

end Keys

end RcProtocol
