import RcProtocol.Library.Text

/-!
Texts cut at byte offsets of their UTF-8 form. A cut within a character has no result.
-/

namespace RcProtocol.Library

/-- The number of bytes. -/
def byteLen : List Char → Nat
  | [] => 0
  | c :: cs => c.utf8Size + byteLen cs

/-- What comes before the offset, and what comes after. -/
def splitBytes : List Char → Nat → Option (List Char × List Char)
  | cs, 0 => some ([], cs)
  | [], _ + 1 => none
  | c :: cs, n + 1 =>
      if c.utf8Size ≤ n + 1 then
        (splitBytes cs (n + 1 - c.utf8Size)).map fun (before, after) => (c :: before, after)
      else none

/-- `&text[from..to]`. -/
def byteSlice (cs : List Char) (start stop : Nat) : Option (List Char) :=
  (splitBytes cs start).bind fun (_, rest) => (splitBytes rest (stop - start)).map (·.1)

variable {cs before after rest : List Char} {c d : Char} {m n : Nat}

@[simp] theorem splitBytes_zero (cs : List Char) : splitBytes cs 0 = some ([], cs) := by
  cases cs <;> rfl

theorem byteLen_eq_zero : byteLen cs = 0 ↔ cs = [] := by
  cases cs with
  | nil => simp [byteLen]
  | cons c cs =>
      have hpos := c.utf8Size_pos
      simp only [byteLen, reduceCtorEq, iff_false]
      omega

theorem byteLen_toList (s : String) : byteLen s.toList = s.utf8ByteSize := by
  have h (cs : List Char) : byteLen cs = (String.ofList cs).utf8ByteSize := by
    induction cs with
    | nil => rfl
    | cons c cs ih =>
        rw [byteLen, ih, String.ofList_cons, String.utf8ByteSize_append,
          String.utf8ByteSize_singleton]
  rw [h, String.ofList_toList]

theorem length_utf8 (s : String) : (utf8 s).length = byteLen s.toList := by
  rw [byteLen_toList]
  rfl

theorem byteLen_eq_length (h : ∀ c ∈ cs, c.utf8Size = 1) : byteLen cs = cs.length := by
  induction cs with
  | nil => rfl
  | cons c cs ih =>
      rw [byteLen, h c (.head _), ih fun d hd => h d (.tail _ hd), List.length_cons]
      omega

/-- By induction on the text: an offset is counted on from one before it. -/
theorem splitBytes_add (h : splitBytes cs m = some (before, rest)) :
    splitBytes cs (m + n) =
      (splitBytes rest n).map fun (more, after) => (before ++ more, after) := by
  induction cs generalizing m before with
  | nil =>
      cases m with
      | zero =>
          obtain ⟨rfl, rfl⟩ := Prod.mk.inj (Option.some.inj h)
          cases n <;> rfl
      | succ m => cases h
  | cons c cs ih =>
      cases m with
      | zero =>
          rw [splitBytes_zero] at h
          obtain ⟨rfl, rfl⟩ := Prod.mk.inj (Option.some.inj h)
          rw [Nat.zero_add]
          cases splitBytes (c :: cs) n <;> rfl
      | succ m =>
          rw [splitBytes] at h
          split at h
          · next hle =>
            obtain ⟨⟨first, last⟩, hsplit, heq⟩ := Option.map_eq_some_iff.mp h
            obtain ⟨rfl, rfl⟩ := Prod.mk.inj heq
            have hrest := ih hsplit
            have hcount : m + 1 - c.utf8Size + n = m + n + 1 - c.utf8Size := by omega
            rw [show m + 1 + n = m + n + 1 by omega, splitBytes, if_pos (by omega), ← hcount, hrest]
            cases splitBytes last n <;> rfl
          · cases h

end RcProtocol.Library
