import Mathlib.Algebra.Group.Nat.Defs
import Mathlib.Tactic.Common
import Mathlib.Data.List.OfFn

/-!
Byte strings of a fixed length, hexadecimal text, and trimming. Texts are
handled as lists of characters, so that every function computes in the kernel.
-/

namespace RcProtocol.Library

structure Bytes (n : Nat) where
  toList : List UInt8
  length_eq : toList.length = n
  deriving DecidableEq

namespace Bytes
variable {n : Nat}

@[ext] theorem ext {a b : Bytes n} (h : a.toList = b.toList) : a = b := by
  cases a
  cases b
  cases h
  rfl

def ofList? (n : Nat) (l : List UInt8) : Option (Bytes n) :=
  if h : l.length = n then some ⟨l, h⟩ else none

def ofFn (f : Fin n → UInt8) : Bytes n := ⟨List.ofFn f, List.length_ofFn⟩

theorem ofFn_injective : Function.Injective (@ofFn n) := by
  intro f g h
  exact List.ofFn_injective (congrArg toList h)

def get (b : Bytes n) (i : Fin n) : UInt8 :=
  b.toList.get (i.cast b.length_eq.symm)

@[simp] theorem get_ofFn (f : Fin n → UInt8) (i : Fin n) : (ofFn f).get i = f i :=
  List.get_ofFn f _

theorem ext_get {a b : Bytes n} (h : ∀ i, a.get i = b.get i) : a = b := by
  apply ext
  apply List.ext_get
  · rw [a.length_eq, b.length_eq]
  · intro i hi hi'
    exact h ⟨i, hi.trans_eq a.length_eq⟩

theorem toList_of_ofList? {l : List UInt8} {b : Bytes n} (h : ofList? n l = some b) :
    b.toList = l := by
  simp only [ofList?] at h
  split at h
  · rw [← Option.some.inj h]
  · cases h

theorem ofList?_of_length {l : List UInt8} (h : l.length = n) : ∃ b, ofList? n l = some b :=
  ⟨⟨l, h⟩, dif_pos h⟩

theorem ofList?_toList (b : Bytes n) : ofList? n b.toList = some b := dif_pos b.length_eq

/-- Three bytes as the counter they carry, least significant first. -/
def leCounter (b : Bytes 3) : UInt32 :=
  (b.get 0).toUInt32 + (b.get 1).toUInt32 * 256 + (b.get 2).toUInt32 * 65536

theorem leCounter_toNat (b : Bytes 3) :
    b.leCounter.toNat =
      (b.get 0).toNat + (b.get 1).toNat * 256 + (b.get 2).toNat * 65536 := by
  have h0 := (b.get 0).toNat_lt
  have h1 := (b.get 1).toNat_lt
  have h2 := (b.get 2).toNat_lt
  simp only [leCounter, UInt32.toNat_add, UInt32.toNat_mul, UInt8.toNat_toUInt32,
    UInt32.reduceToNat]
  omega

theorem leCounter_lt (b : Bytes 3) : b.leCounter.toNat < 2 ^ 24 := by
  have h0 := (b.get 0).toNat_lt
  have h1 := (b.get 1).toNat_lt
  have h2 := (b.get 2).toNat_lt
  rw [leCounter_toNat]
  omega

/-- The counter as four bytes of a little-endian machine word. -/
def leWord (w : UInt32) : Bytes 4 :=
  ofFn fun i => UInt8.ofNat (w.toNat / 256 ^ i.val)

theorem leWord_injective : Function.Injective leWord := by
  intro w w' h
  have hdigit : ∀ i : Fin 4, w.toNat / 256 ^ i.val % 256 = w'.toNat / 256 ^ i.val % 256 := by
    intro i
    have hi := congrArg UInt8.toNat (congrFun (ofFn_injective h) i)
    simpa only [UInt8.toNat_ofNat'] using hi
  have h0 : w.toNat / 256 ^ 0 % 256 = w'.toNat / 256 ^ 0 % 256 := hdigit 0
  have h1 : w.toNat / 256 ^ 1 % 256 = w'.toNat / 256 ^ 1 % 256 := hdigit 1
  have h2 : w.toNat / 256 ^ 2 % 256 = w'.toNat / 256 ^ 2 % 256 := hdigit 2
  have h3 : w.toNat / 256 ^ 3 % 256 = w'.toNat / 256 ^ 3 % 256 := hdigit 3
  have hw := w.toNat_lt
  have hw' := w'.toNat_lt
  apply UInt32.toNat_inj.mp
  omega

end Bytes

def utf8 (s : String) : List UInt8 := s.toUTF8.data.toList

theorem utf8_injective : Function.Injective utf8 := by
  intro s t h
  apply String.toByteArray_inj.mp
  exact ByteArray.ext (Array.toList_inj.mp h)

theorem utf8_append (s t : String) : utf8 (s ++ t) = utf8 s ++ utf8 t := by
  simp [utf8]

def hexDigit (c : Char) : Option (Fin 16) :=
  match c with
  | '0' => some 0 | '1' => some 1 | '2' => some 2 | '3' => some 3
  | '4' => some 4 | '5' => some 5 | '6' => some 6 | '7' => some 7
  | '8' => some 8 | '9' => some 9
  | 'a' | 'A' => some 10 | 'b' | 'B' => some 11 | 'c' | 'C' => some 12
  | 'd' | 'D' => some 13 | 'e' | 'E' => some 14 | 'f' | 'F' => some 15
  | _ => none

def hexChar (d : Fin 16) : Char :=
  ['0', '1', '2', '3', '4', '5', '6', '7', '8', '9', 'a', 'b', 'c', 'd', 'e', 'f'].get d

@[simp] theorem hexDigit_hexChar (d : Fin 16) : hexDigit (hexChar d) = some d := by
  revert d
  decide

theorem hexChar_injective : Function.Injective hexChar := by
  intro a b h
  simpa only [hexDigit_hexChar, Option.some.injEq] using congrArg hexDigit h

def hexDecodeChars : List Char → Option (List UInt8)
  | [] => some []
  | [_] => none
  | hi :: lo :: rest => do
      let h ← hexDigit hi
      let l ← hexDigit lo
      let bytes ← hexDecodeChars rest
      some (UInt8.ofNat (16 * h.val + l.val) :: bytes)

def hexDecode (s : String) : Option (List UInt8) := hexDecodeChars s.toList

def hexEncode (bytes : List UInt8) : String :=
  String.ofList (bytes.flatMap fun b =>
    [hexChar (Fin.ofNat 16 (b.toNat / 16)), hexChar (Fin.ofNat 16 b.toNat)])

theorem hexDecodeChars_of_digits {n : Nat} {cs : List Char} (hlength : cs.length = 2 * n)
    (hdigits : ∀ c ∈ cs, (hexDigit c).isSome = true) :
    ∃ bytes, hexDecodeChars cs = some bytes ∧ bytes.length = n := by
  induction n generalizing cs with
  | zero =>
      obtain rfl := List.length_eq_zero_iff.mp hlength
      exact ⟨[], rfl, rfl⟩
  | succ n ih =>
      match cs, hlength with
      | a :: b :: rest, hlength =>
          have hrest : rest.length = 2 * n := by
            simp only [List.length_cons] at hlength
            omega
          obtain ⟨bytes, hbytes, hn⟩ := ih hrest fun c hc => hdigits c (by simp [hc])
          obtain ⟨h, hh⟩ := Option.isSome_iff_exists.mp (hdigits a (by simp))
          obtain ⟨l, hl⟩ := Option.isSome_iff_exists.mp (hdigits b (by simp))
          exact ⟨UInt8.ofNat (16 * h.val + l.val) :: bytes, by simp [hexDecodeChars, hh, hl, hbytes],
            by simp [hn]⟩

theorem hexDecode_hexEncode (bytes : List UInt8) : hexDecode (hexEncode bytes) = some bytes := by
  rw [hexDecode, hexEncode, String.toList_ofList]
  induction bytes with
  | nil => rfl
  | cons b bytes ih =>
      have hb := b.toNat_lt
      have hbyte : 16 * (b.toNat / 16 % 16) + b.toNat % 16 = b.toNat := by omega
      simp only [List.flatMap_cons, List.cons_append, List.nil_append, hexDecodeChars,
        hexDigit_hexChar, ih, Option.bind_eq_bind, Option.bind_some, Fin.val_ofNat, hbyte,
        UInt8.ofNat_toNat]

theorem hexEncode_injective : Function.Injective hexEncode := by
  intro bytes bytes' h
  have hdecode := congrArg hexDecode h
  rw [hexDecode_hexEncode, hexDecode_hexEncode] at hdecode
  exact Option.some.inj hdecode

/-- The characters with the Unicode property White_Space. -/
def isWhiteSpace (c : Char) : Bool :=
  let n := c.toNat
  (9 ≤ n && n ≤ 13) || n == 0x20 || n == 0x85 || n == 0xA0 || n == 0x1680 ||
    (0x2000 ≤ n && n ≤ 0x200A) || n == 0x2028 || n == 0x2029 || n == 0x202F ||
    n == 0x205F || n == 0x3000

def trim (s : String) : String :=
  String.ofList (((s.toList.dropWhile isWhiteSpace).reverse.dropWhile isWhiteSpace).reverse)

def asciiUpperChar (c : Char) : Char :=
  if 'a' ≤ c ∧ c ≤ 'z' then Char.ofNat (c.toNat - 32) else c

def asciiUpper (s : String) : String := String.ofList (s.toList.map asciiUpperChar)

/-- Upper case, each character by itself: ASCII letters as usual, the others by
the Unicode table, which is a parameter. -/
def upper (table : Char → List Char) (s : String) : String :=
  String.ofList (s.toList.flatMap fun c =>
    if c.toNat < 128 then [asciiUpperChar c] else table c)

end RcProtocol.Library
