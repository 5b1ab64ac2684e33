import RcProtocol.Library.Text
import RcProtocol.Library.Utf8

/-!
The root key from its environment variable (rc-kms, root_key.rs). A function that panics has
no result.
-/

namespace RcProtocol
open Library

inductive KmsError where
  | rootKeyMissing | rootKeyInvalidFormat
  deriving DecidableEq

def KmsError.display : KmsError → String
  | .rootKeyMissing => "RC_ROOT_KEY_HEX environment variable is not set"
  | .rootKeyInvalidFormat => "RC_ROOT_KEY_HEX is not a valid 64-char hex string"

/-- The number that the digits denote. -/
def hexValue (digits : List Char) : Option Nat :=
  digits.foldl (fun value c => value.bind fun v => (hexDigit c).map fun d => 16 * v + d.val) (some 0)

/-- `u8::from_str_radix(src, 16)`: a plus sign may come before the digits. -/
def fromStrRadix16 (src : List Char) : Option UInt8 :=
  let digits :=
    match src with
    | '+' :: digit :: rest => digit :: rest
    | src => src
  if digits = [] then none
  else (hexValue digits).bind fun v => if v < 256 then some (UInt8.ofNat v) else none

/-- The bytes of the pairs at these places. -/
def readPairs (hexStr : List Char) : List Nat → Option (Except KmsError (List UInt8))
  | [] => some (.ok [])
  | i :: is =>
      match byteSlice hexStr (i * 2) (i * 2 + 2) with
      | none => none
      | some pair =>
          match fromStrRadix16 pair with
          | none => some (.error .rootKeyInvalidFormat)
          | some b => (readPairs hexStr is).map (Except.map (b :: ·))

/-- `load_root_key_from_env`, on the variable where it is set and is Unicode. -/
def loadRootKeyFromEnv : Option String → Option (Except KmsError (Bytes 32))
  | none => some (.error .rootKeyMissing)
  | some val =>
      if val.utf8ByteSize ≠ 64 then some (.error .rootKeyInvalidFormat)
      else (readPairs val.toList (List.range 32)).map
        (Except.map fun bytes => .ofFn fun i => bytes.getD i.val 0)

end RcProtocol
