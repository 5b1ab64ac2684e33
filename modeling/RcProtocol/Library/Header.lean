import Mathlib.Tactic.Common

/-!
HTTP header fields as Go's net/http keeps them: every field under its canonical
name, the values of one name in the order of arrival.
-/

namespace RcProtocol.Library

def isTokenChar (c : Char) : Bool :=
  c.isAlphanum || "!#$%&'*+-.^_|~".toList.contains c || c.toNat = 96

/-- Upper case at the start and after each hyphen, lower case elsewhere. -/
def canonicalChars (upper : Bool) : List Char → List Char
  | [] => []
  | c :: cs =>
      let c := if upper then c.toUpper else c.toLower
      c :: canonicalChars (c = '-') cs

/-- `textproto.CanonicalMIMEHeaderKey`: a name with another character in it stays as it is. -/
def canonicalName (name : String) : String :=
  if name.toList.all isTokenChar then .ofList (canonicalChars true name.toList) else name

example : canonicalName "x-API-key-hash" = "X-Api-Key-Hash" := by decide

structure Header where
  fields : List (String × String) := []
  deriving DecidableEq

namespace Header

/-- The fields as they stood in the request. -/
def received (lines : List (String × String)) : Header :=
  ⟨lines.map fun line => (canonicalName line.1, line.2)⟩

variable (h : Header) (name value : String)

def values : List String := (h.fields.filter (·.1 = canonicalName name)).map (·.2)

/-- The first value; an absent field reads as the empty text. -/
def get : String := (h.values name).headD ""

def del : Header := ⟨h.fields.filter (·.1 ≠ canonicalName name)⟩

def set : Header := ⟨(h.del name).fields ++ [(canonicalName name, value)]⟩

variable {h name value} {other : String}

@[simp] theorem values_del_self : (h.del name).values name = [] := by
  simp [values, del, List.filter_filter]

theorem values_del_other (hne : canonicalName name ≠ canonicalName other) :
    (h.del name).values other = h.values other := by
  simp only [values, del, List.filter_filter]
  congr 2
  funext field
  by_cases hf : field.1 = canonicalName other
  · simp [hf, hne.symm]
  · simp [hf]

@[simp] theorem values_set_self : (h.set name value).values name = [value] := by
  have hnone : (h.del name).values name = [] := values_del_self
  simp only [values, set, List.filter_append, List.map_append] at hnone ⊢
  rw [hnone]
  simp

theorem values_set_other (hne : canonicalName name ≠ canonicalName other) :
    (h.set name value).values other = h.values other := by
  have hdel := values_del_other (h := h) hne
  simp only [values, set, List.filter_append, List.map_append] at hdel ⊢
  rw [hdel]
  simp [hne]

theorem values_ite_set_other {c : Prop} [Decidable c]
    (hne : canonicalName name ≠ canonicalName other) :
    (if c then h.set name value else h).values other = h.values other := by
  split
  · exact values_set_other hne
  · rfl

/-- A value under a canonical name is the one set under it, or was there before. -/
theorem mem_values_set {v : String} (hname : canonicalName name = name)
    (hother : canonicalName other = other) (hv : v ∈ (h.set name value).values other) :
    (other, v) = (name, value) ∨ v ∈ h.values other := by
  by_cases hne : canonicalName name = canonicalName other
  · left
    rw [hname, hother] at hne
    subst hne
    rw [values_set_self] at hv
    rw [List.mem_singleton.mp hv]
  · rw [values_set_other hne] at hv
    exact .inr hv

/-- Deleting several names leaves the fields of the others. -/
theorem values_dels (names : List String) :
    (names.foldl del h).values other =
      if canonicalName other ∈ names.map canonicalName then [] else h.values other := by
  induction names generalizing h with
  | nil => simp
  | cons name names ih =>
      rw [List.foldl_cons, ih]
      by_cases hname : canonicalName name = canonicalName other
      · have hnone : (h.del name).values other = [] := by
          rw [values, ← hname]
          exact values_del_self
        simp [hname, hnone]
      · rw [values_del_other hname]
        simp [Ne.symm hname]

theorem get_mem (hget : h.get name ≠ "") : h.get name ∈ h.values name := by
  unfold get at hget ⊢
  cases hv : h.values name with
  | nil =>
      rw [hv] at hget
      exact absurd rfl hget
  | cons v vs => simp

end Header

end RcProtocol.Library
