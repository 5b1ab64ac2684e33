import Mathlib.Algebra.Group.Int.Defs
import Mathlib.Data.List.Sort
import Mathlib.Data.String.Basic
import RcProtocol.Library.Json

/-!
Objects whose members are found by name, or kept in the order of their names, whatever
order they were stored in.
-/

namespace RcProtocol.Library
namespace Json

/-- A stored object as a sorted map holds it. -/
def fromMembers (stored : List (String × Json)) : Json :=
  obj (stored.insertionSort fun a b => a.1 ≤ b.1)

/-- A number of thirty-two bits. -/
def u32 : Json → Option UInt32
  | num n => if 0 ≤ n ∧ n < 2 ^ 32 then some (UInt32.ofNat n.toNat) else none
  | _ => none

def u32Member (name : String) : Json → Option UInt32
  | obj members =>
      match members.find? (·.1 = name) with
      | some (_, value) => value.u32
      | none => none
  | _ => none

theorem u32_num (n : UInt32) : (num n.toNat).u32 = some n := by
  have hn := n.toNat_lt
  rw [u32, if_pos ⟨by omega, by omega⟩]
  simp

variable {members stored : List (String × Json)}

theorem find_perm (hperm : stored.Perm members) (hnodup : (members.map Prod.fst).Nodup)
    (name : String) : stored.find? (·.1 = name) = members.find? (·.1 = name) := by
  induction hperm with
  | nil => rfl
  | cons m hperm ih =>
      rw [List.find?_cons, List.find?_cons, ih (List.nodup_cons.mp hnodup).2]
  | swap m m' l =>
      simp only [List.find?_cons]
      by_cases hm : m.1 = name
      · by_cases hm' : m'.1 = name
        · have hne := (List.nodup_cons.mp hnodup).1
          exact absurd (List.mem_cons.mpr (.inl (hm.trans hm'.symm))) hne
        · simp [hm, hm']
      · simp [hm]
  | trans hperm hperm' ih ih' =>
      have hnodup' := (hperm'.map Prod.fst).nodup_iff.mpr hnodup
      rw [ih hnodup', ih' hnodup]

theorem strMember_perm (hperm : stored.Perm members) (hnodup : (members.map Prod.fst).Nodup)
    (name : String) : strMember name (obj stored) = strMember name (obj members) := by
  rw [strMember, strMember, find_perm hperm hnodup]

theorem u32Member_perm (hperm : stored.Perm members) (hnodup : (members.map Prod.fst).Nodup)
    (name : String) : u32Member name (obj stored) = u32Member name (obj members) := by
  rw [u32Member, u32Member, find_perm hperm hnodup]

/-- Members already in the order of their names come back in that order. -/
theorem fromMembers_perm (hperm : stored.Perm members) (hnodup : (members.map Prod.fst).Nodup)
    (hsorted : members.Pairwise fun a b => a.1 ≤ b.1) : fromMembers stored = obj members := by
  have hstored : (stored.insertionSort fun a b => a.1 ≤ b.1).Perm members :=
    (List.perm_insertionSort _ stored).trans hperm
  have horder : (stored.insertionSort fun a b => a.1 ≤ b.1).Pairwise fun a b => a.1 ≤ b.1 := by
    have htotal : Std.Total fun a b : String × Json => a.1 ≤ b.1 := ⟨fun a b => le_total a.1 b.1⟩
    have htrans : IsTrans (String × Json) fun a b => a.1 ≤ b.1 := ⟨fun _ _ _ h => h.trans⟩
    exact List.pairwise_insertionSort _ stored
  have hanti : ∀ a b, a ∈ stored.insertionSort (fun a b => a.1 ≤ b.1) → b ∈ members →
      a.1 ≤ b.1 → b.1 ≤ a.1 → a = b := by
    intro a b ha hb hle hle'
    exact List.inj_on_of_nodup_map hnodup (hstored.subset ha) hb (le_antisymm hle hle')
  rw [fromMembers, hstored.eq_of_pairwise hanti horder hsorted]

end Json
end RcProtocol.Library
