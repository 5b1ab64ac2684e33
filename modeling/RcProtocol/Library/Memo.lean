import RcProtocol.Library.Interleaving

/-!
A table that is filled on demand with the values of a function, under a lock that many may
hold to read and one to write. A lookup that misses comes back with the lock to write,
looks once more, and fills the table. However the sections of many lookups interleave, each
gets the value of the function.
-/

namespace RcProtocol.Library

/-- One section under the lock. -/
inductive MemoOp (κ : Type) where
  | read (k : κ)
  | write (k : κ)

/-- A section that is written may not find what it wrote; then the lookup is lost. -/
@[reducible] def memo (κ ν : Type) : Interface := ⟨MemoOp κ, fun _ => Option ν⟩

namespace Memo
variable {κ ν α ι : Type} [DecidableEq κ] (f : κ → ν)

def exec (op : MemoOp κ) (table : κ → Option ν) : Option ν × (κ → Option ν) :=
  match op with
  | .read k => (table k, table)
  | .write k =>
      match table k with
      | some v => (some v, table)
      | none =>
          let table := Function.update table k (some (f k))
          (table k, table)

def machine : Machine (memo κ ν) (κ → Option ν) where
  Env := Unit
  exec _ op table := exec f op table

/-- Look the key up, at most twice. -/
def lookup (k : κ) : Program (memo κ ν) (Option ν) :=
  .call (.read k) fun
    | some v => .done (some v)
    | none => .call (.write k) .done

/-- Every entry is the value of the function. -/
def Sound (table : κ → Option ν) : Prop := ∀ k v, table k = some v → v = f k

/-- The section hands out the value, or misses in a table it may only read. -/
def Faithful : Event (memo κ ν) → Prop
  | ⟨.read k, answer⟩ => ∀ v, answer = some v → v = f k
  | ⟨.write k, answer⟩ => answer = some (f k)

variable {f}

omit [DecidableEq κ] in
theorem sound_empty : Sound f (fun _ => none) := by
  intro k v h
  cases h

theorem exec_faithful {op : MemoOp κ} {table : κ → Option ν} (h : Sound f table) :
    Faithful f ⟨op, (exec f op table).1⟩ ∧ Sound f (exec f op table).2 := by
  cases op with
  | read k => exact ⟨h k, h⟩
  | write k =>
      simp only [exec, Faithful]
      cases hk : table k with
      | some v => exact ⟨congrArg some (h k v hk), h⟩
      | none =>
          refine ⟨Function.update_self .., ?_⟩
          intro k' v hv
          dsimp only at hv
          by_cases hk' : k' = k
          · rw [hk', Function.update_self] at hv
            rw [hk']
            exact (Option.some.inj hv).symm
          · rw [Function.update_of_ne hk'] at hv
            exact h k' v hv

omit [DecidableEq κ] in
/-- A lookup has two sections at most, and returns the value if they are faithful. -/
theorem lookup_meets (k : κ) {log : List (Event (memo κ ν))} {n : Nat} (hlog : log.length ≤ n) :
    Meets (fun log (_ : MemoOp κ) => log.length < n + 2)
      (fun log r => log.length ≤ n + 2 ∧ ((∀ e ∈ log, Faithful f e) → r = some (f k))) log
      (lookup k) := by
  have hmem : ∀ (log : List (Event (memo κ ν))) e, e ∈ log ++ [e] := fun log e =>
    List.mem_append_right _ (List.mem_singleton_self e)
  have hone : ∀ (log : List (Event (memo κ ν))) e, (log ++ [e]).length = log.length + 1 :=
    fun _ _ => List.length_append
  refine ⟨by omega, fun r => ?_⟩
  cases r with
  | some v =>
      refine ⟨by rw [hone]; omega, fun h => ?_⟩
      exact congrArg some (h _ (hmem log _) v rfl)
  | none =>
      refine ⟨?_, fun r => ⟨by rw [hone, hone]; omega, fun h => ?_⟩⟩
      · show (log ++ [_]).length < n + 2
        rw [hone]
        omega
      · exact h ⟨.write k, r⟩ (hmem _ _)

variable [DecidableEq ι] {start c : Pool (memo κ ν) (κ → Option ν) ι α}
  {h : List (Move (memo κ ν) (κ → Option ν) ι)}

/-- Whatever looks keys up, and in whatever order, every section is faithful. -/
theorem run_faithful (run : Interleaves (machine f) start h c) (hstart : Sound f start.state) :
    (∀ v ∈ h, Faithful f v.event) ∧ Sound f c.state := by
  induction run with
  | start => exact ⟨fun v hv => absurd hv List.not_mem_nil, hstart⟩
  | @step h c run i op next hi env ih =>
      obtain ⟨hevent, hsound⟩ : Faithful f ⟨op, (exec f op c.state).1⟩ ∧
          Sound f (exec f op c.state).2 := exec_faithful ih.2
      refine ⟨fun v hv => ?_, hsound⟩
      rcases List.mem_append.mp hv with hv | hv
      · exact ih.1 v hv
      · obtain rfl := List.mem_singleton.mp hv
        exact hevent

end Memo

end RcProtocol.Library
