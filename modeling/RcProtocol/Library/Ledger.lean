import Mathlib.Data.List.Chain
import Mathlib.Tactic.Common

/-!
Ledgers of moves of one value. Each entry says where the value was and where it
went; the ledger tracks the value when the entries follow each other and the last
one ends where the value is.
-/

namespace RcProtocol.Library

section
variable {ε σ : Type} (source : ε → Option σ) (target : ε → σ)

structure Tracks (entries : List ε) (current : Option σ) : Prop where
  chain : entries.IsChain fun a b => source b = some (target a)
  last : ∀ e ∈ entries.getLast?, current = some (target e)

variable {source target} {entries : List ε} {e : ε} {current : Option σ}

theorem tracks_nil : Tracks source target [] current :=
  ⟨List.isChain_nil, nofun⟩

/-- An entry that begins where the value is leaves a ledger of where it ends. -/
theorem Tracks.snoc (h : Tracks source target entries current) (he : source e = current) :
    Tracks source target (entries ++ [e]) (some (target e)) := by
  constructor
  · refine List.isChain_append.mpr ⟨h.chain, List.isChain_singleton e, fun a ha b hb => ?_⟩
    obtain rfl : e = b := Option.some.inj hb
    exact he.trans (h.last a ha)
  · intro a ha
    rw [List.getLast?_append, List.getLast?_singleton, Option.some_or] at ha
    obtain rfl : e = a := Option.some.inj ha
    rfl

end

end RcProtocol.Library
