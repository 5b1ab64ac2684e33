import RcProtocol.Api.Events
import RcProtocol.ChildTag
import RcProtocol.Library.Ledger
import RcProtocol.Ownership

/-!
The audit trail of an asset. Each event starts in the state the one before ended
in, and the last one ends in the stored state: what transactions write keeps it
so, and what a transfer writes as far as no statement behind its update fails.
-/

namespace RcProtocol
open Library

/-- The events of the asset are a ledger of its state. -/
def Db.Audited (db : Db) (id : String) : Prop :=
  Tracks EventRow.fromState EventRow.toState (db.eventsOf id)
    ((db.custody id).map (·.currentState))

/-- A change of the state or the owner of the asset comes with its event. -/
def LeavesEvent (id : String) (e : AssetEntry) : Prop :=
  ∀ c c', e.before.db.custody id = some c → e.after.db.custody id = some c' →
    c'.currentState ≠ c.currentState ∨ c'.ownerId ≠ c.ownerId →
      ∃ row, e.after.db.eventsOf id = e.before.db.eventsOf id ++ [row] ∧
        row.action = e.request.act ∧ row.fromState = some c.currentState ∧
          row.toState = c'.currentState

structure AuditTrail (h : List AssetEntry) (s : Store) : Prop where
  audited : ∀ id, s.db.Audited id
  events : ∀ id, ∀ e ∈ h, LeavesEvent id e

/-- Neither the record nor the event of a transfer failed to be written. -/
def KeepsTrail (e : AssetEntry) : Prop := ∀ x ∈ e.log, trailFailed x = false

instance (e : AssetEntry) : Decidable (KeepsTrail e) :=
  inferInstanceAs (Decidable (∀ x ∈ e.log, trailFailed x = false))

section Runs
variable {app : AppState} {start s : Store} {h : List AssetEntry} {e : AssetEntry} {id : String}

theorem entry_trail (run : Serves machine (AssetRequest.handle app) start h s) (he : e ∈ h)
    (hkeeps : KeepsTrail e) : Untouched e.before e.after ∨ e.request.Moved app e.before e.after := by
  obtain ⟨env, heq⟩ := run.entry he
  rw [heq] at hkeeps ⊢
  exact e.request.run_trail app env e.before hkeeps

theorem audited_entry (htrail : Untouched e.before e.after ∨ e.request.Moved app e.before e.after)
    (hbefore : e.before.db.Audited id) : e.after.db.Audited id := by
  obtain hsame | ⟨f, c, row, -, hc, haudits, hmoved⟩ := htrail
  · obtain ⟨hcustody, hevents⟩ := hsame id
    rw [Db.Audited, hcustody, hevents]
    exact hbefore
  · obtain ⟨hcustody, hevents⟩ := hmoved id
    rw [Db.Audited, hcustody, hevents]
    by_cases hid : e.request.assetId = id
    · subst hid
      rw [if_pos rfl, if_pos rfl, hc, Option.map_some, Option.map_some, ← haudits.toState]
      refine hbefore.snoc ?_
      rw [haudits.fromState, hc, Option.map_some]
    · rw [if_neg hid, if_neg hid]
      exact hbefore

theorem leavesEvent_entry
    (htrail : Untouched e.before e.after ∨ e.request.Moved app e.before e.after) :
    LeavesEvent id e := by
  intro c c' hc hc' hchanged
  have hstays : e.after.db.custody id = e.before.db.custody id → False := by
    intro hsame
    rw [hsame, hc] at hc'
    obtain rfl := Option.some.inj hc'
    simp at hchanged
  obtain hsame | ⟨f, c₀, row, -, hc₀, haudits, hmoved⟩ := htrail
  · exact (hstays (hsame id).1).elim
  · obtain ⟨hcustody, hevents⟩ := hmoved id
    by_cases hid : e.request.assetId = id
    · subst hid
      obtain rfl := Option.some.inj (hc₀.symm.trans hc)
      rw [if_pos rfl, hc, hc', Option.map_some] at hcustody
      rw [if_pos rfl] at hevents
      obtain rfl := Option.some.inj hcustody
      exact ⟨row, hevents, haudits.action, haudits.fromState, haudits.toState⟩
    · rw [if_neg hid] at hcustody
      exact (hstays hcustody).elim

/-- In every run in which the record and the event of each transfer are written, the
trail of every asset is unbroken and complete. -/
theorem audit_trail (run : Serves machine (AssetRequest.handle app) start h s)
    (hstart : ∀ id, start.db.Audited id) (hkeeps : ∀ e ∈ h, KeepsTrail e) : AuditTrail h s := by
  constructor
  · intro id
    refine run.invariant (I := fun s => s.db.Audited id) (hstart id) fun e he hbefore => ?_
    exact audited_entry (entry_trail run he (hkeeps e he)) hbefore
  · intro id e he
    exact leavesEvent_entry (entry_trail run he (hkeeps e he))

end Runs

section Sample

/-- The owner transfers the asset; the statement with the number, if any, fails. -/
def failingTransfer (failed : Option Nat) : List AssetEntry :=
  machine.serveAll (AssetRequest.handle transferApp) soldPairStore
    [(.transfer ownTagTransfer, fun n => { fails := if some n = failed then some "gone" else none })]

theorem failingTransfer_serves (failed : Option Nat) :
    ∃ s, Serves machine (AssetRequest.handle transferApp) soldPairStore (failingTransfer failed) s :=
  serveAll_serves ..

theorem soldPairStore_audited (id : String) : soldPairStore.db.Audited id := tracks_nil

theorem audit_trail_transferred :
    (∃ e ∈ failingTransfer none, (e.after.db.eventsOf "a").length = 1) ∧
      ∃ s, AuditTrail (failingTransfer none) s := by
  obtain ⟨s, run⟩ := failingTransfer_serves none
  refine ⟨by decide +kernel, s, audit_trail run soldPairStore_audited ?_⟩
  decide +kernel

/-- The event of a transfer fails, and the asset has changed hands without it. -/
theorem transfer_leaves_no_event :
    ¬∀ (app : AppState) (start s : Store) (h : List AssetEntry),
      Serves machine (AssetRequest.handle app) start h s → (∀ id, start.db.Audited id) →
        AuditTrail h s := by
  intro hall
  obtain ⟨s, run⟩ := failingTransfer_serves (some 6)
  have htrail := hall _ _ _ _ run soldPairStore_audited
  obtain ⟨row, hrow, -⟩ := htrail.events "a" _ (List.mem_singleton_self _)
    ⟨"brand", .legallySold, none, some "owner"⟩
    ⟨"brand", .transferred, some .legallySold, some "friend"⟩ (by decide +kernel)
    (by decide +kernel) (.inl nofun)
  have hnone : ∀ e ∈ failingTransfer (some 6), e.after.db.eventsOf "a" = [] := by decide +kernel
  rw [hnone _ (List.mem_singleton_self _)] at hrow
  exact absurd hrow (List.append_ne_nil_of_right_ne_nil _ (List.cons_ne_nil row [])).symm

end Sample

end RcProtocol
