import RcProtocol.Api.Messages
import RcProtocol.Library.Http
import RcProtocol.Library.Interleaving

/-!
The workorders of go-workorder, the statements of its repository, and the calls it
makes to rc-api. A statement is one atomic step; what rc-api answers is up to the
environment.
-/

namespace RcProtocol.Workorders
open Library

inductive Status where
  | opened | assigned | inProgress | resolved | closed | cancelled
  deriving DecidableEq

inductive ConclusionType where
  | freeze | recover | markTampered | markCompromised | dismiss
  deriving DecidableEq

def ConclusionType.name : ConclusionType → String
  | .freeze => "freeze"
  | .recover => "recover"
  | .markTampered => "mark_tampered"
  | .markCompromised => "mark_compromised"
  | .dismiss => "dismiss"

/-- The names `ValidConclusionTypes` lists. -/
def ConclusionType.ofName? (name : String) : Option ConclusionType :=
  [freeze, recover, markTampered, markCompromised, dismiss].find? (·.name = name)

structure Workorder where
  id : Uuid
  type : String
  status : Status
  title : String
  description : Option String := none
  creatorID : Uuid
  creatorRole : String
  creatorOrgID : Uuid
  assigneeID : Option Uuid := none
  assigneeRole : Option String := none
  assetID : Option String := none
  brandID : Option String := none
  conclusion : Option String := none
  conclusionType : Option ConclusionType := none
  approvalID : Option Uuid := none
  downstreamResult : Option Json := none
  metadata : Option Json := none

instance : Keyed Workorder where
  Key := Uuid
  key w := w.id
  Clash a b := a = b
  decClash _ _ := inferInstanceAs (Decidable (_ = _))
  symm h := h.symm

abbrev Repo := Table Workorder

/-- So many groups of four characters, a hyphen allowed after each but the last. -/
def readGroups : Nat → List Char → Option (List Char × List Char)
  | 0, cs => some ([], cs)
  | n + 1, a :: b :: c :: d :: cs =>
      let rest := if n ≠ 0 ∧ cs.head? = some '-' then cs.tail else cs
      (readGroups n rest).map fun (group, rest) => (a :: b :: c :: d :: group, rest)
  | _ + 1, _ => none

/-- `uuid_in`: braces may enclose the whole. -/
def uuidIn (s : String) : Option Uuid :=
  let cs := s.toList
  let braces := cs.head? = some '\x7b'
  match readGroups 8 (if braces then cs.tail else cs) with
  | none => none
  | some (group, rest) =>
      if rest = (if braces then ['\x7d'] else []) then Uuid.parseSimple group else none

/-- The `UPDATE` statements of the repository, with their arguments. -/
inductive Update where
  | status (expectedStatus newStatus : Status)
  | assign (expectedStatuses : List Status) (assigneeID assigneeRole : String)
  | advance (newStatus : Status) (conclusion : String) (conclusionType : ConclusionType)
      (approvalID : Option String) (downstreamResult : Option RawMessage)

namespace Update

/-- The statuses the `WHERE` clause asks for. -/
def sources : Update → List Status
  | .status expectedStatus _ => [expectedStatus]
  | .assign expectedStatuses _ _ => expectedStatuses
  | .advance .. => [.assigned, .inProgress]

def target : Update → Status
  | .status _ newStatus => newStatus
  | .assign .. => .assigned
  | .advance newStatus .. => newStatus

/-- Every argument is of its column's type. -/
def wellTyped : Update → Bool
  | .status .. => true
  | .assign _ assigneeID assigneeRole => (uuidIn assigneeID).isSome && assigneeRole.length ≤ 50
  | .advance _ _ _ approvalID downstreamResult =>
      approvalID.all (fun id => (uuidIn id).isSome) &&
        downstreamResult.all fun raw => raw.value.isSome

def set : Update → Workorder → Workorder
  | .status _ newStatus, w => { w with status := newStatus }
  | .assign _ assigneeID assigneeRole, w =>
      { w with
        assigneeID := uuidIn assigneeID, assigneeRole := some assigneeRole, status := .assigned }
  | .advance newStatus conclusion conclusionType approvalID downstreamResult, w =>
      { w with
        status := newStatus
        conclusion := some conclusion
        conclusionType := some conclusionType
        approvalID := (approvalID.bind uuidIn).or w.approvalID
        downstreamResult := (downstreamResult.bind (·.value)).or w.downstreamResult }

variable (u : Update) (w : Workorder)

@[simp] theorem set_id : (u.set w).id = w.id := by cases u <;> rfl

@[simp] theorem set_status : (u.set w).status = u.target := by cases u <;> rfl

@[simp] theorem set_assetID : (u.set w).assetID = w.assetID := by cases u <;> rfl

/-- What the statement makes of a workorder. -/
def apply : Workorder := if w.status ∈ u.sources then u.set w else w

end Update

namespace Repo
variable (s : Repo) (id : Uuid) (u : Update)

def workorder : Option Workorder := s.find (·.id = id)

def matched (w : Workorder) : Bool := w.id = id ∧ w.status ∈ u.sources

def updateWhere : Repo := s.update (matched id u) u.set u.set_id

/-- Whether a row is affected. -/
def affects : Bool := (s.find (matched id u)).isSome

variable {s id u} {key : Uuid}

theorem workorder_id {w : Workorder} (h : s.workorder id = some w) : w.id = id := by
  simpa using Table.prop_of_find h

theorem workorder_updateWhere_self : (s.updateWhere id u).workorder id =
    (s.workorder id).map u.apply := by
  simp only [workorder, updateWhere]
  rw [Table.find_update fun w => by rw [u.set_id]]
  cases h : s.find (·.id = id) with
  | none => rfl
  | some w =>
      have hid : w.id = id := workorder_id h
      simp only [Option.map_some, matched, hid, true_and, Update.apply, decide_eq_true_eq]

theorem workorder_updateWhere_other (h : key ≠ id) :
    (s.updateWhere key u).workorder id = s.workorder id := by
  simp only [workorder, updateWhere]
  rw [Table.find_update fun w => by rw [u.set_id]]
  cases hw : s.find (·.id = id) with
  | none => rfl
  | some w =>
      have hid : w.id = id := workorder_id hw
      have hne : ¬(w.id = key ∧ w.status ∈ u.sources) := fun hm => h (hm.1.symm.trans hid)
      simp only [Option.map_some, matched, decide_eq_true_eq, if_neg hne]

theorem affects_iff : s.affects id u = true ↔ ∃ w, s.workorder id = some w ∧ w.status ∈ u.sources := by
  rw [affects, Option.isSome_iff_exists]
  constructor
  · rintro ⟨w, hw⟩
    have hm : w.id = id ∧ w.status ∈ u.sources := by
      simpa [matched] using Table.prop_of_find hw
    refine ⟨w, Table.find_eq_some (Table.mem_of_find hw) (by simpa using hm.1) ?_, hm.2⟩
    intro a _ ha
    exact (of_decide_eq_true ha).trans hm.1.symm
  · rintro ⟨w, hw, hs⟩
    have hid := workorder_id hw
    refine ⟨w, Table.find_eq_some (Table.mem_of_find hw) (by simp [matched, hid, hs]) ?_⟩
    intro a _ ha
    have ha : a.id = id ∧ a.status ∈ u.sources := by simpa [matched] using ha
    exact ha.1.trans hid.symm

/-- An update that affects no row changes nothing. -/
theorem updateWhere_of_not_affects (h : s.affects id u = false) : s.updateWhere id u = s := by
  apply Table.update_eq_self
  intro w hw hm
  have hnone : s.find (matched id u) = none := by
    simpa only [affects, Option.isSome_eq_false_iff, Option.isNone_iff_eq_none] using h
  rw [Table.find_eq_none.mp hnone w hw] at hm
  cases hm

end Repo

inductive Op where
  | getByID (id : String)
  | update (id : String) (u : Update)
  | send (request : OutgoingRequest)

@[reducible] def Op.Answer : Op → Type
  | .getByID _ => Except String (Option Workorder)
  | .update _ _ => Except String Bool
  | .send _ => HttpOutcome

/-- How one step goes: a statement may fail, before or after it took effect. -/
structure Env where
  fails : Option String := none
  applied : Bool := false
  outcome : HttpOutcome := .unavailable

abbrev interface : Interface := ⟨Op, Op.Answer⟩

def ask (op : Op) : Program interface op.Answer := .call op .done

def badArgument : String := "invalid input syntax"

def Repo.getByID (env : Env) (id : String) (s : Repo) : Except String (Option Workorder) :=
  match env.fails, uuidIn id with
  | some e, _ => .error e
  | none, none => .error badArgument
  | none, some id => .ok (s.workorder id)

def Repo.execUpdate (env : Env) (id : String) (u : Update) (s : Repo) : Except String Bool × Repo :=
  match uuidIn id, u.wellTyped with
  | some id, true =>
      match env.fails with
      | some e => (.error e, if env.applied then s.updateWhere id u else s)
      | none => (.ok (s.affects id u), s.updateWhere id u)
  | _, _ => (.error badArgument, s)

def exec (env : Env) : (op : Op) → Repo → op.Answer × Repo
  | .getByID id, s => (s.getByID env id, s)
  | .update id u, s => s.execUpdate env id u
  | .send _, s => (env.outcome, s)

def machine : Machine interface Repo := ⟨Env, exec⟩

section Steps
variable {env : Env} {s : Repo} {id : String} {u : Update} {op : Op}

/-- An update that is answered took effect, on the row its `WHERE` clause matches. -/
theorem execUpdate_ok {hit : Bool} (h : (s.execUpdate env id u).1 = .ok hit) :
    ∃ key, uuidIn id = some key ∧ hit = s.affects key u ∧
      (s.execUpdate env id u).2 = s.updateWhere key u := by
  unfold Repo.execUpdate at h ⊢
  split at h
  · next key hkey _ =>
    split at h
    · cases h
    · exact ⟨key, hkey, (Except.ok.inj h).symm, rfl⟩
  · cases h

/-- Every step leaves the table alone but for an update it is the step of. -/
theorem exec_changes (h : (exec env op s).2 ≠ s) :
    ∃ id u key, op = .update id u ∧ uuidIn id = some key ∧ s.affects key u = true ∧
      (exec env op s).2 = s.updateWhere key u := by
  cases op with
  | getByID id => exact absurd rfl h
  | send request => exact absurd rfl h
  | update id u =>
      have hkey : ∃ key, uuidIn id = some key ∧ (s.execUpdate env id u).2 = s.updateWhere key u := by
        have h : (s.execUpdate env id u).2 ≠ s := h
        unfold Repo.execUpdate at h ⊢
        split at h
        · next key hkey _ =>
          split at h
          · split at h
            · next happlied => exact ⟨key, hkey, if_pos happlied⟩
            · exact absurd rfl h
          · exact ⟨key, hkey, rfl⟩
        · exact absurd rfl h
      obtain ⟨key, hkey, hafter⟩ := hkey
      refine ⟨id, u, key, rfl, hkey, ?_, hafter⟩
      by_contra hnot
      apply h
      rw [Bool.not_eq_true] at hnot
      exact hafter.trans (Repo.updateWhere_of_not_affects hnot)

end Steps

end RcProtocol.Workorders
