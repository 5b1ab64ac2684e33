import RcProtocol.Api.WriteSpec
import RcProtocol.Library.Separated

/-!
The request hash, which stands for a protocol write in its idempotency record. It
names neither the actor nor the buyer, writes an absent header like an empty one,
and sets its values between marks that the values may contain.
-/

namespace RcProtocol
open Library

namespace Uuid

theorem not_mem_map_hexChar {c : Char} (hc : ∀ d, hexChar d ≠ c) (l : List (Fin 16)) :
    c ∉ l.map hexChar := by
  intro h
  obtain ⟨d, -, hd⟩ := List.mem_map.mp h
  exact hc d hd

theorem bar_not_mem_displayChars (u : Uuid) : '|' ∉ u.displayChars := by
  have hmap := not_mem_map_hexChar (c := '|') (by decide)
  simp only [displayChars, ← List.map_take, ← List.map_drop, List.mem_append, List.mem_cons, hmap]
  decide

/-- The digits are what is left of the text without its hyphens. -/
theorem filter_displayChars (u : Uuid) :
    u.displayChars.filter (· ≠ '-') = u.digits.map hexChar := by
  have hmap : ∀ l : List (Fin 16), (l.map hexChar).filter (· ≠ '-') = l.map hexChar := by
    intro l
    refine List.filter_eq_self.mpr fun c hc => decide_eq_true ?_
    rintro rfl
    exact not_mem_map_hexChar (by decide) l hc
  have hdash : ∀ l : List Char, ('-' :: l).filter (· ≠ '-') = l.filter (· ≠ '-') := fun l => by simp
  simp only [displayChars, ← List.map_take, ← List.map_drop, List.filter_append, hdash, hmap,
    ← List.map_append]
  congr 1
  generalize u.digits = l
  have hgroup : ∀ n, (l.drop n).take 4 ++ l.drop (n + 4) = l.drop n := by
    intro n
    rw [← List.drop_drop, List.take_append_drop]
  simp only [List.append_assoc, hgroup 16, hgroup 12, hgroup 8, List.take_append_drop]

theorem displayChars_injective : Function.Injective displayChars := by
  intro u v h
  have hdigits := congrArg (List.filter (· ≠ '-')) h
  rw [filter_displayChars, filter_displayChars] at hdigits
  have hsame := (List.map_inj_right fun _ _ h => hexChar_injective h).mp hdigits
  cases u
  cases v
  exact (Uuid.mk.injEq ..).mpr hsame

theorem display_inj {u v : Uuid} : u.display = v.display ↔ u = v := by
  rw [display, display, String.ofList_inj]
  exact displayChars_injective.eq_iff

end Uuid

/-- A write request whose headers are in order, so that its hash is built. -/
structure HashedRequest where
  call : ActionCall
  required : RequiredHeaders
  parsed : parseRequiredHeaders call.headers = .ok required

namespace HashedRequest

def hash (r : HashedRequest) : String :=
  buildRequestHash r.call.assetId r.call.action r.call.payload r.call.actor r.required

structure Agrees (r r' : HashedRequest) : Prop where
  asset : r.call.assetId = r'.call.assetId
  action : r.call.action = r'.call.action
  trace : r.required.traceId = r'.required.traceId
  actor : r.call.actor.actorId = r'.call.actor.actorId
  role : r.call.actor.actorRole = r'.call.actor.actorRole
  approval : r.required.approvalId = r'.required.approvalId
  policy : r.required.policyVersion = r'.required.policyVersion
  previous : r.call.payload.previousState = r'.call.payload.previousState
  buyer : r.call.payload.buyerId = r'.call.payload.buyerId

/-- The hash tells the requests apart, and a key the first has used is in conflict
for the second. -/
structure Distinguishes (r r' : HashedRequest) : Prop where
  hash : r.hash = r'.hash → r.Agrees r'
  conflict : ∀ (app : AppState) (env : Nat → machine.Env) (s : Store) (snapshot : Json),
    s.db.selectIdempotencyRecord r'.required.idempotencyKey = some ⟨r.hash, snapshot⟩ →
      (WriteRequest.action r'.call).Valid → ¬r.Agrees r' →
        (machine.run (r'.call.handle app) env s).answer =
            protocolErrorResponse .idempotencyConflict ∨
          ∃ e, (machine.run (r'.call.handle app) env s).answer = protocolErrorResponse (.database e)

section Text
variable (r : HashedRequest)

def approval : String := r.required.approvalId.getD ""

def policy : String := r.required.policyVersion.getD ""

/-- What the hash shows of the action, the trace and the role, up to the approval. -/
def shown : String :=
  r.call.action.asDbStr ++ "|trace=" ++ r.required.traceId.display ++ "|role=" ++
    r.call.actor.actorRole.asDbStr ++ "|approval="

/-- What it shows of the approval and the policy. -/
def approved : String := r.approval ++ "|policy=" ++ r.policy

def previous : String := debugOption (r.call.payload.previousState.map AssetState.asDbStr)

theorem hash_toList :
    r.hash.toList = "asset=".toList ++ ((r.call.assetId.toList ++ ("|action=".toList ++
      (r.shown.toList ++ r.approved.toList))) ++ ("|prev=".toList ++ r.previous.toList)) := by
  unfold hash buildRequestHash shown approved approval policy previous
  simp only [String.toList_append]
  simp only [List.append_assoc]

end Text

theorem isMark_bar {w : String} (hw : '|' ∉ w.toList) : IsMark '|' ('|' :: w.toList) :=
  ⟨w.toList, rfl, hw⟩

theorem isMark_action : IsMark '|' "|action=".toList := isMark_bar (w := "action=") (by decide)

theorem isMark_trace : IsMark '|' "|trace=".toList := isMark_bar (w := "trace=") (by decide)

theorem isMark_role : IsMark '|' "|role=".toList := isMark_bar (w := "role=") (by decide)

theorem isMark_approval : IsMark '|' "|approval=".toList :=
  isMark_bar (w := "approval=") (by decide)

theorem isMark_policy : IsMark '|' "|policy=".toList := isMark_bar (w := "policy=") (by decide)

theorem isMark_prev : IsMark '|' "|prev=".toList := isMark_bar (w := "prev=") (by decide)

theorem bar_not_mem_action (action : AssetAction) : '|' ∉ action.asDbStr.toList := by
  cases action <;> decide

theorem bar_not_mem_role (role : ActorRole) : '|' ∉ role.asDbStr.toList := by
  cases role <;> decide

theorem bar_not_mem_previous (r : HashedRequest) : '|' ∉ r.previous.toList := by
  unfold previous
  cases r.call.payload.previousState with
  | none => decide
  | some state => cases state <;> decide

theorem debugOption_inj {a b : Option String} : debugOption a = debugOption b ↔ a = b := by
  refine ⟨fun h => ?_, congrArg debugOption⟩
  rw [← String.toList_inj] at h
  cases a with
  | none =>
      cases b with
      | none => rfl
      | some s =>
          simp only [debugOption, String.toList_append] at h
          exact absurd (congrArg List.head? h) (by simp)
  | some s =>
      cases b with
      | none =>
          simp only [debugOption, String.toList_append] at h
          exact absurd (congrArg List.head? h) (by simp)
      | some s' =>
          simp only [debugOption, String.toList_append] at h
          rw [List.append_left_inj, List.append_right_inj, String.toList_inj] at h
          rw [h]

section Pairs
variable {r r' : HashedRequest}

theorem previous_inj :
    r.previous = r'.previous ↔ r.call.payload.previousState = r'.call.payload.previousState := by
  rw [previous, previous, debugOption_inj]
  exact (Option.map_injective AssetState.asDbStr_injective).eq_iff

/-- The fields between the asset and the approval are those of both requests. -/
structure SameShown (r r' : HashedRequest) : Prop where
  action : r.call.action = r'.call.action
  trace : r.required.traceId = r'.required.traceId
  role : r.call.actor.actorRole = r'.call.actor.actorRole

theorem shown_append (r : HashedRequest) (t : List Char) :
    r.shown.toList ++ t = r.call.action.asDbStr.toList ++ ("|trace=".toList ++
      (r.required.traceId.display.toList ++ ("|role=".toList ++
        (r.call.actor.actorRole.asDbStr.toList ++ ("|approval=".toList ++ t))))) := by
  unfold shown
  simp only [String.toList_append]
  simp only [List.append_assoc]

theorem bar_not_mem_display (u : Uuid) : '|' ∉ u.display.toList := by
  rw [Uuid.display, String.toList_ofList]
  exact u.bar_not_mem_displayChars

theorem shown_append_inj {t t' : List Char} :
    r.shown.toList ++ t = r'.shown.toList ++ t' ↔ SameShown r r' ∧ t = t' := by
  rw [shown_append, shown_append,
    append_mark_inj isMark_trace (bar_not_mem_action _) (bar_not_mem_action _),
    append_mark_inj isMark_role (bar_not_mem_display _) (bar_not_mem_display _),
    append_mark_inj isMark_approval (bar_not_mem_role _) (bar_not_mem_role _),
    String.toList_inj, String.toList_inj, String.toList_inj, Uuid.display_inj,
    AssetAction.asDbStr_injective.eq_iff, ActorRole.asDbStr_injective.eq_iff]
  constructor
  · rintro ⟨ha, ht, hr, h⟩
    exact ⟨⟨ha, ht, hr⟩, h⟩
  · rintro ⟨⟨ha, ht, hr⟩, h⟩
    exact ⟨ha, ht, hr, h⟩

theorem marks_apart :
    (¬"|trace=".toList <+: "|action=".toList ∧ ¬"|action=".toList <+: "|trace=".toList) ∧
      (¬"|role=".toList <+: "|action=".toList ∧ ¬"|action=".toList <+: "|role=".toList) ∧
        ¬"|approval=".toList <+: "|action=".toList ∧ ¬"|action=".toList <+: "|approval=".toList := by
  decide +kernel

/-- The mark of another action comes in the approval or after it. -/
theorem shown_append_eq {t x z : List Char} :
    r.shown.toList ++ t = x ++ ("|action=".toList ++ z) ↔
      ∃ y, x = r.shown.toList ++ y ∧ t = y ++ ("|action=".toList ++ z) := by
  obtain ⟨⟨htrace, htrace'⟩, ⟨hrole, hrole'⟩, happroval, happroval'⟩ := marks_apart
  constructor
  · intro h
    rw [shown_append, append_other_mark_eq isMark_trace isMark_action (bar_not_mem_action _)
      htrace htrace'] at h
    obtain ⟨y, rfl, h⟩ := h
    rw [append_other_mark_eq isMark_role isMark_action (bar_not_mem_display _) hrole hrole'] at h
    obtain ⟨y, rfl, h⟩ := h
    rw [append_other_mark_eq isMark_approval isMark_action (bar_not_mem_role _)
      happroval happroval'] at h
    obtain ⟨y, rfl, h⟩ := h
    exact ⟨y, (shown_append r y).symm, h⟩
  · rintro ⟨y, rfl, rfl⟩
    exact (List.append_assoc ..).symm

/-- Text that is written as a list is the text of a string. -/
theorem exists_text {p : List Char → Prop} : (∃ y, p y) ↔ ∃ y : String, p y.toList := by
  constructor
  · rintro ⟨y, hy⟩
    exact ⟨String.ofList y, by rwa [String.toList_ofList]⟩
  · rintro ⟨y, hy⟩
    exact ⟨y.toList, hy⟩

theorem approved_inj :
    r.approved = r'.approved ↔ (r.approval = r'.approval ∧ r.policy = r'.policy) ∨
      (∃ x, r'.approval = r.approval ++ "|policy=" ++ x ∧
        r.policy = x ++ "|policy=" ++ r'.policy) ∨
      ∃ x, r.approval = r'.approval ++ "|policy=" ++ x ∧
        r'.policy = x ++ "|policy=" ++ r.policy := by
  simp only [approved, ← String.toList_inj, String.toList_append, List.append_assoc]
  rw [append_mark_eq isMark_policy, exists_text, exists_text]

/-- One asset id goes on with the fields of the other request, whose approval and
policy go on with the fields of the first. -/
def Shifted (r r' : HashedRequest) : Prop :=
  ∃ x, r'.call.assetId = r.call.assetId ++ "|action=" ++ r.shown ++ x ∧
    r.approved = x ++ "|action=" ++ r'.shown ++ r'.approved

theorem shifted_iff :
    Shifted r r' ↔
      ∃ x, r'.call.assetId.toList = r.call.assetId.toList ++ ("|action=".toList ++ x) ∧
        r.shown.toList ++ r.approved.toList =
          x ++ ("|action=".toList ++ (r'.shown.toList ++ r'.approved.toList)) := by
  simp only [Shifted, ← String.toList_inj, String.toList_append, List.append_assoc]
  constructor
  · rintro ⟨x, hasset, happroved⟩
    exact ⟨_, hasset, shown_append_eq.mpr ⟨_, rfl, happroved⟩⟩
  · rintro ⟨x, hasset, hshown⟩
    obtain ⟨y, rfl, happroved⟩ := shown_append_eq.mp hshown
    have hy : (String.ofList y).toList = y := String.toList_ofList
    refine ⟨String.ofList y, ?_⟩
    rw [hy]
    exact ⟨hasset, happroved⟩

/-- When the hashes of two requests are equal. -/
theorem hash_inj :
    r.hash = r'.hash ↔ r.call.payload.previousState = r'.call.payload.previousState ∧
      ((r.call.assetId = r'.call.assetId ∧ SameShown r r' ∧ r.approved = r'.approved) ∨
        Shifted r r' ∨ Shifted r' r) := by
  rw [← previous_inj, ← String.toList_inj, hash_toList, hash_toList, List.append_cancel_left_eq,
    mark_append_inj isMark_prev (bar_not_mem_previous r) (bar_not_mem_previous r'),
    append_mark_eq isMark_action, shown_append_inj, String.toList_inj, String.toList_inj,
    String.toList_inj, and_comm, shifted_iff, shifted_iff]

/-- The ways in which the hash takes the second request for the first. -/
inductive Collides (r r' : HashedRequest) : Prop
  | unshown (hasset : r.call.assetId = r'.call.assetId) (hshown : SameShown r r')
      (hprevious : r.call.payload.previousState = r'.call.payload.previousState)
      (happroval : r.approval = r'.approval) (hpolicy : r.policy = r'.policy)
      (hdiffer : r.call.actor.actorId ≠ r'.call.actor.actorId ∨
        r.call.payload.buyerId ≠ r'.call.payload.buyerId ∨
        r.required.approvalId ≠ r'.required.approvalId ∨
        r.required.policyVersion ≠ r'.required.policyVersion)
  | policy {x : String} (hasset : r.call.assetId = r'.call.assetId) (hshown : SameShown r r')
      (hprevious : r.call.payload.previousState = r'.call.payload.previousState)
      (happroval : r'.approval = r.approval ++ "|policy=" ++ x)
      (hpolicy : r.policy = x ++ "|policy=" ++ r'.policy)
  | asset (hprevious : r.call.payload.previousState = r'.call.payload.previousState)
      (hshifted : Shifted r r')

theorem ne_append_mark {s m x : String} (hm : m ≠ "") : s ≠ s ++ m ++ x := by
  intro h
  have hlength := congrArg String.length h
  have hpos : m.length ≠ 0 := fun hzero => hm (String.length_eq_zero_iff.mp hzero)
  simp only [String.length_append] at hlength
  omega

theorem Collides.hash_eq (h : Collides r r') : r.hash = r'.hash := by
  rw [hash_inj]
  cases h with
  | unshown hasset hshown hprevious happroval hpolicy =>
      exact ⟨hprevious, .inl ⟨hasset, hshown, approved_inj.mpr (.inl ⟨happroval, hpolicy⟩)⟩⟩
  | policy hasset hshown hprevious happroval hpolicy =>
      refine ⟨hprevious, .inl ⟨hasset, hshown, approved_inj.mpr (.inr (.inl ?_))⟩⟩
      exact ⟨_, happroval, hpolicy⟩
  | asset hprevious hshifted => exact ⟨hprevious, .inr (.inl hshifted)⟩

theorem Collides.not_agrees (h : Collides r r') : ¬r.Agrees r' := by
  intro hagrees
  cases h with
  | unshown _ _ _ _ _ hdiffer =>
      obtain hactor | hbuyer | happroval | hpolicy := hdiffer
      · exact hactor hagrees.actor
      · exact hbuyer hagrees.buyer
      · exact happroval hagrees.approval
      · exact hpolicy hagrees.policy
  | policy _ _ _ happroval _ =>
      have hsame : r.approval = r'.approval := by rw [approval, approval, hagrees.approval]
      exact ne_append_mark (by decide) (hsame.trans happroval)
  | asset _ hshifted =>
      obtain ⟨x, hasset, -⟩ := hshifted
      rw [String.append_assoc] at hasset
      exact ne_append_mark (by decide) (hagrees.asset.trans hasset)

/-- Requests with one hash agree, or collide. -/
theorem collides_of_hash_eq (h : r.hash = r'.hash) :
    r.Agrees r' ∨ Collides r r' ∨ Collides r' r := by
  obtain ⟨hprevious, ⟨hasset, hshown, happroved⟩ | hshifted | hshifted⟩ := hash_inj.mp h
  · obtain ⟨happroval, hpolicy⟩ | ⟨x, happroval, hpolicy⟩ | ⟨x, happroval, hpolicy⟩ :=
      approved_inj.mp happroved
    · by_cases hagrees : r.Agrees r'
      · exact .inl hagrees
      · refine .inr (.inl (.unshown hasset hshown hprevious happroval hpolicy ?_))
        by_contra hsame
        simp only [not_or, not_not] at hsame
        obtain ⟨hactor, hbuyer, happroval, hpolicy⟩ := hsame
        exact hagrees ⟨hasset, hshown.action, hshown.trace, hactor, hshown.role, happroval,
          hpolicy, hprevious, hbuyer⟩
    · exact .inr (.inl (.policy hasset hshown hprevious happroval hpolicy))
    · refine .inr (.inr (.policy hasset.symm ?_ hprevious.symm happroval hpolicy))
      exact ⟨hshown.action.symm, hshown.trace.symm, hshown.role.symm⟩
  · exact .inr (.inl (.asset hprevious hshifted))
  · exact .inr (.inr (.asset hprevious.symm hshifted))

/-- A used key is in conflict for a request with another hash. -/
theorem conflict_of_hash_ne (hne : r.hash ≠ r'.hash) (app : AppState)
    (env : Nat → machine.Env) (s : Store) (snapshot : Json)
    (hstored : s.db.selectIdempotencyRecord r'.required.idempotencyKey = some ⟨r.hash, snapshot⟩)
    (hvalid : (WriteRequest.action r'.call).Valid) :
    (machine.run (r'.call.handle app) env s).answer = protocolErrorResponse .idempotencyConflict ∨
      ∃ e, (machine.run (r'.call.handle app) env s).answer =
        protocolErrorResponse (.database e) := by
  have hanswer :=
    machine.meets_run_answer ((WriteRequest.action r'.call).handle_meets app) env s
  have htrace := machine.run_trace ((WriteRequest.action r'.call).handle app) env s
  rw [List.nil_append] at hanswer
  have hparsed : ∀ required, parseRequiredHeaders r'.call.headers = .ok required →
      required = r'.required := fun required h => Except.ok.inj (h.symm.trans r'.parsed)
  have hlookup : ∀ key found rest, key = r'.required.idempotencyKey →
      machine.Trace s (⟨.selectIdempotencyRecord key, .ok found⟩ :: rest)
        (machine.run ((WriteRequest.action r'.call).handle app) env s).state →
      found = some ⟨r.hash, snapshot⟩ := by
    rintro key found rest rfl h
    obtain ⟨⟨env', hfound⟩, -⟩ := trace_query h fun _ _ => query_state _
    exact (query_ok hfound).symm.trans hstored
  change (machine.run ((WriteRequest.action r'.call).handle app) env s).answer = _ ∨
    ∃ e, (machine.run ((WriteRequest.action r'.call).handle app) env s).answer = _
  generalize machine.run ((WriteRequest.action r'.call).handle app) env s = o at *
  obtain ⟨reply, log, t⟩ := o
  simp only at hanswer htrace hlookup ⊢
  cases hanswer with
  | unasked _ hrefused =>
      obtain hinvalid | ⟨e, he⟩ := hrefused
      · exact absurd hvalid hinvalid
      · cases he.symm.trans r'.parsed
  | lookupFailed h => exact .inr ⟨_, rfl⟩
  | @known required record h =>
      obtain rfl := hparsed required h
      obtain rfl := Option.some.inj (hlookup _ _ _ rfl htrace)
      exact .inl (if_pos hne)
  | @fresh required rest _ h =>
      obtain rfl := hparsed required h
      cases hlookup _ _ _ rfl htrace

/-- The hash tells two requests apart exactly when they do not collide. -/
theorem distinguishes_iff :
    Distinguishes r r' ↔ ¬Collides r r' ∧ ¬Collides r' r := by
  constructor
  · intro h
    refine ⟨fun hc => hc.not_agrees (h.hash hc.hash_eq), fun hc => ?_⟩
    have hagrees := h.hash hc.hash_eq.symm
    exact hc.not_agrees ⟨hagrees.asset.symm, hagrees.action.symm, hagrees.trace.symm,
      hagrees.actor.symm, hagrees.role.symm, hagrees.approval.symm, hagrees.policy.symm,
      hagrees.previous.symm, hagrees.buyer.symm⟩
  · rintro ⟨hc, hc'⟩
    have hhash : r.hash = r'.hash → r.Agrees r' := by
      intro h
      obtain hagrees | hcollides | hcollides := collides_of_hash_eq h
      · exact hagrees
      · exact absurd hcollides hc
      · exact absurd hcollides hc'
    refine ⟨hhash, fun app env s snapshot hstored hvalid hdiffer => ?_⟩
    exact conflict_of_hash_ne (fun h => hdiffer (hhash h)) app env s snapshot hstored hvalid

end Pairs

section Sample

/-- A brand sells the asset to the buyer. -/
def sellTo (buyerId : String) : HashedRequest where
  call :=
    { assetId := "a"
      action := .legalSell
      actor := { actorId := "brand-ops-1", actorRole := .brand, brandId := some "brand" }
      headers := .ofList
        [("X-Trace-Id", "11111111-1111-1111-1111-111111111111"),
          ("X-Idempotency-Key", "idem-conflict-001")]
      payload := { buyerId := some buyerId }
      draws := { eventId := .repeated 1 } }
  required := ⟨.repeated 1, "idem-conflict-001", none, none⟩
  parsed := rfl

/-- Under one key the asset is sold to a second buyer, and the hashes are equal. -/
theorem buyers_collide :
    (sellTo "buyer-001").hash = (sellTo "buyer-002").hash ∧
      ¬∀ r r' : HashedRequest, Distinguishes r r' := by
  refine ⟨rfl, fun hall => ?_⟩
  have hbuyer := ((hall (sellTo "buyer-001") (sellTo "buyer-002")).hash rfl).buyer
  simp [sellTo] at hbuyer

end Sample

end HashedRequest

end RcProtocol
