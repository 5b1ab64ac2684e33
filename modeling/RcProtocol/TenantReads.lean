import RcProtocol.Api.Listings
import RcProtocol.BrandIsolation
import RcProtocol.CredentialDisclosure

/-!
Whose batches and assets the read handlers show. A batch is shown by its id to every role
but two, and the list of batches loses its filter where the actor has no brand.
-/

namespace RcProtocol
open Library

/-- A request to one of the six handlers. -/
inductive TenantRead where
  | getBatch (batchId : String)
  | listBatches (params : PaginationParams)
  | getAsset (assetId : String)
  | getAssetHistory (assetId : String)
  | getAssetAttestations (assetId : String)
  | listAssets (query : AssetListQuery)

namespace TenantRead
variable (fails : ReadQuery → Option String) (s : Catalogue) (actor : ActorContext)

/-- The answer shows a row that belongs to the brand. -/
def Shows : TenantRead → String → Prop
  | getBatch batchId, b => ∃ batch, RcProtocol.getBatch fails s actor batchId = .ok batch ∧
      batch.brandId = b
  | listBatches params, b => ∃ page, RcProtocol.listBatches fails s actor params = .ok page ∧
      ∃ batch ∈ page.items, batch.brandId = b
  | getAsset assetId, b => ∃ asset, visibleAsset fails s actor assetId = .ok (some asset) ∧
      asset.brandId = b
  | getAssetHistory assetId, b => ∃ response,
      RcProtocol.getAssetHistory fails s actor assetId = .ok (some response) ∧
        (s.db.brandOf response.assetId = some b ∨
          ∃ e ∈ response.events, s.db.brandOf e.assetId = some b)
  | getAssetAttestations assetId, b => ∃ response,
      RcProtocol.getAssetAttestations fails s actor assetId = .ok (some response) ∧
        s.db.brandOf response.assetId = some b
  | listAssets query, b => ∃ page, RcProtocol.listAssets fails s actor query = .ok (some page) ∧
      ∃ asset ∈ page.items, asset.brandId = b

/-- The tenant rule is about the actor: for one asset about two roles, else about all roles
but the platform's. -/
def Bound : TenantRead → Prop
  | getAsset _ | getAssetHistory _ | getAssetAttestations _ =>
      actor.actorRole = .brand ∨ actor.actorRole = .factory
  | _ => actor.actorRole ≠ .platform

/-- Every row the answer shows belongs to the actor's own brand. -/
def OwnOnly (r : TenantRead) : Prop := ∀ b, r.Shows fails s actor b → actor.brandId = some b

/-- The request is not one of the two that go wrong. -/
def Guarded : TenantRead → Prop
  | getBatch batchId =>
      (actor.actorRole = .brand ∨ actor.actorRole = .factory) ∨ (fails .batch).isSome = true ∨
        ∀ batch, s.batches.find (·.batchId = batchId) = some batch →
          actor.brandId = some batch.brandId
  | listBatches params =>
      actor.brandId.isSome = true ∨ (fails .countBatches).isSome = true ∨
        (fails .batches).isSome = true ∨ params.offset < 0 ∨
          s.batches.rows.length ≤ params.offset
  | _ => True

end TenantRead

section Answers
variable {fails : ReadQuery → Option String} {s : Catalogue} {actor : ActorContext}

theorem getBatch_ok {batchId : String} {batch : Batch} :
    getBatch fails s actor batchId = .ok batch ↔
      fails .batch = none ∧ s.batches.find (·.batchId = batchId) = some batch ∧
        checkBrandBoundary actor batch.brandId = .ok () := by
  constructor
  · intro h
    obtain ⟨stored, hstored, h⟩ := bind_ok h
    obtain ⟨⟨⟩, hboundary, h⟩ := bind_ok h
    obtain rfl := Except.ok.inj h
    obtain ⟨hfails, hfound⟩ := fetchBatch_ok.mp hstored
    exact ⟨hfails, hfound, hboundary⟩
  · intro ⟨hfails, hfound, hboundary⟩
    have hstored := fetchBatch_ok.mpr ⟨hfails, hfound⟩
    simp only [getBatch, hstored, hboundary, bind, Except.bind]

theorem listBatches_ok {params : PaginationParams} {page : PaginatedResponse Batch}
    (h : listBatches fails s actor params = .ok page) :
    fails .countBatches = none ∧ selectPage fails .batches params.getPageSize params.offset
      (s.batchesOf (if actor.actorRole = .platform then none else actor.brandId)) =
        .ok page.items := by
  obtain ⟨⟨items, total⟩, hselect, h⟩ := bind_ok h
  obtain ⟨count, hcount, hselect⟩ := bind_ok hselect
  obtain ⟨rows, hrows, hselect⟩ := bind_ok hselect
  obtain ⟨rfl, rfl⟩ := Prod.mk.inj (Except.ok.inj hselect)
  obtain rfl := Except.ok.inj h
  exact ⟨(runQuery_ok.mp hcount).1, hrows⟩

theorem listBatches_eq {params : PaginationParams} {rows : List Batch}
    (hcount : fails .countBatches = none)
    (h : selectPage fails .batches params.getPageSize params.offset
      (s.batchesOf (if actor.actorRole = .platform then none else actor.brandId)) = .ok rows) :
    listBatches fails s actor params = .ok ⟨rows,
      (s.batchesOf (if actor.actorRole = .platform then none else actor.brandId)).length,
      params.getPage, params.getPageSize⟩ := by
  have hcounted : ∀ n : Nat, runQuery fails .countBatches n = .ok n :=
    fun n => runQuery_ok.mpr ⟨hcount, rfl⟩
  simp only [listBatches, selectBatches, hcounted, h, bind, Except.bind]

/-- An asset that is shown belongs to the brand of an actor of one of the two roles. -/
theorem visibleAsset_ok {assetId : String} {asset : AssetDetail}
    (h : visibleAsset fails s actor assetId = .ok (some asset)) :
    s.db.brandOf assetId = some asset.brandId ∧
      checkBrandBoundary actor asset.brandId = .ok () := by
  obtain ⟨found, hfound, h⟩ := bind_ok h
  cases found with
  | none => cases h
  | some detail =>
      obtain ⟨⟨⟩, hboundary, h⟩ := bind_ok h
      obtain rfl := Option.some.inj (Except.ok.inj h)
      obtain ⟨⟨row, hrow, -, hbrand, -⟩, -⟩ := fetchAssetDetail_ok hfound
      refine ⟨?_, hboundary⟩
      rw [Db.brandOf, hrow, hbrand]
      rfl

theorem getAssetHistory_ok {assetId : String} {response : AssetHistoryResponse}
    (h : getAssetHistory fails s actor assetId = .ok (some response)) :
    (∃ asset, visibleAsset fails s actor assetId = .ok (some asset)) ∧
      response.assetId = assetId ∧ ∀ e ∈ response.events, e.assetId = assetId := by
  obtain ⟨found, hfound, h⟩ := bind_ok h
  cases found with
  | none => cases h
  | some asset =>
      obtain ⟨events, hevents, h⟩ := bind_ok h
      obtain rfl := Option.some.inj (Except.ok.inj h)
      obtain ⟨-, rfl⟩ := runQuery_ok.mp hevents
      refine ⟨⟨asset, hfound⟩, rfl, fun e he => ?_⟩
      obtain ⟨row, hrow, rfl⟩ := List.mem_map.mp he
      exact of_decide_eq_true (List.mem_filter.mp hrow).2

theorem getAssetAttestations_ok {assetId : String} {response : AssetAttestationsResponse}
    (h : getAssetAttestations fails s actor assetId = .ok (some response)) :
    (∃ asset, visibleAsset fails s actor assetId = .ok (some asset)) ∧
      response.assetId = assetId := by
  obtain ⟨found, hfound, h⟩ := bind_ok h
  cases found with
  | none => cases h
  | some asset =>
      obtain ⟨brand, -, h⟩ := bind_ok h
      obtain ⟨platform, -, h⟩ := bind_ok h
      obtain rfl := Option.some.inj (Except.ok.inj h)
      exact ⟨⟨asset, hfound⟩, rfl⟩

theorem brandFilter_ok {query : AssetListQuery} {brandFilter : Option String}
    (hrole : actor.actorRole ≠ .platform) (h : query.brandFilter actor = .ok brandFilter) :
    ∃ id, actor.brandId = some id ∧ brandFilter = some id := by
  unfold AssetListQuery.brandFilter at h
  rw [if_neg hrole] at h
  split at h
  · cases h
  next id hid =>
  split at h
  · cases h
  · exact ⟨id, hid, (Except.ok.inj h).symm⟩

theorem listAssets_ok {query : AssetListQuery} {page : PaginatedResponse AssetDetail}
    (h : listAssets fails s actor query = .ok (some page)) :
    ∃ brandFilter rows, query.brandFilter actor = .ok brandFilter ∧
      selectPage fails .assets query.getPageSize query.offset
        (s.assetsOf brandFilter query.batchId query.currentState) = .ok rows ∧
      listedAssets fails s rows = .ok (some page.items) := by
  obtain ⟨brandFilter, hfilter, h⟩ := bind_ok h
  obtain ⟨selected, hselect, h⟩ := bind_ok h
  obtain ⟨⟨items, total⟩, rfl, rfl⟩ := Option.map_eq_some_iff.mp (Except.ok.inj h)
  obtain ⟨count, hcount, hselect⟩ := bind_ok hselect
  obtain ⟨rows, hrows, hselect⟩ := bind_ok hselect
  refine ⟨brandFilter, rows, hfilter, hrows, ?_⟩
  cases hlisted : listedAssets fails s rows with
  | error e => rw [hlisted] at hselect; cases hselect
  | ok listed =>
      rw [hlisted] at hselect
      obtain ⟨items', rfl, hitems⟩ := Option.map_eq_some_iff.mp (Except.ok.inj hselect)
      rw [(Prod.mk.inj hitems).1]

end Answers

namespace TenantRead
variable {fails : ReadQuery → Option String} {s : Catalogue} {actor : ActorContext}

theorem visible_own {assetId b : String}
    (hrole : actor.actorRole = .brand ∨ actor.actorRole = .factory) {asset : AssetDetail}
    (h : visibleAsset fails s actor assetId = .ok (some asset))
    (hb : s.db.brandOf assetId = some b) : actor.brandId = some b := by
  obtain ⟨hbrand, hboundary⟩ := visibleAsset_ok h
  rw [checkBrandBoundary_ok hboundary hrole, ← hbrand, hb]

theorem getBatch_own_iff {batchId : String} :
    OwnOnly fails s actor (.getBatch batchId) ↔ Guarded fails s actor (.getBatch batchId) := by
  constructor
  · intro h
    by_cases hrole : actor.actorRole = .brand ∨ actor.actorRole = .factory
    · exact .inl hrole
    right
    cases hfails : fails .batch with
    | some e => exact .inl rfl
    | none =>
        right
        intro batch hbatch
        have hboundary : checkBrandBoundary actor batch.brandId = .ok () := if_neg hrole
        exact h _ ⟨batch, getBatch_ok.mpr ⟨hfails, hbatch, hboundary⟩, rfl⟩
  · intro h b ⟨batch, hbatch, hb⟩
    obtain ⟨hfails, hfound, hboundary⟩ := getBatch_ok.mp hbatch
    obtain rfl := hb
    obtain hrole | hfailed | hown := h
    · exact checkBrandBoundary_ok hboundary hrole
    · rw [hfails] at hfailed
      cases hfailed
    · exact hown batch hfound

theorem listBatches_own_iff {params : PaginationParams} (hrole : actor.actorRole ≠ .platform) :
    OwnOnly fails s actor (.listBatches params) ↔
      Guarded fails s actor (.listBatches params) := by
  constructor
  · intro h
    by_contra hnot
    simp only [Guarded, not_or, Bool.not_eq_true, Option.isSome_eq_false_iff,
      Option.isNone_iff_eq_none, not_le, not_lt] at hnot
    obtain ⟨hbrand, hcount, hselect, hoffset, hlength⟩ := hnot
    have hall : s.batchesOf none = s.batches.rows := by simp [Catalogue.batchesOf]
    have hsize : 0 < params.getPageSize.toNat := by
      have := le_max_left 1 (min 100 (params.pageSize.getD 20))
      rw [PaginationParams.getPageSize]
      omega
    have hne : slice params.getPageSize.toNat params.offset.toNat s.batches.rows.reverse ≠ [] := by
      rw [ne_eq, slice_eq_nil_iff hsize, List.length_reverse]
      omega
    obtain ⟨batch, hbatch⟩ := List.exists_mem_of_ne_nil _ hne
    have hrows : selectPage fails .batches params.getPageSize params.offset
        (s.batchesOf (if actor.actorRole = .platform then none else actor.brandId)) =
          .ok (slice params.getPageSize.toNat params.offset.toNat s.batches.rows.reverse) := by
      rw [if_neg hrole, hbrand, hall]
      exact selectPage_ok.mpr ⟨hselect, hoffset, rfl⟩
    have hshown := h _ ⟨_, listBatches_eq hcount hrows, batch, hbatch, rfl⟩
    cases hbrand.symm.trans hshown
  · intro h b ⟨page, hpage, batch, hbatch, hb⟩
    obtain ⟨hcount, hrows⟩ := listBatches_ok hpage
    obtain ⟨hselect, hoffset, hslice⟩ := selectPage_ok.mp hrows
    rw [if_neg hrole] at hslice hrows
    subst hb
    cases hbrand : actor.brandId with
    | some id =>
        rw [hbrand] at hrows
        have hmem := mem_of_selectPage hrows hbatch
        have hid : id = batch.brandId := by
          simpa [Catalogue.batchesOf, eq_comm] using (List.mem_filter.mp hmem).2
        rw [hid]
    | none =>
        simp only [Guarded, hbrand, hcount, hselect, Option.isSome_none, Bool.false_eq_true,
          false_or] at h
        have hall : s.batchesOf none = s.batches.rows := by simp [Catalogue.batchesOf]
        rw [hbrand, hall] at hslice
        have hlength : s.batches.rows.reverse.length ≤ params.offset.toNat := by
          rw [List.length_reverse]
          omega
        have hempty : page.items = [] := by
          rw [← hslice, slice, List.drop_eq_nil_of_le hlength, List.take_nil]
        rw [hempty] at hbatch
        exact absurd hbatch List.not_mem_nil

theorem listAssets_own {query : AssetListQuery} (hrole : actor.actorRole ≠ .platform) :
    OwnOnly fails s actor (.listAssets query) := by
  intro b ⟨page, hpage, asset, hasset, hb⟩
  obtain ⟨brandFilter, rows, hfilter, hrows, hlisted⟩ := listAssets_ok hpage
  obtain ⟨id, hid, rfl⟩ := brandFilter_ok hrole hfilter
  have hmem : asset.tenancy ∈ rows.map AssetRow.tenancy := by
    rw [← listedAssets_tenancies hlisted]
    exact List.mem_map_of_mem hasset
  obtain ⟨row, hrow, htenancy⟩ := List.mem_map.mp hmem
  have hselected := (List.mem_filter.mp (mem_of_selectPage hrows hrow)).2
  simp only [AssetRow.meets, Bool.and_eq_true, Option.all_some, decide_eq_true_eq] at hselected
  have hbrand : row.brandId = asset.brandId := congrArg (fun k => k.2.1) htenancy
  rw [hid, ← hb, ← hbrand, hselected.1.1]

/-- Of the six handlers two go wrong: `get_batch` for a role it does not check, and
`list_batches` for an actor without a brand. -/
theorem own_only_iff (fails : ReadQuery → Option String) (s : Catalogue) (actor : ActorContext)
    (r : TenantRead) (hbound : r.Bound actor) :
    OwnOnly fails s actor r ↔ Guarded fails s actor r := by
  cases r with
  | getBatch batchId => exact getBatch_own_iff
  | listBatches params => exact listBatches_own_iff hbound
  | listAssets query => exact iff_of_true (listAssets_own hbound) trivial
  | getAsset assetId =>
      refine iff_of_true (fun b hshown => ?_) trivial
      obtain ⟨asset, hasset, rfl⟩ := hshown
      exact visible_own hbound hasset (visibleAsset_ok hasset).1
  | getAssetHistory assetId =>
      refine iff_of_true (fun b hshown => ?_) trivial
      obtain ⟨response, hresponse, hb⟩ := hshown
      obtain ⟨⟨asset, hasset⟩, hid, hevents⟩ := getAssetHistory_ok hresponse
      obtain hb | ⟨e, he, hb⟩ := hb
      · exact visible_own hbound hasset (hid ▸ hb)
      · exact visible_own hbound hasset (hevents e he ▸ hb)
  | getAssetAttestations assetId =>
      refine iff_of_true (fun b hshown => ?_) trivial
      obtain ⟨response, hresponse, hb⟩ := hshown
      obtain ⟨⟨asset, hasset⟩, hid⟩ := getAssetAttestations_ok hresponse
      exact visible_own hbound hasset (hid ▸ hb)

end TenantRead

section Sample

/-- One batch of a brand, and a consumer who has none. -/
def batchCatalogue : Catalogue where
  db := { brands := ["brand"] }
  times := fun _ => ⟨none, none, "", ""⟩
  batches := .single { batchId := "batch_1", brandId := "brand", createdAt := "2026-04-09" }

def consumer : ActorContext := { actorId := "user", actorRole := .consumer }

def brandClerk : ActorContext :=
  { actorId := "clerk", actorRole := .brand, brandId := some "brand" }

theorem own_only_iff_brand :
    TenantRead.OwnOnly (fun _ => none) batchCatalogue brandClerk (.listBatches {}) := by
  refine (TenantRead.own_only_iff _ batchCatalogue brandClerk (.listBatches {}) ?_).mpr (.inl rfl)
  intro h
  cases h

/-- The consumer is shown the batch, by its id and in the list. -/
theorem consumer_sees_batches :
    (¬∀ (fails : ReadQuery → Option String) (s : Catalogue) (actor : ActorContext)
      (batchId : String), actor.actorRole ≠ .platform →
        TenantRead.OwnOnly fails s actor (.getBatch batchId)) ∧
    ¬∀ (fails : ReadQuery → Option String) (s : Catalogue) (actor : ActorContext)
      (params : PaginationParams), actor.actorRole ≠ .platform →
        TenantRead.OwnOnly fails s actor (.listBatches params) := by
  constructor
  · intro hall
    have hshown : TenantRead.Shows (fun _ => none) batchCatalogue consumer (.getBatch "batch_1")
        "brand" := ⟨_, rfl, rfl⟩
    cases hall _ _ _ "batch_1" (by decide) _ hshown
  · intro hall
    have hshown : TenantRead.Shows (fun _ => none) batchCatalogue consumer (.listBatches {})
        "brand" := ⟨_, rfl, _, List.mem_singleton_self _, rfl⟩
    cases hall _ _ _ {} (by decide) _ hshown

end Sample

end RcProtocol
