import RcProtocol.Bff.Assets
import RcProtocol.TenantReads

/-!
Which assets a consumer's list shows. The subject goes upstream as a query parameter that
rc-api does not read; what is listed is the consumer's brand, or nothing.
-/

namespace RcProtocol
open Library

/-- A catalogue whose rows the database can count: the number is a bigint. -/
structure CountedCatalogue extends Catalogue where
  counted : db.assets.rows.length < 2 ^ 63

section Reads
variable {s : Catalogue} {rows : List AssetRow}

/-- Where every statement is answered, an item is there as soon as its row has a uid. -/
theorem listedAsset_answered (s : Catalogue) (row : AssetRow) :
    ∃ detail : String → AssetDetail,
      listedAsset (fun _ => none) s row = .ok (row.uid.map detail) := by
  unfold listedAsset fetchAssetCommitmentPayload fetchAttestationStatuses
    fetchVirtualMotherCardDetail answer
  cases row.assetCommitmentId with
  | none => exact ⟨_, rfl⟩
  | some id => exact ⟨_, rfl⟩

/-- One row without a uid is enough for the whole page to be missing. -/
theorem listedAssets_answered (s : Catalogue) (rows : List AssetRow) :
    ∃ items, listedAssets (fun _ => none) s rows = .ok items ∧
      (items.isSome = true ↔ ∀ r ∈ rows, r.uid.isSome = true) := by
  induction rows with
  | nil => exact ⟨some [], rfl, by simp⟩
  | cons row rows ih =>
      obtain ⟨items, hitems, hiff⟩ := ih
      obtain ⟨detail, hdetail⟩ := listedAsset_answered s row
      unfold listedAssets
      rw [hdetail, hitems]
      cases huid : row.uid with
      | none => exact ⟨none, rfl, by simp [huid]⟩
      | some uid => exact ⟨items.map (detail uid :: ·), rfl, by simp [huid, hiff]⟩

end Reads

namespace Bff

/-- The rows of the assets that the subject owns. -/
def ownedRows (s : Catalogue) (sub : String) : List AssetRow :=
  s.db.assets.rows.filter (·.ownerId = some sub)

/-- The number of items on a page. -/
def pageLimit (pageSize : Option Int) : Nat := (parsePagination none pageSize).2.toNat

/-- The asset ids of a page. -/
def ListBody.ids (body : ListBody) : List String := body.items.map (·.assetID)

section Property
variable (carried : String → Option (List (String × String)))
  (brandNames : List String → String → String) (s : Catalogue) (actor : ActorContext) (sub : String)

/-- Page number `n`, counted from zero, where the database answers every statement. -/
def listedPage (pageSize : Option Int) (n : Nat) : ListBody :=
  listAssets carried brandNames (fun _ => none) s actor sub (some (n + 1)) pageSize

/-- What the list promises its reader, whatever the size of the pages. The pages are those
whose first item has a number that is an i64. -/
structure ShowsOwned : Prop where
  total : ∀ pageSize n, n * pageLimit pageSize < 2 ^ 63 →
    (listedPage carried brandNames s actor sub pageSize n).total = (ownedRows s sub).length
  items : ∀ pageSize k, (ownedRows s sub).length ≤ k * pageLimit pageSize →
    (∀ n < k, n * pageLimit pageSize < 2 ^ 63) →
    ((List.range k).flatMap fun n => (listedPage carried brandNames s actor sub pageSize n).ids).Perm
      ((ownedRows s sub).map (·.assetId))

/-- The brand, batch and state rc-api selects the rows by, where it selects any. -/
def readFilters : Option (String × Option String × Option String) := do
  let rest ← carried sub
  let query ← assetListQuery 1 1 rest
  let id ← actor.brandId
  if query.brandId.any (· ≠ id) then none else some (id, query.batchId, query.currentState)

/-- The rows selected are those that the subject owns, and each of these has a uid. -/
def SelectsOwned : Prop :=
  match readFilters carried actor sub with
  | none => ∀ r ∈ s.db.assets.rows, r.ownerId ≠ some sub
  | some (id, batch, state) => ∀ r ∈ s.db.assets.rows,
      (r.meets (some id) batch state = true ↔ r.ownerId = some sub) ∧
        (r.ownerId = some sub → r.uid.isSome = true)

end Property

section Pages
variable {carried : String → Option (List (String × String))}
  {brandNames : List String → String → String} {s : CountedCatalogue} {actor : ActorContext}
  {sub : String} {pageSize : Option Int} {n : Nat}

theorem pageLimit_le : pageLimit pageSize ≤ 100 := by
  unfold pageLimit parsePagination
  omega

theorem pageLimit_pos : 0 < pageLimit pageSize := by
  have hsize : 0 < queryInt pageSize 20 := by
    unfold queryInt
    split
    · decide
    · split <;> omega
  unfold pageLimit parsePagination
  omega

theorem parsePagination_page : parsePagination (some (n + 1 : Int)) pageSize =
    ((n : Int) + 1, (pageLimit pageSize : Int)) := by
  have hpos := @pageLimit_pos pageSize
  have hpage : queryInt (some ((n : Int) + 1)) 1 = n + 1 := by
    unfold queryInt
    exact if_neg (by omega)
  unfold pageLimit parsePagination at *
  rw [hpage]
  refine Prod.ext rfl ?_
  dsimp only at hpos ⊢
  omega

/-- The offset of a page does not wrap. -/
theorem offset_page {query : AssetListQuery} (hpage : query.page = some (n + 1 : Int))
    (hsize : query.pageSize = some (pageLimit pageSize : Int)) (hn : n * pageLimit pageSize < 2 ^ 63) :
    query.getPageSize = pageLimit pageSize ∧ query.offset = (n * pageLimit pageSize : Nat) := by
  have hle := @pageLimit_le pageSize
  have hpos := @pageLimit_pos pageSize
  have hgetSize : query.getPageSize = pageLimit pageSize := by
    unfold PaginationParams.getPageSize
    rw [hsize, Option.getD_some]
    omega
  have hgetPage : query.getPage = n + 1 := by
    unfold PaginationParams.getPage
    rw [hpage, Option.getD_some]
    omega
  refine ⟨hgetSize, ?_⟩
  unfold PaginationParams.offset mulI64
  rw [hgetSize, hgetPage, Int.add_sub_cancel, ← Nat.cast_mul]
  exact Int.bmod_eq_of_le_mul_two (by omega) (by omega)

/-- The two numbers do not decide whether the query is read. -/
theorem assetListQuery_page (page pageSize : Int) (rest : List (String × String)) :
    assetListQuery page pageSize rest = (assetListQuery 1 1 rest).map fun query =>
      { query with page := some page, pageSize := some pageSize } := by
  unfold assetListQuery
  by_cases hany : rest.any fun p => p.1 = "page" ∨ p.1 = "page_size"
  · rw [if_pos hany, if_pos hany]
    rfl
  · rw [if_neg hany, if_neg hany]
    cases queryField "brand_id" rest with
    | none => rfl
    | some brandId =>
        cases queryField "batch_id" rest with
        | none => rfl
        | some batchId =>
            cases queryField "current_state" rest <;> rfl

/-- A consumer for whom no rows are selected is refused each page. -/
theorem upstreamAssets_none (hrole : actor.actorRole = .consumer)
    (h : readFilters carried actor sub = none) (page pageSize : Int) :
    upstreamAssets carried (fun _ => none) s.toCatalogue actor page pageSize sub = none := by
  unfold upstreamAssets
  cases hrest : carried sub with
  | none => rfl
  | some rest =>
      simp only [Option.bind_eq_bind, Option.bind_some]
      rw [assetListQuery_page]
      cases hquery : assetListQuery 1 1 rest with
      | none => rfl
      | some query =>
          have hrefused : ∀ query' : AssetListQuery, query'.brandId = query.brandId →
              ∃ err, query'.brandFilter actor = .error err := by
            intro query' hbrand
            unfold AssetListQuery.brandFilter
            rw [hrole, if_neg (by decide), hbrand]
            cases hid : actor.brandId with
            | none => exact ⟨_, rfl⟩
            | some id =>
                by_cases hany : query.brandId.any (· ≠ id) = true
                · exact ⟨_, if_pos hany⟩
                · have hsome : readFilters carried actor sub =
                      some (id, query.batchId, query.currentState) := by
                    simp only [readFilters, hrest, hquery, hid, Option.bind_eq_bind,
                      Option.bind_some, if_neg hany]
                  rw [hsome] at h
                  cases h
          obtain ⟨err, herr⟩ :=
            hrefused { query with page := some page, pageSize := some pageSize } rfl
          simp only [Option.map_some, Option.bind_some, RcProtocol.listAssets, herr, bind, Except.bind]

/-- The rows of a page. -/
def pageRows (s : Catalogue) (id : String) (batch state : Option String) (limit n : Nat) :
    List AssetRow :=
  slice limit (n * limit) (s.assetsOf (some id) batch state).reverse

/-- rc-api answers a page with the details of its rows, if they can all be read. -/
theorem listAssets_page {query : AssetListQuery} {id : String}
    (hfilter : query.brandFilter actor = .ok (some id)) (hpage : query.page = some (n + 1 : Int))
    (hsize : query.pageSize = some (pageLimit pageSize : Int)) (hn : n * pageLimit pageSize < 2 ^ 63) :
    RcProtocol.listAssets (fun _ => none) s.toCatalogue actor query =
      (listedAssets (fun _ => none) s.toCatalogue
        (pageRows s.toCatalogue id query.batchId query.currentState (pageLimit pageSize) n)).map
          (Option.map fun items => ⟨items,
            (s.assetsOf (some id) query.batchId query.currentState).length,
            query.getPage, query.getPageSize⟩) := by
  obtain ⟨hlimit, hoffset⟩ := offset_page hpage hsize hn
  have hcount : runQuery (fun _ => none) .countAssets
      (s.assetsOf (some id) query.batchId query.currentState).length =
        .ok (s.assetsOf (some id) query.batchId query.currentState).length :=
    runQuery_ok.mpr ⟨rfl, rfl⟩
  have hselect : selectPage (fun _ => none) .assets query.getPageSize query.offset
      (s.assetsOf (some id) query.batchId query.currentState) =
        .ok (pageRows s.toCatalogue id query.batchId query.currentState (pageLimit pageSize) n) := by
    refine selectPage_ok.mpr ⟨rfl, ?_, ?_⟩
    · rw [hoffset]
      exact Int.natCast_nonneg _
    · rw [hlimit, hoffset, Int.toNat_natCast, Int.toNat_natCast]
      rfl
  simp only [RcProtocol.listAssets, hfilter, selectAssets, hcount, hselect, bind, Except.bind]
  cases listedAssets (fun _ => none) s.toCatalogue (pageRows s.toCatalogue id query.batchId
      query.currentState (pageLimit pageSize) n) with
  | error err => rfl
  | ok items => cases items <;> rfl

/-- The page a consumer gets where rows are selected. -/
theorem upstreamAssets_page {id : String} {batch state : Option String}
    (hrole : actor.actorRole = .consumer)
    (h : readFilters carried actor sub = some (id, batch, state))
    (hn : n * pageLimit pageSize < 2 ^ 63) {items : Option (List AssetDetail)}
    (hitems : listedAssets (fun _ => none) s.toCatalogue
      (pageRows s.toCatalogue id batch state (pageLimit pageSize) n) = .ok items) :
    (upstreamAssets carried (fun _ => none) s.toCatalogue actor (n + 1) (pageLimit pageSize)
      sub).map (fun response => (response.items, response.total)) =
        items.map (·, (s.assetsOf (some id) batch state).length) := by
  unfold readFilters at h
  obtain ⟨rest, hrest, h⟩ := Option.bind_eq_some_iff.mp h
  obtain ⟨query, hquery, h⟩ := Option.bind_eq_some_iff.mp h
  obtain ⟨own, hid, h⟩ := Option.bind_eq_some_iff.mp h
  split at h
  · cases h
  next hany =>
  cases h
  have hfilter : ∀ query' : AssetListQuery, query'.brandId = query.brandId →
      query'.brandFilter actor = .ok (some id) := by
    intro query' hbrand
    unfold AssetListQuery.brandFilter
    rw [hrole, if_neg (by decide), hbrand, hid]
    exact if_neg hany
  have hanswer := listAssets_page (s := s) (hfilter { query with
    page := some (n + 1 : Int), pageSize := some (pageLimit pageSize : Int) } rfl) rfl rfl hn
  unfold upstreamAssets
  rw [hrest]
  simp only [Option.bind_eq_bind, Option.bind_some]
  rw [assetListQuery_page, hquery]
  simp only [Option.map_some, Option.bind_some]
  rw [hanswer, hitems]
  cases items <;> rfl

/-- What a page shows of its rows: all of them, or nothing where one has no uid. -/
theorem listedPage_eq {id : String} {batch state : Option String}
    (hrole : actor.actorRole = .consumer)
    (h : readFilters carried actor sub = some (id, batch, state))
    (hn : n * pageLimit pageSize < 2 ^ 63) :
    ((∀ r ∈ pageRows s.toCatalogue id batch state (pageLimit pageSize) n, r.uid.isSome = true) →
      (listedPage carried brandNames s.toCatalogue actor sub pageSize n).ids =
        (pageRows s.toCatalogue id batch state (pageLimit pageSize) n).map (·.assetId) ∧
      (listedPage carried brandNames s.toCatalogue actor sub pageSize n).total =
        (s.assetsOf (some id) batch state).length) ∧
    ((¬∀ r ∈ pageRows s.toCatalogue id batch state (pageLimit pageSize) n, r.uid.isSome = true) →
      (listedPage carried brandNames s.toCatalogue actor sub pageSize n).ids = []) := by
  obtain ⟨items, hitems, hiff⟩ := listedAssets_answered s.toCatalogue
    (pageRows s.toCatalogue id batch state (pageLimit pageSize) n)
  have hup := upstreamAssets_page hrole h hn hitems
  unfold listedPage listAssets
  rw [parsePagination_page]
  dsimp only
  rw [← hiff]
  cases items with
  | none =>
      rw [Option.map_none, Option.map_eq_none_iff] at hup
      rw [hup]
      exact ⟨fun hsome => (by cases hsome), fun _ => rfl⟩
  | some items =>
      obtain ⟨response, hresponse, hpair⟩ := Option.map_eq_some_iff.mp hup
      obtain ⟨hshown, htotal⟩ := Prod.mk.inj hpair
      rw [hresponse]
      refine ⟨fun _ => ⟨?_, htotal⟩, fun hnot => absurd rfl hnot⟩
      have htenancies := congrArg (List.map (·.1)) (listedAssets_tenancies hitems)
      rw [List.map_map, List.map_map] at htenancies
      rw [← hshown] at htenancies
      unfold ListBody.ids
      rw [List.map_map]
      exact htenancies

/-- Where no rows are selected every page is empty. -/
theorem listedPage_none (hrole : actor.actorRole = .consumer)
    (h : readFilters carried actor sub = none) :
    (listedPage carried brandNames s.toCatalogue actor sub pageSize n).ids = [] ∧
      (listedPage carried brandNames s.toCatalogue actor sub pageSize n).total = 0 := by
  unfold listedPage listAssets
  rw [parsePagination_page]
  dsimp only
  rw [upstreamAssets_none hrole h]
  exact ⟨rfl, rfl⟩

theorem filter_eq_nil_of_length_le_one {α : Type} {p : α → Bool} {rows : List α}
    (hlength : rows.length ≤ 1) (h : ¬∀ a ∈ rows, p a = true) : rows.filter p = [] := by
  cases rows with
  | nil => rfl
  | cons a rest =>
      have hrest : rest = [] := List.length_eq_zero_iff.mp (by simpa using hlength)
      subst hrest
      simpa using h

/-- The rows that a page of one item shows, all pages together. -/
theorem listedPages_one {id : String} {batch state : Option String}
    (hrole : actor.actorRole = .consumer)
    (h : readFilters carried actor sub = some (id, batch, state)) {k : Nat} (hk : k ≤ 2 ^ 63) :
    ((List.range k).flatMap fun n =>
      (listedPage carried brandNames s.toCatalogue actor sub (some 1) n).ids) =
        ((((s.assetsOf (some id) batch state).reverse.take k).filter (·.uid.isSome)).map
          (·.assetId)) := by
  have hlimit : pageLimit (some 1) = 1 := rfl
  have hpage : ∀ n ∈ List.range k,
      (listedPage carried brandNames s.toCatalogue actor sub (some 1) n).ids =
        ((slice 1 (n * 1) (s.assetsOf (some id) batch state).reverse).filter (·.uid.isSome)).map
          (·.assetId) := by
    intro n hn
    have hn' : n * pageLimit (some 1) < 2 ^ 63 := by
      rw [hlimit]
      have := List.mem_range.mp hn
      omega
    have hshown := @listedPage_eq carried brandNames s actor sub (some 1) n id batch state hrole h hn'
    obtain ⟨hall, hmissing⟩ := hshown
    have hlength : (slice 1 (n * 1) (s.assetsOf (some id) batch state).reverse).length ≤ 1 :=
      List.length_take_le _ _
    unfold pageRows at hall hmissing
    rw [hlimit] at hall hmissing
    by_cases huid : ∀ r ∈ slice 1 (n * 1) (s.assetsOf (some id) batch state).reverse,
        r.uid.isSome = true
    · rw [(hall huid).1, List.filter_eq_self.mpr huid]
    · rw [hmissing huid, filter_eq_nil_of_length_le_one hlength huid, List.map_nil]
  rw [List.flatMap_congr hpage, ← List.map_flatMap, ← List.filter_flatMap, flatMap_slice, mul_one]

end Pages

section Selection
variable {carried : String → Option (List (String × String))}
  {brandNames : List String → String → String} {s : CountedCatalogue} {actor : ActorContext}
  {sub : String}

theorem mem_ownedRows {r : AssetRow} :
    r ∈ ownedRows s.toCatalogue sub ↔ r ∈ s.db.assets.rows ∧ r.ownerId = some sub := by
  simp [ownedRows]

/-- Rows with one asset id are one row. -/
theorem eq_of_assetId {r r' : AssetRow} (hr : r ∈ s.db.assets.rows) (hr' : r' ∈ s.db.assets.rows)
    (h : r.assetId = r'.assetId) : r = r' :=
  s.db.assets.eq_of_clash hr hr' (.inl h)

/-- Lists of rows that show the same asset ids have the same rows. -/
theorem mem_iff_of_ids {xs ys : List AssetRow} (hxs : ∀ r ∈ xs, r ∈ s.db.assets.rows)
    (hys : ∀ r ∈ ys, r ∈ s.db.assets.rows)
    (h : (xs.map (·.assetId)).Perm (ys.map (·.assetId))) (r : AssetRow) : r ∈ xs ↔ r ∈ ys := by
  constructor
  · intro hr
    obtain ⟨r', hr', hid⟩ := List.mem_map.mp (h.mem_iff.mp (List.mem_map_of_mem hr))
    rw [eq_of_assetId (hxs r hr) (hys r' hr') hid.symm]
    exact hr'
  · intro hr
    obtain ⟨r', hr', hid⟩ := List.mem_map.mp (h.mem_iff.mpr (List.mem_map_of_mem hr))
    rw [eq_of_assetId (hys r hr) (hxs r' hr') hid.symm]
    exact hr'

theorem selects_of_shows (hrole : actor.actorRole = .consumer)
    (h : ShowsOwned carried brandNames s.toCatalogue actor sub) :
    SelectsOwned carried s.toCatalogue actor sub := by
  unfold SelectsOwned
  cases hfilters : readFilters carried actor sub with
  | none =>
      have htotal := h.total none 0 (by norm_num)
      rw [(listedPage_none hrole hfilters).2] at htotal
      have hempty : ownedRows s.toCatalogue sub = [] := List.length_eq_zero_iff.mp htotal.symm
      intro r hr howner
      have hmem := mem_ownedRows.mpr ⟨hr, howner⟩
      rw [hempty] at hmem
      exact absurd hmem List.not_mem_nil
  | some filters =>
      obtain ⟨id, batch, state⟩ := filters
      have hlimit : pageLimit (some 1) = 1 := rfl
      have hbound : (s.assetsOf (some id) batch state).length < 2 ^ 63 :=
        Nat.lt_of_le_of_lt (List.length_filter_le _ _) s.counted
      have hwithin : (s.assetsOf (some id) batch state).length * pageLimit (some 1) < 2 ^ 63 := by
        rw [hlimit, mul_one]
        exact hbound
      have hpast : pageRows s.toCatalogue id batch state (pageLimit (some 1))
          (s.assetsOf (some id) batch state).length = [] := by
        unfold pageRows
        rw [slice_eq_nil_iff pageLimit_pos, hlimit, List.length_reverse, mul_one]
      have hcount : (s.assetsOf (some id) batch state).length =
          (ownedRows s.toCatalogue sub).length := by
        rw [← h.total (some 1) _ hwithin]
        refine (((listedPage_eq hrole hfilters hwithin).1 ?_).2).symm
        rw [hpast]
        exact fun r hr => absurd hr List.not_mem_nil
      have hitems := h.items (some 1) (s.assetsOf (some id) batch state).length
        (by rw [hlimit, mul_one, hcount]) (by rw [hlimit]; omega)
      rw [listedPages_one hrole hfilters (Nat.le_of_lt hbound), ← List.length_reverse,
        List.take_length] at hitems
      have huids : ∀ r ∈ (s.assetsOf (some id) batch state).reverse, r.uid.isSome = true := by
        refine List.length_filter_eq_length_iff.mp ?_
        have hlength := hitems.length_eq
        rw [List.length_map, List.length_map, ← hcount] at hlength
        rw [hlength, List.length_reverse]
      rw [List.filter_eq_self.mpr huids] at hitems
      have hstored : ∀ r ∈ (s.assetsOf (some id) batch state).reverse, r ∈ s.db.assets.rows :=
        fun r hr => (List.mem_filter.mp (List.mem_reverse.mp hr)).1
      have hmem := mem_iff_of_ids hstored (fun r hr => (mem_ownedRows.mp hr).1) hitems
      intro r hr
      have hselected : r.meets (some id) batch state = true ↔ r.ownerId = some sub := by
        have hiff := hmem r
        rw [List.mem_reverse, mem_ownedRows] at hiff
        simpa [Catalogue.assetsOf, hr] using hiff
      refine ⟨hselected, fun howner => huids r ?_⟩
      exact (hmem r).mpr (mem_ownedRows.mpr ⟨hr, howner⟩)

theorem shows_of_selects (hrole : actor.actorRole = .consumer)
    (h : SelectsOwned carried s.toCatalogue actor sub) :
    ShowsOwned carried brandNames s.toCatalogue actor sub := by
  unfold SelectsOwned at h
  cases hfilters : readFilters carried actor sub with
  | none =>
      rw [hfilters] at h
      have hempty : ownedRows s.toCatalogue sub = [] := by
        refine List.filter_eq_nil_iff.mpr fun r hr => ?_
        simpa using h r hr
      refine ⟨fun pageSize n _ => ?_, fun pageSize k _ _ => ?_⟩
      · rw [(listedPage_none hrole hfilters).2, hempty]
        rfl
      · rw [hempty, List.flatMap_congr fun n _ => (listedPage_none hrole hfilters).1]
        simp
  | some filters =>
      obtain ⟨id, batch, state⟩ := filters
      rw [hfilters] at h
      have hselected : s.assetsOf (some id) batch state = ownedRows s.toCatalogue sub := by
        refine List.filter_congr fun r hr => ?_
        rw [Bool.eq_iff_iff, decide_eq_true_iff]
        exact (h r hr).1
      have huids : ∀ limit n, ∀ r ∈ pageRows s.toCatalogue id batch state limit n,
          r.uid.isSome = true := by
        intro limit n r hr
        have hmem := List.mem_reverse.mp (mem_of_mem_slice hr)
        rw [hselected] at hmem
        obtain ⟨hstored, howner⟩ := mem_ownedRows.mp hmem
        exact (h r hstored).2 howner
      refine ⟨fun pageSize n hn => ?_, fun pageSize k hk hn => ?_⟩
      · rw [((listedPage_eq hrole hfilters hn).1 (huids _ n)).2, hselected]
      · rw [List.flatMap_congr fun n hmem =>
          ((listedPage_eq hrole hfilters (hn n (List.mem_range.mp hmem))).1 (huids _ n)).1]
        unfold pageRows
        rw [← List.map_flatMap, hselected, flatMap_slice_all (by rwa [List.length_reverse])]
        exact (List.reverse_perm _).map _

end Selection

section Sample

/-- A subject that is read back as one field of the query. -/
def plainSubject (sub : String) : Option (List (String × String)) := some [("owner_id", sub)]

/-- One asset of a brand, sold to a consumer. -/
def soldCatalogue : CountedCatalogue where
  db :=
    { brands := ["brand"]
      assets := .single
        { assetId := "asset_1", brandId := "brand", uid := some "04a1b2c3d4e5f6",
          currentState := .legallySold, ownerId := some "user" } }
  times := fun _ => ⟨none, none, "", ""⟩
  counted := by decide

/-- A consumer whom the identity service knows as a member of the brand. -/
def brandMember : ActorContext :=
  { actorId := "user", actorRole := .consumer, brandId := some "brand" }

end Sample

end Bff

end RcProtocol
