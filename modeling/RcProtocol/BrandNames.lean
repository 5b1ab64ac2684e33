import RcProtocol.Bff.BrandNames
import RcProtocol.OwnedAssets

/-!
The names of the brands a consumer is shown. The list asks for all of its page at once and gets
them, in whatever order; the view of one asset asks as its actor, who may not be allowed to.
-/

namespace RcProtocol.Bff
open Library Brands

/-- A character that stands for itself in a URL and separates nothing. -/
def plainChar (c : Char) : Bool := c.isAlphanum || c = '_' || c = '-'

def PlainId (id : String) : Prop := id ≠ "" ∧ ∀ c ∈ id.toList, plainChar c = true

/-- The name to be shown: the id, where there is no other. -/
def shownName (db : KeyDb) (brandID : String) : String :=
  match db.brands.find (·.brandId = brandID) with
  | none => brandID
  | some b => if b.brandName = "" then brandID else b.brandName

section Ids
variable {id : String} {ids : List String}

/-- A letter, a digit or one of two marks is no white space. -/
theorem plainChar_no_space {c : Char} (h : plainChar c = true) : isWhiteSpace c = false := by
  have hrange : 45 ≤ c.toNat ∧ c.toNat ≤ 122 := by
    simp only [plainChar, Char.isAlphanum, Char.isAlpha, Char.isUpper, Char.isLower, Char.isDigit,
      Bool.or_eq_true, Bool.and_eq_true, decide_eq_true_eq, UInt32.le_iff_toNat_le] at h
    obtain (((h | h) | h) | rfl) | rfl := h
    · exact ⟨le_trans (by decide) h.1, le_trans h.2 (by decide)⟩
    · exact ⟨le_trans (by decide) h.1, le_trans h.2 (by decide)⟩
    · exact ⟨le_trans (by decide) h.1, le_trans h.2 (by decide)⟩
    · decide
    · decide
  simp [isWhiteSpace]
  omega

theorem dropWhile_none {α : Type} {p : α → Bool} {l : List α} (h : ∀ a ∈ l, p a = false) :
    l.dropWhile p = l := by
  cases l with
  | nil => rfl
  | cons a l => exact List.dropWhile_cons_of_neg (by simp [h a (List.mem_cons_self ..)])

theorem trim_plain (h : PlainId id) : trim id = id := by
  have hspace : ∀ c ∈ id.toList, isWhiteSpace c = false := fun c hc => plainChar_no_space (h.2 c hc)
  rw [trim, dropWhile_none hspace, dropWhile_none, List.reverse_reverse, String.ofList_toList]
  intro c hc
  exact hspace c (List.mem_reverse.mp hc)

/-- What go-bff joins, rc-api takes apart again. -/
theorem batchIds_join (hne : ids ≠ []) (h : ∀ id ∈ ids, PlainId id) :
    batchIds (",".intercalate ids) = ids := by
  have hcomma : ∀ part ∈ ids.map String.toList, ',' ∉ part := by
    intro part hpart hmem
    obtain ⟨id, hid, rfl⟩ := List.mem_map.mp hpart
    exact absurd ((h id hid).2 ',' hmem) (by decide)
  have hparts : ids.map ((fun part => trim (.ofList part)) ∘ String.toList) = ids := by
    have htrim : ∀ id ∈ ids, trim (.ofList id.toList) = id := by
      intro id hid
      rw [String.ofList_toList, trim_plain (h id hid)]
    exact (List.map_congr_left htrim).trans (List.map_id' ids)
  have hseparator : ",".toList = [','] := rfl
  rw [batchIds, String.toList_intercalate, hseparator, List.splitOn_intercalate _ hcomma (by simpa),
    List.map_map, hparts]
  apply List.filter_eq_self.mpr
  intro id hid
  exact decide_eq_true (h id hid).1

end Ids

section Names
variable {items : List BrandResponse} {brandID name : String}

theorem names_fold {result : String → String}
    (hsame : ∀ item ∈ items, item.brandId = brandID → item.brandName = name)
    (hstart : result brandID = name ∨
      result brandID = "" ∧ ∃ item ∈ items, item.brandId = brandID) :
    items.foldl
      (fun result item =>
        if item.brandName ≠ "" then Function.update result item.brandId item.brandName else result)
      result brandID = name := by
  induction items generalizing result with
  | nil =>
      obtain hdone | ⟨-, item, hitem, -⟩ := hstart
      · exact hdone
      · cases hitem
  | cons item rest ih =>
      rw [List.foldl_cons]
      refine ih (fun other hother => hsame other (List.mem_cons_of_mem _ hother)) ?_
      by_cases hid : item.brandId = brandID
      · have hname := hsame item (List.mem_cons_self ..) hid
        left
        by_cases hempty : item.brandName = ""
        · rw [if_neg (not_not.mpr hempty)]
          obtain hdone | hnone := hstart
          · exact hdone
          · rw [hnone.1, ← hname, hempty]
        · rw [if_pos hempty, hid, Function.update_self, hname]
      · have hkeeps : (if item.brandName ≠ "" then
            Function.update result item.brandId item.brandName else result) brandID =
              result brandID := by
          split
          · exact Function.update_of_ne (Ne.symm hid) ..
          · rfl
        rw [hkeeps]
        refine hstart.imp id fun hnone => ⟨hnone.1, ?_⟩
        obtain ⟨other, hother, hsame'⟩ := hnone.2
        cases List.mem_cons.mp hother with
        | inl hfirst =>
            rw [hfirst] at hsame'
            exact absurd hsame' hid
        | inr hrest => exact ⟨other, hrest, hsame'⟩

theorem namesOf_known (hsame : ∀ item ∈ items, item.brandId = brandID → item.brandName = name)
    (hitem : ∃ item ∈ items, item.brandId = brandID) : namesOf items brandID = name :=
  names_fold hsame (.inr ⟨rfl, hitem⟩)

theorem namesOf_unknown (h : ∀ item ∈ items, item.brandId ≠ brandID) :
    namesOf items brandID = "" :=
  names_fold (fun item hitem hid => absurd hid (h item hitem)) (.inl rfl)

/-- A brand of the response has the name it is stored with. -/
theorem batch_shown {db : KeyDb} {arrange : List BrandRow → List BrandRow}
    (harrange : ∀ rows, (arrange rows).Perm rows) {ids : List String}
    (h : fetchBrandsBatch none db arrange ids = .ok items) (hid : brandID ∈ ids) :
    (if namesOf items brandID = "" then brandID else namesOf items brandID) =
      shownName db brandID := by
  cases h
  have hitem : ∀ item ∈ (arrange (db.brands.rows.filter fun b => ids.contains b.brandId)).map
      (·.response), ∃ b ∈ db.brands.rows, b.response = item := by
    intro item hitem
    obtain ⟨b, hb, hsame⟩ := List.mem_map.mp hitem
    exact ⟨b, (List.mem_filter.mp ((harrange _).mem_iff.mp hb)).1, hsame⟩
  rw [shownName]
  cases hfind : db.brands.find (·.brandId = brandID) with
  | none =>
      have hnone : ∀ item ∈ (arrange (db.brands.rows.filter fun b => ids.contains b.brandId)).map
          (·.response), item.brandId ≠ brandID := by
        intro item hmem hsame
        obtain ⟨b, hb, rfl⟩ := hitem item hmem
        have hother : ¬b.brandId = brandID := by simpa using Table.find_eq_none.mp hfind b hb
        exact hother hsame
      rw [namesOf_unknown hnone, if_pos rfl]
  | some b =>
      have hb := Table.mem_of_find hfind
      have hsame : b.brandId = brandID := by simpa using Table.prop_of_find hfind
      have hname : namesOf ((arrange (db.brands.rows.filter fun b => ids.contains b.brandId)).map
          (·.response)) brandID = b.brandName := by
        apply namesOf_known
        · intro item hmem hitem'
          obtain ⟨b', hb', rfl⟩ := hitem item hmem
          rw [Table.eq_of_clash hb' hb (.inl (hitem'.trans hsame.symm))]
          rfl
        · refine ⟨b.response, List.mem_map_of_mem ((harrange _).mem_iff.mpr ?_), hsame⟩
          refine List.mem_filter.mpr ⟨hb, ?_⟩
          rw [hsame]
          simpa using hid
      rw [hname]

end Names

/-- The ids arrive as they were sent, where they and the commas between them stand for themselves. -/
def CarriesPlain (carried : String → Option (List (String × String))) : Prop :=
  ∀ text, (∀ c ∈ text.toList, plainChar c = true ∨ c = ',') → carried text = some [("ids", text)]

section Views
variable {carriedIds : String → Option (List (String × String))}
  {arrange : List BrandRow → List BrandRow} {shuffle : List String → List String} {db : KeyDb}
  {ids : List String} {id : String}

theorem join_plain (h : ∀ id ∈ ids, PlainId id) :
    ∀ c ∈ (",".intercalate ids).toList, plainChar c = true ∨ c = ',' := by
  induction ids with
  | nil =>
      intro c hc
      rw [String.intercalate_nil] at hc
      cases hc
  | cons id rest ih =>
      have hfirst : ∀ c ∈ id.toList, plainChar c = true ∨ c = ',' :=
        fun c hc => .inl ((h id (List.mem_cons_self ..)).2 c hc)
      cases rest with
      | nil =>
          rw [String.intercalate_singleton]
          exact hfirst
      | cons next rest =>
          rw [String.intercalate_cons_cons, String.toList_append, String.toList_append]
          intro c hc
          cases List.mem_append.mp hc with
          | inl hc =>
              cases List.mem_append.mp hc with
              | inl hc => exact hfirst c hc
              | inr hc => exact .inr (List.mem_singleton.mp hc)
          | inr hc => exact ih (fun id hid => h id (List.mem_cons_of_mem _ hid)) c hc

/-- The names of at most a hundred brands are those they are stored with. -/
theorem brandNames_shown (hcarried : CarriesPlain carriedIds)
    (harrange : ∀ rows, (arrange rows).Perm rows) (hshuffle : ∀ ids, (shuffle ids).Perm ids)
    (hplain : ∀ id ∈ ids, PlainId id) (hlength : ids.length ≤ 100) (hid : id ∈ ids) :
    (if brandNames carriedIds none arrange db shuffle ids id = "" then id
      else brandNames carriedIds none arrange db shuffle ids id) = shownName db id := by
  have hmem : id ∈ shuffle ids := (hshuffle ids).mem_iff.mpr hid
  have hne : shuffle ids ≠ [] := List.ne_nil_of_mem hmem
  have hplain' : ∀ id ∈ shuffle ids, PlainId id :=
    fun id hid => hplain id ((hshuffle ids).mem_iff.mp hid)
  have hbatch : upstreamBrandsBatch carriedIds none arrange db (",".intercalate (shuffle ids)) =
      (fetchBrandsBatch none db arrange (shuffle ids)).toOption := by
    rw [upstreamBrandsBatch, hcarried _ (join_plain hplain')]
    change (batchBrands none db arrange (",".intercalate (shuffle ids))).toOption = _
    rw [batchBrands, batchIds_join hne hplain']
    rw [if_neg hne, if_neg (by rw [(hshuffle ids).length_eq]; omega)]
  rw [brandNames, getBrandNamesBatch, if_neg hne, hbatch]
  exact batch_shown harrange rfl hmem

/-- rc-api never sends more than a hundred assets at once, all of them stored. -/
theorem upstreamAssets_items {carried : String → Option (List (String × String))}
    {fails : ReadQuery → Option String} {s : Catalogue} {actor : ActorContext} {page pageSize : Int}
    {sub : String} {response : PaginatedResponse AssetDetail}
    (h : upstreamAssets carried fails s actor page pageSize sub = some response) :
    response.items.length ≤ 100 ∧ ∀ item ∈ response.items,
      ∃ r ∈ s.db.assets.rows, r.assetId = item.assetId ∧ r.brandId = item.brandId := by
  obtain ⟨rest, -, h⟩ := Option.bind_eq_some_iff.mp h
  obtain ⟨query, -, h⟩ := Option.bind_eq_some_iff.mp h
  have hlist : RcProtocol.listAssets fails s actor query = .ok (some response) := by
    split at h
    · next hok =>
      cases h
      exact hok
    · cases h
  obtain ⟨brandFilter, rows, -, hrows, hlisted⟩ := listAssets_ok hlist
  have htenancies := listedAssets_tenancies hlisted
  constructor
  · have hlength := congrArg List.length htenancies
    rw [List.length_map, List.length_map] at hlength
    rw [hlength]
    obtain ⟨-, -, rfl⟩ := selectPage_ok.mp hrows
    have hsize : query.getPageSize ≤ 100 := by
      unfold PaginationParams.getPageSize
      omega
    have htaken : (slice query.getPageSize.toNat query.offset.toNat
        (s.assetsOf brandFilter query.batchId query.currentState).reverse).length ≤
        query.getPageSize.toNat := by
      rw [slice]
      exact List.length_take_le ..
    omega
  · intro item hitem
    have hmem : item.tenancy ∈ rows.map AssetRow.tenancy := by
      rw [← htenancies]
      exact List.mem_map_of_mem hitem
    obtain ⟨r, hr, htenancy⟩ := List.mem_map.mp hmem
    refine ⟨r, ?_, congrArg Prod.fst htenancy, congrArg (fun k => k.2.1) htenancy⟩
    exact (List.mem_filter.mp (mem_of_selectPage hrows hr)).1

/-- Every asset of a page has the name of its brand beside it. -/
theorem listAssets_named {carried : String → Option (List (String × String))} {s : Catalogue}
    (hcarried : CarriesPlain carriedIds) (harrange : ∀ rows, (arrange rows).Perm rows)
    (hshuffle : ∀ ids, (shuffle ids).Perm ids)
    (hplain : ∀ r ∈ s.db.assets.rows, PlainId r.brandId) (fails : ReadQuery → Option String)
    (actor : ActorContext) (sub : String) (page pageSize : Option Int) {vm : AssetVM}
    (hvm : vm ∈ (listAssets carried (brandNames carriedIds none arrange db shuffle) fails s actor sub
      page pageSize).items) :
    ∃ r ∈ s.db.assets.rows, r.assetId = vm.assetID ∧ vm.brandName = shownName db r.brandId := by
  dsimp only [listAssets] at hvm
  split at hvm
  · cases hvm
  · next response hresponse =>
    obtain ⟨hlength, hstored⟩ := upstreamAssets_items hresponse
    obtain ⟨item, hitem, rfl⟩ := List.mem_map.mp hvm
    obtain ⟨r, hr, hid, hbrand⟩ := hstored item hitem
    refine ⟨r, hr, hid, ?_⟩
    rw [hbrand]
    refine brandNames_shown hcarried harrange hshuffle ?_ ?_ ?_
    · intro id hid'
      obtain ⟨other, hother, rfl⟩ := List.mem_map.mp (List.mem_dedup.mp hid')
      obtain ⟨r', hr', -, hbrand'⟩ := hstored other hother
      rw [← hbrand']
      exact hplain r' hr'
    · have hdedup := (List.dedup_sublist (response.items.map (·.brandId))).length_le
      rw [List.length_map] at hdedup
      omega
    · exact List.mem_dedup.mpr (List.mem_map_of_mem hitem)

/-- The name beside a single asset is that of the brand for those who may read the brand. -/
theorem getBrandName_shown {actor : ActorContext} (h : checkBrandReadAccess actor id = .ok ()) :
    getBrandName (upstreamBrand none db actor id) id = shownName db id := by
  rw [upstreamBrand, getBrand, h]
  change getBrandName (fetchBrandDetail none db id).toOption id = _
  rw [shownName, fetchBrandDetail]
  cases db.brands.find (·.brandId = id) with
  | none => rfl
  | some b => rfl

theorem getBrandName_refused {actor : ActorContext} (h : checkBrandReadAccess actor id ≠ .ok ()) :
    getBrandName (upstreamBrand none db actor id) id = id := by
  rw [upstreamBrand, getBrand]
  cases hcheck : checkBrandReadAccess actor id with
  | ok a => exact absurd hcheck h
  | error e => rfl

/-- In a list every asset is shown with the name of its brand, whatever the order in which names are
asked for and come back. Beside a single asset it is that name too exactly where its reader may read
the brand, or where the name is the id. -/
theorem names_shown (hcarried : CarriesPlain carriedIds)
    (harrange : ∀ rows, (arrange rows).Perm rows)
    (hshuffle : ∀ ids, (shuffle ids).Perm ids) (s : Catalogue)
    (hplain : ∀ r ∈ s.db.assets.rows, PlainId r.brandId) :
    (∀ carried fails actor sub page pageSize, ∀ vm ∈ (listAssets carried
      (brandNames carriedIds none arrange db shuffle) fails s actor sub page pageSize).items,
        ∃ r ∈ s.db.assets.rows, r.assetId = vm.assetID ∧ vm.brandName = shownName db r.brandId) ∧
    ∀ actor brandID, getBrandName (upstreamBrand none db actor brandID) brandID =
      shownName db brandID ↔
        checkBrandReadAccess actor brandID = .ok () ∨ shownName db brandID = brandID := by
  refine ⟨fun carried fails actor sub page pageSize vm hvm => ?_, fun actor brandID => ?_⟩
  · exact listAssets_named hcarried harrange hshuffle hplain fails actor sub page pageSize hvm
  · by_cases hcheck : checkBrandReadAccess actor brandID = .ok ()
    · exact ⟨fun _ => .inl hcheck, fun _ => getBrandName_shown hcheck⟩
    · rw [getBrandName_refused hcheck]
      constructor
      · intro hsame
        exact .inr hsame.symm
      · intro hshown
        exact (hshown.resolve_left hcheck).symm

end Views

section Sample

/-- The ids are read back as they were sent. -/
def plainIds (ids : String) : Option (List (String × String)) := some [("ids", ids)]

def namedDb : KeyDb where
  brands := .single
    { brandId := "brand", brandName := "Luxe", contactEmail := "keys@luxe.example",
      industry := "Watches", createdAt := 0 }

theorem plain_brand : PlainId "brand" := by
  refine ⟨by decide, fun c hc => ?_⟩
  have hchars : "brand".toList.all plainChar = true := by decide
  exact List.all_eq_true.mp hchars c hc

/-- The list shows the brand's name, the asset's own page the id. -/
theorem names_shown_member :
    (∀ vm ∈ (listAssets plainSubject (brandNames plainIds none id namedDb List.reverse)
      (fun _ => none) soldCatalogue.toCatalogue brandMember "user" none none).items,
        ∃ r ∈ soldCatalogue.db.assets.rows, r.assetId = vm.assetID ∧
          vm.brandName = shownName namedDb r.brandId) ∧
      shownName namedDb "brand" = "Luxe" ∧
      getBrandName (upstreamBrand none namedDb brandMember "brand") "brand" = "brand" := by
  have hplain : ∀ r ∈ soldCatalogue.db.assets.rows, PlainId r.brandId := by
    intro r hr
    rw [List.mem_singleton.mp hr]
    exact plain_brand
  have hshown := @names_shown plainIds id List.reverse namedDb (fun _ _ => rfl)
    (fun rows => List.Perm.refl rows) List.reverse_perm soldCatalogue.toCatalogue hplain
  exact ⟨hshown.1 plainSubject (fun _ => none) brandMember "user" none none, rfl, rfl⟩

end Sample

end RcProtocol.Bff
