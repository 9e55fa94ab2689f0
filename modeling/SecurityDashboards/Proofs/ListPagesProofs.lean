import SecurityDashboards.ListPages

/-!
# Proofs: the pages that list entities
-/

namespace SecurityDashboards

variable {σ : Type}

/-! ## Requests -/

namespace Backend

variable {backend : Backend σ}

theorem send_snd (request : DeleteRequest) (s : σ) :
    (backend.send request s).2 = (backend.delete s request.toAddress request.name).2 := by
  unfold send
  cases backend.delete s request.toAddress request.name with
  | mk r s' => cases r <;> rfl

theorem send_nothingNew (request : DeleteRequest) (s : σ) (address : Address) :
    backend.entities (backend.send request s).2 address ⊆ backend.entities s address := by
  rw [send_snd]
  exact backend.nothingNew s request.toAddress request.name address

theorem send_others {request : DeleteRequest} {s : σ} {address : Address} {e : Entity}
    (he : e ∈ backend.entities s address)
    (hother : address.endpoint ≠ request.endpoint ∨ e.name ≠ request.name) :
    e ∈ backend.entities (backend.send request s).2 address := by
  rw [send_snd]
  exact backend.others s request.toAddress request.name address e he hother

/-- A request that ignores at most a 404 and returns leaves no entity of its name. -/
theorem send_gone {request : DeleteRequest} {s : σ} (hignores : ∀ code ∈ request.ignores, code = 404)
    (hreturns : (backend.send request s).1 = true) :
    ∀ e ∈ backend.entities (backend.send request s).2 request.toAddress, e.name ≠ request.name := by
  rw [send_snd]
  apply backend.gone
  unfold send at hreturns
  cases hdelete : backend.delete s request.toAddress request.name with
  | mk r s' =>
    rw [hdelete] at hreturns
    cases r with
    | ok _ => exact Or.inl rfl
    | error status =>
      right
      cases status with
      | none => cases hreturns
      | some code =>
        have hcode : code ∈ request.ignores := by simpa using hreturns
        rw [hignores code hcode]

/-- A request for an entity that is gone does not return, if it ignores nothing. -/
theorem send_of_gone {request : DeleteRequest} {s : σ} (hignores : request.ignores = [])
    (hgone : ∀ e ∈ backend.entities s request.toAddress, e.name ≠ request.name) :
    (backend.send request s).1 = false := by
  have hnot := backend.notFound s request.toAddress request.name hgone
  unfold send
  cases hdelete : backend.delete s request.toAddress request.name with
  | mk r s' =>
    rw [hdelete] at hnot
    cases r with
    | ok _ => exact absurd rfl hnot
    | error status => cases status <;> simp [hignores]

end Backend

namespace ListPage

variable {page : ListPage} {backend : Backend σ}

/-! ## Steps -/

/-- What an event can do to a page. -/
inductive Effect (page : ListPage) (backend : Backend σ) (s : State σ) : Event → State σ → Prop where
  | nothing (event : Event) : Effect page backend s event s
  | setDataSource (dataSource : String) :
    Effect page backend s (.setDataSource dataSource)
      ({ s with dataSource := dataSource }.fetchData page dataSource)
  | fetchData (dataSource : String) :
    Effect page backend s (.fetchData dataSource) (s.fetchData page dataSource)
  | setRows {i listing : ℕ} {load : Load} {entities : List Entity}
    (hload : s.loads[i]? = some load) (hwaits : load.arrived = false)
    (hmem : entities ∈ s.listings load.dataSource) :
    Effect page backend s (.setRows i listing) (s.setRows page i load entities)
  | endLoad {i : ℕ} {fails : Bool} {load : Load} (hload : s.loads[i]? = some load)
    (hends : fails = true ∨ load.arrived = true) :
    Effect page backend s (.endLoad i fails) (s.endLoad i load fails)
  | onSelectionChange (refs : List ℕ) :
    Effect page backend s (.onSelectionChange refs) (s.select refs)
  | showDeleteConfirmModal
    (henabled : page.deleteDisabled (s.selection.map fun r => r.toListing) = false) :
    Effect page backend s .showDeleteConfirmModal { s with isDeleteConfirmModalVisible := true }
  | closeDeleteConfirmModal :
    Effect page backend s .closeDeleteConfirmModal { s with isDeleteConfirmModalVisible := false }
  | handleConfirm (hmodal : s.isDeleteConfirmModalVisible = true) :
    Effect page backend s .handleConfirm (s.handleDelete page)
  | finish {i : ℕ} {d : Deletion} (hd : s.deletions[i]? = some d) (hpending : d.pending = []) :
    Effect page backend s (.resume i) (s.finish i d)
  | sendNext {i : ℕ} {d : Deletion} {request : DeleteRequest} {rest : List DeleteRequest}
    (hd : s.deletions[i]? = some d) (hpending : d.pending = request :: rest) :
    Effect page backend s (.resume i) (s.sendNext page backend i d request rest)

variable (page backend) in
theorem effect_next (event : Event) (s : State σ) :
    Effect page backend s event (page.next backend event s) := by
  unfold next
  cases event with
  | setDataSource dataSource =>
    dsimp only
    split_ifs
    · exact .nothing _
    · exact .setDataSource dataSource
  | fetchData dataSource => exact .fetchData dataSource
  | setRows i listing =>
    cases hload : s.loads[i]? with
    | none => simpa only [hload] using .nothing _
    | some load =>
      cases hlisting : (s.listings load.dataSource)[listing]? with
      | none => simpa only [hload, hlisting] using .nothing _
      | some entities =>
        simp only [hload, hlisting]
        cases hwaits : load.arrived with
        | true =>
          rw [State.setRows, if_pos hwaits]
          exact .nothing _
        | false => exact .setRows hload hwaits (List.mem_of_getElem? hlisting)
  | endLoad i fails =>
    cases hload : s.loads[i]? with
    | none => simpa only [hload] using .nothing _
    | some load =>
      simp only [hload]
      by_cases hends : fails = true ∨ load.arrived = true
      · exact .endLoad hload hends
      · rw [State.endLoad, if_neg (by simpa using hends)]
        exact .nothing _
  | onSelectionChange refs => exact .onSelectionChange refs
  | showDeleteConfirmModal =>
    cases henabled : page.deleteDisabled (s.selection.map fun r => r.toListing) with
    | true => simpa only [henabled, if_true] using .nothing _
    | false => simpa only [henabled, Bool.false_eq_true, if_false] using .showDeleteConfirmModal henabled
  | closeDeleteConfirmModal => exact .closeDeleteConfirmModal
  | handleConfirm =>
    cases hmodal : s.isDeleteConfirmModalVisible with
    | true => simpa only [hmodal, if_true] using .handleConfirm hmodal
    | false => simpa only [hmodal, Bool.false_eq_true, if_false] using .nothing _
  | resume i =>
    cases hd : s.deletions[i]? with
    | none => simpa only [hd] using .nothing _
    | some d =>
      cases hpending : d.pending with
      | nil => simpa only [hd, hpending] using .finish hd hpending
      | cons request rest => simpa only [hd, hpending] using .sendNext hd hpending

theorem State.setRows_eq {s : State σ} {i : ℕ} {load : Load} {entities : List Entity}
    (hwaits : load.arrived = false) :
    s.setRows page i load entities = { s with
      loads := s.loads.set i { load with arrived := true }
      table := { dataSource := load.dataSource, rows := page.newRows entities s.refs }
      refs := s.refs + (page.transform entities).length } :=
  if_neg (ne_true_of_eq_false hwaits)

theorem State.endLoad_eq {s : State σ} {i : ℕ} {load : Load} {fails : Bool}
    (hends : fails = true ∨ load.arrived = true) :
    s.endLoad i load fails = { s with loads := s.loads.eraseIdx i, errorFlag := fails } :=
  if_pos (by simpa using hends)

theorem State.sendNext_returns {s : State σ} {i : ℕ} {d : Deletion} {request : DeleteRequest}
    {rest : List DeleteRequest} (hreturns : (backend.send request s.backend).1 = true) :
    s.sendNext page backend i d request rest = { s with
      backend := (backend.send request s.backend).2
      listings := fun dataSource =>
        backend.entities (backend.send request s.backend).2 { dataSource, endpoint := page.endpoint } ::
          s.listings dataSource
      deletions := s.deletions.set i { d with pending := rest } } :=
  if_pos hreturns

theorem State.sendNext_throws {s : State σ} {i : ℕ} {d : Deletion} {request : DeleteRequest}
    {rest : List DeleteRequest} (hreturns : (backend.send request s.backend).1 = false) :
    s.sendNext page backend i d request rest = { s with
      backend := (backend.send request s.backend).2
      listings := fun dataSource =>
        backend.entities (backend.send request s.backend).2 { dataSource, endpoint := page.endpoint } ::
          s.listings dataSource
      isDeleteConfirmModalVisible := false
      deletions := s.deletions.eraseIdx i } :=
  if_neg (ne_true_of_eq_false hreturns)

/-- The deletions on their way are those from before, with requests that were sent. -/
theorem State.mem_deletions_sendNext {s : State σ} {i : ℕ} {d d' : Deletion} {request : DeleteRequest}
    {rest : List DeleteRequest} (hd' : d' ∈ (s.sendNext page backend i d request rest).deletions) :
    d' ∈ s.deletions ∨
      ((backend.send request s.backend).1 = true ∧ d' = { d with pending := rest }) := by
  cases hreturns : (backend.send request s.backend).1 with
  | true =>
    rw [State.sendNext_returns hreturns] at hd'
    exact (List.mem_or_eq_of_mem_set hd').imp_right fun h => ⟨rfl, h⟩
  | false =>
    rw [State.sendNext_throws hreturns] at hd'
    exact Or.inl (List.mem_of_mem_eraseIdx hd')

/-! ## Row objects -/

theorem mem_newRows {entities : List Entity} {refs : ℕ} {row : Row}
    (h : row ∈ page.newRows entities refs) :
    refs ≤ row.ref ∧ row.ref < refs + (page.transform entities).length ∧
      (page.transform entities)[row.ref - refs]? = some row.toListing := by
  obtain ⟨⟨listing, ref⟩, hmem, rfl⟩ := List.mem_map.mp h
  obtain ⟨hle, hlt, -⟩ := List.mem_zipIdx hmem
  exact ⟨hle, hlt, (List.mk_mem_zipIdx_iff_le_and_getElem?_sub.mp hmem).2⟩

/-- New rows are known by their reference. -/
theorem newRows_same {entities : List Entity} {refs : ℕ} {row row' : Row}
    (h : row ∈ page.newRows entities refs) (h' : row' ∈ page.newRows entities refs)
    (href : row.ref = row'.ref) : row = row' := by
  have hlisting := (mem_newRows h).2.2
  rw [href, (mem_newRows h').2.2] at hlisting
  obtain ⟨listing, ref⟩ := row
  obtain ⟨listing', ref'⟩ := row'
  cases href
  cases hlisting
  rfl

theorem newRows_showsAll (entities : List Entity) (refs : ℕ) :
    page.ShowsAll (page.newRows entities refs) entities := by
  intro e he
  obtain ⟨i, hi, heq⟩ := List.getElem_of_mem (page.listed entities e he)
  refine ⟨{ toListing := page.listing e, ref := refs + i }, ?_, rfl⟩
  refine List.mem_map.mpr ⟨(page.listing e, refs + i), ?_, rfl⟩
  rw [List.mk_mem_zipIdx_iff_le_and_getElem?_sub]
  refine ⟨Nat.le_add_right _ _, ?_⟩
  rw [Nat.add_sub_cancel_left, List.getElem?_eq_getElem hi, heq]

/-- The row is in the table, selected, or known to a deletion. -/
def State.Holds (s : State σ) (row : Row) : Prop :=
  row ∈ s.table.rows ∨ row ∈ s.selection ∨ ∃ d ∈ s.deletions, row ∈ d.table.rows ∨ row ∈ d.selection

/-- The rows of a page are known by their references. -/
structure Referenced (s : State σ) : Prop where
  refs : ∀ row, s.Holds row → row.ref < s.refs
  same : ∀ row row', s.Holds row → s.Holds row' → row.ref = row'.ref → row = row'

theorem Referenced.of_holds {s s' : State σ} (h : Referenced s) (hrefs : s'.refs = s.refs)
    (hholds : ∀ row, s'.Holds row → s.Holds row) : Referenced s' where
  refs row hrow := by
    rw [hrefs]
    exact h.refs row (hholds row hrow)
  same row row' hrow hrow' := h.same row row' (hholds row hrow) (hholds row' hrow')

theorem Referenced.newRows {s s' : State σ} (h : Referenced s) {entities : List Entity}
    (hrefs : s'.refs = s.refs + (page.transform entities).length)
    (hholds : ∀ row, s'.Holds row → row ∈ page.newRows entities s.refs ∨ s.Holds row) :
    Referenced s' := by
  constructor
  · intro row hrow
    rw [hrefs]
    rcases hholds row hrow with hnew | hknown
    · exact (mem_newRows hnew).2.1
    · exact Nat.lt_of_lt_of_le (h.refs row hknown) (Nat.le_add_right _ _)
  · intro row row' hrow hrow' href
    rcases hholds row hrow with hnew | hknown <;> rcases hholds row' hrow' with hnew' | hknown'
    · exact newRows_same hnew hnew' href
    · have hlt := h.refs row' hknown'
      have hle := (mem_newRows hnew).1
      omega
    · have hlt := h.refs row hknown
      have hle := (mem_newRows hnew').1
      omega
    · exact h.same row row' hknown hknown' href

/-- A row that the table selects was in it or selected before. -/
theorem mem_select {s : State σ} {refs : List ℕ} {row : Row} (hrow : row ∈ (s.select refs).selection) :
    row ∈ s.selection ∨ (s.isDeleteConfirmModalVisible = false ∧ row ∈ s.table.rows) := by
  rcases List.mem_append.mp (List.mem_of_mem_filter hrow) with hshown | hbefore
  · cases hmodal : s.isDeleteConfirmModalVisible with
    | true => rw [hmodal] at hshown; cases hshown
    | false => rw [hmodal] at hshown; exact Or.inr ⟨rfl, hshown⟩
  · exact Or.inl hbefore

theorem holds_select {s : State σ} {refs : List ℕ} {row : Row} (hrow : (s.select refs).Holds row) :
    s.Holds row := by
  rcases hrow with hrow | hrow | hrow
  · exact Or.inl hrow
  · rcases mem_select hrow with hbefore | ⟨-, hshown⟩
    · exact Or.inr (Or.inl hbefore)
    · exact Or.inl hshown
  · exact Or.inr (Or.inr hrow)

theorem holds_handleDelete {s : State σ} {row : Row} (hrow : (s.handleDelete page).Holds row) :
    s.Holds row := by
  rcases hrow with hrow | hrow | ⟨d, hd, hrow⟩
  · exact Or.inl hrow
  · exact Or.inr (Or.inl hrow)
  · rcases List.mem_append.mp hd with hd | hd
    · exact Or.inr (Or.inr ⟨d, hd, hrow⟩)
    · obtain rfl := List.mem_singleton.mp hd
      rcases hrow with hrow | hrow
      · exact Or.inl hrow
      · exact Or.inr (Or.inl hrow)

theorem holds_finish {s : State σ} {i : ℕ} {d : Deletion} (hd : d ∈ s.deletions) {row : Row}
    (hrow : (s.finish i d).Holds row) : s.Holds row := by
  rcases hrow with hrow | hrow | ⟨d', hd', hrow⟩
  · exact Or.inr (Or.inr ⟨d, hd, Or.inl (List.mem_of_mem_filter hrow)⟩)
  · cases hrow
  · exact Or.inr (Or.inr ⟨d', List.mem_of_mem_eraseIdx hd', hrow⟩)

theorem holds_sendNext {s : State σ} {i : ℕ} {d : Deletion} (hd : d ∈ s.deletions)
    {request : DeleteRequest} {rest : List DeleteRequest} {row : Row}
    (hrow : (s.sendNext page backend i d request rest).Holds row) : s.Holds row := by
  have hkept : (s.sendNext page backend i d request rest).table = s.table ∧
      (s.sendNext page backend i d request rest).selection = s.selection := by
    cases hreturns : (backend.send request s.backend).1 with
    | true => rw [State.sendNext_returns hreturns]; exact ⟨rfl, rfl⟩
    | false => rw [State.sendNext_throws hreturns]; exact ⟨rfl, rfl⟩
  rcases hrow with hrow | hrow | ⟨d', hd', hrow⟩
  · exact Or.inl (hkept.1 ▸ hrow)
  · exact Or.inr (Or.inl (hkept.2 ▸ hrow))
  · rcases State.mem_deletions_sendNext hd' with hd' | ⟨-, rfl⟩
    · exact Or.inr (Or.inr ⟨d', hd', hrow⟩)
    · exact Or.inr (Or.inr ⟨d, hd, hrow⟩)

theorem refs_sendNext {s : State σ} {i : ℕ} {d : Deletion} {request : DeleteRequest}
    {rest : List DeleteRequest} : (s.sendNext page backend i d request rest).refs = s.refs := by
  cases hreturns : (backend.send request s.backend).1 with
  | true => rw [State.sendNext_returns hreturns]
  | false => rw [State.sendNext_throws hreturns]

theorem referenced_next {s : State σ} (h : Referenced s) (event : Event) :
    Referenced (page.next backend event s) := by
  have hstep := effect_next page backend event s
  generalize page.next backend event s = s' at hstep ⊢
  cases hstep with
  | nothing => exact h
  | setDataSource | fetchData | showDeleteConfirmModal | closeDeleteConfirmModal =>
    exact h.of_holds rfl fun _ hrow => hrow
  | setRows hload hwaits hmem =>
    rw [State.setRows_eq hwaits]
    exact h.newRows rfl fun row hrow => hrow.imp_right Or.inr
  | endLoad hload hends =>
    rw [State.endLoad_eq hends]
    exact h.of_holds rfl fun _ hrow => hrow
  | onSelectionChange refs => exact h.of_holds rfl fun _ => holds_select
  | handleConfirm => exact h.of_holds rfl fun _ => holds_handleDelete
  | finish hd => exact h.of_holds rfl fun _ => holds_finish (List.mem_of_getElem? hd)
  | sendNext hd => exact h.of_holds refs_sendNext fun _ => holds_sendNext (List.mem_of_getElem? hd)

/-! ## Nothing is hidden -/

/-- The deletion knows all entities that are left where its rows came from, and will ask for those that
it is to delete. -/
structure Deletion.Sound (page : ListPage) (backend : Backend σ) (b : σ) (d : Deletion) : Prop where
  rows : page.ShowsAll d.table.rows
    (backend.entities b { dataSource := d.table.dataSource, endpoint := page.endpoint })
  pending : ∀ row ∈ d.selection,
    ∀ e ∈ backend.entities b { dataSource := d.table.dataSource, endpoint := page.endpoint },
      page.listing e = row.toListing →
        { dataSource := d.table.dataSource, endpoint := page.endpoint, name := e.name } ∈ d.pending

/-- The invariant of a page. -/
structure Consistent (page : ListPage) (backend : Backend σ) (s : State σ) : Prop where
  rows : page.ShowsAll s.table.rows (s.entities page backend s.table.dataSource)
  listings : ∀ dataSource, ∀ listing ∈ s.listings dataSource,
    s.entities page backend dataSource ⊆ listing
  deletions : ∀ d ∈ s.deletions, d.Sound page backend s.backend
  confirmed : s.isDeleteConfirmModalVisible = true → ∀ row ∈ s.selection, ∀ e : Entity,
    (page.endpoint = .tenants → e.name = globalTenantName → e.reserved = true) →
      page.listing e = row.toListing → e.name = row.name

theorem ShowsAll.mono {rows : List Row} {entities entities' : List Entity}
    (h : page.ShowsAll rows entities) (hsub : entities' ⊆ entities) : page.ShowsAll rows entities' :=
  fun e he => h e (hsub he)

/-- What is deleted is missed by no deletion. -/
theorem Deletion.Sound.mono {d : Deletion} {b b' : σ} (h : d.Sound page backend b)
    (hsub : ∀ address, backend.entities b' address ⊆ backend.entities b address) :
    d.Sound page backend b' where
  rows := h.rows.mono (hsub _)
  pending row hrow e he := h.pending row hrow e (hsub _ he)

theorem consistent_handleDelete {s : State σ} (h : Consistent page backend s)
    (hmodal : s.isDeleteConfirmModalVisible = true) (hshown : s.table.dataSource = s.source page) :
    Consistent page backend (s.handleDelete page) := by
  refine ⟨h.rows, h.listings, fun d hd => ?_, h.confirmed⟩
  rcases List.mem_append.mp hd with hd | hd
  · exact h.deletions d hd
  · obtain rfl := List.mem_singleton.mp hd
    refine ⟨h.rows, fun row hrow e he hlisting => ?_⟩
    have hname : e.name = row.name := by
      refine h.confirmed hmodal row hrow e (fun hendpoint => ?_) hlisting
      rw [hendpoint] at he
      exact backend.globalReserved s.backend s.table.dataSource e he
    have hasked := page.requested (s.selection.map fun r => r.name) s.dataSource row.name
      (List.mem_map_of_mem hrow)
    rw [hname, hshown]
    exact hasked

/-- A deletion whose requests have all returned removes no row of an entity that is left. -/
theorem consistent_finish {s : State σ} (href : Referenced s) (h : Consistent page backend s) {i : ℕ}
    {d : Deletion} (hd : d ∈ s.deletions) (hpending : d.pending = []) :
    Consistent page backend (s.finish i d) := by
  refine ⟨?_, h.listings, fun d' hd' => h.deletions d' (List.mem_of_mem_eraseIdx hd'), ?_⟩
  · intro e he
    obtain ⟨row, hrow, hlisting⟩ := (h.deletions d hd).rows e he
    refine ⟨row, List.mem_filter.mpr ⟨hrow, decide_eq_true ?_⟩, hlisting⟩
    intro hmem
    obtain ⟨selected, hselected, hsame⟩ := List.mem_map.mp hmem
    have heq : selected = row := href.same selected row
      (Or.inr (Or.inr ⟨d, hd, Or.inr hselected⟩)) (Or.inr (Or.inr ⟨d, hd, Or.inl hrow⟩)) hsame
    have hasked := (h.deletions d hd).pending selected hselected e he (by rw [heq, hlisting])
    rw [hpending] at hasked
    cases hasked
  · exact fun hmodal => absurd hmodal Bool.false_ne_true

/-- A request that returned is not missed: its entity is gone. -/
theorem Deletion.Sound.rest {d : Deletion} {b : σ} {request : DeleteRequest}
    {rest : List DeleteRequest} (h : d.Sound page backend b) (hpending : d.pending = request :: rest)
    (hreturns : (backend.send request b).1 = true) :
    Deletion.Sound page backend (backend.send request b).2 { d with pending := rest } where
  rows := h.rows.mono (Backend.send_nothingNew request b _)
  pending row hrow e he hlisting := by
    have hasked := h.pending row hrow e (Backend.send_nothingNew request b _ he) hlisting
    rw [hpending] at hasked
    rcases List.mem_cons.mp hasked with heq | hrest
    · have hgone := Backend.send_gone (by rw [← heq]; exact List.forall_mem_nil _) hreturns
      rw [← heq] at hgone he
      exact absurd rfl (hgone e he)
    · exact hrest

/-- A request answers nothing that is not listed yet. -/
theorem consistent_sent {s : State σ} (h : Consistent page backend s) (request : DeleteRequest)
    {visible : Bool} (hvisible : visible = true → s.isDeleteConfirmModalVisible = true)
    {deletions : List Deletion}
    (hdeletions : ∀ d ∈ deletions, d.Sound page backend (backend.send request s.backend).2) :
    Consistent page backend { s with
      backend := (backend.send request s.backend).2
      listings := fun dataSource =>
        backend.entities (backend.send request s.backend).2 { dataSource, endpoint := page.endpoint } ::
          s.listings dataSource
      isDeleteConfirmModalVisible := visible
      deletions := deletions } := by
  have hsub : ∀ address, backend.entities (backend.send request s.backend).2 address ⊆
      backend.entities s.backend address := Backend.send_nothingNew request s.backend
  refine ⟨h.rows.mono (hsub _), fun dataSource listing hlisting => ?_, hdeletions,
    fun hmodal => h.confirmed (hvisible hmodal)⟩
  rcases List.mem_cons.mp hlisting with rfl | hlisting
  · exact List.Subset.refl _
  · exact List.Subset.trans (hsub _) (h.listings dataSource listing hlisting)

/-- The requests of the pages ignore at most a 404. -/
theorem consistent_sendNext {s : State σ} (h : Consistent page backend s) {i : ℕ} {d : Deletion}
    {request : DeleteRequest} {rest : List DeleteRequest} (hd : d ∈ s.deletions)
    (hpending : d.pending = request :: rest) :
    Consistent page backend (s.sendNext page backend i d request rest) := by
  have hsound : ∀ d' ∈ (s.sendNext page backend i d request rest).deletions,
      d'.Sound page backend (backend.send request s.backend).2 := by
    intro d' hd'
    rcases State.mem_deletions_sendNext hd' with hd' | ⟨hreturns, rfl⟩
    · exact (h.deletions d' hd').mono (Backend.send_nothingNew request s.backend)
    · exact (h.deletions d hd).rest hpending hreturns
  cases hreturns : (backend.send request s.backend).1 with
  | true =>
    rw [State.sendNext_returns hreturns] at hsound ⊢
    exact consistent_sent h request id hsound
  | false =>
    rw [State.sendNext_throws hreturns] at hsound ⊢
    exact consistent_sent h request (fun hvisible => absurd hvisible Bool.false_ne_true) hsound

theorem consistent_next {s : State σ} (href : Referenced s) (h : Consistent page backend s)
    {event : Event} (hevent : ConfirmsShown page event s) :
    Consistent page backend (page.next backend event s) := by
  have hstep := effect_next page backend event s
  generalize page.next backend event s = s' at hstep ⊢
  cases hstep with
  | nothing => exact h
  | setDataSource | fetchData => exact ⟨h.rows, h.listings, h.deletions, h.confirmed⟩
  | setRows hload hwaits hmem =>
    rw [State.setRows_eq hwaits]
    exact ⟨(newRows_showsAll _ _).mono (h.listings _ _ hmem), h.listings, h.deletions, h.confirmed⟩
  | endLoad hload hends =>
    rw [State.endLoad_eq hends]
    exact ⟨h.rows, h.listings, h.deletions, h.confirmed⟩
  | onSelectionChange refs =>
    refine ⟨h.rows, h.listings, h.deletions, fun hmodal row hrow => ?_⟩
    rcases mem_select hrow with hbefore | ⟨hclosed, -⟩
    · exact h.confirmed hmodal row hbefore
    · exact absurd (hclosed.symm.trans hmodal) Bool.false_ne_true
  | showDeleteConfirmModal henabled =>
    exact ⟨h.rows, h.listings, h.deletions, fun _ row hrow =>
      page.named _ henabled row.toListing (List.mem_map_of_mem hrow)⟩
  | closeDeleteConfirmModal =>
    exact ⟨h.rows, h.listings, h.deletions, fun hmodal => absurd hmodal Bool.false_ne_true⟩
  | handleConfirm hmodal => exact consistent_handleDelete h hmodal (hevent rfl)
  | finish hd hpending => exact consistent_finish href h (List.mem_of_getElem? hd) hpending
  | sendNext hd hpending => exact consistent_sendNext h (List.mem_of_getElem? hd) hpending

/-! ## The data source of the rows -/

/-- While picks wait for everything on its way, all of it belongs to the data source of the page. -/
structure Waiting (page : ListPage) (s : State σ) : Prop where
  loads : ∀ load ∈ s.loads, load.dataSource = s.source page
  deletions : ∀ d ∈ s.deletions, d.table.dataSource = s.source page
  arrived : ∀ load ∈ s.loads, load.arrived = true → s.table.dataSource = s.source page
  settled : s.table.dataSource = s.source page ∨ s.errorFlag = true ∨
    ∃ load ∈ s.loads, load.arrived = false

theorem Waiting.fetchData {s : State σ} (h : Waiting page s) :
    Waiting page (s.fetchData page s.dataSource) := by
  refine ⟨fun load hload => ?_, h.deletions, fun load hload harrived => ?_,
    Or.inr (Or.inr ⟨_, List.mem_append_right _ List.mem_cons_self, rfl⟩)⟩
  · rcases List.mem_append.mp hload with hload | hload
    · exact h.loads load hload
    · rw [List.mem_singleton.mp hload]
      rfl
  · rcases List.mem_append.mp hload with hload | hload
    · exact h.arrived load hload harrived
    · rw [List.mem_singleton.mp hload] at harrived
      cases harrived

theorem waiting_sendNext {s : State σ} (h : Waiting page s) {i : ℕ} {d : Deletion}
    {request : DeleteRequest} {rest : List DeleteRequest} (hd : d ∈ s.deletions) :
    Waiting page (s.sendNext page backend i d request rest) := by
  have hdeletions : ∀ d' ∈ (s.sendNext page backend i d request rest).deletions,
      d'.table.dataSource = s.source page := by
    intro d' hd'
    rcases State.mem_deletions_sendNext hd' with hd' | ⟨-, rfl⟩
    · exact h.deletions d' hd'
    · exact h.deletions d hd
  cases hreturns : (backend.send request s.backend).1 with
  | true =>
    rw [State.sendNext_returns hreturns] at hdeletions ⊢
    exact ⟨h.loads, hdeletions, h.arrived, h.settled⟩
  | false =>
    rw [State.sendNext_throws hreturns] at hdeletions ⊢
    exact ⟨h.loads, hdeletions, h.arrived, h.settled⟩

theorem waiting_next {s : State σ} (h : Waiting page s) {event : Event}
    (hconfirms : ConfirmsShown page event s) (hwaits : WaitsToPick event s) :
    Waiting page (page.next backend event s) := by
  have hstep := effect_next page backend event s
  generalize page.next backend event s = s' at hstep ⊢
  cases hstep with
  | nothing => exact h
  | setDataSource dataSource =>
    obtain ⟨hloads, hdeletions⟩ := hwaits
    have hquiet : Waiting page { s with dataSource := dataSource, errorFlag := true } := by
      refine ⟨?_, ?_, ?_, Or.inr (Or.inl rfl)⟩
      · rw [hloads]; exact List.forall_mem_nil _
      · rw [hdeletions]; exact List.forall_mem_nil _
      · rw [hloads]; exact List.forall_mem_nil _
    obtain ⟨hloads', hdeletions', harrived, -⟩ := hquiet.fetchData
    exact ⟨hloads', hdeletions', harrived,
      Or.inr (Or.inr ⟨_, List.mem_append_right _ List.mem_cons_self, rfl⟩)⟩
  | fetchData dataSource =>
    obtain rfl : dataSource = s.dataSource := hwaits
    exact h.fetchData
  | setRows hload hfresh hmem =>
    have hsource := h.loads _ (List.mem_of_getElem? hload)
    rw [State.setRows_eq hfresh]
    refine ⟨fun load' hload' => ?_, h.deletions, fun _ _ _ => hsource, Or.inl hsource⟩
    rcases List.mem_or_eq_of_mem_set hload' with hload' | rfl
    · exact h.loads load' hload'
    · exact hsource
  | @endLoad i fails load hload hends =>
    rw [State.endLoad_eq hends]
    refine ⟨fun load' hload' => h.loads load' (List.mem_of_mem_eraseIdx hload'), h.deletions,
      fun load' hload' => h.arrived load' (List.mem_of_mem_eraseIdx hload'), ?_⟩
    rcases hends with hfails | harrived
    · exact Or.inr (Or.inl hfails)
    · exact Or.inl (h.arrived load (List.mem_of_getElem? hload) harrived)
  | onSelectionChange | showDeleteConfirmModal | closeDeleteConfirmModal =>
    exact ⟨h.loads, h.deletions, h.arrived, h.settled⟩
  | handleConfirm =>
    refine ⟨h.loads, fun d hd => ?_, h.arrived, h.settled⟩
    rcases List.mem_append.mp hd with hd | hd
    · exact h.deletions d hd
    · rw [List.mem_singleton.mp hd]
      exact hconfirms rfl
  | finish hd =>
    have hsource := h.deletions _ (List.mem_of_getElem? hd)
    exact ⟨h.loads, fun d' hd' => h.deletions d' (List.mem_of_mem_eraseIdx hd'), fun _ _ _ => hsource,
      Or.inl hsource⟩
  | sendNext hd => exact waiting_sendNext h (List.mem_of_getElem? hd)

/-! ## Runs -/

section Opened

variable (page backend) (b : σ) (dataSource : String)

theorem referenced_opened : Referenced (page.opened backend b dataSource) := by
  have hempty : Referenced (page.start backend b dataSource) := by
    constructor
    · rintro row (hrow | hrow | ⟨d, hd, -⟩)
      · cases hrow
      · cases hrow
      · cases hd
    · rintro row row' (hrow | hrow | ⟨d, hd, -⟩)
      · cases hrow
      · cases hrow
      · cases hd
  exact Machine.exec_invariant Referenced (fun event _ h => referenced_next h event) _ hempty

/-- Once it has loaded, a page is in order. -/
theorem consistent_opened : Consistent page backend (page.opened backend b dataSource) where
  rows := newRows_showsAll _ _
  listings dataSource' listing hlisting := by
    rw [List.mem_singleton.mp hlisting]
    exact List.Subset.refl _
  deletions d hd := by cases hd
  confirmed hmodal := absurd hmodal Bool.false_ne_true

theorem waiting_opened : Waiting page (page.opened backend b dataSource) where
  loads load hload := by cases hload
  deletions d hd := by cases hd
  arrived load hload := by cases hload
  settled := Or.inl rfl

variable {page backend b dataSource}

theorem referenced_after (events : List Event) :
    Referenced (page.after backend b dataSource events) :=
  Machine.exec_invariant Referenced (fun event _ h => referenced_next h event) events
    (referenced_opened page backend b dataSource)

end Opened

/-- The row is in the table, its entity is gone, and every deletion on its way was called from a page
with the row and, if the row is to be deleted, still has to ask for it. -/
structure Stays (page : ListPage) (backend : Backend σ) (source : String) (row : Row) (s : State σ) :
    Prop where
  picked : s.source page = source
  shown : row ∈ s.table.rows
  gone : IsGone row (s.entities page backend source)
  known : ∀ d ∈ s.deletions, row ∈ d.table.rows
  pending : ∀ d ∈ s.deletions, row ∈ d.selection → page.rowRequest source row ∈ d.pending

/-- The request for a row whose entity is gone fails. -/
theorem Stays.fails {source : String} {row : Row} {s : State σ} (h : Stays page backend source row s) :
    (backend.send (page.rowRequest source row) s.backend).1 = false :=
  Backend.send_of_gone rfl h.gone

theorem stays_sendNext {source : String} {row : Row} {s : State σ}
    (h : Stays page backend source row s) {i : ℕ} {d : Deletion} {request : DeleteRequest}
    {rest : List DeleteRequest} (hd : d ∈ s.deletions) (hpending : d.pending = request :: rest) :
    Stays page backend source row (s.sendNext page backend i d request rest) := by
  have hknown : ∀ d' ∈ (s.sendNext page backend i d request rest).deletions, row ∈ d'.table.rows := by
    intro d' hd'
    rcases State.mem_deletions_sendNext hd' with hd' | ⟨-, rfl⟩
    · exact h.known d' hd'
    · exact h.known d hd
  have hasked : ∀ d' ∈ (s.sendNext page backend i d request rest).deletions, row ∈ d'.selection →
      page.rowRequest source row ∈ d'.pending := by
    intro d' hd' hrow
    rcases State.mem_deletions_sendNext hd' with hd' | ⟨hreturns, rfl⟩
    · exact h.pending d' hd' hrow
    · have hbefore := h.pending d hd hrow
      rw [hpending] at hbefore
      rcases List.mem_cons.mp hbefore with rfl | hrest
      · -- the request for the row itself cannot have returned
        rw [h.fails] at hreturns
        cases hreturns
      · exact hrest
  have hgone : IsGone row (backend.entities (backend.send request s.backend).2
      { dataSource := source, endpoint := page.endpoint }) :=
    fun e he => h.gone e (Backend.send_nothingNew request s.backend _ he)
  cases hreturns : (backend.send request s.backend).1 with
  | true =>
    rw [State.sendNext_returns hreturns] at hknown hasked ⊢
    exact ⟨h.picked, h.shown, hgone, hknown, hasked⟩
  | false =>
    rw [State.sendNext_throws hreturns] at hknown hasked ⊢
    exact ⟨h.picked, h.shown, hgone, hknown, hasked⟩

theorem stays_next {source : String} {row : Row} {s : State σ} (href : Referenced s)
    (h : Stays page backend source row s) {event : Event} (hevent : KeepsRows event) :
    Stays page backend source row (page.next backend event s) := by
  have hstep := effect_next page backend event s
  generalize page.next backend event s = s' at hstep ⊢
  cases hstep with
  | nothing => exact h
  | setDataSource dataSource => exact absurd rfl (hevent.2 dataSource)
  | setRows => exact absurd rfl (hevent.1 _ _)
  | endLoad hload hends =>
    rw [State.endLoad_eq hends]
    exact ⟨h.picked, h.shown, h.gone, h.known, h.pending⟩
  | fetchData | onSelectionChange | showDeleteConfirmModal | closeDeleteConfirmModal =>
    exact ⟨h.picked, h.shown, h.gone, h.known, h.pending⟩
  | handleConfirm =>
    refine ⟨h.picked, h.shown, h.gone, fun d hd => ?_, fun d hd hrow => ?_⟩
    · rcases List.mem_append.mp hd with hd | hd
      · exact h.known d hd
      · obtain rfl := List.mem_singleton.mp hd
        exact h.shown
    · rcases List.mem_append.mp hd with hd | hd
      · exact h.pending d hd hrow
      · obtain rfl := List.mem_singleton.mp hd
        rw [← h.picked]
        exact page.requested _ s.dataSource row.name (List.mem_map_of_mem hrow)
  | @finish i d hd hpending =>
    have hmem := List.mem_of_getElem? hd
    refine ⟨h.picked, ?_, h.gone, fun d' hd' => h.known d' (List.mem_of_mem_eraseIdx hd'),
      fun d' hd' => h.pending d' (List.mem_of_mem_eraseIdx hd')⟩
    refine List.mem_filter.mpr ⟨h.known d hmem, decide_eq_true ?_⟩
    intro hselection
    obtain ⟨selected, hselected, hsame⟩ := List.mem_map.mp hselection
    have heq : selected = row := href.same selected row
      (Or.inr (Or.inr ⟨d, hmem, Or.inr hselected⟩)) (Or.inl h.shown) hsame
    have hasked := h.pending d hmem (heq ▸ hselected)
    rw [hpending] at hasked
    cases hasked
  | sendNext hd hpending => exact stays_sendNext h (List.mem_of_getElem? hd) hpending

end ListPage

namespace Sample

/-- Entities with their addresses. -/
def stored (entities : List (Address × Entity)) (address : Address) : List Entity :=
  entities.filterMap fun (address', e) =>
    if address' = address then
      some { e with reserved := e.reserved || decide (e.name = globalTenantName) }
    else none

theorem mem_stored {entities : List (Address × Entity)} {address : Address} {e : Entity} :
    e ∈ stored entities address ↔ ∃ e', (address, e') ∈ entities ∧
      e = { e' with reserved := e'.reserved || decide (e'.name = globalTenantName) } := by
  unfold stored
  rw [List.mem_filterMap]
  constructor
  · rintro ⟨⟨address', e'⟩, hmem, h⟩
    by_cases haddress : address' = address
    · subst haddress
      simp only [if_true, Option.some.injEq] at h
      exact ⟨e', hmem, h.symm⟩
    · simp only [haddress, if_false, reduceCtorEq] at h
  · rintro ⟨e', hmem, rfl⟩
    exact ⟨(address, e'), hmem, if_pos rfl⟩

/-- A backend that refuses to delete what is reserved. -/
def backend : Backend (List (Address × Entity)) where
  entities := stored
  delete s address name :=
    if s.any fun (address', e) => address' = address ∧ e.name = name then
      if s.any fun (address', e) => address' = address ∧ e.name = name ∧ e.reserved then
        (.error (some 403), s)
      else (.ok (), s.filter fun (address', e) => ¬(address' = address ∧ e.name = name))
    else (.error (some 404), s)
  nothingNew s address name address' e he := by
    split at he
    · split at he
      · exact he
      · obtain ⟨e', hmem, rfl⟩ := mem_stored.mp he
        exact mem_stored.mpr ⟨e', List.mem_of_mem_filter hmem, rfl⟩
    · exact he
  others s address name address' e he hother := by
    split
    · split
      · exact he
      · obtain ⟨e', hmem, rfl⟩ := mem_stored.mp he
        refine mem_stored.mpr ⟨e', List.mem_filter.mpr ⟨hmem, decide_eq_true ?_⟩, rfl⟩
        rintro ⟨haddress, hname⟩
        exact hother.elim (fun h => h (congrArg Address.endpoint haddress)) fun h => h hname
    · exact he
  gone s address name h := by
    split at h
    · split at h
      · simp at h
      · rename_i hsome hfree
        rw [if_pos hsome, if_neg hfree]
        intro e he hname
        obtain ⟨e', hmem, rfl⟩ := mem_stored.mp he
        exact of_decide_eq_true (List.mem_filter.mp hmem).2 ⟨rfl, hname⟩
    · rename_i hnone
      rw [if_neg hnone]
      intro e he hname
      obtain ⟨e', hmem, rfl⟩ := mem_stored.mp he
      exact hnone (List.any_eq_true.mpr ⟨(address, e'), hmem, decide_eq_true ⟨rfl, hname⟩⟩)
  notFound s address name hnone := by
    have hany : ¬(s.any fun (address', e) => address' = address ∧ e.name = name) = true := by
      intro hany
      obtain ⟨⟨address', e⟩, hmem, h⟩ := List.any_eq_true.mp hany
      obtain ⟨rfl, hname⟩ := of_decide_eq_true h
      exact hnone _ (mem_stored.mpr ⟨e, hmem, rfl⟩) hname
    rw [if_neg hany]
    exact fun h => nomatch h
  globalReserved s _ e he hname := by
    obtain ⟨e', -, rfl⟩ := mem_stored.mp he
    simp only [Bool.or_eq_true, decide_eq_true_eq]
    exact Or.inr hname

/-- Two users, of which the second one cannot be deleted. -/
def users : List (Address × Entity) :=
  [({ dataSource := "east", endpoint := .internalusers }, { name := "alice" }),
    ({ dataSource := "east", endpoint := .internalusers },
      { name := "kibanaserver", reserved := true })]

def deleteBoth : List ListPage.Event :=
  [.onSelectionChange [0, 1], .showDeleteConfirmModal, .handleConfirm, .resume 0, .resume 0]

end Sample

namespace ListPage

variable {page : ListPage} {backend : Backend σ}

/-! ## An undisturbed deletion -/

/-- A deletion that nothing else interrupts sends its requests as one loop. -/
theorem exec_resume {d : Deletion} {s : State σ} (hdeletions : s.deletions = [d]) {n : ℕ}
    (hn : d.pending.length < n) :
    let result := backend.sendAll d.pending s.backend
    let ended := Machine.exec (page.step backend) (List.replicate n (.resume 0)) s
    ended.backend = result.2 ∧ ended.deletions = [] ∧
      ended.table = (if result.1 then
        { d.table with rows := RoleView.difference Row.ref d.table.rows d.selection } else s.table) := by
  have hidle : ∀ (n : ℕ) (s : State σ), s.deletions = [] →
      Machine.exec (page.step backend) (List.replicate n (.resume 0)) s = s := by
    intro n
    induction n with
    | zero => exact fun s _ => rfl
    | succ n ih =>
      intro s hs
      have hstep : (page.step backend (.resume 0) s).2 = s := by
        simp only [step, next, hs, List.getElem?_nil]
      rw [List.replicate_succ, Machine.exec_cons, hstep, ih s hs]
  obtain ⟨table, selection, pending⟩ := d
  induction pending generalizing s n with
  | nil =>
    obtain ⟨n, rfl⟩ : ∃ m, n = m + 1 := ⟨n - 1, by simp only [List.length_nil] at hn; omega⟩
    have hstep : (page.step backend (.resume 0) s).2 = s.finish 0 ⟨table, selection, []⟩ := by
      simp only [step, next, hdeletions, List.getElem?_cons_zero]
    have hfinished : (s.finish 0 ⟨table, selection, []⟩).deletions = [] := by
      simp only [State.finish, hdeletions, List.eraseIdx_cons_zero]
    rw [List.replicate_succ, Machine.exec_cons, hstep, hidle n _ hfinished]
    exact ⟨rfl, hfinished, rfl⟩
  | cons request rest ih =>
    obtain ⟨n, rfl⟩ : ∃ m, n = m + 1 := ⟨n - 1, by simp only [List.length_cons] at hn; omega⟩
    have hlt : rest.length < n := by simp only [List.length_cons] at hn; omega
    have hstep : (page.step backend (.resume 0) s).2 =
        s.sendNext page backend 0 ⟨table, selection, request :: rest⟩ request rest := by
      simp only [step, next, hdeletions, List.getElem?_cons_zero]
    rw [List.replicate_succ, Machine.exec_cons, hstep]
    unfold Backend.sendAll
    rcases hsend : backend.send request s.backend with ⟨returns, after⟩
    cases returns with
    | true =>
      rw [State.sendNext_returns (by rw [hsend]), hsend]
      exact ih (by simp only [hdeletions, List.set_cons_zero]) hlt
    | false =>
      rw [State.sendNext_throws (by rw [hsend]), hsend]
      simp only [hdeletions, List.eraseIdx_cons_zero, Bool.false_eq_true, if_false]
      rw [hidle n _ rfl]
      exact ⟨rfl, rfl, rfl⟩

/-! ## Deleted roles -/

theorem Backend.sendAll_returns {request : DeleteRequest} {requests : List DeleteRequest} {s : σ}
    (hreturns : (backend.send request s).1 = true) :
    backend.sendAll (request :: requests) s =
      backend.sendAll requests (backend.send request s).2 := by
  rcases hsend : backend.send request s with ⟨returns, s'⟩
  rw [hsend] at hreturns
  cases hreturns
  simp only [Backend.sendAll, hsend]

theorem Backend.sendAll_throws {request : DeleteRequest} {requests : List DeleteRequest} {s : σ}
    (hreturns : (backend.send request s).1 = false) :
    backend.sendAll (request :: requests) s = (false, (backend.send request s).2) := by
  rcases hsend : backend.send request s with ⟨returns, s'⟩
  rw [hsend] at hreturns
  cases hreturns
  simp only [Backend.sendAll, hsend]

theorem Backend.sendAll_nothingNew (requests : List DeleteRequest) (s : σ) (address : Address) :
    backend.entities (backend.sendAll requests s).2 address ⊆ backend.entities s address := by
  induction requests generalizing s with
  | nil => exact List.Subset.refl _
  | cons request requests ih =>
    have hsub : backend.entities (backend.send request s).2 address ⊆ backend.entities s address :=
      Backend.send_nothingNew request s address
    cases hreturns : (backend.send request s).1 with
    | true =>
      rw [Backend.sendAll_returns hreturns]
      exact List.Subset.trans (ih _) hsub
    | false =>
      rw [Backend.sendAll_throws hreturns]
      exact hsub

/-- A role that is deleted with its mapping goes before the ones deleted after it. -/
theorem RolesDeleted.cons {dataSource role : String} {done stopped : List String} {s s₁ s' : σ}
    (h : RolesDeleted backend dataSource done stopped s₁ s')
    (hgone : ∀ endpoint, endpoint = .roles ∨ endpoint = .rolesmapping →
      ∀ e ∈ backend.entities s₁ { dataSource, endpoint }, e.name ≠ role)
    (hothers : ∀ address, ∀ e ∈ backend.entities s address,
      (address.endpoint = .roles ∨ address.endpoint = .rolesmapping → e.name ≠ role) →
        e ∈ backend.entities s₁ address)
    (hsub : ∀ address, backend.entities s' address ⊆ backend.entities s₁ address) :
    RolesDeleted backend dataSource (role :: done) stopped s s' where
  gone name hname endpoint hendpoint e he := by
    rcases List.mem_cons.mp hname with rfl | hname
    · exact hgone endpoint hendpoint e (hsub _ he)
    · exact h.gone name hname endpoint hendpoint e he
  untouched address e he hname := by
    refine h.untouched address e (hothers address e he fun hendpoint heq => ?_)
      fun hendpoint hmem => hname hendpoint (List.mem_cons_of_mem _ hmem)
    exact hname hendpoint (heq ▸ List.mem_cons_self)
  mappings mapping hmapping hdeleted role' hrole' heq := by
    by_cases hname : mapping.name = role
    · exact hgone .roles (Or.inl rfl) role' (hsub _ hrole') (heq.trans hname)
    · exact h.mappings mapping (hothers _ mapping hmapping fun _ => hname) hdeleted role' hrole' heq

/-- The loop stops at most at one role. -/
theorem sendAll_roles (dataSource : String) (roles : List String) (s : σ) :
    ∃ done stopped rest, roles = done ++ stopped ++ rest ∧ stopped.length ≤ 1 ∧
      (stopped = [] → rest = []) ∧
      ((backend.sendAll (requestDeleteRoles roles dataSource) s).1 = true ↔ stopped = []) ∧
      RolesDeleted backend dataSource done stopped s
        (backend.sendAll (requestDeleteRoles roles dataSource) s).2 := by
  induction roles generalizing s with
  | nil =>
    refine ⟨[], [], [], rfl, Nat.zero_le 1, fun _ => rfl, iff_of_true rfl rfl, ?_, ?_, ?_⟩
    · exact List.forall_mem_nil _
    · exact fun _ _ he _ => he
    · exact fun mapping hmapping hgone => absurd hmapping hgone
  | cons role roles ih =>
    let first : DeleteRequest := { dataSource, endpoint := .roles, name := role }
    let second : DeleteRequest :=
      { dataSource, endpoint := .rolesmapping, name := role, ignores := [404] }
    have hrequests : requestDeleteRoles (role :: roles) dataSource =
        first :: second :: requestDeleteRoles roles dataSource := rfl
    have hfirst : ∀ address, ∀ e ∈ backend.entities s address,
        (address.endpoint = .roles → e.name ≠ role) →
          e ∈ backend.entities (backend.send first s).2 address := by
      intro address e he hname
      refine Backend.send_others he ?_
      by_cases hendpoint : address.endpoint = .roles
      · exact Or.inr (hname hendpoint)
      · exact Or.inl hendpoint
    have hsecond : ∀ s₁ address, ∀ e ∈ backend.entities s₁ address,
        (address.endpoint = .rolesmapping → e.name ≠ role) →
          e ∈ backend.entities (backend.send second s₁).2 address := by
      intro s₁ address e he hname
      refine Backend.send_others he ?_
      by_cases hendpoint : address.endpoint = .rolesmapping
      · exact Or.inr (hname hendpoint)
      · exact Or.inl hendpoint
    cases hreturns : (backend.send first s).1 with
    | false =>
      -- The role may be gone, its mapping was not asked for.
      rw [hrequests, Backend.sendAll_throws hreturns]
      refine ⟨[], [role], roles, rfl, Nat.le_refl 1, fun h => absurd h (List.cons_ne_nil _ _),
        iff_of_false Bool.false_ne_true (List.cons_ne_nil _ _), List.forall_mem_nil _, ?_, ?_⟩
      · intro address e he hname
        exact hfirst address e he fun hendpoint heq =>
          hname (Or.inl hendpoint) (heq ▸ List.mem_singleton_self _)
      · intro mapping hmapping hdeleted
        exact absurd (hfirst _ mapping hmapping fun h => by cases h) hdeleted
    | true =>
      have hrole : ∀ e ∈ backend.entities (backend.send first s).2 { dataSource, endpoint := .roles },
          e.name ≠ role :=
        Backend.send_gone (List.forall_mem_nil _) hreturns
      rw [hrequests, Backend.sendAll_returns hreturns]
      generalize hs₁ : (backend.send first s).2 = s₁ at hfirst hrole
      have hmapping : ∀ address, ∀ e ∈ backend.entities s address,
          (address.endpoint = .roles ∨ address.endpoint = .rolesmapping → e.name ≠ role) →
            e ∈ backend.entities (backend.send second s₁).2 address := fun address e he hname =>
        hsecond s₁ address e (hfirst address e he fun h => hname (Or.inl h)) fun h =>
          hname (Or.inr h)
      have hroles : ∀ e ∈ backend.entities (backend.send second s₁).2 { dataSource, endpoint := .roles },
          e.name ≠ role :=
        fun e he => hrole e (Backend.send_nothingNew second s₁ _ he)
      cases hreturns' : (backend.send second s₁).1 with
      | false =>
        -- The role is gone, its mapping may be left.
        rw [Backend.sendAll_throws hreturns']
        refine ⟨[], [role], roles, rfl, Nat.le_refl 1, fun h => absurd h (List.cons_ne_nil _ _),
          iff_of_false Bool.false_ne_true (List.cons_ne_nil _ _), List.forall_mem_nil _, ?_, ?_⟩
        · intro address e he hname
          exact hmapping address e he fun hendpoint heq =>
            hname hendpoint (heq ▸ List.mem_singleton_self _)
        · intro mapping hmem hdeleted role' hrole' heq
          have hname : mapping.name = role := by
            by_contra hne
            exact hdeleted (hmapping _ mapping hmem fun _ => hne)
          exact hroles role' hrole' (heq.trans hname)
      | true =>
        have hgone : ∀ e ∈ backend.entities (backend.send second s₁).2
            { dataSource, endpoint := .rolesmapping }, e.name ≠ role :=
          Backend.send_gone (by simp [second]) hreturns'
        rw [Backend.sendAll_returns hreturns']
        obtain ⟨done, stopped, rest, heq, hlength, hrest, hall, hdeleted⟩ :=
          ih (backend.send second s₁).2
        refine ⟨role :: done, stopped, rest, by rw [heq]; rfl, hlength, hrest, hall, ?_⟩
        refine hdeleted.cons ?_ hmapping fun address =>
          Backend.sendAll_nothingNew (requestDeleteRoles roles dataSource) _ address
        rintro endpoint (rfl | rfl)
        · exact hroles
        · exact hgone

theorem length_requestDeleteRoles (roles : List String) (dataSource : String) :
    (requestDeleteRoles roles dataSource).length = 2 * roles.length := by
  induction roles with
  | nil => rfl
  | cons role roles ih =>
    have hcons : (requestDeleteRoles (role :: roles) dataSource).length =
        (requestDeleteRoles roles dataSource).length + 2 := rfl
    rw [hcons, ih, List.length_cons, Nat.mul_succ]

/-- A confirmed deletion of roles, which nothing else interrupts, leaves at most one role half deleted.
The rows go exactly if no request throws. -/
theorem confirmed_deletion_of_roles (backend : Backend σ) {s : State σ} (hidle : s.deletions = [])
    (hmodal : s.isDeleteConfirmModalVisible = true) {n : ℕ} (hn : 2 * s.selection.length < n) :
    let names := s.selection.map fun r => r.name
    let result := backend.sendAll (requestDeleteRoles names s.dataSource) s.backend
    let ended := Machine.exec (RoleList.step backend)
      (.handleConfirm :: List.replicate n (.resume 0)) s
    ended.deletions = [] ∧ ended.backend = result.2 ∧
      ended.table = (if result.1 then
        { s.table with rows := RoleView.difference Row.ref s.table.rows s.selection } else s.table) ∧
      ∃ done stopped rest, names = done ++ stopped ++ rest ∧ stopped.length ≤ 1 ∧
        (stopped = [] → rest = []) ∧ (result.1 = true ↔ stopped = []) ∧
        RolesDeleted backend s.dataSource done stopped s.backend ended.backend := by
  intro names result ended
  let d : Deletion :=
    { table := s.table
      selection := s.selection
      pending := requestDeleteRoles names s.dataSource }
  have hstep : (RoleList.step backend .handleConfirm s).2 = { s with deletions := [d] } := by
    simp only [step, next, hmodal, if_true, State.handleDelete, hidle, List.nil_append]
    rfl
  have hlength : d.pending.length < n := by
    rw [length_requestDeleteRoles, List.length_map]
    exact hn
  have hended : ended = Machine.exec (RoleList.step backend) (List.replicate n (.resume 0))
      { s with deletions := [d] } := by
    rw [← hstep]
    rfl
  obtain ⟨hbackend, hdeletions, htable⟩ :=
    @exec_resume _ RoleList backend d { s with deletions := [d] } rfl n hlength
  rw [← hended] at hbackend hdeletions htable
  obtain ⟨done, stopped, rest, heq, hone, hrest, hall, hdeleted⟩ :=
    @sendAll_roles _ backend s.dataSource names s.backend
  refine ⟨hdeletions, hbackend, htable, done, stopped, rest, heq, hone, hrest, hall, ?_⟩
  rw [hbackend]
  exact hdeleted

end ListPage

namespace Sample

/-- Two roles, of which the first one has a mapping that cannot be deleted. -/
def roles : List (Address × Entity) :=
  [({ dataSource := "east", endpoint := .roles }, { name := "auditor" }),
    ({ dataSource := "east", endpoint := .roles }, { name := "guest" }),
    ({ dataSource := "east", endpoint := .rolesmapping }, { name := "auditor", reserved := true })]

/-- The page of the roles, with both selected and the modal open. -/
def bothRoles : ListPage.State (List (Address × Entity)) :=
  RoleList.after backend roles "east" [.onSelectionChange [0, 1], .showDeleteConfirmModal]

/-- What confirming does with the roles: the first one is half deleted. -/
theorem auditor_half_deleted :
    let ended := Machine.exec (RoleList.step backend)
      (.handleConfirm :: List.replicate 5 (.resume 0)) bothRoles
    ended.deletions = [] ∧ ended.table = bothRoles.table ∧ ∃ done stopped rest,
      ["auditor", "guest"] = done ++ stopped ++ rest ∧ stopped.length = 1 ∧
        ListPage.RolesDeleted backend "east" done stopped bothRoles.backend ended.backend := by
  obtain ⟨hdeletions, -, htable, done, stopped, rest, hnames, hone, -, hall, hdeleted⟩ :=
    @ListPage.confirmed_deletion_of_roles _ backend bothRoles (by decide) (by decide) 5 (by decide)
  have hthrows : (backend.sendAll (requestDeleteRoles (bothRoles.selection.map fun r => r.name)
      bothRoles.dataSource) bothRoles.backend).1 = false := by decide
  rw [hthrows] at htable hall
  refine ⟨hdeletions, htable, done, stopped, rest, hnames, ?_, hdeleted⟩
  have hsome : stopped ≠ [] := fun h => Bool.false_ne_true (hall.mpr h)
  have hpos := List.length_pos_of_ne_nil hsome
  omega

end Sample

end SecurityDashboards
