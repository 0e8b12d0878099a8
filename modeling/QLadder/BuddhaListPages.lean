import QLadder.BuddhaList

/-!
# The pages of the list

`loadMoreData` asks for the page after `currentPage` and, when the answer
comes, appends it and counts up by one, whatever `currentPage` has become in
between.  The guard in `tableView(_:willDisplay:forRowAt:)` keeps a load-more
from being issued during a refresh, but not during another load-more.

* `pages_in_order` — if every answer finds `currentPage` as its request left
  it, then with no request outstanding the list is made of the pages 1 to
  `currentPage`, in order;
* `last_row_displayed_twice` — two displays of the last row before the first
  answer show page 2 twice.
-/

namespace QLadder

open PartialRun InFlight

namespace BuddhaList

variable {α : Type}

/-- The pages 1 to `n`, one after another. -/
def pagesUpTo (page : Nat → List α) (n : Nat) : List α :=
  (List.range n).flatMap fun i => page (i + 1)

theorem pagesUpTo_one (page : Nat → List α) : pagesUpTo page 1 = page 1 := by
  simp [pagesUpTo]

theorem pagesUpTo_succ (page : Nat → List α) (n : Nat) :
    pagesUpTo page (n + 1) = pagesUpTo page n ++ page (n + 1) := by
  simp [pagesUpTo, List.range_succ]

/-- An answer finds `currentPage` as its request left it: at 0 for a refresh,
at the page before its own for a load-more. -/
def Fits (list : BuddhaList α) : ListEvent → Prop
  | .response id _ => ∀ request ∈ list.outstanding, request.id = id →
      list.currentPage = request.page - 1
  | _ => True

instance (list : BuddhaList α) : ∀ e, Decidable (list.Fits e)
  | .response id _ =>
      inferInstanceAs (Decidable (∀ request ∈ list.outstanding, request.id = id → _))
  | .viewWillAppear | .handleRefresh | .emptyViewDidClick | .willDisplay _ => isTrue trivial

end BuddhaList

/-- The event is not the failure of a request. -/
def ListEvent.Succeeds : ListEvent → Prop
  | .response _ ok => ok = true
  | _ => True

instance : ∀ e, Decidable (ListEvent.Succeeds e)
  | .response _ ok => inferInstanceAs (Decidable (ok = true))
  | .viewWillAppear | .handleRefresh | .emptyViewDidClick | .willDisplay _ => isTrue trivial

namespace BuddhaList

variable {α : Type}

/-- The list is made of the pages counted, or is about to be replaced. -/
structure InOrder (page : Nat → List α) (list : BuddhaList α) : Prop where
  pages : list.currentPage = 0 ∨ list.buddhas = pagesUpTo page list.currentPage
  refreshes : ∀ request ∈ list.outstanding, request.query = .refresh → request.page = 0
  loadMores : ∀ request ∈ list.outstanding, request.query = .loadMore → 2 ≤ request.page
  /-- a list that was counted back to 0 is under refresh -/
  counted : list.isRefreshing = false → list.currentPage = 0 → list.buddhas = []
  /-- a refresh that is not outstanding has counted up -/
  refreshed : (∃ request ∈ list.asked, request.query = .refresh) → list.currentPage = 0 →
    ∃ request ∈ list.outstanding, request.query = .refresh

theorem InOrder.initial (page : Nat → List α) : InOrder page BuddhaList.initial :=
  ⟨Or.inl rfl, by simp [BuddhaList.initial], by simp [BuddhaList.initial], fun _ _ => rfl,
    by simp [BuddhaList.initial]⟩

variable {page : Nat → List α}

/-- A refresh is issued. -/
theorem InOrder.issueRefresh {list : BuddhaList α} {id : Nat} {shown : Bool}
    (h : InOrder page list) :
    InOrder page
      { list with
        currentPage := 0
        isRefreshing := true
        isEmptyViewShowing := shown
        asked := list.asked ++ [{ id := id, query := .refresh, page := 0 }]
        outstanding :=
          list.outstanding ++ [{ id := id, query := .refresh, page := 0 }] } := by
  refine ⟨Or.inl rfl, ?_, ?_, ?_, ?_⟩
  · apply forall_sent h.refreshes
    intro _
    rfl
  · apply forall_sent h.loadMores
    intro hquery
    cases hquery
  · intro hidle
    cases hidle
  · intro _ _
    exact ⟨_, List.mem_append_right _ (List.mem_singleton.mpr rfl), rfl⟩

/-- A load-more is issued from a list that has a last row. -/
theorem InOrder.issueLoadMore {list : BuddhaList α} {id : Nat}
    (h : InOrder page list) (hidle : list.isRefreshing = false) (hrow : list.buddhas ≠ []) :
    InOrder page
      { list with
        asked := list.asked ++
          [{ id := id, query := .loadMore, page := list.currentPage + 1 }]
        outstanding := list.outstanding ++
          [{ id := id, query := .loadMore, page := list.currentPage + 1 }] } := by
  have hpositive : list.currentPage ≠ 0 := by
    intro hzero
    exact hrow (h.counted hidle hzero)
  refine ⟨h.pages, ?_, ?_, h.counted, ?_⟩
  · apply forall_sent h.refreshes
    intro hquery
    cases hquery
  · apply forall_sent h.loadMores
    intro _
    show 2 ≤ list.currentPage + 1
    omega
  · intro _ hzero
    exact absurd hzero hpositive

/-- An answer that fits is the next page. -/
theorem InOrder.answer {list : BuddhaList α} {request : ListRequest}
    (h : InOrder page list) (hmem : request ∈ list.outstanding)
    (hfits : list.currentPage = request.page - 1) :
    InOrder page (list.complete page request true) := by
  have hpages : (list.complete page request true).buddhas =
      pagesUpTo page (list.currentPage + 1) := by
    cases hquery : request.query with
    | refresh =>
        have hpage := h.refreshes request hmem hquery
        have hzero : list.currentPage = 0 := by omega
        simp [hquery, hpage, hzero, pagesUpTo_one, QueryManager.servedPage]
    | loadMore =>
        have hpage := h.loadMores request hmem hquery
        have hnext : request.page = list.currentPage + 1 := by omega
        have hpositive : list.currentPage ≠ 0 := by omega
        simp [hquery, hnext, pagesUpTo_succ, QueryManager.servedPage,
          h.pages.resolve_left hpositive]
  refine ⟨Or.inr (by simpa using hpages), ?_, ?_, ?_, ?_⟩
  · intro other hother hquery
    exact h.refreshes other (complete_outstanding_subset hother) hquery
  · intro other hother hquery
    exact h.loadMores other (complete_outstanding_subset hother) hquery
  · intro _ hzero
    simp at hzero
  · intro _ hzero
    simp at hzero

/-- Every event that fits keeps the pages in order. -/
theorem InOrder.step {list next : BuddhaList α} {e : ListEvent} (h : InOrder page list)
    (hok : list.Fits e ∧ e.Succeeds) (hstep : list.uiStep page e = some next) :
    InOrder page next := by
  unfold uiStep at hstep
  cases haction : list.actionOf e with
  | none =>
      simp only [haction, Option.some.injEq] at hstep
      exact hstep ▸ h
  | some action =>
      simp only [haction] at hstep
      cases takes_of_step hstep with
      | refreshed _ _ => exact h.issueRefresh
      | loadedMore _ =>
          obtain ⟨hidle, hrow⟩ := actionOf_loadMoreData haction
          exact h.issueLoadMore hidle hrow
      | completed hmem _ =>
          have he := actionOf_complete haction
          subst he
          obtain ⟨hfits, hsucceeds⟩ := hok
          cases hsucceeds
          exact h.answer hmem (hfits _ hmem rfl)

/-- So does every run. -/
theorem InOrder.along {list final : BuddhaList α} {events : List ListEvent}
    (h : InOrder page list)
    (hok : Meets (uiStep page) (fun list e => list.Fits e ∧ e.Succeeds) list events)
    (hrun : run (uiStep page) list events = some final) : InOrder page final := by
  refine run_invariant ?_ h hok hrun
  intro list e next h hok hstep
  exact h.step hok hstep

/-- **Pages in order.**  In every run of successful requests whose answers fit,
once a refresh has been made and nothing is outstanding, the list is made of
the pages 1 to `currentPage`. -/
theorem pages_in_order (page : Nat → List α) (events : List ListEvent)
    (final : BuddhaList α) (hsucceeds : ∀ e ∈ events, e.Succeeds)
    (hfits : Meets (uiStep page) Fits initial events)
    (hrun : run (uiStep page) initial events = some final)
    (hdone : final.outstanding = [])
    (hrefreshed : ∃ request ∈ final.asked, request.query = .refresh) :
    1 ≤ final.currentPage ∧ final.buddhas = pagesUpTo page final.currentPage := by
  have hevents : Meets (uiStep page) (fun _ e => e.Succeeds) initial events :=
    Meets.of_forall fun e he _ => hsucceeds e he
  have hfinal : InOrder page final :=
    (InOrder.initial page).along (hfits.and hevents) hrun
  have hpositive : final.currentPage ≠ 0 := by
    intro hzero
    obtain ⟨request, hmem, _⟩ := hfinal.refreshed hrefreshed hzero
    simp [hdone] at hmem
  exact ⟨Nat.one_le_iff_ne_zero.mpr hpositive, hfinal.pages.resolve_left hpositive⟩

/-- The first three pages, one after another. -/
def threePages : List ListEvent :=
  [.viewWillAppear, .response 0 true, .willDisplay 0, .response 1 true,
   .willDisplay 1, .response 2 true]

/-- One request at a time keeps the pages in order. -/
theorem pages_in_order_threePages :
    ∃ final, run (uiStep onePerPage) initial threePages = some final ∧
      1 ≤ final.currentPage ∧ final.buddhas = pagesUpTo onePerPage final.currentPage :=
  ⟨_, rfl, pages_in_order onePerPage threePages _ (by decide) (by decide) rfl rfl
    ⟨_, List.mem_cons_self, rfl⟩⟩

/-- The last row is displayed a second time before page 2 has come. -/
def displayedTwice : List ListEvent :=
  [.viewWillAppear, .response 0 true, .willDisplay 0, .willDisplay 0,
   .response 1 true, .response 2 true]

/-- **Page 2 twice.**  Both displays ask for page 2, both answers are appended,
and the next load-more will ask for page 4. -/
theorem last_row_displayed_twice :
    ∃ final, run (uiStep onePerPage) initial displayedTwice = some final ∧
      final.outstanding = [] ∧ final.currentPage = 3 ∧ final.buddhas = [1, 2, 2] ∧
      final.buddhas ≠ pagesUpTo onePerPage final.currentPage := by
  refine ⟨_, rfl, ?_⟩
  decide

end BuddhaList

end QLadder
