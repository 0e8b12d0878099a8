import QLadder.BuddhaListFailures

/-!
# Whether automatic loading ends

A completion that brings a page calls `reloadData`; the table view then lays
itself out and displays its rows again, and the display of the last row asks
for the next page.  While the list outgrows the viewport this stops by itself.
Nothing in the controller looks at whether a page brought anything.

* `loading_stops_iff` — with the user doing nothing, only finitely many
  requests follow if and only if no layout displays the last row when all the
  later pages are empty;
* `loading_stops_iff_twoRows` — two pages come by themselves, and then no more;
* `short_list_loads_forever` — a list of one row, on a server that has no more.
-/

namespace QLadder

open PartialRun InFlight

/-- The list and its table view, which is laid out some time after a
`reloadData`, once for all of them. -/
structure ListScreen (α : Type) where
  list : BuddhaList α
  needsLayout : Bool
  deriving DecidableEq, Repr

/-- What goes on while the user does nothing. -/
inductive ScreenEvent where
  /-- a request succeeds -/
  | response (id : Nat)
  | layout
  deriving DecidableEq, Repr

namespace ListScreen

variable {α : Type} (page : Nat → List α) (viewport : Nat → Nat → Bool)

/-- The rows in the viewport, `viewport count` for a table of `count` rows. -/
def shownRows (list : BuddhaList α) : List Nat :=
  (List.range list.buddhas.length).filter (viewport list.buddhas.length)

/-- One event: a completion with the reload it calls for, or a layout, which
displays the rows in the viewport. -/
def step (screen : ListScreen α) : ScreenEvent → Option (ListScreen α)
  | .response id =>
      (screen.list.uiStep page (.response id true)).map fun list =>
        { list := list, needsLayout := true }
  | .layout =>
      if screen.needsLayout then
        (run (BuddhaList.uiStep page) screen.list
          ((shownRows viewport screen.list).map ListEvent.willDisplay)).map fun list =>
            { list := list, needsLayout := false }
      else
        none

/-- All runs end, and not more than a certain number of requests is issued. -/
def Stops (screen : ListScreen α) : Prop :=
  Ends (step page viewport) screen ∧
    ∃ bound, ∀ es final, run (step page viewport) screen es = some final →
      final.list.asked.length ≤ screen.list.asked.length + bound

/-- All pages after the current one are empty. -/
def AtEnd (list : BuddhaList α) : Prop :=
  ∀ n, list.currentPage < n → page n = []

/-- The last row is in the viewport, and no refresh is shown. -/
def LastRowShown (list : BuddhaList α) : Prop :=
  list.isRefreshing = false ∧
    ∃ row ∈ shownRows viewport list, row + 1 = list.buddhas.length

instance (list : BuddhaList α) : Decidable (LastRowShown viewport list) :=
  inferInstanceAs (Decidable (_ ∧ _))

/-- A layout at the end of the feed does not display the last row. -/
def OutOfSight (screen : ListScreen α) : ScreenEvent → Prop
  | .response _ => True
  | .layout =>
      screen.needsLayout = true → AtEnd page screen.list → ¬ LastRowShown viewport screen.list

variable {page viewport}

/-! ## A layout -/

/-- Rows that are not the last one are displayed without effect. -/
theorem run_willDisplay {list : BuddhaList α} {rows : List Nat}
    (h : ∀ row ∈ rows, list.isRefreshing = false → row + 1 ≠ list.buddhas.length) :
    run (BuddhaList.uiStep page) list (rows.map ListEvent.willDisplay) = some list := by
  induction rows with
  | nil => rfl
  | cons row rows ih =>
      have hnone : list.actionOf (.willDisplay row) = none := by
        refine if_neg ?_
        rintro ⟨hidle, hrow⟩
        exact h row List.mem_cons_self hidle hrow
      have hstep : list.uiStep page (.willDisplay row) = some list := by
        simp [BuddhaList.uiStep, hnone]
      rw [List.map_cons, run_cons hstep]
      exact ih fun other hmem => h other (List.mem_cons_of_mem row hmem)

/-- A layout without the last row. -/
theorem run_shownRows_of_not {list : BuddhaList α} (h : ¬ LastRowShown viewport list) :
    run (BuddhaList.uiStep page) list
      ((shownRows viewport list).map ListEvent.willDisplay) = some list := by
  apply run_willDisplay
  intro row hmem hidle hrow
  exact h ⟨hidle, row, hmem, hrow⟩

/-- The last row, if it is shown at all, comes last. -/
theorem shownRows_of_last {list : BuddhaList α} (h : LastRowShown viewport list) :
    ∃ row rows, row + 1 = list.buddhas.length ∧ shownRows viewport list = rows ++ [row] ∧
      ∀ other ∈ rows, other + 1 ≠ list.buddhas.length := by
  obtain ⟨_, row, hmem, hrow⟩ := h
  obtain ⟨_, hshown⟩ := List.mem_filter.mp hmem
  refine ⟨row, (List.range row).filter (viewport list.buddhas.length), hrow, ?_, ?_⟩
  · calc shownRows viewport list
      _ = (List.range (row + 1)).filter (viewport list.buddhas.length) := by
        rw [shownRows, hrow]
      _ = (List.range row).filter (viewport list.buddhas.length) ++
          [row].filter (viewport list.buddhas.length) := by
        rw [List.range_succ, List.filter_append]
      _ = (List.range row).filter (viewport list.buddhas.length) ++ [row] := by
        rw [List.filter_cons_of_pos hshown, List.filter_nil]
  · intro other hother
    have hless : other < row := List.mem_range.mp (List.mem_filter.mp hother).1
    omega

/-- A layout with the last row asks for one page. -/
theorem run_shownRows_of_last {list : BuddhaList α} (h : LastRowShown viewport list)
    (hnumbered : list.Numbered) :
    run (BuddhaList.uiStep page) list ((shownRows viewport list).map ListEvent.willDisplay) =
      some (list.loadMoreData list.asked.length) := by
  obtain ⟨row, rows, hrow, hrows, hothers⟩ := shownRows_of_last h
  have hbefore : run (BuddhaList.uiStep page) list (rows.map ListEvent.willDisplay) =
      some list := run_willDisplay fun other hmem _ => hothers other hmem
  have haction : list.actionOf (.willDisplay row) =
      some (.loadMoreData list.asked.length) := if_pos ⟨h.1, hrow⟩
  have hlast : list.uiStep page (.willDisplay row) =
      some (list.loadMoreData list.asked.length) := by
    simp only [BuddhaList.uiStep, haction]
    exact if_pos hnumbered.unused
  rw [hrows, List.map_append, run_append, hbefore, List.map_singleton]
  exact run_cons hlast

/-! ## What a step can do -/

variable (page viewport) in
/-- The ways in which a step changes the screen. -/
inductive Takes : ListScreen α → ScreenEvent → ListScreen α → Prop
  | answered {screen : ListScreen α} {request : ListRequest}
      (hmem : request ∈ screen.list.outstanding) :
      Takes screen (.response request.id)
        { list := screen.list.complete page request true, needsLayout := true }
  | loadedMore {screen : ListScreen α} (hneeds : screen.needsLayout = true)
      (hlast : LastRowShown viewport screen.list) :
      Takes screen .layout
        { list := screen.list.loadMoreData screen.list.asked.length, needsLayout := false }
  | laidOut {screen : ListScreen α} (hneeds : screen.needsLayout = true)
      (hlast : ¬ LastRowShown viewport screen.list) :
      Takes screen .layout { screen with needsLayout := false }

theorem takes_of_step {screen next : ListScreen α} {e : ScreenEvent}
    (hnumbered : screen.list.Numbered) (h : step page viewport screen e = some next) :
    Takes page viewport screen e next := by
  cases e with
  | response id =>
      obtain ⟨list, hlist, rfl⟩ := Option.map_eq_some_iff.mp h
      have hcomplete : screen.list.step page (.complete id true) = some list := hlist
      cases BuddhaList.takes_of_step hcomplete with
      | completed hmem _ => exact .answered hmem
      | refreshed hquery _ => cases hquery
  | layout =>
      obtain ⟨hneeds, hrun⟩ := Option.ite_none_right_eq_some.mp h
      by_cases hlast : LastRowShown viewport screen.list
      · rw [run_shownRows_of_last hlast hnumbered] at hrun
        cases hrun
        exact .loadedMore hneeds hlast
      · rw [run_shownRows_of_not hlast] at hrun
        cases hrun
        exact .laidOut hneeds hlast

/-- What holds of the requests in every state the controller reaches. -/
structure Sound (screen : ListScreen α) : Prop where
  numbered : screen.list.Numbered
  logged : BuddhaList.Logged screen.list

theorem Sound.of_run {list : BuddhaList α} {es : List ListEvent}
    (hrun : run (BuddhaList.uiStep page) BuddhaList.initial es = some list)
    (needsLayout : Bool) : Sound { list := list, needsLayout := needsLayout } := by
  obtain ⟨actions, hactions⟩ := BuddhaList.actions_of_uiRun hrun
  exact ⟨run_preserves BuddhaList.Numbered (fun _ _ _ h hstep => h.step hstep)
      BuddhaList.Numbered.initial hrun,
    BuddhaList.Logged.initial.along hactions⟩

theorem Sound.step {screen next : ListScreen α} {e : ScreenEvent} (h : screen.Sound)
    (htakes : Takes page viewport screen e next) : next.Sound := by
  cases htakes with
  | answered hmem =>
      refine ⟨?_, ?_, ?_⟩
      · simpa [BuddhaList.Numbered] using h.numbered
      · simpa using h.logged.unique
      · rw [BuddhaList.complete_asked]
        exact fun x hx => h.logged.logged (BuddhaList.complete_outstanding_subset hx)
  | loadedMore _ _ =>
      exact ⟨h.numbered.issue rfl rfl, h.logged.issue h.numbered.unused rfl rfl⟩
  | laidOut _ _ => exact ⟨h.numbered, h.logged⟩

/-! ## Rank -/

/-- How much there is still to come, on a server with `count` pages: a page, a
request, and a layout, which may ask for another page only before the end. -/
def rank (count : Nat) (screen : ListScreen α) : Nat :=
  2 * (count - screen.list.currentPage) + 2 * screen.list.outstanding.length +
    if screen.needsLayout then if screen.list.currentPage < count then 3 else 1 else 0

variable (page) in
/-- Completing a request leaves fewer outstanding. -/
theorem outstanding_complete_lt {list : BuddhaList α} {request : ListRequest}
    (hmem : request ∈ list.outstanding) :
    (list.complete page request true).outstanding.length < list.outstanding.length := by
  rw [BuddhaList.complete_outstanding]
  apply List.length_filter_lt_length_iff_exists.mpr
  exact ⟨request, hmem, by simp⟩

/-- **One step down.**  Every step that keeps the last row out of sight at the
end goes down in rank. -/
theorem rank_step {count : Nat} (hserver : ∀ n, count < n → page n = [])
    {screen next : ListScreen α} {e : ScreenEvent} (h : screen.Sound)
    (hok : OutOfSight page viewport screen e)
    (hstep : step page viewport screen e = some next) :
    next.Sound ∧ rank count next < rank count screen := by
  have htakes := takes_of_step h.numbered hstep
  refine ⟨h.step htakes, ?_⟩
  cases htakes with
  | answered hmem =>
      have hless := outstanding_complete_lt page hmem
      simp only [rank, BuddhaList.complete_currentPage, if_true]
      refine Nat.lt_of_lt_of_le ?_ (Nat.le_add_right _ _)
      split <;> omega
  | loadedMore hneeds hlast =>
      have hbefore : screen.list.currentPage < count := by
        apply Nat.lt_of_not_le
        intro hpast
        exact hok hneeds (fun n hn => hserver n (by omega)) hlast
      simp only [rank, BuddhaList.loadMoreData, BuddhaList.fetchBuddhas, hneeds, hbefore]
      simp
      omega
  | laidOut hneeds _ =>
      have hlayout : 0 < if screen.list.currentPage < count then 3 else 1 := by
        split <;> decide
      simp only [rank, hneeds, if_true]
      exact Nat.add_lt_add_left hlayout _

theorem asked_step {screen next : ListScreen α} {e : ScreenEvent} (h : screen.Sound)
    (hstep : step page viewport screen e = some next) :
    next.list.asked.length ≤ screen.list.asked.length + 1 := by
  cases takes_of_step h.numbered hstep with
  | answered _ => simp
  | loadedMore _ _ => simp [BuddhaList.loadMoreData, BuddhaList.fetchBuddhas]
  | laidOut _ _ => exact Nat.le_succ _

/-- A run of `n` steps issues at most `n` requests. -/
theorem asked_run {screen final : ListScreen α} {es : List ScreenEvent} (h : screen.Sound)
    (hrun : run (step page viewport) screen es = some final) :
    final.list.asked.length ≤ screen.list.asked.length + es.length := by
  induction es generalizing screen with
  | nil =>
      cases hrun
      exact Nat.le_add_right _ _
  | cons e es ih =>
      obtain ⟨next, hstep, hrest⟩ := run_cons_some hrun
      have hone := asked_step h hstep
      have hlater := ih (h.step (takes_of_step h.numbered hstep)) hrest
      rw [List.length_cons]
      omega

/-- **Enough.**  If the last row is out of sight at the end, loading stops. -/
theorem stops_of_outOfSight {count : Nat} (hserver : ∀ n, count < n → page n = [])
    {screen : ListScreen α} (h : screen.Sound)
    (hmeets : ∀ es, Meets (step page viewport) (OutOfSight page viewport) screen es) :
    Stops page viewport screen := by
  have hdown : ∀ (s : ListScreen α) (e : ScreenEvent) (t : ListScreen α), s.Sound →
      OutOfSight page viewport s e → step page viewport s e = some t →
      t.Sound ∧ rank count t < rank count s :=
    fun _ _ _ hs hok hstep => rank_step hserver hs hok hstep
  refine ⟨ends_of_rank (rank count) hdown h hmeets, rank count screen, ?_⟩
  intro es final hrun
  have hasked := asked_run h hrun
  have hlength := length_le_rank (rank count) hdown h (hmeets es) hrun
  omega

/-! ## Recurrence -/

variable (page viewport) in
/-- The last row is about to be displayed, and no later page brings anything. -/
structure Recurs (screen : ListScreen α) : Prop where
  sound : screen.Sound
  needsLayout : screen.needsLayout = true
  atEnd : AtEnd page screen.list
  lastRow : LastRowShown viewport screen.list

theorem LastRowShown.congr {list other : BuddhaList α} (h : LastRowShown viewport list)
    (hrefreshing : other.isRefreshing = list.isRefreshing)
    (hbuddhas : other.buddhas = list.buddhas) : LastRowShown viewport other := by
  unfold LastRowShown shownRows at h ⊢
  rw [hrefreshing, hbuddhas]
  exact h

/-- The request that a load-more issues. -/
def nextRequest (list : BuddhaList α) : ListRequest :=
  { id := list.asked.length, query := .loadMore, page := list.currentPage + 1 }

/-- It is the one that its id stands for. -/
theorem find_nextRequest {list : BuddhaList α} (hnumbered : list.Numbered)
    (hlogged : BuddhaList.Logged list) :
    (list.loadMoreData list.asked.length).outstanding.find?
        (fun request => request.id == list.asked.length) = some (nextRequest list) := by
  have hbefore : list.outstanding.find?
      (fun request => request.id == list.asked.length) = none := by
    apply List.find?_eq_none.mpr
    intro request hmem
    simpa using Nat.ne_of_lt (hnumbered request (hlogged.logged hmem))
  simp [BuddhaList.loadMoreData, BuddhaList.fetchBuddhas, nextRequest, List.find?_append,
    hbefore]

/-- The list after its next page, if that is empty: only `currentPage` goes on. -/
theorem complete_nextRequest {list : BuddhaList α}
    (hempty : page (list.currentPage + 1) = []) :
    let next := (list.loadMoreData list.asked.length).complete page (nextRequest list) true
    next.isRefreshing = list.isRefreshing ∧ next.buddhas = list.buddhas ∧
      next.currentPage = list.currentPage + 1 := by
  refine ⟨rfl, ?_, rfl⟩
  rw [BuddhaList.complete_buddhas]
  simp [nextRequest, QueryManager.servedPage, BuddhaList.loadMoreData,
    BuddhaList.fetchBuddhas, hempty]

/-- **And again.**  The layout asks for a page, which is empty, and the table
view is about to display the same rows. -/
theorem Recurs.again {screen : ListScreen α} (h : Recurs page viewport screen) :
    ∃ e es next, run (step page viewport) screen (e :: es) = some next ∧
      Recurs page viewport next := by
  obtain ⟨hsound, hneeds, hend, hlast⟩ := h
  have hlayout : step page viewport screen .layout =
      some { list := screen.list.loadMoreData screen.list.asked.length,
             needsLayout := false } := by
    simp only [step, hneeds, if_true, run_shownRows_of_last hlast hsound.numbered]
    rfl
  have hasked := hsound.step (takes_of_step hsound.numbered hlayout)
  have hrequest := find_nextRequest hsound.numbered hsound.logged
  have hresponse : step page viewport
      { list := screen.list.loadMoreData screen.list.asked.length, needsLayout := false }
      (.response screen.list.asked.length) =
    some { list := (screen.list.loadMoreData screen.list.asked.length).complete page
             (nextRequest screen.list) true,
           needsLayout := true } := by
    simp [step, BuddhaList.uiStep, BuddhaList.actionOf, BuddhaList.step, hrequest]
  obtain ⟨hrefreshing, hbuddhas, hpage⟩ :=
    complete_nextRequest (hend (screen.list.currentPage + 1) (Nat.lt_succ_self _))
  refine ⟨.layout, [.response screen.list.asked.length], _, ?_,
    hasked.step (takes_of_step hasked.numbered hresponse), rfl, ?_,
    hlast.congr hrefreshing hbuddhas⟩
  · rw [run_cons hlayout, run_cons hresponse]
    rfl
  · intro n hn
    simp only [hpage] at hn
    exact hend n (Nat.lt_of_succ_lt hn)

theorem Recurs.not_ends {screen : ListScreen α} (h : Recurs page viewport screen) :
    ¬ Ends (step page viewport) screen :=
  not_ends_of_recurrent (fun _ h => h.again) (run_nil screen) h

/-- **Necessary.**  Where loading stops, the last row is out of sight at the end. -/
theorem outOfSight_of_ends {screen : ListScreen α} (h : screen.Sound)
    (hends : Ends (step page viewport) screen) (es : List ScreenEvent) :
    Meets (step page viewport) (OutOfSight page viewport) screen es := by
  induction es generalizing screen with
  | nil => trivial
  | cons e es ih =>
      constructor
      · cases e with
        | response id => trivial
        | layout =>
            intro hneeds hend hlast
            exact Recurs.not_ends ⟨h, hneeds, hend, hlast⟩ hends
      · intro next hstep
        exact ih (h.step (takes_of_step h.numbered hstep)) (hends.inv ⟨e, hstep⟩)

/-- **Exactly when loading stops.**  From every state the controller reaches, on
every server whose pages end and in every viewport: if the user does nothing
more, only finitely many requests are issued if and only if in every run from
there each layout at the end of the feed leaves the last row out of sight. -/
theorem loading_stops_iff (page : Nat → List α) (count : Nat)
    (hserver : ∀ n, count < n → page n = []) (viewport : Nat → Nat → Bool)
    (es : List ListEvent) (list : BuddhaList α)
    (hrun : run (BuddhaList.uiStep page) BuddhaList.initial es = some list)
    (needsLayout : Bool) :
    Stops page viewport { list := list, needsLayout := needsLayout } ↔
      ∀ future, Meets (step page viewport) (OutOfSight page viewport)
        { list := list, needsLayout := needsLayout } future :=
  have hsound := Sound.of_run hrun needsLayout
  ⟨fun hstops => outOfSight_of_ends hsound hstops.1, stops_of_outOfSight hserver hsound⟩

/-- The list is shown, its first page on the way. -/
def firstPage : List ListEvent :=
  [.viewWillAppear, .response 0 true]

/-- A server with three pages of one item each. -/
def threeItems (n : Nat) : List Nat :=
  if n ≤ 3 then [n] else []

/-- A viewport of two rows. -/
def twoRows (_ row : Nat) : Bool :=
  row < 2

theorem threeItems_of_lt {n : Nat} (h : 3 < n) : threeItems n = [] :=
  if_neg (Nat.not_le.mpr h)

/-- Something is still to come before the last page. -/
theorem not_atEnd_threeItems {list : BuddhaList Nat} (h : list.currentPage < 3) :
    ¬ AtEnd threeItems list := by
  intro hend
  have hempty : threeItems (list.currentPage + 1) = [] := hend _ (Nat.lt_succ_self _)
  have hitem : threeItems (list.currentPage + 1) = [list.currentPage + 1] :=
    if_pos (Nat.succ_le_of_lt h)
  rw [hitem] at hempty
  cases hempty

/-- The third item is below the second row. -/
theorem not_lastRowShown_twoRows {list : BuddhaList Nat} (h : 2 < list.buddhas.length) :
    ¬ LastRowShown twoRows list := by
  rintro ⟨_, row, hmem, hrow⟩
  have hshown : row < 2 := by
    simpa [twoRows] using (List.mem_filter.mp hmem).2
  omega

/-- Before the last page, or with three items, a layout is out of sight. -/
theorem outOfSight_twoRows {screen : ListScreen Nat} (e : ScreenEvent)
    (h : screen.list.currentPage < 3 ∨ 2 < screen.list.buddhas.length) :
    OutOfSight threeItems twoRows screen e := by
  cases e with
  | response id => trivial
  | layout =>
      intro _ hend
      rcases h with hbefore | hlong
      · exact absurd hend (not_atEnd_threeItems hbefore)
      · exact not_lastRowShown_twoRows hlong

/-- Every page up to the current one has brought its item, and at most the next
one is on the way, after the layout that asked for it. -/
structure InTurn (screen : ListScreen Nat) : Prop where
  sound : screen.Sound
  filled : screen.list.currentPage ≤ 3 → screen.list.currentPage ≤ screen.list.buddhas.length
  past : 3 < screen.list.currentPage → 2 < screen.list.buddhas.length
  onTheWay : screen.list.outstanding = [] ∨
    screen.needsLayout = false ∧
      ∃ id, screen.list.outstanding = [⟨id, .loadMore, screen.list.currentPage + 1⟩]

theorem InTurn.outOfSight {screen : ListScreen Nat} (h : screen.InTurn) (e : ScreenEvent) :
    OutOfSight threeItems twoRows screen e := by
  apply outOfSight_twoRows
  have hfilled := h.filled
  have hpast := h.past
  omega

/-- The next page, once it comes, adds its item. -/
theorem InTurn.step {screen next : ListScreen Nat} {e : ScreenEvent} (h : screen.InTurn)
    (htakes : Takes threeItems twoRows screen e next) : next.InTurn := by
  have hsound := h.sound.step htakes
  have hfilled := h.filled
  have hpast := h.past
  cases htakes with
  | @answered request hmem =>
      rcases h.onTheWay with hnone | ⟨_, id, hone⟩
      · rw [hnone] at hmem
        cases hmem
      · rw [hone] at hmem
        obtain rfl := List.mem_singleton.mp hmem
        have hbuddhas : (screen.list.complete threeItems
            ⟨id, .loadMore, screen.list.currentPage + 1⟩ true).buddhas =
            screen.list.buddhas ++ threeItems (screen.list.currentPage + 1) := by
          rw [BuddhaList.complete_buddhas]
          rfl
        refine ⟨hsound, ?_, ?_, .inl ?_⟩
        · intro hbefore
          simp only [BuddhaList.complete_currentPage, if_true] at hbefore ⊢
          have hitem : threeItems (screen.list.currentPage + 1) =
              [screen.list.currentPage + 1] := if_pos hbefore
          rw [hbuddhas, hitem, List.length_append, List.length_singleton]
          omega
        · intro hafter
          simp only [BuddhaList.complete_currentPage, if_true] at hafter
          rw [hbuddhas, List.length_append]
          omega
        · rw [BuddhaList.complete_outstanding, hone]
          simp
  | loadedMore hneeds _ =>
      rcases h.onTheWay with hnone | ⟨hlaid, _⟩
      · refine ⟨hsound, hfilled, hpast, .inr ⟨rfl, screen.list.asked.length, ?_⟩⟩
        simp only [BuddhaList.loadMoreData, BuddhaList.fetchBuddhas, hnone, List.nil_append]
      · rw [hlaid] at hneeds
        cases hneeds
  | laidOut _ _ =>
      refine ⟨hsound, hfilled, hpast, ?_⟩
      exact h.onTheWay.imp id fun hone => ⟨rfl, hone.2⟩

/-- Whatever happens from such a state on, loading stays in turn. -/
theorem InTurn.meets {screen : ListScreen Nat} (h : screen.InTurn) (es : List ScreenEvent) :
    Meets (ListScreen.step threeItems twoRows) (OutOfSight threeItems twoRows) screen es := by
  induction es generalizing screen with
  | nil => trivial
  | cons e es ih =>
      refine ⟨h.outOfSight e, ?_⟩
      intro next hstep
      exact ih (h.step (takes_of_step h.sound.numbered hstep))

/-- **Two pages by themselves.**  The first layout and the second each ask for
a page, the third leaves the last row below the viewport. -/
theorem loading_stops_iff_twoRows :
    ∃ list, run (BuddhaList.uiStep threeItems) BuddhaList.initial firstPage = some list ∧
      (∃ final, run (step threeItems twoRows) { list := list, needsLayout := true }
          [.layout, .response 1, .layout, .response 2, .layout] = some final ∧
        final.list.buddhas = [1, 2, 3] ∧ final.needsLayout = false) ∧
      Stops threeItems twoRows { list := list, needsLayout := true } := by
  have hrun : run (BuddhaList.uiStep threeItems) BuddhaList.initial firstPage = some _ := rfl
  refine ⟨_, hrun, ⟨_, rfl, rfl, rfl⟩, ?_⟩
  refine (loading_stops_iff threeItems 3 (fun _ h => threeItems_of_lt h) twoRows
    firstPage _ hrun true).mpr ?_
  exact InTurn.meets
    ⟨Sound.of_run hrun true, fun _ => Nat.le_refl 1, fun h => absurd h (by decide), .inl rfl⟩

/-- A server with one item in all. -/
def oneItem (n : Nat) : List Nat :=
  if n ≤ 1 then [n] else []

theorem oneItem_of_lt {n : Nat} (h : 1 < n) : oneItem n = [] :=
  if_neg (Nat.not_le.mpr h)

/-- A viewport of eight rows. -/
def eightRows (_ row : Nat) : Bool :=
  row < 8

/-- **A short list.**  One row, in a viewport of eight, on a server that has
nothing more: the table view asks for pages without end. -/
theorem short_list_loads_forever :
    (∀ n, 1 < n → oneItem n = []) ∧
      ∃ list, run (BuddhaList.uiStep oneItem) BuddhaList.initial firstPage = some list ∧
        ¬ Stops oneItem eightRows { list := list, needsLayout := true } := by
  have hrun : run (BuddhaList.uiStep oneItem) BuddhaList.initial firstPage = some _ := rfl
  refine ⟨fun _ h => oneItem_of_lt h, _, hrun, ?_⟩
  have hrecurs : Recurs oneItem eightRows
      { list := { buddhas := [1], currentPage := 1, isRefreshing := false,
                  isEmptyViewShowing := false, asked := [⟨0, .refresh, 0⟩],
                  outstanding := [] },
        needsLayout := true } :=
    ⟨Sound.of_run hrun true, rfl,
      fun _ h => oneItem_of_lt h, by decide⟩
  exact fun hstops => hrecurs.not_ends hstops.1

end ListScreen

end QLadder
