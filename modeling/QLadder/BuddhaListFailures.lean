import QLadder.BuddhaList

/-!
# What a failed request leaves behind

The run of a list with a failed request is compared with the same run without
it.  Between the two only `currentPage` can differ: a refresh has set it to 0
before its outcome was known, and an error does not set it back.  The
difference lasts until the next refresh.

* `no_trace_iff` — deleting a failed request changes neither the list, nor
  `currentPage`, nor the page of another request, if and only if it was a
  load-more, or `currentPage` was 0 already, or the next request to be issued
  was a refresh;
* `failed_refresh_restores_iff` — a failed refresh by itself leaves list and
  `currentPage` as they were if and only if it was issued at `currentPage` 0;
* `failed_pull_counts_back` — a failed pull after page 1 leaves `currentPage`
  at 0.
-/

namespace QLadder

open PartialRun InFlight

/-- The first request issued by the actions. -/
def nextQuery (actions : List ListAction) : Option ListQuery :=
  actions.findSome? ListAction.query

/-- The actions without those of a request. -/
def withoutRequest (id : Nat) (actions : List ListAction) : List ListAction :=
  actions.filter fun action => action.id ≠ id

namespace BuddhaList

variable {α : Type}

/-- A log of requests without one of them. -/
def others (id : Nat) (requests : List ListRequest) : List ListRequest :=
  requests.filter fun request => request.id ≠ id

/-- Deleting the request from the run changes nothing that can be seen of the
others. -/
def LeavesNoTrace (page : Nat → List α) (actions : List ListAction)
    (final : BuddhaList α) (id : Nat) : Prop :=
  ∃ other, run (step page) initial (withoutRequest id actions) = some other ∧
    other.buddhas = final.buddhas ∧ other.currentPage = final.currentPage ∧
    other.asked = others id final.asked

/-- If the request was a refresh, it was issued at `currentPage` 0 or before
another refresh. -/
def CountsNothingBack (page : Nat → List α) (actions : List ListAction) (id : Nat) :
    Prop :=
  ∀ past action later before, actions = past ++ action :: later → action.id = id →
    action.query = some .refresh → run (step page) initial past = some before →
    before.currentPage = 0 ∨ nextQuery later = some .refresh

/-! ## The log of requests -/

/-- The requests are told apart by their ids, and those outstanding are in the
log. -/
structure Logged (list : BuddhaList α) : Prop where
  unique : ∀ request ∈ list.asked, ∀ other ∈ list.asked, request.id = other.id →
    request = other
  logged : list.outstanding ⊆ list.asked

theorem Logged.initial : Logged (initial : BuddhaList α) :=
  ⟨by simp [BuddhaList.initial], by simp [BuddhaList.initial]⟩

theorem Logged.issue {list next : BuddhaList α} {request : ListRequest} (h : Logged list)
    (hunused : list.Unused request.id) (hasked : next.asked = list.asked ++ [request])
    (houtstanding : next.outstanding = list.outstanding ++ [request]) : Logged next := by
  refine ⟨?_, ?_⟩
  · intro x hx y hy hid
    rw [hasked] at hx hy
    rcases List.mem_append.mp hx with hx | hx
    · rcases List.mem_append.mp hy with hy | hy
      · exact h.unique x hx y hy hid
      · cases List.mem_singleton.mp hy
        exact absurd hid (hunused x hx)
    · cases List.mem_singleton.mp hx
      rcases List.mem_append.mp hy with hy | hy
      · exact absurd hid.symm (hunused y hy)
      · exact (List.mem_singleton.mp hy).symm
  · intro x hx
    rw [houtstanding] at hx
    rw [hasked]
    rcases List.mem_append.mp hx with hx | hx
    · exact List.mem_append_left _ (h.logged hx)
    · exact List.mem_append_right _ hx

variable {page : Nat → List α}

theorem Logged.step {list next : BuddhaList α} {action : ListAction} (h : Logged list)
    (hstep : list.step page action = some next) : Logged next := by
  cases takes_of_step hstep with
  | refreshed _ hunused => exact h.issue hunused rfl rfl
  | loadedMore hunused => exact h.issue hunused rfl rfl
  | completed _ _ =>
      refine ⟨by simpa using h.unique, ?_⟩
      rw [complete_asked]
      exact fun x hx => h.logged (complete_outstanding_subset hx)

theorem Logged.along {list final : BuddhaList α} {actions : List ListAction}
    (h : Logged list) (hrun : run (BuddhaList.step page) list actions = some final) :
    Logged final :=
  run_preserves Logged (fun _ _ _ h hstep => h.step hstep) h hrun

/-- The log only grows along a run. -/
theorem asked_subset_run {list final : BuddhaList α} {actions : List ListAction}
    (hrun : run (step page) list actions = some final) : list.asked ⊆ final.asked :=
  run_preserves (fun s => list.asked ⊆ s.asked)
    (fun _ _ _ hsub hstep => List.Subset.trans hsub (asked_mono hstep).subset) (fun _ h => h) hrun

/-- An id is unused as long as no action has issued it. -/
theorem Unused.along {list final : BuddhaList α} {actions : List ListAction} {id : Nat}
    (h : list.Unused id) (hnone : ∀ action ∈ actions, action.id = id → action.query = none)
    (hrun : run (step page) list actions = some final) : final.Unused id := by
  have hmeets : Meets (step page) (fun _ action => action.id = id → action.query = none)
      list actions :=
    Meets.of_forall fun action hmem _ => hnone action hmem
  have hkeep : ∀ (s : BuddhaList α) (action : ListAction) (t : BuddhaList α),
      s.Unused id → (action.id = id → action.query = none) →
      s.step page action = some t → t.Unused id := by
    intro s action t hs hok hstep
    cases takes_of_step hstep with
    | refreshed hquery _ =>
        apply forall_sent hs
        intro hid
        rw [hok hid] at hquery
        cases hquery
    | loadedMore _ =>
        apply forall_sent hs
        intro hid
        cases hok hid
    | completed _ _ =>
        unfold Unused
        rw [complete_asked]
        exact hs
  exact run_invariant hkeep h hmeets hrun

/-- A request is issued under an id not used before. -/
theorem unused_of_issue {list next : BuddhaList α} {action : ListAction}
    (hissue : action.query ≠ none) (hstep : list.step page action = some next) :
    list.Unused action.id := by
  cases takes_of_step hstep with
  | refreshed _ hunused => exact hunused
  | loadedMore hunused => exact hunused
  | completed _ _ => exact absurd rfl hissue

/-- The request of an action is in the log afterwards. -/
theorem used_of_step {list next : BuddhaList α} {action : ListAction} (h : Logged list)
    (hstep : list.step page action = some next) :
    ∃ request ∈ next.asked, request.id = action.id := by
  cases takes_of_step hstep with
  | refreshed _ _ => exact ⟨_, List.mem_append_right _ (List.mem_singleton.mpr rfl), rfl⟩
  | loadedMore _ => exact ⟨_, List.mem_append_right _ (List.mem_singleton.mpr rfl), rfl⟩
  | @completed request _ hmem _ =>
      exact ⟨request, by simpa using h.logged hmem, rfl⟩

/-- No action has to do with an id that is still unused. -/
theorem id_ne_of_unused {list final : BuddhaList α} {actions : List ListAction} {id : Nat}
    (hlogged : Logged list) (hrun : run (step page) list actions = some final)
    (hunused : final.Unused id) : ∀ action ∈ actions, action.id ≠ id := by
  rintro action hmem rfl
  obtain ⟨past, later, rfl⟩ := List.append_of_mem hmem
  obtain ⟨before, hbefore, hrest⟩ := run_append_some hrun
  obtain ⟨after, hafter, hlater⟩ := run_cons_some hrest
  obtain ⟨request, hrequest, hid⟩ := used_of_step (hlogged.along hbefore) hafter
  exact hunused request (asked_subset_run hlater hrequest) hid

/-- A request that is in the log and no longer outstanding. -/
def Ended (id : Nat) (list : BuddhaList α) : Prop :=
  (∃ request ∈ list.asked, request.id = id) ∧
    ∀ request ∈ list.outstanding, request.id ≠ id

theorem Ended.step {list next : BuddhaList α} {action : ListAction} {id : Nat}
    (h : Ended id list) (hstep : list.step page action = some next) : Ended id next := by
  obtain ⟨⟨known, hknown, hid⟩, hended⟩ := h
  have hissued : ∀ {request : ListRequest}, list.Unused request.id →
      ∀ other ∈ list.outstanding ++ [request], other.id ≠ id := by
    intro request hunused
    apply forall_sent hended
    intro heq
    exact hunused known hknown (hid.trans heq.symm)
  refine ⟨⟨known, (asked_mono hstep).subset hknown, hid⟩, ?_⟩
  cases takes_of_step hstep with
  | refreshed _ hunused => exact hissued hunused
  | loadedMore hunused => exact hissued hunused
  | completed _ _ => exact fun other hmem => hended other (complete_outstanding_subset hmem)

/-- A request is completed once. -/
theorem not_mem_of_ended {list final : BuddhaList α} {actions : List ListAction} {id : Nat}
    (h : Ended id list) (hrun : run (step page) list actions = some final) (ok : Bool) :
    ListAction.complete id ok ∉ actions := by
  intro hmem
  obtain ⟨past, later, rfl⟩ := List.append_of_mem hmem
  obtain ⟨before, hbefore, hrest⟩ := run_append_some hrun
  obtain ⟨after, hafter, _⟩ := run_cons_some hrest
  have hended : Ended id before :=
    run_preserves (Ended id) (fun _ _ _ h hstep => h.step hstep) h hbefore
  cases takes_of_step hafter with
  | refreshed hquery _ => cases hquery
  | completed hrequest _ => exact hended.2 _ hrequest rfl

theorem ended_of_complete {list next : BuddhaList α} {id : Nat} {ok : Bool}
    (h : Logged list) (hstep : list.step page (.complete id ok) = some next) :
    Ended id next := by
  refine ⟨used_of_step h hstep, ?_⟩
  cases takes_of_step hstep with
  | refreshed hquery _ => cases hquery
  | completed _ _ =>
      intro request hmem
      rw [complete_outstanding] at hmem
      simpa using (List.mem_filter.mp hmem).2

/-- A request has one outcome. -/
theorem complete_unique {list final : BuddhaList α} {actions : List ListAction} {id : Nat}
    {ok ok' : Bool} (h : Logged list) (hrun : run (step page) list actions = some final)
    (hmem : ListAction.complete id ok ∈ actions)
    (hmem' : ListAction.complete id ok' ∈ actions) : ok = ok' := by
  induction actions generalizing list with
  | nil => cases hmem
  | cons action actions ih =>
      obtain ⟨next, hnext, hrest⟩ := run_cons_some hrun
      rcases List.mem_cons.mp hmem with rfl | hlater
      · rcases List.mem_cons.mp hmem' with heq | hlater'
        · cases heq
          rfl
        · exact absurd hlater' (not_mem_of_ended (ended_of_complete h hnext) hrest ok')
      · rcases List.mem_cons.mp hmem' with rfl | hlater'
        · exact absurd hlater (not_mem_of_ended (ended_of_complete h hnext) hrest ok)
        · exact ih (h.step hnext) hrest hlater hlater'

/-! ## The run without the request -/

/-- `other` is `list` without the request, `lead` pages ahead in `currentPage`. -/
structure Trails (id lead : Nat) (list other : BuddhaList α) : Prop where
  issued : ∃ request ∈ list.asked, request.id = id
  buddhas : other.buddhas = list.buddhas
  currentPage : other.currentPage = list.currentPage + lead
  asked : other.asked = others id list.asked
  outstanding : other.outstanding = others id list.outstanding

theorem others_append {id : Nat} {requests : List ListRequest} {request : ListRequest}
    (hne : request.id ≠ id) :
    others id (requests ++ [request]) = others id requests ++ [request] := by
  simp [others, List.filter_append, hne]

theorem find?_others {id other : Nat} (requests : List ListRequest) (hne : other ≠ id) :
    (others id requests).find? (fun request => request.id == other) =
      requests.find? fun request => request.id == other := by
  rw [others, List.find?_filter]
  congr 1
  funext request
  by_cases h : request.id = other
  · simp [h, hne]
  · simp [h]

theorem Trails.unused {id lead fresh : Nat} {list other : BuddhaList α}
    (h : Trails id lead list other) (hunused : list.Unused fresh) : other.Unused fresh := by
  intro request hmem
  rw [h.asked] at hmem
  exact hunused request (List.mem_filter.mp hmem).1

/-- The lead after an action: a refresh sets both back to 0. -/
def leadAfter (lead : Nat) (action : ListAction) : Nat :=
  if action.query = some .refresh then 0 else lead

/-- The other run takes the same actions, as long as no load-more reads the
lead. -/
theorem Trails.follow {id lead : Nat} {list next other : BuddhaList α}
    {action : ListAction} (h : Trails id lead list other) (hne : action.id ≠ id)
    (hlead : action.query = some .loadMore → lead = 0)
    (hstep : list.step page action = some next) :
    ∃ other', other.step page action = some other' ∧
      Trails id (leadAfter lead action) next other' := by
  have hissued : ∃ request ∈ next.asked, request.id = id := by
    obtain ⟨request, hmem, hid⟩ := h.issued
    exact ⟨request, (asked_mono hstep).subset hmem, hid⟩
  cases action with
  | handleRefresh new =>
      obtain ⟨hunused, heq⟩ := Option.ite_none_right_eq_some.mp hstep
      cases heq
      refine ⟨_, if_pos (h.unused hunused), hissued, h.buddhas, rfl, ?_, ?_⟩
      · exact (congrArg (· ++ _) h.asked).trans (others_append hne).symm
      · exact (congrArg (· ++ _) h.outstanding).trans (others_append hne).symm
  | refresh new =>
      obtain ⟨hunused, heq⟩ := Option.ite_none_right_eq_some.mp hstep
      cases heq
      refine ⟨_, if_pos (h.unused hunused), hissued, h.buddhas, rfl, ?_, ?_⟩
      · exact (congrArg (· ++ _) h.asked).trans (others_append hne).symm
      · exact (congrArg (· ++ _) h.outstanding).trans (others_append hne).symm
  | loadMoreData new =>
      obtain ⟨hunused, heq⟩ := Option.ite_none_right_eq_some.mp hstep
      cases heq
      cases hlead rfl
      have hpage : other.currentPage = list.currentPage := h.currentPage
      refine ⟨_, if_pos (h.unused hunused), hissued, h.buddhas, h.currentPage, ?_, ?_⟩
      · simp only [loadMoreData, fetchBuddhas, hpage, h.asked]
        exact (others_append hne).symm
      · simp only [loadMoreData, fetchBuddhas, hpage, h.outstanding]
        exact (others_append hne).symm
  | complete old ok =>
      obtain ⟨request, hfind, rfl⟩ := Option.map_eq_some_iff.mp hstep
      have hother : other.step page (.complete old ok) =
          some (other.complete page request ok) := by
        simp only [BuddhaList.step]
        rw [h.outstanding, find?_others _ (show old ≠ id from hne), hfind]
        rfl
      refine ⟨_, hother, hissued, ?_, ?_, ?_, ?_⟩
      · simp [h.buddhas]
      · cases ok with
        | true =>
            simp only [complete_currentPage, if_true, h.currentPage, leadAfter,
              ListAction.query]
            simp only [reduceCtorEq, if_false]
            omega
        | false => simpa [leadAfter, ListAction.query] using h.currentPage
      · simp [h.asked]
      · simp [h.outstanding, others, List.filter_filter, Bool.and_comm]

/-- The failure of the request itself is what the other run does not have. -/
theorem Trails.drop {id lead : Nat} {list next other : BuddhaList α} {action : ListAction}
    (h : Trails id lead list other) (hid : action.id = id)
    (hfails : action ≠ .complete id true) (hstep : list.step page action = some next) :
    Trails id lead next other := by
  obtain ⟨known, hknown, hknownId⟩ := h.issued
  cases takes_of_step hstep with
  | refreshed _ hunused => exact absurd (hknownId.trans hid.symm) (hunused known hknown)
  | loadedMore hunused => exact absurd (hknownId.trans hid.symm) (hunused known hknown)
  | @completed request ok _ _ =>
      have hrequest : request.id = id := hid
      cases ok with
      | true => exact absurd (by rw [hrequest]) hfails
      | false =>
          refine ⟨⟨known, by simpa using hknown, hknownId⟩, ?_, ?_, ?_, ?_⟩
          · simpa using h.buddhas
          · simpa using h.currentPage
          · simpa using h.asked
          · simp [h.outstanding, others, List.filter_filter, hrequest]

/-- The other run follows to the end, if nothing is issued or the lead is 0. -/
theorem Trails.along {id lead : Nat} {list final other : BuddhaList α}
    {actions : List ListAction} (h : Trails id lead list other)
    (hquiet : lead = 0 ∨ ∀ action ∈ actions, action.query = none)
    (hfails : ListAction.complete id true ∉ actions)
    (hrun : run (step page) list actions = some final) :
    ∃ other', run (step page) other (withoutRequest id actions) = some other' ∧
      Trails id lead final other' := by
  have hmeets : Meets (step page)
      (fun _ action => (lead = 0 ∨ action.query = none) ∧ action ≠ .complete id true)
      list actions := by
    refine Meets.of_forall fun action hmem _ => ⟨?_, fun heq => hfails (heq ▸ hmem)⟩
    exact hquiet.imp_right fun hnone => hnone action hmem
  refine run_filter ?_ ?_ h hmeets hrun
  · intro s s' action t hrel hok hkeep hstep
    have hlead : leadAfter lead action = lead := by
      rcases hok.1 with hzero | hnone
      · simp [leadAfter, hzero]
      · simp [leadAfter, hnone]
    have hmore : action.query = some .loadMore → lead = 0 := by
      intro hquery
      rcases hok.1 with hzero | hnone
      · exact hzero
      · simp [hquery] at hnone
    obtain ⟨t', ht', hrel'⟩ := hrel.follow (by simpa using hkeep) hmore hstep
    exact ⟨t', ht', hlead ▸ hrel'⟩
  · intro s s' action t hrel hok hkeep hstep
    exact hrel.drop (by simpa using hkeep) hok.2 hstep

/-! ## The failed request -/

/-- How far the issue of the request puts the run without it ahead. -/
def leadOf (before : BuddhaList α) (action : ListAction) : Nat :=
  if action.query = some .refresh then before.currentPage else 0

/-- The run without the request starts from the state before its issue. -/
theorem Trails.of_issue {before after : BuddhaList α} {action : ListAction}
    (hlogged : Logged before) (hissue : action.query ≠ none)
    (hstep : before.step page action = some after) :
    Trails action.id (before.leadOf action) after before := by
  have hothers : ∀ {request : ListRequest} {requests : List ListRequest},
      request.id = action.id → requests ⊆ before.asked → before.Unused action.id →
      requests = others action.id (requests ++ [request]) := by
    intro request requests hid hsub hunused
    have hkept : requests.filter (fun other => other.id ≠ action.id) = requests :=
      List.filter_eq_self.mpr fun other hmem => by simpa using hunused other (hsub hmem)
    rw [others, List.filter_append, hkept]
    simp [hid]
  have hused := used_of_step hlogged hstep
  cases takes_of_step hstep with
  | refreshed hquery hunused =>
      exact ⟨hused, rfl, by simp [leadOf, hquery], hothers rfl (fun _ h => h) hunused,
        hothers rfl hlogged.logged hunused⟩
  | loadedMore hunused =>
      exact ⟨hused, rfl, rfl, hothers rfl (fun _ h => h) hunused,
        hothers rfl hlogged.logged hunused⟩
  | completed _ _ => exact absurd rfl hissue

/-- A load-more that reads a lead asks for another page, and the log of the run
shows it. -/
theorem Trails.lead_eq_zero {id lead : Nat} {list next other other' : BuddhaList α}
    {action : ListAction} (h : Trails id lead list other)
    (hquery : action.query = some .loadMore)
    (hstep : list.step page action = some next)
    (hstep' : other.step page action = some other') {final final' : BuddhaList α}
    (hfinal : Logged final) (hnext : next.asked ⊆ final.asked)
    (hnext' : other'.asked ⊆ final'.asked) (hsame : final'.asked = others id final.asked) :
    lead = 0 := by
  cases takes_of_step hstep with
  | refreshed hrefresh _ => simp [hquery] at hrefresh
  | completed _ _ => cases hquery
  | loadedMore _ =>
      cases takes_of_step hstep' with
      | refreshed hrefresh _ => cases hrefresh
      | loadedMore _ =>
          have hmem := hnext (List.mem_append_right _ (List.mem_singleton.mpr rfl))
          have hmem' := hnext' (List.mem_append_right _ (List.mem_singleton.mpr rfl))
          rw [hsame] at hmem'
          have heq := hfinal.unique _ hmem _ (List.mem_filter.mp hmem').1 rfl
          have hpage := congrArg ListRequest.page heq
          have hlead := h.currentPage
          simp only at hpage
          omega

/-- Without the request the run goes on from the state before its issue. -/
theorem run_withoutRequest {past later : List ListAction} {action : ListAction}
    {before : BuddhaList α} (hpast : withoutRequest action.id past = past)
    (hbefore : run (step page) initial past = some before) :
    run (step page) initial (withoutRequest action.id (past ++ action :: later)) =
      run (step page) before (withoutRequest action.id later) := by
  have hsplit : withoutRequest action.id (past ++ action :: later) =
      past ++ withoutRequest action.id later := by
    unfold withoutRequest at hpast ⊢
    rw [List.filter_append, hpast, List.filter_cons_of_neg (by simp)]
  rw [hsplit, run_append, hbefore]
  rfl

/-- Up to the next issue the other run takes the same actions. -/
theorem Trails.until_issue {id lead : Nat} {list other final : BuddhaList α}
    {quiet rest : List ListAction} {issue : ListAction} (h : Trails id lead list other)
    (hquiet : ∀ action ∈ quiet, action.query = none) (hissue : issue.query ≠ none)
    (hfails : ListAction.complete id true ∉ quiet)
    (hrun : run (step page) list (quiet ++ issue :: rest) = some final) :
    ∃ mid next other', Trails id lead mid other' ∧ mid.step page issue = some next ∧
      run (step page) next rest = some final ∧ issue.id ≠ id ∧
      run (step page) other (withoutRequest id (quiet ++ issue :: rest)) =
        run (step page) other' (issue :: withoutRequest id rest) := by
  obtain ⟨mid, hmid, hissueRest⟩ := run_append_some hrun
  obtain ⟨next, hnext, hfinal⟩ := run_cons_some hissueRest
  obtain ⟨other', hother', htrails⟩ := h.along (Or.inr hquiet) hfails hmid
  have hne : issue.id ≠ id := by
    obtain ⟨known, hknown, hid⟩ := htrails.issued
    have hfresh : mid.Unused issue.id := unused_of_issue hissue hnext
    intro heq
    exact hfresh known hknown (hid.trans heq.symm)
  have hfilter : withoutRequest id (quiet ++ issue :: rest) =
      withoutRequest id quiet ++ issue :: withoutRequest id rest := by
    simp [withoutRequest, List.filter_append, hne]
  refine ⟨mid, next, other', htrails, hnext, hfinal, hne, ?_⟩
  rw [hfilter, run_append, hother']
  rfl

/-- From the next refresh on the two are level. -/
theorem Trails.after_refresh {id lead : Nat} {mid next final other : BuddhaList α}
    {rest : List ListAction} {issue : ListAction} (h : Trails id lead mid other)
    (hquery : issue.query = some .refresh) (hne : issue.id ≠ id)
    (hfails : ListAction.complete id true ∉ rest) (hnext : mid.step page issue = some next)
    (hfinal : run (step page) next rest = some final) :
    ∃ last, run (step page) other (issue :: withoutRequest id rest) = some last ∧
      Trails id 0 final last := by
  obtain ⟨level, hlevel, htrails⟩ := h.follow hne (by simp [hquery]) hnext
  rw [leadAfter, if_pos hquery] at htrails
  obtain ⟨last, hlast, hend⟩ := htrails.along (Or.inl rfl) hfails hfinal
  refine ⟨last, ?_, hend⟩
  rw [run_cons hlevel]
  exact hlast

/-- The condition at the place where the request is issued. -/
theorem leavesNoTrace_iff_of_split {past later : List ListAction} {action : ListAction}
    {before final : BuddhaList α}
    (hrun : run (step page) initial (past ++ action :: later) = some final)
    (hbefore : run (step page) initial past = some before)
    (hissue : action.query ≠ none)
    (hfails : ListAction.complete action.id true ∉ past ++ action :: later) :
    LeavesNoTrace page (past ++ action :: later) final action.id ↔
      before.leadOf action = 0 ∨ nextQuery later = some .refresh := by
  obtain ⟨before', hbefore', hrest⟩ := run_append_some hrun
  cases hbefore.symm.trans hbefore'
  obtain ⟨after, hafter, hlater⟩ := run_cons_some hrest
  have hlogged : Logged before := Logged.initial.along hbefore
  have hunused : before.Unused action.id := unused_of_issue hissue hafter
  have hpast : withoutRequest action.id past = past := by
    apply List.filter_eq_self.mpr
    intro other hmem
    simpa using id_ne_of_unused Logged.initial hbefore hunused other hmem
  have hwithout : run (step page) initial
      (withoutRequest action.id (past ++ action :: later)) =
      run (step page) before (withoutRequest action.id later) :=
    run_withoutRequest hpast hbefore
  have htrails := Trails.of_issue hlogged hissue hafter
  have hfailsLater : ListAction.complete action.id true ∉ later := by
    intro hmem
    exact hfails (List.mem_append_right _ (List.mem_cons_of_mem _ hmem))
  -- a run that ends level with the other one leaves no trace
  have hlevel : ∀ other, run (step page) before (withoutRequest action.id later) =
      some other → Trails action.id 0 final other →
      LeavesNoTrace page (past ++ action :: later) final action.id := by
    intro other hother hend
    exact ⟨other, hwithout.trans hother, hend.buddhas, hend.currentPage, hend.asked⟩
  by_cases hzero : before.leadOf action = 0
  · -- level from the start
    rw [hzero] at htrails
    obtain ⟨other, hother, hend⟩ := htrails.along (Or.inl rfl) hfailsLater hlater
    exact iff_of_true (hlevel other hother hend) (Or.inl hzero)
  cases hnext : nextQuery later with
  | none =>
      -- nothing is issued any more: the lead lasts to the end
      have hquiet := List.findSome?_eq_none_iff.mp hnext
      obtain ⟨other, hother, hend⟩ := htrails.along (Or.inr hquiet) hfailsLater hlater
      refine iff_of_false ?_ (by simp [hzero])
      rintro ⟨other', hother', _, hpage, _⟩
      cases hother.symm.trans (hwithout.symm.trans hother')
      have hlead := hend.currentPage
      omega
  | some query =>
      obtain ⟨quiet, issue, rest, rfl, hquery, hquiet⟩ := List.findSome?_eq_some_iff.mp hnext
      obtain ⟨mid, next, other, hmid, hstep, hfinal, hne, hsame⟩ :=
        htrails.until_issue hquiet (by simp [hquery])
          (fun hmem => hfailsLater (List.mem_append_left _ hmem)) hlater
      cases query with
      | refresh =>
          -- a refresh sets both back to 0
          obtain ⟨last, hlast, hend⟩ := hmid.after_refresh hquery hne
            (fun hmem => hfailsLater
              (List.mem_append_right _ (List.mem_cons_of_mem _ hmem))) hstep hfinal
          exact iff_of_true (hlevel last (hsame.trans hlast) hend) (Or.inr rfl)
      | loadMore =>
          -- a load-more asks for another page
          refine iff_of_false ?_ (by simp [hzero])
          rintro ⟨last, hlast, _, _, hasked⟩
          rw [hwithout, hsame] at hlast
          obtain ⟨next', hnext', hlastEnd⟩ := run_cons_some hlast
          exact hzero (hmid.lead_eq_zero hquery hstep hnext'
            (Logged.initial.along hrun) (asked_subset_run hfinal)
            (asked_subset_run hlastEnd) hasked)

/-- A request that is completed was issued before. -/
theorem exists_issue {past : List ListAction} {mid next : BuddhaList α} {id : Nat}
    {ok : Bool} (hpast : run (step page) initial past = some mid)
    (hstep : mid.step page (.complete id ok) = some next) :
    ∃ action ∈ past, action.id = id ∧ action.query ≠ none := by
  apply Classical.byContradiction
  intro hnone
  have hunused : mid.Unused id := by
    refine Unused.along (by simp [Unused, initial]) ?_ hpast
    intro action hmem hid
    apply Classical.byContradiction
    intro hquery
    exact hnone ⟨action, hmem, hid, hquery⟩
  have hlogged : Logged mid := Logged.initial.along hpast
  cases takes_of_step hstep with
  | refreshed hquery _ => cases hquery
  | completed hmem _ => exact hunused _ (hlogged.logged hmem) rfl

/-- **Exactly when a failed request leaves no trace.**  In every run, for every
request that ends with an error message: deleting it leaves the final list and
`currentPage`, and the pages asked for by the others, unchanged if and only if
it was not a refresh issued at a positive `currentPage` and followed by a
load-more or by no request at all. -/
theorem no_trace_iff (page : Nat → List α) (actions : List ListAction)
    (final : BuddhaList α) (id : Nat)
    (hrun : run (step page) initial actions = some final)
    (hfailed : ListAction.complete id false ∈ actions) :
    LeavesNoTrace page actions final id ↔ CountsNothingBack page actions id := by
  have hfails : ListAction.complete id true ∉ actions := fun hmem => by
    cases complete_unique Logged.initial hrun hfailed hmem
  constructor
  · rintro htrace past action later before rfl rfl hquery hbefore
    have hiff := leavesNoTrace_iff_of_split hrun hbefore (by simp [hquery]) hfails
    simpa [leadOf, hquery] using hiff.mp htrace
  · intro hcounts
    obtain ⟨upTo, after, rfl⟩ := List.append_of_mem hfailed
    obtain ⟨mid, hmid, hrest⟩ := run_append_some hrun
    obtain ⟨next, hnext, _⟩ := run_cons_some hrest
    obtain ⟨action, hmem, rfl, hissue⟩ := exists_issue hmid hnext
    obtain ⟨past, later, rfl⟩ := List.append_of_mem hmem
    obtain ⟨before, hbefore, _⟩ := run_append_some hmid
    have hsplit : (past ++ action :: later) ++ .complete action.id false :: after =
        past ++ action :: (later ++ .complete action.id false :: after) := by simp
    rw [hsplit] at hrun hfails hcounts ⊢
    refine (leavesNoTrace_iff_of_split hrun hbefore hissue hfails).mpr ?_
    by_cases hquery : action.query = some .refresh
    · simpa [leadOf, hquery] using hcounts past action _ before rfl rfl hquery hbefore
    · simp [leadOf, hquery]

/-- A load-more fails and is made again. -/
def failedLoadMore : List ListAction :=
  [.refresh 0, .complete 0 true, .loadMoreData 1, .complete 1 false,
   .loadMoreData 2, .complete 2 true]

/-- A failed load-more leaves no trace. -/
theorem no_trace_iff_failedLoadMore :
    ∃ final, run (step onePerPage) initial failedLoadMore = some final ∧
      LeavesNoTrace onePerPage failedLoadMore final 1 := by
  refine ⟨_, rfl, (no_trace_iff onePerPage failedLoadMore _ 1 rfl (by decide)).mpr ?_⟩
  intro past action later before hsplit hid hquery _
  have hnone : ∀ action ∈ failedLoadMore, action.id = 1 →
      action.query ≠ some .refresh := by decide
  refine absurd hquery (hnone action ?_ hid)
  rw [hsplit]
  exact List.mem_append_right _ List.mem_cons_self

/-- Failures keep the list and `currentPage`. -/
theorem run_failures {list final : BuddhaList α} {failures : List ListAction}
    (hfailures : ∀ action ∈ failures, ∃ id, action = .complete id false)
    (hrun : run (step page) list failures = some final) :
    final.buddhas = list.buddhas ∧ final.currentPage = list.currentPage := by
  induction failures generalizing list with
  | nil =>
      cases hrun
      exact ⟨rfl, rfl⟩
  | cons action failures ih =>
      obtain ⟨next, hstep, hrest⟩ := run_cons_some hrun
      obtain ⟨hbuddhas, hpage⟩ :=
        ih (fun other hmem => hfailures other (List.mem_cons_of_mem action hmem)) hrest
      obtain ⟨id, rfl⟩ := hfailures action List.mem_cons_self
      have hkept : next.buddhas = list.buddhas ∧ next.currentPage = list.currentPage := by
        cases takes_of_step hstep with
        | refreshed hquery _ => cases hquery
        | completed _ _ => simp
      exact ⟨hbuddhas.trans hkept.1, hpage.trans hkept.2⟩

/-- **A failed refresh alone.**  A refresh that fails, with nothing but failures
until then, leaves the list and `currentPage` as they were before it was issued
if and only if it was issued at `currentPage` 0. -/
theorem failed_refresh_restores_iff {before after : BuddhaList α} {action : ListAction}
    {failures : List ListAction} (hquery : action.query = some .refresh)
    (hfailures : ∀ other ∈ failures, ∃ id, other = .complete id false)
    (hrun : run (step page) before (action :: failures) = some after) :
    (after.buddhas = before.buddhas ∧ after.currentPage = before.currentPage) ↔
      before.currentPage = 0 := by
  obtain ⟨issued, hissue, hrest⟩ := run_cons_some hrun
  obtain ⟨hbuddhas, hpage⟩ := run_failures hfailures hrest
  have hreset : issued.buddhas = before.buddhas ∧ issued.currentPage = 0 := by
    cases takes_of_step hissue with
    | refreshed _ _ => exact ⟨rfl, rfl⟩
    | loadedMore _ => cases hquery
    | completed _ _ => cases hquery
  rw [hbuddhas, hpage, hreset.1, hreset.2]
  constructor
  · rintro ⟨_, hzero⟩
    exact hzero.symm
  · intro hzero
    exact ⟨rfl, hzero.symm⟩

/-- Page 1 comes, and the list is pulled without success. -/
def failedPull : List ListAction :=
  [.refresh 0, .complete 0 true, .handleRefresh 1, .complete 1 false]

/-- **Counted back.**  The failed pull leaves page 1 on display with
`currentPage` at 0; without the pull it is 1. -/
theorem failed_pull_counts_back :
    ∃ final, run (step onePerPage) initial failedPull = some final ∧
      final.buddhas = [1] ∧ final.currentPage = 0 ∧
      ¬ LeavesNoTrace onePerPage failedPull final 1 := by
  refine ⟨_, rfl, rfl, rfl, ?_⟩
  rintro ⟨other, hrun, _, hpage, _⟩
  cases hrun
  cases hpage

end BuddhaList

end QLadder
