import QLadder.InFlight
import QLadder.PartialRun

/-!
# The list of buddhas and its page requests

`QLBuddhaListViewController` shows a list that it loads page by page.  A
refresh sets `currentPage` to 0 when it is issued and counts it up when its
answer comes; a load-more reads `currentPage` when it is issued and counts it
up when its answer comes.  Requests are independent of each other, so their
answers come in any order.

There are two machines over the same state.  `step` takes the calls of the
controller's functions and the completions of its requests.  `uiStep` takes
what the user and the table view do and calls these functions under the
guards of the source; `actions_of_uiRun` says that it does nothing else.

Requests carry an id that the source does not have, in order to say which
completion belongs to which call.
-/

namespace QLadder

open PartialRun InFlight

/-- The function that made a request. -/
inductive ListQuery where
  /-- `loadData` -/
  | refresh
  /-- `loadMoreData` -/
  | loadMore
  deriving DecidableEq, Repr

/-- A call of `fetchBuddhas` with the page number it was given. -/
structure ListRequest where
  id : Nat
  query : ListQuery
  page : Nat
  deriving DecidableEq, Repr

/-- The page that `fetchBuddhas` asks the server for. -/
def QueryManager.servedPage (page : Nat) : Nat :=
  if page ≤ 0 then 1 else page

/-- The controller, the requests it has made and those not yet completed. -/
structure BuddhaList (α : Type) where
  buddhas : List α
  currentPage : Nat
  /-- `refreshControl.isRefreshing` -/
  isRefreshing : Bool
  isEmptyViewShowing : Bool
  asked : List ListRequest
  outstanding : List ListRequest
  deriving DecidableEq, Repr

/-- The calls of the controller's functions, and the completions. -/
inductive ListAction where
  /-- the refresh control is pulled -/
  | handleRefresh (id : Nat)
  | refresh (id : Nat)
  | loadMoreData (id : Nat)
  /-- `ok` is false for a completion with an error message -/
  | complete (id : Nat) (ok : Bool)
  deriving DecidableEq, Repr

/-- The request that the action issues or completes. -/
def ListAction.id : ListAction → Nat
  | .handleRefresh id | .refresh id | .loadMoreData id | .complete id _ => id

/-- What the action asks for, if it issues a request. -/
def ListAction.query : ListAction → Option ListQuery
  | .handleRefresh _ | .refresh _ => some .refresh
  | .loadMoreData _ => some .loadMore
  | .complete _ _ => none

namespace BuddhaList

variable {α : Type}

/-- The controller after `viewDidLoad`. -/
def initial : BuddhaList α :=
  { buddhas := [], currentPage := 0, isRefreshing := false,
    isEmptyViewShowing := false, asked := [], outstanding := [] }

def showEmptyView (list : BuddhaList α) : BuddhaList α :=
  { list with isEmptyViewShowing := true }

def hideEmptyView (list : BuddhaList α) : BuddhaList α :=
  { list with isEmptyViewShowing := false }

def beginRefreshing (list : BuddhaList α) : BuddhaList α :=
  { list with isRefreshing := true }

def endRefreshing (list : BuddhaList α) : BuddhaList α :=
  { list with isRefreshing := false }

/-- `fetchBuddhas`, on the side of the controller. -/
def fetchBuddhas (list : BuddhaList α) (id : Nat) (query : ListQuery) (page : Nat) :
    BuddhaList α :=
  let request := { id := id, query := query, page := page }
  { list with
    asked := list.asked ++ [request]
    outstanding := list.outstanding ++ [request] }

def loadData (list : BuddhaList α) (id : Nat) : BuddhaList α :=
  { list with currentPage := 0 }.fetchBuddhas id .refresh 0

def loadMoreData (list : BuddhaList α) (id : Nat) : BuddhaList α :=
  list.fetchBuddhas id .loadMore (list.currentPage + 1)

def handleRefresh (list : BuddhaList α) (id : Nat) : BuddhaList α :=
  list.loadData id

def refresh (list : BuddhaList α) (id : Nat) : BuddhaList α :=
  (list.beginRefreshing.handleRefresh id).hideEmptyView

/-- The completion in `loadData`; `none` is an error message. -/
def didLoadData (list : BuddhaList α) : Option (List α) → BuddhaList α
  | none => list.showEmptyView.endRefreshing
  | some buddhas =>
      { list with
        buddhas := buddhas
        currentPage := list.currentPage + 1 }.endRefreshing

/-- The completion in `loadMoreData`. -/
def didLoadMoreData (list : BuddhaList α) : Option (List α) → BuddhaList α
  | none => list
  | some buddhas =>
      { list with
        buddhas := list.buddhas ++ buddhas
        currentPage := list.currentPage + 1 }

/-- No request has been made under this id. -/
def Unused (list : BuddhaList α) (id : Nat) : Prop :=
  ∀ request ∈ list.asked, request.id ≠ id

instance (list : BuddhaList α) (id : Nat) : Decidable (list.Unused id) :=
  inferInstanceAs (Decidable (∀ request ∈ list.asked, request.id ≠ id))

variable (page : Nat → List α)

/-- The completion handler of an outstanding request runs; a success brings
the page that the server was asked for. -/
def complete (list : BuddhaList α) (request : ListRequest) (ok : Bool) : BuddhaList α :=
  let list' :=
    { list with outstanding := list.outstanding.filter fun other => other.id ≠ request.id }
  let answer := if ok then some (page (QueryManager.servedPage request.page)) else none
  match request.query with
  | .refresh => list'.didLoadData answer
  | .loadMore => list'.didLoadMoreData answer

/-- One action.  A pulled control is refreshing by itself. -/
def step (list : BuddhaList α) : ListAction → Option (BuddhaList α)
  | .handleRefresh id =>
      if list.Unused id then some (list.beginRefreshing.handleRefresh id) else none
  | .refresh id => if list.Unused id then some (list.refresh id) else none
  | .loadMoreData id => if list.Unused id then some (list.loadMoreData id) else none
  | .complete id ok =>
      (list.outstanding.find? fun request => request.id == id).map fun request =>
        list.complete page request ok

end BuddhaList

/-- What the user, the table view and the network do. -/
inductive ListEvent where
  | viewWillAppear
  | handleRefresh
  | emptyViewDidClick
  /-- a row is about to be displayed -/
  | willDisplay (row : Nat)
  | response (id : Nat) (ok : Bool)
  deriving DecidableEq, Repr

namespace BuddhaList

variable {α : Type}

/-- The call an event leads to, if its guards let it through. -/
def actionOf (list : BuddhaList α) : ListEvent → Option ListAction
  | .viewWillAppear =>
      if list.buddhas.length = 0 then some (.refresh list.asked.length) else none
  | .handleRefresh => some (.handleRefresh list.asked.length)
  | .emptyViewDidClick =>
      if list.isEmptyViewShowing then some (.refresh list.asked.length) else none
  | .willDisplay row =>
      if list.isRefreshing = false ∧ row + 1 = list.buddhas.length then
        some (.loadMoreData list.asked.length)
      else
        none
  | .response id ok => some (.complete id ok)

variable (page : Nat → List α)

/-- One event. -/
def uiStep (list : BuddhaList α) (e : ListEvent) : Option (BuddhaList α) :=
  match list.actionOf e with
  | none => some list
  | some action => list.step page action

/-! ## What a step can do -/

/-- The ways in which an action changes the state. -/
inductive Takes : BuddhaList α → ListAction → BuddhaList α → Prop
  | refreshed {list : BuddhaList α} {action : ListAction} {shown : Bool}
      (hquery : action.query = some .refresh) (hunused : list.Unused action.id) :
      Takes list action
        { list with
          currentPage := 0
          isRefreshing := true
          isEmptyViewShowing := shown
          asked := list.asked ++ [{ id := action.id, query := .refresh, page := 0 }]
          outstanding :=
            list.outstanding ++ [{ id := action.id, query := .refresh, page := 0 }] }
  | loadedMore {list : BuddhaList α} {id : Nat} (hunused : list.Unused id) :
      Takes list (.loadMoreData id)
        { list with
          asked := list.asked ++
            [{ id := id, query := .loadMore, page := list.currentPage + 1 }]
          outstanding := list.outstanding ++
            [{ id := id, query := .loadMore, page := list.currentPage + 1 }] }
  | completed {list : BuddhaList α} {request : ListRequest} {ok : Bool}
      (hmem : request ∈ list.outstanding)
      (hfind : list.outstanding.find? (fun other => other.id == request.id) =
        some request) :
      Takes list (.complete request.id ok) (list.complete page request ok)

variable {page}

theorem takes_of_step {list next : BuddhaList α} {action : ListAction}
    (h : list.step page action = some next) : Takes page list action next := by
  cases action with
  | handleRefresh id =>
      obtain ⟨hunused, heq⟩ := Option.ite_none_right_eq_some.mp h
      cases heq
      exact .refreshed rfl hunused
  | refresh id =>
      obtain ⟨hunused, heq⟩ := Option.ite_none_right_eq_some.mp h
      cases heq
      exact .refreshed rfl hunused
  | loadMoreData id =>
      obtain ⟨hunused, heq⟩ := Option.ite_none_right_eq_some.mp h
      cases heq
      exact .loadedMore hunused
  | complete id ok =>
      obtain ⟨request, hfind, rfl⟩ := Option.map_eq_some_iff.mp h
      have hid : request.id = id := by simpa using List.find?_some hfind
      subst hid
      exact .completed (List.mem_of_find?_eq_some hfind) hfind

/-! ## The fields of a completed request -/

@[simp] theorem complete_asked (list : BuddhaList α) (request : ListRequest) (ok : Bool) :
    (list.complete page request ok).asked = list.asked := by
  unfold complete
  cases request.query <;> cases ok <;> rfl

@[simp] theorem complete_outstanding (list : BuddhaList α) (request : ListRequest)
    (ok : Bool) :
    (list.complete page request ok).outstanding =
      list.outstanding.filter fun other => other.id ≠ request.id := by
  unfold complete
  cases request.query <;> cases ok <;> rfl

theorem complete_outstanding_subset {list : BuddhaList α} {request : ListRequest}
    {ok : Bool} : (list.complete page request ok).outstanding ⊆ list.outstanding := by
  rw [complete_outstanding]
  exact List.filter_sublist.subset

/-- A completion counts up on success, whatever the request. -/
@[simp] theorem complete_currentPage (list : BuddhaList α) (request : ListRequest)
    (ok : Bool) :
    (list.complete page request ok).currentPage =
      if ok then list.currentPage + 1 else list.currentPage := by
  unfold complete
  cases request.query <;> cases ok <;> rfl

/-- A completion replaces the list, adds to it or leaves it alone. -/
@[simp] theorem complete_buddhas (list : BuddhaList α) (request : ListRequest)
    (ok : Bool) :
    (list.complete page request ok).buddhas =
      if ok then
        (match request.query with
          | .refresh => []
          | .loadMore => list.buddhas) ++ page (QueryManager.servedPage request.page)
      else list.buddhas := by
  unfold complete
  cases request.query <;> cases ok <;> rfl

/-! ## The ids -/

/-- The log of requests only grows. -/
theorem asked_mono {list next : BuddhaList α} {action : ListAction}
    (h : list.step page action = some next) : list.asked <+: next.asked := by
  cases takes_of_step h with
  | refreshed _ _ => exact List.prefix_append _ _
  | loadedMore _ => exact List.prefix_append _ _
  | completed _ _ => simp

/-- The controller's numbering of its requests. -/
def Numbered (list : BuddhaList α) : Prop :=
  ∀ request ∈ list.asked, request.id < list.asked.length

/-- The next number has not been used. -/
theorem Numbered.unused {list : BuddhaList α} (h : list.Numbered) :
    list.Unused list.asked.length :=
  fun request hmem => Nat.ne_of_lt (h request hmem)

/-- A call that an event leads to takes the next number. -/
theorem actionOf_id {list : BuddhaList α} {e : ListEvent} {action : ListAction}
    (haction : list.actionOf e = some action) (hcall : action.query ≠ none) :
    action.id = list.asked.length := by
  cases e with
  | viewWillAppear =>
      obtain ⟨_, heq⟩ := Option.ite_none_right_eq_some.mp haction
      cases heq
      rfl
  | handleRefresh =>
      cases haction
      rfl
  | emptyViewDidClick =>
      obtain ⟨_, heq⟩ := Option.ite_none_right_eq_some.mp haction
      cases heq
      rfl
  | willDisplay row =>
      obtain ⟨_, heq⟩ := Option.ite_none_right_eq_some.mp haction
      cases heq
      rfl
  | response id ok =>
      cases haction
      exact absurd rfl hcall

/-- Only a response completes a request. -/
theorem actionOf_complete {list : BuddhaList α} {e : ListEvent} {id : Nat} {ok : Bool}
    (haction : list.actionOf e = some (.complete id ok)) : e = .response id ok := by
  cases e with
  | viewWillAppear =>
      obtain ⟨_, heq⟩ := Option.ite_none_right_eq_some.mp haction
      cases heq
  | handleRefresh => cases haction
  | emptyViewDidClick =>
      obtain ⟨_, heq⟩ := Option.ite_none_right_eq_some.mp haction
      cases heq
  | willDisplay row =>
      obtain ⟨_, heq⟩ := Option.ite_none_right_eq_some.mp haction
      cases heq
  | response id ok =>
      cases haction
      rfl

/-- A load-more is issued outside a refresh, for a list that has a last row. -/
theorem actionOf_loadMoreData {list : BuddhaList α} {e : ListEvent} {id : Nat}
    (haction : list.actionOf e = some (.loadMoreData id)) :
    list.isRefreshing = false ∧ list.buddhas ≠ [] := by
  cases e with
  | viewWillAppear =>
      obtain ⟨_, heq⟩ := Option.ite_none_right_eq_some.mp haction
      cases heq
  | handleRefresh => cases haction
  | emptyViewDidClick =>
      obtain ⟨_, heq⟩ := Option.ite_none_right_eq_some.mp haction
      cases heq
  | willDisplay row =>
      obtain ⟨⟨hidle, hrow⟩, _⟩ := Option.ite_none_right_eq_some.mp haction
      refine ⟨hidle, ?_⟩
      intro hnil
      rw [hnil, List.length_nil] at hrow
      omega
  | response id ok => cases haction

theorem Numbered.initial : Numbered (initial : BuddhaList α) := by
  intro request hmem
  cases hmem

theorem Numbered.issue {list next : BuddhaList α} {request : ListRequest}
    (h : list.Numbered) (hid : request.id = list.asked.length)
    (hasked : next.asked = list.asked ++ [request]) : next.Numbered := by
  have hlength : next.asked.length = list.asked.length + 1 := by
    rw [hasked, List.length_append, List.length_singleton]
  unfold Numbered
  rw [hlength, hasked]
  apply forall_sent
  · intro other hmem
    have hbefore := h other hmem
    omega
  · omega

/-- Every event keeps the numbering. -/
theorem Numbered.step {list next : BuddhaList α} {e : ListEvent} (h : list.Numbered)
    (hstep : list.uiStep page e = some next) : next.Numbered := by
  unfold uiStep at hstep
  cases haction : list.actionOf e with
  | none =>
      simp only [haction, Option.some.injEq] at hstep
      exact hstep ▸ h
  | some action =>
      simp only [haction] at hstep
      have hid := actionOf_id haction
      cases takes_of_step hstep with
      | refreshed hquery _ => exact h.issue (hid (by simp [hquery])) rfl
      | loadedMore _ => exact h.issue (hid (by simp [ListAction.query])) rfl
      | completed _ _ => simpa [Numbered] using h

/-- **Nothing but actions.**  A run of the controller is a run of actions. -/
theorem actions_of_uiRun {list final : BuddhaList α} {es : List ListEvent}
    (h : run (uiStep page) list es = some final) :
    ∃ actions, run (step page) list actions = some final := by
  induction es generalizing list with
  | nil => exact ⟨[], h⟩
  | cons e es ih =>
      obtain ⟨next, hnext, hrest⟩ := run_cons_some h
      obtain ⟨actions, hactions⟩ := ih hrest
      unfold uiStep at hnext
      cases haction : list.actionOf e with
      | none =>
          simp only [haction, Option.some.injEq] at hnext
          exact ⟨actions, hnext ▸ hactions⟩
      | some action =>
          simp only [haction] at hnext
          exact ⟨action :: actions, by rw [run_cons hnext]; exact hactions⟩

/-- A server with one item on each page. -/
def onePerPage (n : Nat) : List Nat :=
  [n]

end BuddhaList

end QLadder
