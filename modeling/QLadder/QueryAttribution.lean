import QLadder.InFlight
import QLadder.QueryManager

/-!
# Whose list a completion is given

A completion is given whatever `buddhas` holds when its block runs.  Between
the handler of a response and that block other handlers may run, and a handler
that cannot parse its body leaves `buddhas` as it was.

* `own_list_delivered` — if every response handled has a body that parses, and
  is handled while no completion of a different list is queued, then every
  completion without an error message is given the list of its own response;
* `lists_delivered_to_others` — three responses handled in a row: one
  completion is given the list of the next call, and an empty body is delivered
  as a success with that list too.
-/

namespace QLadder

open PartialRun InFlight

namespace QueryManager

variable {Node : Type} (kanna : Kanna Node)

/-- The list that a body parses to. -/
def parsedList (buddhaType : BuddhaType) (htmlString : String) : Option (List Buddha) :=
  if htmlString = "" then
    none
  else
    (kanna.html htmlString).map fun doc =>
      if buddhaType = .porn_91 then
        (kanna.xpath doc "//*[@class='listchannel']").map (buddhaIn91 kanna)
      else
        (kanna.xpath doc "//div[@class='phimage']").filterMap (buddhaInHub kanna)

/-- The list of a response. -/
def ownList (buddhaType : BuddhaType) : Response → Option (List Buddha)
  | .failure _ => none
  | .success data => data.bind (parsedList kanna buddhaType)

/-- A listing of the one site is written if it parses. -/
theorem updateBuddhasIn91_eq (buddhas : List Buddha) (htmlString : String) :
    updateBuddhasIn91 kanna buddhas htmlString =
      (parsedList kanna .porn_91 htmlString).getD buddhas := by
  unfold updateBuddhasIn91 parsedList
  by_cases hempty : htmlString = ""
  · rw [if_pos hempty, if_pos hempty]
    rfl
  · rw [if_neg hempty, if_neg hempty]
    cases kanna.html htmlString with
    | none => rfl
    | some doc => rfl

/-- So is a listing of the other. -/
theorem updateBuddhasInHub_eq {buddhaType : BuddhaType} (hother : buddhaType ≠ .porn_91)
    (buddhas : List Buddha) (htmlString : String) :
    updateBuddhasInHub kanna buddhas htmlString =
      (parsedList kanna buddhaType htmlString).getD buddhas := by
  unfold updateBuddhasInHub parsedList
  by_cases hempty : htmlString = ""
  · rw [if_pos hempty, if_pos hempty]
    rfl
  · rw [if_neg hempty, if_neg hempty]
    simp only [if_neg hother]
    cases kanna.html htmlString with
    | none => rfl
    | some doc => rfl

/-- A handler writes the list of its response, if there is one. -/
theorem updateBuddhas_eq (buddhas : List Buddha) (buddhaType : BuddhaType)
    (response : Response) :
    updateBuddhas kanna buddhas buddhaType response =
      (ownList kanna buddhaType response).getD buddhas := by
  cases response with
  | failure localizedDescription => rfl
  | success data =>
      by_cases h91 : buddhaType = .porn_91
      · subst h91
        cases data with
        | none => rfl
        | some htmlString => exact updateBuddhasIn91_eq kanna buddhas htmlString
      · simp only [updateBuddhas, if_neg h91]
        cases data with
        | none => rfl
        | some htmlString => exact updateBuddhasInHub_eq kanna h91 buddhas htmlString

/-- A delivery without an error message hands over the list of its own
response. -/
def Delivery.Own (delivery : Delivery) : Prop :=
  delivery.errorMessage = none →
    ownList kanna delivery.call.buddhaType delivery.response = some delivery.buddhas

instance (delivery : Delivery) : Decidable (delivery.Own kanna) :=
  inferInstanceAs (Decidable (_ → _))

/-- The list a queued completion ought to be given, if it reports no error. -/
def Block.owed : Block → Option (Option (List Buddha))
  | .complete call (.success data) => some (ownList kanna call.buddhaType (.success data))
  | _ => none

/-- A block runs ahead of `rest`: the handler of a success has a list, and the
completions queued are owed the same one. -/
def Block.Fits (rest : List Block) : Block → Prop
  | .respond call (.success data) =>
      ownList kanna call.buddhaType (.success data) ≠ none ∧
        ∀ block ∈ rest, ∀ owed ∈ block.owed kanna,
          owed = ownList kanna call.buddhaType (.success data)
  | _ => True

instance (rest : List Block) : ∀ block, Decidable (Block.Fits kanna rest block)
  | .respond _ (.success _) =>
      inferInstanceAs (Decidable (_ ∧ ∀ block ∈ rest, ∀ owed ∈ block.owed kanna, _))
  | .respond _ (.failure _) | .complete _ _ => isTrue trivial

/-- The condition on an event. -/
def Undisturbed (manager : QueryManager) : QueryEvent → Prop
  | .runMain => ∀ block ∈ manager.mainQueue.head?, block.Fits kanna manager.mainQueue.tail
  | _ => True

instance (manager : QueryManager) : ∀ e, Decidable (Undisturbed kanna manager e)
  | .runMain =>
      inferInstanceAs (Decidable (∀ block ∈ manager.mainQueue.head?,
        block.Fits kanna manager.mainQueue.tail))
  | .fetchBuddhas _ | .arrive _ _ => isTrue trivial

/-! ## The invariant -/

/-- Every completion queued is owed the list that `buddhas` holds, and every
completion called was given its own. -/
structure Attributed (manager : QueryManager) : Prop where
  queued : ∀ block ∈ manager.mainQueue, ∀ owed ∈ block.owed kanna,
    owed = some manager.buddhas
  delivered : ∀ delivery ∈ manager.delivered, delivery.Own kanna

theorem Attributed.of_shared : Attributed kanna shared :=
  ⟨by simp [shared], by simp [shared]⟩

variable {kanna}

/-- A handler runs, under the condition. -/
theorem Attributed.respond {manager : QueryManager} {rest : List Block} {call : Call}
    {response : Response} (h : Attributed kanna manager)
    (hrest : ∀ block ∈ rest, block ∈ manager.mainQueue)
    (hfits : (Block.respond call response).Fits kanna rest) :
    Attributed kanna
      (runBlock kanna { manager with mainQueue := rest } (.respond call response)) := by
  cases response with
  | failure localizedDescription =>
      refine ⟨?_, h.delivered⟩
      apply forall_sent
      · intro block hmem
        exact h.queued block (hrest block hmem)
      · intro owed howed
        cases howed
  | success data =>
      obtain ⟨hsome, hqueued⟩ := hfits
      obtain ⟨buddhas, hown⟩ := Option.ne_none_iff_exists'.mp hsome
      have hlist : updateBuddhas kanna manager.buddhas call.buddhaType (.success data) =
          buddhas := by
        rw [updateBuddhas_eq, hown]
        rfl
      refine ⟨?_, h.delivered⟩
      simp only [runBlock, hlist]
      apply forall_sent
      · intro block hmem owed howed
        exact (hqueued block hmem owed howed).trans hown
      · intro owed howed
        cases howed
        exact hown

/-- A completion is called: if it reports no error, it was owed the list. -/
theorem Attributed.complete {manager : QueryManager} {rest : List Block} {call : Call}
    {response : Response} (h : Attributed kanna manager)
    (hrest : ∀ block ∈ rest, block ∈ manager.mainQueue)
    (hmem : Block.complete call response ∈ manager.mainQueue) :
    Attributed kanna
      (runBlock kanna { manager with mainQueue := rest } (.complete call response)) := by
  refine ⟨?_, ?_⟩
  · intro block hblock
    exact h.queued block (hrest block hblock)
  · apply forall_sent h.delivered
    intro hnone
    cases response with
    | failure localizedDescription => cases hnone
    | success data => exact h.queued _ hmem _ rfl

/-- Every event that meets the condition keeps the attribution. -/
theorem Attributed.step {manager next : QueryManager} {e : QueryEvent}
    (h : Attributed kanna manager) (hok : Undisturbed kanna manager e)
    (hstep : manager.step kanna e = some next) : Attributed kanna next := by
  cases e with
  | fetchBuddhas call =>
      cases hstep
      exact ⟨h.queued, h.delivered⟩
  | arrive call response =>
      obtain ⟨_, heq⟩ := Option.ite_none_right_eq_some.mp hstep
      cases heq
      refine ⟨?_, h.delivered⟩
      apply forall_sent h.queued
      intro owed howed
      cases howed
  | runMain =>
      cases hqueue : manager.mainQueue with
      | nil => simp [QueryManager.step, hqueue] at hstep
      | cons block rest =>
          simp only [QueryManager.step, hqueue, Option.some.injEq] at hstep
          subst hstep
          have hrest : ∀ other ∈ rest, other ∈ manager.mainQueue := by
            intro other hmem
            rw [hqueue]
            exact List.mem_cons_of_mem block hmem
          cases block with
          | respond call response =>
              refine h.respond hrest ?_
              simpa [Undisturbed, hqueue] using hok
          | complete call response =>
              exact h.complete hrest (by simp [hqueue])

/-- So does every run. -/
theorem Attributed.along {manager final : QueryManager} {events : List QueryEvent}
    (h : Attributed kanna manager)
    (hok : Meets (QueryManager.step kanna) (Undisturbed kanna) manager events)
    (hrun : run (QueryManager.step kanna) manager events = some final) :
    Attributed kanna final := by
  refine run_invariant ?_ h hok hrun
  intro manager e next h hok hstep
  exact h.step hok hstep

/-- **The own list.**  In every run whose events meet the condition, whatever the
number of calls and the order of their responses, every completion called
without an error message is given the list of its own response. -/
theorem own_list_delivered (kanna : Kanna Node) (events : List QueryEvent)
    (final : QueryManager) (hok : Meets (step kanna) (Undisturbed kanna) shared events)
    (hrun : run (step kanna) shared events = some final) :
    ∀ delivery ∈ final.delivered, delivery.Own kanna := by
  have hfinal : Attributed kanna final := (Attributed.of_shared kanna).along hok hrun
  exact hfinal.delivered

/-- A page whose listing is one empty item. -/
def oneItem : String := "<p class='listchannel'></p>"

/-- Kanna on the pages used below: `oneItem` has one item, without content, and
no other page has any. -/
def smallPages : Kanna String :=
  { boundary := (Foundation.Composition.separate Char).boundary
    html := fun htmlString => some htmlString
    xpath := fun node query =>
      if node = oneItem ∧ query = "//*[@class='listchannel']" then [""] else []
    text := fun _ => none
    subscript := fun _ _ => none }

/-- The listing of `oneItem`. -/
def oneBuddha : List Buddha := [Buddha.init "" "" "" "" "" ""]

/-- The call with this id, on one site and for one page. -/
def callOf (id : Nat) : Call := { id := id, buddhaType := .porn_91, page := 1 }

/-- Two requests overlap, but each completion runs before the next handler. -/
def oneAfterAnother : List QueryEvent :=
  [.fetchBuddhas (callOf 1), .fetchBuddhas (callOf 2),
   .arrive (callOf 2) (.success (some oneItem)), .runMain, .runMain,
   .arrive (callOf 1) (.success (some "<p></p>")), .runMain, .runMain]

/-- Both completions are given their own lists. -/
theorem own_list_delivered_oneAfterAnother :
    ∃ final, run (step smallPages) shared oneAfterAnother = some final ∧
      ∀ delivery ∈ final.delivered, delivery.Own smallPages :=
  ⟨_, rfl, own_list_delivered smallPages oneAfterAnother _ (by decide) rfl⟩

/-- Three responses are handled before the first completion runs: an empty
listing, a listing of one item, and an empty body. -/
def threeInARow : List QueryEvent :=
  [.fetchBuddhas (callOf 1), .fetchBuddhas (callOf 2), .fetchBuddhas (callOf 3),
   .arrive (callOf 1) (.success (some "<p></p>")),
   .arrive (callOf 2) (.success (some oneItem)),
   .arrive (callOf 3) (.success (some "")),
   .runMain, .runMain, .runMain, .runMain, .runMain, .runMain]

/-- **Another call's list.**  All three completions are given the list of the
second call without an error message; the first response parses to the empty
list and the third to none. -/
theorem lists_delivered_to_others :
    ∃ final, run (step smallPages) shared threeInARow = some final ∧
      (final.delivered.map fun delivery =>
        (delivery.call.id, delivery.buddhas, delivery.errorMessage)) =
        [(1, oneBuddha, none), (2, oneBuddha, none), (3, oneBuddha, none)] ∧
      ownList smallPages .porn_91 (.success (some "<p></p>")) = some [] ∧
      ownList smallPages .porn_91 (.success (some "")) = none ∧
      ¬ ∀ delivery ∈ final.delivered, delivery.Own smallPages := by
  refine ⟨_, rfl, ?_⟩
  decide

end QueryManager

end QLadder
