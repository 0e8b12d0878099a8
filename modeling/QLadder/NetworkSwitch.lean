import QLadder.PacketTunnelProvider

/-!
# Which notifications schedule a restart

`observeValue` compares the default path with `lastPath`, but the branch that
schedules a restart leaves `lastPath` as it was.  As long as one satisfied path
follows another, `lastPath` therefore stays at the path that came before them,
or at the first of them.

* `schedules_iff_switched_iff` — a notification does what a switch of the path
  asks for, exactly when `lastPath` still is the previous path, or the new path
  differs from both;
* `coming_back_is_missed` and `repetition_restarts` — the two ways in which it
  does not.
-/

namespace QLadder

namespace PacketTunnelProvider

variable {NWPath : Type} (status : NWPath → NWPathStatus)

/-- The path at place `n` is satisfied and differs from the one before, which is
present. -/
def Switched (paths : List (Option NWPath)) (n : Nat) : Prop :=
  ∃ path previous, 1 ≤ n ∧ paths[n]? = some (some path) ∧ status path = .satisfied ∧
    paths[n - 1]? = some (some previous) ∧ path ≠ previous

/-- The path at the root of the satisfied paths seen last: a path that is not
satisfied is its own root; a satisfied one takes over the root before it, and
is its own if there is none. -/
def rootStep (root path : Option NWPath) : Option NWPath :=
  path.map fun path => if status path = .satisfied then root.getD path else path

def rootOf (paths : List (Option NWPath)) : Option NWPath :=
  paths.foldl (rootStep status) none

/-- Where a satisfied path follows another: the previous one is the root, or
the new one differs from both. -/
def RootFits (paths : List (Option NWPath)) (n : Nat) : Prop :=
  ∀ path previous, 1 ≤ n → paths[n]? = some (some path) → status path = .satisfied →
    paths[n - 1]? = some (some previous) → status previous = .satisfied →
    rootOf status (paths.take n) = some previous ∨
      rootOf status (paths.take n) ≠ some path ∧ path ≠ previous

theorem rootOf_take_succ {paths : List (Option NWPath)} {n : Nat} {path : Option NWPath}
    (h : paths[n]? = some path) :
    rootOf status (paths.take (n + 1)) =
      rootStep status (rootOf status (paths.take n)) path := by
  simp [rootOf, List.take_add_one, h, List.foldl_append]

variable [DecidableEq NWPath]

/-- A notification with a new default path. -/
def notify (provider : PacketTunnelProvider NWPath) (path : Option NWPath) :
    PacketTunnelProvider NWPath :=
  { provider with defaultPath := path }.observeValue status

/-- The provider after the notifications, from `lastPath = nil`. -/
def notified (paths : List (Option NWPath)) : PacketTunnelProvider NWPath :=
  paths.foldl (notify status) (new false none)

/-- The notification for the path at place `n` schedules a restart. -/
def Schedules (paths : List (Option NWPath)) (n : Nat) : Prop :=
  (notified status (paths.take (n + 1))).pendingRestarts =
    (notified status (paths.take n)).pendingRestarts + 1

variable {status}

/-- A path that is not satisfied is remembered, and nothing else. -/
theorem observePath_of_not {path : NWPath} (lastPath : Option NWPath)
    (hnot : status path ≠ .satisfied) :
    observePath status lastPath (some path) = (some path, false) := by
  simp [observePath, hnot]

/-- So is a satisfied path that nothing precedes. -/
theorem observePath_first {path : NWPath} (hsatisfied : status path = .satisfied) :
    observePath status none (some path) = (some path, false) := by
  simp [observePath, hsatisfied]

/-- A satisfied path after another path leaves `lastPath` alone, and schedules
a restart if it differs. -/
theorem observePath_next {path : NWPath} (last : NWPath)
    (hsatisfied : status path = .satisfied) :
    observePath status (some last) (some path) = (some last, decide (path ≠ last)) := by
  by_cases hsame : path = last
  · simp [observePath, hsame]
  · simp [observePath, hsatisfied, hsame]

/-- `lastPath` moves like the root. -/
theorem observePath_fst (lastPath defaultPath : Option NWPath) :
    (observePath status lastPath defaultPath).1 = rootStep status lastPath defaultPath := by
  cases defaultPath with
  | none => simp [observePath, rootStep]
  | some path =>
      by_cases hsatisfied : status path = .satisfied
      · cases lastPath with
        | none => simp [observePath_first hsatisfied, rootStep]
        | some last => simp [observePath_next last hsatisfied, rootStep, hsatisfied]
      · simp [observePath_of_not lastPath hsatisfied, rootStep, hsatisfied]

/-- A restart is scheduled for a satisfied path that differs from a `lastPath`
that is present. -/
theorem observePath_snd (lastPath defaultPath : Option NWPath) :
    (observePath status lastPath defaultPath).2 = true ↔
      ∃ path last, defaultPath = some path ∧ status path = .satisfied ∧
        lastPath = some last ∧ path ≠ last := by
  cases defaultPath with
  | none => simp [observePath]
  | some path =>
      by_cases hsatisfied : status path = .satisfied
      · cases lastPath with
        | none => simp [observePath_first hsatisfied]
        | some last => simp [observePath_next last hsatisfied, hsatisfied]
      · simp [observePath_of_not lastPath hsatisfied, hsatisfied]

/-- `lastPath` after the notifications is the root of their paths. -/
theorem notified_lastPath (paths : List (Option NWPath)) :
    (notified status paths).lastPath = rootOf status paths := by
  have hfold : ∀ (provider : PacketTunnelProvider NWPath) (paths : List (Option NWPath)),
      (paths.foldl (notify status) provider).lastPath =
        paths.foldl (rootStep status) provider.lastPath := by
    intro provider paths
    induction paths generalizing provider with
    | nil => rfl
    | cons path paths ih =>
        have hstep : (notify status provider path).lastPath =
            rootStep status provider.lastPath path := observePath_fst _ _
        rw [List.foldl_cons, List.foldl_cons, ih, hstep]
  exact hfold _ _

/-- What a notification schedules, in terms of the root. -/
theorem schedules_iff {paths : List (Option NWPath)} {n : Nat} {current : Option NWPath}
    (h : paths[n]? = some current) :
    Schedules status paths n ↔
      ∃ path last, current = some path ∧ status path = .satisfied ∧
        rootOf status (paths.take n) = some last ∧ path ≠ last := by
  have hnext : notified status (paths.take (n + 1)) =
      notify status (notified status (paths.take n)) current := by
    simp [notified, List.take_add_one, h, List.foldl_append]
  rw [← notified_lastPath, ← observePath_snd, Schedules, hnext]
  simp only [notify, observeValue]
  split
  · simp [*]
  · simp [*]

/-- The decision at one place: `root` is the root before the previous path. -/
theorem decision_iff (root current previous : Option NWPath) :
    ((∃ path last, current = some path ∧ status path = .satisfied ∧
        rootStep status root previous = some last ∧ path ≠ last) ↔
      (∃ path last, current = some path ∧ status path = .satisfied ∧
        previous = some last ∧ path ≠ last)) ↔
    ∀ path last, current = some path → status path = .satisfied →
      previous = some last → status last = .satisfied →
      rootStep status root previous = some last ∨
        rootStep status root previous ≠ some path ∧ path ≠ last := by
  cases current with
  | none => simp
  | some path =>
      by_cases hpath : status path = .satisfied
      · cases previous with
        | none => simp [rootStep]
        | some last =>
            by_cases hlast : status last = .satisfied
            · -- both satisfied: the root may be an older path
              generalize hroot : root.getD last = old
              have hstep : rootStep status root (some last) = some old := by
                simp [rootStep, hlast, hroot]
              rw [hstep]
              by_cases hsame : old = last
              · simp [hsame]
              · by_cases hback : path = old
                · subst hback
                  simp [hpath, hlast, hsame]
                · simp [hpath, hlast, hsame, hback, Ne.symm hback]
            · simp [rootStep, hlast]
      · have hnone : ∀ other, some path = some other → status other ≠ .satisfied := by
          rintro other ⟨⟩
          exact hpath
        refine iff_of_true (iff_of_false ?_ ?_) ?_
        · exact fun ⟨other, _, heq, hother, _⟩ => hnone other heq hother
        · exact fun ⟨other, _, heq, hother, _⟩ => hnone other heq hother
        · exact fun other _ heq hother => absurd hother (hnone other heq)

/-- **Exactly when a switch restarts.**  For every sequence of paths and every
notification in it: it schedules a restart if and only if the path has
switched, exactly when the root fits there. -/
theorem schedules_iff_switched_iff (status : NWPath → NWPathStatus)
    (paths : List (Option NWPath)) (n : Nat) (hn : n < paths.length) :
    (Schedules status paths n ↔ Switched status paths n) ↔ RootFits status paths n := by
  have hcurrent : paths[n]? = some paths[n] := List.getElem?_eq_getElem hn
  generalize paths[n] = current at hcurrent
  rw [schedules_iff hcurrent]
  cases n with
  | zero => simp [rootOf, Switched, RootFits]
  | succ m =>
      have hprevious : paths[m]? = some paths[m] := List.getElem?_eq_getElem (by omega)
      generalize paths[m] = previous at hprevious
      have hswitched : Switched status paths (m + 1) ↔
          ∃ path last, current = some path ∧ status path = .satisfied ∧
            previous = some last ∧ path ≠ last := by
        simp [Switched, hcurrent, hprevious]
      have hfits : RootFits status paths (m + 1) ↔
          ∀ path last, current = some path → status path = .satisfied →
            previous = some last → status last = .satisfied →
            rootStep status (rootOf status (paths.take m)) previous = some last ∨
              rootStep status (rootOf status (paths.take m)) previous ≠ some path ∧
                path ≠ last := by
        simp [RootFits, hcurrent, hprevious, rootOf_take_succ _ hprevious]
      rw [hswitched, hfits, rootOf_take_succ _ hprevious]
      exact decision_iff _ _ _

/-- A network is left and another one joined. -/
theorem schedules_iff_switched_iff_second :
    (Schedules (fun _ => .satisfied) [some 1, some 2] 1 ↔
      Switched (fun _ => .satisfied) [some 1, some 2] 1) ↔
    RootFits (fun _ => .satisfied) [some 1, some 2] 1 :=
  schedules_iff_switched_iff (fun _ => .satisfied) [some 1, some 2] 1 (by decide)

/-- **Coming back is missed.**  From one satisfied path to another and back: the
way back is a switch and schedules nothing. -/
theorem coming_back_is_missed {here there : NWPath} (hhere : status here = .satisfied)
    (hthere : status there = .satisfied) (hne : here ≠ there) :
    Switched status [some here, some there, some here] 2 ∧
      ¬ Schedules status [some here, some there, some here] 2 := by
  refine ⟨⟨here, there, by decide, rfl, hhere, rfl, hne⟩, ?_⟩
  rw [schedules_iff (show _ = some (some here) from rfl)]
  simp [rootOf, rootStep, hthere]

/-- **A repetition restarts.**  The second notification of the path switched to
schedules another restart. -/
theorem repetition_restarts {here there : NWPath} (hthere : status there = .satisfied)
    (hne : here ≠ there) :
    ¬ Switched status [some here, some there, some there] 2 ∧
      Schedules status [some here, some there, some there] 2 := by
  refine ⟨?_, ?_⟩
  · rintro ⟨path, last, _, hpath, _, hlast, hdifferent⟩
    cases hpath
    cases hlast
    exact hdifferent rfl
  · rw [schedules_iff (show _ = some (some there) from rfl)]
    exact ⟨there, here, rfl, hthere, by simp [rootOf, rootStep, hthere], hne.symm⟩

/-- Two networks, 1 and 2: coming back to 1 schedules no restart. -/
theorem back_to_the_first_network :
    ¬ ∀ n < 3, (Schedules (fun _ => .satisfied) [some 1, some 2, some 1] n ↔
      Switched (fun _ => .satisfied) [some 1, some 2, some 1] n) := by
  intro h
  have hmissed := @coming_back_is_missed Nat (fun _ => .satisfied) _ 1 2 rfl rfl (by decide)
  exact hmissed.2 ((h 2 (by decide)).mpr hmissed.1)

end PacketTunnelProvider

end QLadder
