/-!
# Runs of a partial step function

Every machine of this development is a function `step : σ → ε → Option σ`: an
event either takes a state to the next one or is not possible in it.  This
file collects what can be said about such machines without knowing anything
about their states or events: how runs split and compose, how a property
that every step keeps is carried along a run, and how one run is followed by
another in which some events have been deleted.

Several laws of the machines below hold only of runs in which every event
meets a condition in the state where it is taken.  `Meets` is that
restriction, and `run_invariant` is the induction over it.
-/

namespace PartialRun

variable {σ ε : Type _} (step : σ → ε → Option σ)

/-- The state after the events, taken one after another; `none` as soon as
one of them is not possible. -/
def run : σ → List ε → Option σ
  | s, [] => some s
  | s, e :: es => (step s e).bind fun t => run t es

/-- Every event of the run meets `ok` in the state in which it is taken. -/
def Meets (ok : σ → ε → Prop) : σ → List ε → Prop
  | _, [] => True
  | s, e :: es => ok s e ∧ ∀ t, step s e = some t → Meets ok t es

variable {step}

/-- A condition that can be decided in every state can be decided along a run. -/
instance Meets.decidable (ok : σ → ε → Prop) [∀ s e, Decidable (ok s e)] :
    ∀ s es, Decidable (Meets step ok s es)
  | _, [] => isTrue trivial
  | s, e :: es =>
      match hstep : step s e with
      | none => decidable_of_iff (ok s e)
          ⟨fun h => ⟨h, fun t ht => by simp [hstep] at ht⟩, And.left⟩
      | some t =>
          have := Meets.decidable ok t es
          decidable_of_iff (ok s e ∧ Meets step ok t es)
            ⟨fun h => ⟨h.1, fun t' ht' => Option.some.inj (hstep.symm.trans ht') ▸ h.2⟩,
              fun h => ⟨h.1, h.2 t hstep⟩⟩

/-- A live run of `e :: es` is a step and a live run of `es`. -/
theorem run_cons_some {s t : σ} {e : ε} {es : List ε}
    (h : run step s (e :: es) = some t) :
    ∃ m, step s e = some m ∧ run step m es = some t :=
  Option.bind_eq_some_iff.mp h

theorem run_nil (s : σ) : run step s [] = some s :=
  rfl

theorem run_cons {s m : σ} {e : ε} {es : List ε} (h : step s e = some m) :
    run step s (e :: es) = run step m es := by
  simp [run, h]

/-- Runs compose at the state in between. -/
theorem run_append {s : σ} (es fs : List ε) :
    run step s (es ++ fs) = (run step s es).bind fun t => run step t fs := by
  induction es generalizing s with
  | nil => rfl
  | cons e es ih =>
      cases hstep : step s e with
      | none => simp [run, hstep]
      | some m => simpa [run, hstep] using ih

/-- Split a live run at any point of its event list. -/
theorem run_append_some {s u : σ} {es fs : List ε}
    (h : run step s (es ++ fs) = some u) :
    ∃ t, run step s es = some t ∧ run step t fs = some u := by
  rw [run_append] at h
  exact Option.bind_eq_some_iff.mp h

/-- A condition met before and after a state in between is met throughout. -/
theorem Meets.append {ok : σ → ε → Prop} {s t : σ} {es fs : List ε}
    (h : Meets step ok s es) (ht : run step s es = some t) (h' : Meets step ok t fs) :
    Meets step ok s (es ++ fs) := by
  induction es generalizing s with
  | nil =>
      cases ht
      exact h'
  | cons e es ih =>
      obtain ⟨m, hm, hrest⟩ := run_cons_some ht
      refine ⟨h.1, fun m' hm' => ?_⟩
      cases hm.symm.trans hm'
      exact ih (h.2 m hm) hrest

/-- Both halves of a run that meets a condition meet it. -/
theorem Meets.split {ok : σ → ε → Prop} {s t : σ} {es fs : List ε}
    (h : Meets step ok s (es ++ fs)) (ht : run step s es = some t) :
    Meets step ok s es ∧ Meets step ok t fs := by
  induction es generalizing s with
  | nil =>
      cases ht
      exact ⟨trivial, h⟩
  | cons e es ih =>
      obtain ⟨m, hm, hrest⟩ := run_cons_some ht
      refine ⟨⟨h.1, fun m' hm' => ?_⟩, (ih (h.2 m hm) hrest).2⟩
      cases hm.symm.trans hm'
      exact (ih (h.2 m hm) hrest).1

/-- A condition that the events of a run meet in every state. -/
theorem Meets.of_forall {ok : σ → ε → Prop} {s : σ} {es : List ε}
    (h : ∀ e ∈ es, ∀ s, ok s e) : Meets step ok s es := by
  induction es generalizing s with
  | nil => trivial
  | cons e es ih =>
      exact ⟨h e List.mem_cons_self s,
        fun _ _ => ih fun e' he' => h e' (List.mem_cons_of_mem e he')⟩

/-- Two conditions on a run are one. -/
theorem Meets.and {ok ok' : σ → ε → Prop} {s : σ} {es : List ε}
    (h : Meets step ok s es) (h' : Meets step ok' s es) :
    Meets step (fun s e => ok s e ∧ ok' s e) s es := by
  induction es generalizing s with
  | nil => trivial
  | cons e es ih =>
      exact ⟨⟨h.1, h'.1⟩, fun t ht => ih (h.2 t ht) (h'.2 t ht)⟩

/-- A property that every step meeting `ok` keeps holds at the end of every
run that meets `ok`. -/
theorem run_invariant {ok : σ → ε → Prop} {Inv : σ → Prop}
    (hstep : ∀ s e t, Inv s → ok s e → step s e = some t → Inv t)
    {s t : σ} {es : List ε} (hinv : Inv s) (hmeets : Meets step ok s es)
    (h : run step s es = some t) : Inv t := by
  induction es generalizing s with
  | nil =>
      cases h
      exact hinv
  | cons e es ih =>
      obtain ⟨m, hm, hrest⟩ := run_cons_some h
      exact ih (hstep s e m hinv hmeets.1 hm) (hmeets.2 m hm) hrest

/-- The unguarded case of `run_invariant`. -/
theorem run_preserves (Inv : σ → Prop)
    (hstep : ∀ s e t, Inv s → step s e = some t → Inv t)
    {s t : σ} {es : List ε} (hinv : Inv s) (h : run step s es = some t) :
    Inv t := by
  induction es generalizing s with
  | nil =>
      cases h
      exact hinv
  | cons e es ih =>
      obtain ⟨m, hm, hrest⟩ := run_cons_some h
      exact ih (hstep s e m hinv hm) hrest

/-- **Exact conditions.**  If a step keeps `Inv` exactly when it meets `ok`, then
`Inv` holds in every state of a live run exactly when the run meets `ok`. -/
theorem forall_prefix_iff_meets {ok : σ → ε → Prop} {Inv : σ → Prop}
    (hstep : ∀ s e t, Inv s → step s e = some t → (Inv t ↔ ok s e))
    {s t : σ} {es : List ε} (hinv : Inv s) (h : run step s es = some t) :
    (∀ past, past <+: es → ∀ mid, run step s past = some mid → Inv mid) ↔
      Meets step ok s es := by
  induction es generalizing s with
  | nil =>
      refine iff_of_true ?_ trivial
      intro past hpast mid hmid
      cases List.prefix_nil.mp hpast
      cases hmid
      exact hinv
  | cons e es ih =>
      obtain ⟨m, hm, hrest⟩ := run_cons_some h
      constructor
      · intro hall
        have hm' : Inv m := hall [e] ⟨es, rfl⟩ m (run_cons hm)
        refine ⟨(hstep s e m hinv hm).mp hm', ?_⟩
        intro m' hstepped
        cases hm.symm.trans hstepped
        apply (ih hm' hrest).mp
        intro past hpast mid hmid
        apply hall (e :: past)
        · exact List.cons_prefix_cons.mpr ⟨rfl, hpast⟩
        · rw [run_cons hm]
          exact hmid
      · rintro ⟨hok, hlater⟩ past hpast mid hmid
        have hm' : Inv m := (hstep s e m hinv hm).mpr hok
        cases past with
        | nil =>
            cases hmid
            exact hinv
        | cons e' past =>
            obtain ⟨rfl, hpast'⟩ := List.cons_prefix_cons.mp hpast
            rw [run_cons hm] at hmid
            exact (ih hm' hrest).mpr (hlater m hm) past hpast' mid hmid

/-- **Deleting events.**  If dropping an event that is not kept leaves two
states related, and a kept event can be taken on both sides of the relation,
then the run without the dropped events is live and ends related. -/
theorem run_filter {ok : σ → ε → Prop} {R : σ → σ → Prop} {keep : ε → Bool}
    (hkeep : ∀ s s' e t, R s s' → ok s e → keep e = true → step s e = some t →
      ∃ t', step s' e = some t' ∧ R t t')
    (hdrop : ∀ s s' e t, R s s' → ok s e → keep e = false →
      step s e = some t → R t s')
    {s s' t : σ} {es : List ε} (hrel : R s s') (hmeets : Meets step ok s es)
    (h : run step s es = some t) :
    ∃ t', run step s' (es.filter keep) = some t' ∧ R t t' := by
  induction es generalizing s s' with
  | nil =>
      cases h
      exact ⟨s', rfl, hrel⟩
  | cons e es ih =>
      obtain ⟨m, hm, hrest⟩ := run_cons_some h
      cases hk : keep e with
      | true =>
          obtain ⟨m', hm', hrel'⟩ := hkeep s s' e m hrel hmeets.1 hk hm
          obtain ⟨t', ht', hfin⟩ := ih hrel' (hmeets.2 m hm) hrest
          refine ⟨t', ?_, hfin⟩
          rw [List.filter_cons_of_pos hk, run_cons hm']
          exact ht'
      | false =>
          rw [List.filter_cons_of_neg (by simp [hk])]
          exact ih (hdrop s s' e m hrel hmeets.1 hk hm) (hmeets.2 m hm) hrest

/-! ## Runs that end -/

variable (step) in
/-- No infinite run starts in the state. -/
def Ends (s : σ) : Prop :=
  Acc (fun t s => ∃ e, step s e = some t) s

/-- **Ranking.**  If every step that meets `ok` goes down in rank, and all runs
from a state meet `ok`, then they end. -/
theorem ends_of_rank {ok : σ → ε → Prop} {Inv : σ → Prop} (rank : σ → Nat)
    (hstep : ∀ s e t, Inv s → ok s e → step s e = some t → Inv t ∧ rank t < rank s)
    {s : σ} (hinv : Inv s) (hmeets : ∀ es, Meets step ok s es) : Ends step s := by
  generalize hrank : rank s = n
  induction n using Nat.strongRecOn generalizing s with
  | ind n ih =>
      refine Acc.intro s ?_
      rintro t ⟨e, ht⟩
      obtain ⟨hinv', hless⟩ := hstep s e t hinv (hmeets [e]).1 ht
      rw [hrank] at hless
      exact ih (rank t) hless hinv' (fun es => (hmeets (e :: es)).2 t ht) rfl

/-- The rank bounds the number of steps. -/
theorem length_le_rank {ok : σ → ε → Prop} {Inv : σ → Prop} (rank : σ → Nat)
    (hstep : ∀ s e t, Inv s → ok s e → step s e = some t → Inv t ∧ rank t < rank s)
    {s t : σ} {es : List ε} (hinv : Inv s) (hmeets : Meets step ok s es)
    (h : run step s es = some t) : es.length ≤ rank s := by
  induction es generalizing s with
  | nil => exact Nat.zero_le _
  | cons e es ih =>
      obtain ⟨m, hm, hrest⟩ := run_cons_some h
      obtain ⟨hinv', hless⟩ := hstep s e m hinv hmeets.1 hm
      have hlength : es.length ≤ rank m := ih hinv' (hmeets.2 m hm) hrest
      rw [List.length_cons]
      omega

/-- **Recurrence.**  If states that satisfy `P` lead on to states that satisfy
`P`, then no run that meets one starts in a state from which all runs end. -/
theorem not_ends_of_recurrent {P : σ → Prop}
    (hP : ∀ s, P s → ∃ e es t, run step s (e :: es) = some t ∧ P t)
    {s t : σ} {es : List ε} (h : run step s es = some t) (ht : P t) : ¬ Ends step s := by
  intro hends
  induction hends generalizing es t with
  | intro s _ ih =>
      cases es with
      | nil =>
          cases h
          obtain ⟨e, es, t, hrun, ht'⟩ := hP s ht
          obtain ⟨m, hm, hrest⟩ := run_cons_some hrun
          exact ih m ⟨e, hm⟩ hrest ht'
      | cons e es =>
          obtain ⟨m, hm, hrest⟩ := run_cons_some h
          exact ih m ⟨e, hm⟩ hrest ht

end PartialRun
