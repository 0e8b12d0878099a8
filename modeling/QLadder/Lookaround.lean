import QLadder.Foundation

/-!
# Texts between delimiters

The matches of a regular expression `(?<=B).*?(?=A)`, where `A` is one
character: what is matched is as short as possible, may be empty, and lies
between two delimiters that are not part of it.  The search goes on where the
last match ended, one character further if the match was empty.

What `B` matches ends with a character that `A` matches too.  So no match
starts inside another one, and the search finds a match wherever there is one
(`matchesIn_eq`), in the order of their places.
-/

open Foundation

/-- A regular expression `(?<=B).*?(?=A)`. -/
structure Lookaround (χ : Type) where
  /-- `B` matches at the end of the text before -/
  behind : List χ → Bool
  dot : χ → Bool
  ahead : χ → Bool
  anchored : ∀ before c, behind (before ++ [c]) = true → ahead c = true

namespace Lookaround

variable {χ : Type} (p : Lookaround χ)

/-- `.*?(?=A)` at the start of a text. -/
def lazyRun : List χ → Option (List χ)
  | [] => none
  | c :: cs =>
      if p.ahead c then some []
      else if p.dot c then (lazyRun cs).map fun run => c :: run
      else none

/-- The match, if there is one, between two parts of a text. -/
def matchAt (before rest : List χ) : Option (List χ) :=
  if p.behind before then p.lazyRun rest else none

/-- The matches from a place on; `skip` characters belong to the last one. -/
def matchesFrom (before : List χ) (skip : Nat) : List χ → List NSRange
  | [] => []
  | c :: cs =>
      match skip with
      | skip + 1 => matchesFrom (before ++ [c]) skip cs
      | 0 =>
          match p.matchAt before (c :: cs) with
          | some run =>
              { location := before.length, length := run.length } ::
                matchesFrom (before ++ [c]) (run.length - 1) cs
          | none => matchesFrom (before ++ [c]) 0 cs

/-- The matches in a text. -/
def matchesIn (text : List χ) : List NSRange :=
  p.matchesFrom [] 0 text

/-- The text is `before`, `run` and a rest, and the expression matches `run`. -/
structure Hit (text before run : List χ) : Prop where
  behind : p.behind before = true
  inside : ∀ c ∈ run, p.dot c = true ∧ p.ahead c = false
  ahead : ∃ c rest, text = before ++ (run ++ c :: rest) ∧ p.ahead c = true

variable {p}

/-! ## One place -/

theorem lazyRun_eq_some {rest run : List χ} :
    p.lazyRun rest = some run ↔
      (∀ c ∈ run, p.dot c = true ∧ p.ahead c = false) ∧
        ∃ c later, rest = run ++ c :: later ∧ p.ahead c = true := by
  induction rest generalizing run with
  | nil => simp [lazyRun]
  | cons c cs ih =>
      rw [lazyRun]
      constructor
      · intro h
        split at h
        next hahead =>
          cases h
          exact ⟨by simp, c, cs, rfl, hahead⟩
        next hahead =>
          obtain ⟨hdot, hrest⟩ := Option.ite_none_right_eq_some.mp h
          obtain ⟨later, hlater, rfl⟩ := Option.map_eq_some_iff.mp hrest
          obtain ⟨hinside, d, tail, rfl, hd⟩ := ih.mp hlater
          refine ⟨?_, d, tail, rfl, hd⟩
          intro x hx
          rcases List.mem_cons.mp hx with rfl | hx
          · exact ⟨hdot, by simpa using hahead⟩
          · exact hinside x hx
      · rintro ⟨hinside, d, tail, heq, hd⟩
        cases run with
        | nil =>
            cases heq
            exact if_pos hd
        | cons x run =>
            cases heq
            obtain ⟨hdot, hahead⟩ := hinside c List.mem_cons_self
            have hlater : p.lazyRun (run ++ d :: tail) = some run :=
              ih.mpr ⟨fun y hy => hinside y (List.mem_cons_of_mem c hy), d, tail, rfl, hd⟩
            simp [hdot, hahead, hlater]

theorem matchAt_eq_some {before rest run : List χ} :
    p.matchAt before rest = some run ↔ p.Hit (before ++ rest) before run := by
  unfold matchAt
  rw [Option.ite_none_right_eq_some, lazyRun_eq_some]
  constructor
  · rintro ⟨hbehind, hinside, c, later, rfl, hc⟩
    exact ⟨hbehind, hinside, c, later, rfl, hc⟩
  · rintro ⟨hbehind, hinside, c, later, heq, hc⟩
    exact ⟨hbehind, hinside, c, later, List.append_cancel_left heq, hc⟩

/-! ## All places -/

/-- The match at a place of a text. -/
def rangeAt (p : Lookaround χ) (text : List χ) (place : Nat) : Option NSRange :=
  (p.matchAt (text.take place) (text.drop place)).map fun run =>
    { location := place, length := run.length }

/-- In the characters to skip no match starts. -/
def Quiet (p : Lookaround χ) (before : List χ) (skip : Nat) (rest : List χ) : Prop :=
  (skip ≠ 0 → p.behind before = false) ∧ ∀ c ∈ rest.take (skip - 1), p.ahead c = false

theorem behind_eq_false {before : List χ} {c : χ} (h : p.ahead c = false) :
    p.behind (before ++ [c]) = false := by
  cases hbehind : p.behind (before ++ [c]) with
  | false => rfl
  | true =>
      rw [p.anchored before c hbehind] at h
      cases h

/-- Past the first character of a match no other starts before its end. -/
theorem quiet_of_match {before cs run : List χ} {c : χ}
    (h : p.matchAt before (c :: cs) = some run) :
    p.Quiet (before ++ [c]) (run.length - 1) cs := by
  obtain ⟨_, hinside, d, later, heq, _⟩ := matchAt_eq_some.mp h
  have hrest : c :: cs = run ++ d :: later := List.append_cancel_left heq
  cases run with
  | nil => exact ⟨fun hzero => absurd rfl hzero, by simp⟩
  | cons x run =>
      have hc : c = x := (List.cons.inj hrest).1
      have hcs : cs = run ++ d :: later := (List.cons.inj hrest).2
      refine ⟨fun _ => behind_eq_false ?_, ?_⟩
      · rw [hc]
        exact (hinside x List.mem_cons_self).2
      · intro y hy
        rw [hcs, List.length_cons, List.take_append_of_le_length (by omega)] at hy
        exact (hinside y (List.mem_cons_of_mem x (List.mem_of_mem_take hy))).2

theorem Quiet.tail {before cs : List χ} {c : χ} {skip : Nat}
    (h : p.Quiet before (skip + 1) (c :: cs)) : p.Quiet (before ++ [c]) skip cs := by
  cases skip with
  | zero => exact ⟨fun hzero => absurd rfl hzero, by simp⟩
  | succ skip =>
      refine ⟨fun _ => behind_eq_false (h.2 c (by simp)), ?_⟩
      intro y hy
      exact h.2 y (List.mem_cons_of_mem c hy)

/-- **Nothing is skipped.**  The search finds the match at every place. -/
theorem matchesFrom_eq {before rest : List χ} {skip : Nat} (h : p.Quiet before skip rest) :
    p.matchesFrom before skip rest =
      (List.range' before.length rest.length).filterMap
        (p.rangeAt (before ++ rest)) := by
  induction rest generalizing before skip with
  | nil => rfl
  | cons c cs ih =>
      have hhere : p.rangeAt (before ++ c :: cs) before.length =
          (p.matchAt before (c :: cs)).map fun run =>
            { location := before.length, length := run.length } := by
        simp [rangeAt]
      have hlater : ∀ skip, p.Quiet (before ++ [c]) skip cs →
          p.matchesFrom (before ++ [c]) skip cs =
            (List.range' (before.length + 1) cs.length).filterMap
              (p.rangeAt (before ++ c :: cs)) := by
        intro skip hquiet
        simpa using ih hquiet
      rw [List.length_cons, List.range'_succ]
      cases skip with
      | succ skip =>
          have hnone : p.matchAt before (c :: cs) = none := by
            simp [matchAt, h.1 (Nat.succ_ne_zero skip)]
          rw [matchesFrom, List.filterMap_cons_none (by rw [hhere, hnone]; rfl)]
          exact hlater skip h.tail
      | zero =>
          cases hmatch : p.matchAt before (c :: cs) with
          | some run =>
              rw [matchesFrom, hmatch, List.filterMap_cons_some (by rw [hhere, hmatch]; rfl)]
              exact congrArg _ (hlater _ (quiet_of_match hmatch))
          | none =>
              rw [matchesFrom, hmatch, List.filterMap_cons_none (by rw [hhere, hmatch]; rfl)]
              exact hlater 0 ⟨fun hzero => absurd rfl hzero, by simp⟩

theorem matchesIn_eq (p : Lookaround χ) (text : List χ) :
    p.matchesIn text = (List.range' 0 text.length).filterMap (p.rangeAt text) :=
  matchesFrom_eq ⟨fun hzero => absurd rfl hzero, by simp⟩

/-! ## Matches and their places -/

theorem Hit.length_lt {text before run : List χ} (h : p.Hit text before run) :
    before.length + run.length < text.length := by
  obtain ⟨_, _, c, rest, rfl, _⟩ := h
  simp only [List.length_append, List.length_cons]
  omega

/-- A match is what the text has at its place. -/
theorem Hit.substring {text before run : List χ} (h : p.Hit text before run) :
    substring text { location := before.length, length := run.length } = run := by
  obtain ⟨_, _, c, rest, rfl, _⟩ := h
  simp [Foundation.substring]

/-- At one place there is one match. -/
theorem Hit.unique {text before run run' : List χ} (h : p.Hit text before run)
    (h' : p.Hit text before run') : run = run' := by
  obtain ⟨_, _, c, rest, rfl, _⟩ := id h
  have heq := (matchAt_eq_some.mpr h).symm.trans (matchAt_eq_some.mpr h')
  exact Option.some.inj heq

/-- A match stays one if the text goes on. -/
theorem Hit.extend {text whole before run : List χ} (h : p.Hit text before run)
    (hstarts : text <+: whole) : p.Hit whole before run := by
  obtain ⟨more, rfl⟩ := hstarts
  obtain ⟨hbehind, hinside, c, rest, rfl, hc⟩ := h
  exact ⟨hbehind, hinside, c, rest ++ more, by simp, hc⟩

/-- A match stays one if the text is cut behind its delimiter. -/
theorem Hit.take {text before run : List χ} {n : Nat} (h : p.Hit text before run)
    (hclosed : before.length + run.length < n) : p.Hit (text.take n) before run := by
  obtain ⟨hbehind, hinside, c, rest, rfl, hc⟩ := h
  obtain ⟨k, rfl⟩ : ∃ k, n = before.length + (run.length + (k + 1)) :=
    ⟨n - (before.length + run.length + 1), by omega⟩
  refine ⟨hbehind, hinside, c, rest.take k, ?_, hc⟩
  rw [List.take_length_add_append, List.take_length_add_append, List.take_succ_cons]

/-- The matches found are those there are. -/
theorem mem_matchesIn {text : List χ} {range : NSRange} :
    range ∈ p.matchesIn text ↔ ∃ before run, p.Hit text before run ∧
      range = { location := before.length, length := run.length } := by
  rw [matchesIn_eq, List.mem_filterMap]
  constructor
  · rintro ⟨place, hplace, hrange⟩
    obtain ⟨run, hrun, rfl⟩ := Option.map_eq_some_iff.mp hrange
    have hhit := matchAt_eq_some.mp hrun
    rw [List.take_append_drop] at hhit
    have hless : place < text.length := by simpa using hplace
    refine ⟨text.take place, run, hhit, ?_⟩
    rw [List.length_take, Nat.min_eq_left (Nat.le_of_lt hless)]
  · rintro ⟨before, run, hhit, rfl⟩
    have hless := hhit.length_lt
    refine ⟨before.length, by simp only [List.mem_range'_1]; omega, ?_⟩
    obtain ⟨_, _, c, rest, rfl, _⟩ := id hhit
    simp [rangeAt, matchAt_eq_some.mpr hhit]

/-- The matches are found in the order of their places. -/
theorem pairwise_matchesIn (text : List χ) :
    (p.matchesIn text).Pairwise fun range later => range.location < later.location := by
  rw [matchesIn_eq, List.pairwise_filterMap]
  refine List.Pairwise.imp ?_ List.pairwise_lt_range'
  intro place later hless range hrange other hother
  obtain ⟨_, _, rfl⟩ := Option.map_eq_some_iff.mp hrange
  obtain ⟨_, _, rfl⟩ := Option.map_eq_some_iff.mp hother
  exact hless

/-! ## The last match -/

variable (p) in
/-- The last match that is not empty. -/
structure LastHit (text before run : List χ) : Prop where
  hit : p.Hit text before run
  filled : run ≠ []
  last : ∀ other value, p.Hit text other value → value ≠ [] → other.length ≤ before.length

variable (p) in
/-- The value is the last match that is not empty, or empty if there is none. -/
def LastValue (text value : List χ) : Prop :=
  (∃ before, p.LastHit text before value) ∨
    value = [] ∧ ∀ before run, p.Hit text before run → run = []

variable (p) in
/-- The value is the last one of the matches that are not empty and are closed
within the first `n` characters, or empty if there is none. -/
def LastClosed (n : Nat) (text value : List χ) : Prop :=
  (∃ before, p.Hit text before value ∧ value ≠ [] ∧ before.length + value.length < n ∧
    ∀ other run, p.Hit text other run → run ≠ [] → other.length + run.length < n →
      other.length ≤ before.length) ∨
    value = [] ∧
      ∀ before run, p.Hit text before run → before.length + run.length < n → run = []

theorem LastHit.unique {text before run before' run' : List χ}
    (h : p.LastHit text before run) (h' : p.LastHit text before' run') : run = run' := by
  have hlength : before.length = before'.length :=
    Nat.le_antisymm (h'.last before run h.hit h.filled) (h.last before' run' h'.hit h'.filled)
  obtain ⟨_, _, c, rest, htext, _⟩ := h.hit
  obtain ⟨_, _, c', rest', htext', _⟩ := h'.hit
  have hbefore : before = before' := List.append_inj_left (htext.symm.trans htext') hlength
  subst hbefore
  exact h.hit.unique h'.hit

theorem LastValue.unique {text value value' : List χ} (h : p.LastValue text value)
    (h' : p.LastValue text value') : value = value' := by
  rcases h with ⟨before, h⟩ | ⟨rfl, hnone⟩
  · rcases h' with ⟨before', h'⟩ | ⟨rfl, hnone⟩
    · exact h.unique h'
    · exact absurd (hnone before value h.hit) h.filled
  · rcases h' with ⟨before', h'⟩ | ⟨rfl, _⟩
    · exact absurd (hnone before' value' h'.hit) h'.filled
    · rfl

/-- The matches that a cut leaves are those closed before it. -/
theorem hit_take_iff {text before run : List χ} {n : Nat} :
    p.Hit (text.take n) before run ↔
      p.Hit text before run ∧ before.length + run.length < n := by
  constructor
  · intro h
    have hless := h.length_lt
    rw [List.length_take] at hless
    exact ⟨h.extend (List.take_prefix n text), by omega⟩
  · rintro ⟨h, hclosed⟩
    exact h.take hclosed

theorem lastValue_take_iff {text value : List χ} {n : Nat} :
    p.LastValue (text.take n) value ↔ p.LastClosed n text value := by
  unfold LastValue LastClosed
  constructor
  · rintro (⟨before, hlast⟩ | ⟨hnil, hnone⟩)
    · obtain ⟨hhit, hclosed⟩ := hit_take_iff.mp hlast.hit
      refine Or.inl ⟨before, hhit, hlast.filled, hclosed, ?_⟩
      intro other run hother hrun hother'
      exact hlast.last other run (hother.take hother') hrun
    · exact Or.inr ⟨hnil, fun before run hhit hclosed => hnone before run (hhit.take hclosed)⟩
  · rintro (⟨before, hhit, hfilled, hclosed, hlast⟩ | ⟨hnil, hnone⟩)
    · refine Or.inl ⟨before, hhit.take hclosed, hfilled, ?_⟩
      intro other run hother hrun
      obtain ⟨hother', hclosed'⟩ := hit_take_iff.mp hother
      exact hlast other run hother' hrun hclosed'
    · refine Or.inr ⟨hnil, ?_⟩
      intro before run hhit
      obtain ⟨hhit', hclosed⟩ := hit_take_iff.mp hhit
      exact hnone before run hhit' hclosed

theorem LastClosed.unique {text value value' : List χ} {n : Nat}
    (h : p.LastClosed n text value) (h' : p.LastClosed n text value') : value = value' :=
  (lastValue_take_iff.mpr h).unique (lastValue_take_iff.mpr h')

/-- The last match of a text, if it is closed in time, is the last one closed. -/
theorem LastHit.closed {text before run : List χ} {n : Nat} (h : p.LastHit text before run)
    (hclosed : before.length + run.length < n) : p.LastClosed n text run :=
  Or.inl ⟨before, h.hit, h.filled, hclosed,
    fun other value hother hvalue _ => h.last other value hother hvalue⟩

/-- **From behind.**  The first match from behind that is not empty is the last
one, also if it is read off a longer text. -/
theorem lastValue_of_find {text whole : List χ} (hstarts : text <+: whole) :
    p.LastValue text
      ((((p.matchesIn text).reverse.find? fun range =>
        !(substring whole range).isEmpty).map (substring whole)).getD []) := by
  have hread : ∀ {before run : List χ}, p.Hit text before run →
      substring whole { location := before.length, length := run.length } = run :=
    fun hhit => (hhit.extend hstarts).substring
  cases hfind : (p.matchesIn text).reverse.find? fun range =>
      !(substring whole range).isEmpty with
  | none =>
      refine Or.inr ⟨rfl, ?_⟩
      intro before run hhit
      have hmem := List.mem_reverse.mpr (mem_matchesIn.mpr ⟨before, run, hhit, rfl⟩)
      simpa [hread hhit] using List.find?_eq_none.mp hfind _ hmem
  | some range =>
      obtain ⟨hfilled, later, earlier, hsplit, hempty⟩ := List.find?_eq_some_iff_append.mp hfind
      have hall : p.matchesIn text = earlier.reverse ++ range :: later.reverse := by
        simpa using congrArg List.reverse hsplit
      have hmem : range ∈ p.matchesIn text := by simp [hall]
      obtain ⟨before, run, hhit, rfl⟩ := mem_matchesIn.mp hmem
      have horder := pairwise_matchesIn (p := p) text
      rw [hread hhit] at hfilled
      rw [hall, List.pairwise_append] at horder
      refine Or.inl ⟨before, ?_, ?_, ?_⟩
      · simpa [hread hhit] using hhit
      · simpa [hread hhit] using hfilled
      · intro other value hother hvalue
        have hmem' := mem_matchesIn.mpr ⟨other, value, hother, rfl⟩
        rw [hall, List.mem_append, List.mem_cons] at hmem'
        rcases hmem' with hbefore | hhere | hlater
        · exact Nat.le_of_lt (horder.2.2 _ hbefore _ List.mem_cons_self)
        · exact Nat.le_of_eq (congrArg NSRange.location hhere)
        · have hnil := hempty _ (List.mem_reverse.mp hlater)
          rw [hread hother] at hnil
          exact absurd (by simpa using hnil) hvalue

theorem exists_lastValue (p : Lookaround χ) (text : List χ) : ∃ value, p.LastValue text value :=
  ⟨_, lastValue_of_find (List.prefix_rfl)⟩

end Lookaround
