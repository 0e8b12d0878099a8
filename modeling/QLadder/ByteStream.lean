/-!
# Streams that arrive in pieces

A transport hands a stream of bytes over in pieces whose borders mean nothing.
A stage of a protocol keeps a state and turns every piece into the next piece
of its own output.  This file collects what can be said about such stages
without knowing what they do:

* `CutAnywhere` — it makes no difference to a stage where a piece is cut;
* `feed_cons` — such a stage turns all pieces together into what it makes of
  the whole stream at once;
* `CutAnywhere.pipe`, `CutAnywhere.gather` — two such stages behind one another
  are such a stage, and so is one that needs the front of the stream to start;
* `Simulates.feed` — a stage that does what another one does, does so to the end;
* `each_restores` — a stage that works element by element is undone by one whose
  steps undo its steps.

Ciphers that work byte by byte are such stages: `xorAt` adds a key stream, and
`cfbEncrypt` and `cfbDecrypt` are the cipher feedback mode of a block cipher.
-/

namespace ByteStream

variable {σ τ α β γ : Type _}

/-- Hand over the pieces one after another and join what comes out. -/
def feed (f : σ → List α → List β × σ) : σ → List (List α) → List β × σ
  | s, [] => ([], s)
  | s, xs :: rest =>
      let out := f s xs
      let more := feed f out.2 rest
      (out.1 ++ more.1, more.2)

/-- It makes no difference where a piece is cut. -/
def CutAnywhere (f : σ → List α → List β × σ) : Prop :=
  ∀ s xs ys, f s (xs ++ ys) =
    ((f s xs).1 ++ (f (f s xs).2 ys).1, (f (f s xs).2 ys).2)

/-- All pieces together give what the whole stream gives. -/
theorem feed_cons {f : σ → List α → List β × σ} (hf : CutAnywhere f) (s : σ)
    (xs : List α) (rest : List (List α)) :
    feed f s (xs :: rest) = f s (xs :: rest).flatten := by
  induction rest generalizing s xs with
  | nil => simp [feed]
  | cons ys rest ih =>
      have hrest := ih (f s xs).2 ys
      rw [List.flatten_cons, hf s xs, ← hrest]
      rfl

/-- The same for no pieces at all, if nothing comes of nothing. -/
theorem feed_eq {f : σ → List α → List β × σ} (hf : CutAnywhere f) {s : σ}
    (hnil : (f s []).1 = []) (pieces : List (List α)) :
    (feed f s pieces).1 = (f s pieces.flatten).1 := by
  cases pieces with
  | nil => exact hnil.symm
  | cons xs rest => rw [feed_cons hf]

/-- What comes out of the first part of a stream is the first part of what
comes out of the stream. -/
theorem CutAnywhere.fst_mono {f : σ → List α → List β × σ} (hf : CutAnywhere f)
    (s : σ) {xs zs : List α} (h : xs <+: zs) : (f s xs).1 <+: (f s zs).1 := by
  obtain ⟨ys, rfl⟩ := h
  rw [hf]
  exact List.prefix_append _ _

/-- Two stages behind one another. -/
def pipe (f : σ → List α → List β × σ) (g : τ → List β → List γ × τ) :
    σ × τ → List α → List γ × (σ × τ) :=
  fun s xs =>
    let mid := f s.1 xs
    let out := g s.2 mid.1
    (out.1, mid.2, out.2)

theorem CutAnywhere.pipe {f : σ → List α → List β × σ} {g : τ → List β → List γ × τ}
    (hf : CutAnywhere f) (hg : CutAnywhere g) : CutAnywhere (ByteStream.pipe f g) := by
  intro s xs ys
  simp only [ByteStream.pipe]
  rw [hf, hg]

/-- Send something ahead of the first piece. -/
def lead (ahead : List α) : Bool → List α → List α × Bool :=
  fun sent xs => (if sent then xs else ahead ++ xs, true)

theorem lead_cut (ahead : List α) : CutAnywhere (lead ahead) := by
  intro sent xs ys
  cases sent <;> simp [lead]

/-- A stage that gathers the first elements of the stream, and goes on from what
they say. -/
inductive Gathering (α σ : Type _) where
  | waiting (front : List α)
  | going (s : σ)

def gather (n : Nat) (start : List α → σ) (f : σ → List α → List β × σ) :
    Gathering α σ → List α → List β × Gathering α σ
  | .waiting front, xs =>
      if n ≤ (front ++ xs).length then
        let out := f (start ((front ++ xs).take n)) ((front ++ xs).drop n)
        (out.1, .going out.2)
      else
        ([], .waiting (front ++ xs))
  | .going s, xs =>
      let out := f s xs
      (out.1, .going out.2)

theorem CutAnywhere.gather {f : σ → List α → List β × σ} (hf : CutAnywhere f) (n : Nat)
    (start : List α → σ) : CutAnywhere (ByteStream.gather n start f) := by
  intro s xs ys
  cases s with
  | going s => simp only [ByteStream.gather, hf s xs ys]
  | waiting front =>
      rcases Nat.lt_or_ge (front ++ xs).length n with hshort | henough
      · simp only [ByteStream.gather, if_neg (Nat.not_le.mpr hshort), List.append_assoc,
          List.nil_append]
      · have hmore : n ≤ (front ++ (xs ++ ys)).length := by
          rw [← List.append_assoc, List.length_append]
          omega
        simp only [ByteStream.gather, if_pos henough, if_pos hmore]
        rw [← List.append_assoc, List.take_append_of_le_length henough,
          List.drop_append_of_le_length henough, hf]

/-- The stage `f` does what the stage `g` does. -/
def Simulates (R : σ → τ → Prop) (f : σ → List α → List β × σ)
    (g : τ → List α → List β × τ) : Prop :=
  ∀ s t xs, R s t → (f s xs).1 = (g t xs).1 ∧ R (f s xs).2 (g t xs).2

theorem Simulates.feed {R : σ → τ → Prop} {f : σ → List α → List β × σ}
    {g : τ → List α → List β × τ} (h : Simulates R f g) {s : σ} {t : τ} (hst : R s t)
    (pieces : List (List α)) :
    (ByteStream.feed f s pieces).1 = (ByteStream.feed g t pieces).1 := by
  induction pieces generalizing s t with
  | nil => rfl
  | cons xs rest ih =>
      obtain ⟨hout, hnext⟩ := h s t xs hst
      simp only [ByteStream.feed, hout, ih hnext]

/-! ## Element by element -/

/-- A stage that turns elements into elements. -/
def each (step : σ → α → β × σ) : σ → List α → List β × σ
  | s, [] => ([], s)
  | s, x :: xs =>
      let out := step s x
      let more := each step out.2 xs
      (out.1 :: more.1, more.2)

theorem each_cut (step : σ → α → β × σ) : CutAnywhere (each step) := by
  intro s xs ys
  induction xs generalizing s with
  | nil => rfl
  | cons x xs ih => simp only [List.cons_append, each, ih]

/-- If one step undoes another and the states stay related, then the stages undo
each other. -/
theorem each_restores {step : σ → α → β × σ} {back : τ → β → α × τ} {R : σ → τ → Prop}
    (hstep : ∀ s t x, R s t → (back t (step s x).1).1 = x ∧
      R (step s x).2 (back t (step s x).1).2)
    {s : σ} {t : τ} (h : R s t) (xs : List α) :
    (each back t (each step s xs).1).1 = xs := by
  induction xs generalizing s t with
  | nil => rfl
  | cons x xs ih =>
      obtain ⟨hx, hrest⟩ := hstep s t x h
      simp only [each, hx, ih hrest]

/-! ## Ciphers -/

/-- Add the byte of a key stream at the position reached. -/
def xorAt (keystream : Nat → UInt8) : Nat → UInt8 → UInt8 × Nat :=
  fun position x => (x ^^^ keystream position, position + 1)

/-- A key stream from a position on, added to a piece. -/
theorem each_xorAt (keystream : Nat → UInt8) (position : Nat) (xs : List UInt8) :
    each (xorAt keystream) position xs =
      (xs.mapIdx fun i x => x ^^^ keystream (position + i), position + xs.length) := by
  induction xs generalizing position with
  | nil => rfl
  | cons x xs ih =>
      have hshift : ∀ i, position + 1 + i = position + (i + 1) := by omega
      simp only [each, xorAt, ih, List.mapIdx_cons, List.length_cons, hshift, Nat.add_zero]

/-- Adding a byte twice takes it away. -/
theorem xor_cancel (x k : UInt8) : x ^^^ k ^^^ k = x := by
  rw [UInt8.xor_assoc, UInt8.xor_self, UInt8.xor_zero]

theorem xorAt_restores (keystream : Nat → UInt8) (position : Nat) (xs : List UInt8) :
    (each (xorAt keystream) position (each (xorAt keystream) position xs).1).1 = xs := by
  refine each_restores (R := Eq) ?_ rfl xs
  rintro s _ x rfl
  exact ⟨xor_cancel x (keystream s), rfl⟩

/-- The state of the cipher feedback mode: the last whole block of cipher text,
and what there is of the next one. -/
structure Cfb where
  register : List UInt8
  filled : List UInt8
  deriving DecidableEq, Repr

/-- The byte that the block cipher has for the next place. -/
def Cfb.pad (block : List UInt8 → List UInt8) (s : Cfb) : UInt8 :=
  (block s.register).getD s.filled.length 0

/-- A byte of cipher text enters. -/
def Cfb.shift (s : Cfb) (c : UInt8) : Cfb :=
  if s.filled.length + 1 < s.register.length then
    { s with filled := s.filled ++ [c] }
  else
    { register := s.filled ++ [c], filled := [] }

def cfbEncrypt (block : List UInt8 → List UInt8) (s : Cfb) (x : UInt8) : UInt8 × Cfb :=
  (x ^^^ s.pad block, s.shift (x ^^^ s.pad block))

def cfbDecrypt (block : List UInt8 → List UInt8) (s : Cfb) (c : UInt8) : UInt8 × Cfb :=
  (c ^^^ s.pad block, s.shift c)

theorem cfb_restores (block : List UInt8 → List UInt8) (s : Cfb) (xs : List UInt8) :
    (each (cfbDecrypt block) s (each (cfbEncrypt block) s xs).1).1 = xs := by
  refine each_restores (R := Eq) ?_ rfl xs
  rintro s _ x rfl
  exact ⟨xor_cancel x (s.pad block), rfl⟩

end ByteStream
