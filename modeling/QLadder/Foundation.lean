/-!
# The parts of Foundation's string functions the app relies on

A text is the list of its characters, over any type of characters that can be
compared.  Searching never finds the empty text, and splitting at it splits
nothing.

`components(separatedBy:)` takes a text scalar by scalar, and `contains` a list of
`Character`s one by one.  A search in a text that is given by smaller pieces, scalars
or UTF-16 units, finds whole composed characters only: a mark that joins the
character before it hides it.  Where the pieces join is up to the Unicode data
(`Composition`).
-/

namespace Foundation

variable {χ : Type} [DecidableEq χ]

/-- The needle occurs at some place of the text. -/
def occursIn (needle : List χ) : List χ → Bool
  | [] => needle.isEmpty
  | c :: cs => needle.isPrefixOf (c :: cs) || occursIn needle cs

/-- `text.contains(needle)`, for a text given by its `Character`s. -/
def contains (text needle : List χ) : Bool :=
  !needle.isEmpty && occursIn needle text

theorem occursIn_iff (needle text : List χ) :
    occursIn needle text = true ↔ needle <:+: text := by
  induction text with
  | nil => simp [occursIn]
  | cons c cs ih => simp [occursIn, ih, List.infix_cons_iff]

/-- A text contains its non-empty infixes. -/
theorem contains_iff (text needle : List χ) :
    contains text needle = true ↔ needle ≠ [] ∧ needle <:+: text := by
  simp [contains, occursIn_iff]

/-- `text.components(separatedBy: separator)` from a place in the text:
`skip` characters belong to a separator already found, and `part` is the
current component read backwards. -/
def componentsFrom (separator : List χ) (skip : Nat) (part : List χ) :
    List χ → List (List χ)
  | [] => [part.reverse]
  | c :: cs =>
      match skip with
      | skip + 1 => componentsFrom separator skip part cs
      | 0 =>
          if separator ≠ [] ∧ separator.isPrefixOf (c :: cs) then
            part.reverse :: componentsFrom separator (separator.length - 1) [] cs
          else
            componentsFrom separator 0 (c :: part) cs

/-- `text.components(separatedBy: separator)`. -/
def components (text separator : List χ) : List (List χ) :=
  componentsFrom separator 0 [] text

theorem componentsFrom_ne_nil (separator : List χ) (skip : Nat) (part text : List χ) :
    componentsFrom separator skip part text ≠ [] := by
  induction text generalizing skip part with
  | nil => simp [componentsFrom]
  | cons c cs ih =>
      cases skip with
      | succ skip =>
          rw [componentsFrom]
          exact ih skip part
      | zero =>
          rw [componentsFrom]
          split
          · exact List.cons_ne_nil _ _
          · exact ih 0 (c :: part)

/-- There is a second component if the separator occurs in the rest of the text. -/
theorem componentsFrom_second (separator part text : List χ) :
    ((componentsFrom separator 0 part text)[1]?).isSome = contains text separator := by
  induction text generalizing part with
  | nil =>
      cases separator with
      | nil => rfl
      | cons c cs => rfl
  | cons c cs ih =>
      rw [componentsFrom]
      by_cases hhere : separator ≠ [] ∧ separator.isPrefixOf (c :: cs) = true
      · rw [if_pos hhere]
        obtain ⟨hnonempty, hstarts⟩ := hhere
        obtain ⟨first, others, hrest⟩ := List.exists_cons_of_ne_nil
          (componentsFrom_ne_nil separator (separator.length - 1) [] cs)
        have hcontains : contains (c :: cs) separator = true := by
          simp [contains, occursIn, hstarts, hnonempty]
        simp [hrest, hcontains]
      · rw [if_neg hhere, ih]
        by_cases hnonempty : separator = []
        · simp [contains, hnonempty]
        · have hnot : separator.isPrefixOf (c :: cs) = false := by
            cases hstarts : separator.isPrefixOf (c :: cs) with
            | false => rfl
            | true => exact absurd ⟨hnonempty, hstarts⟩ hhere
          simp [contains, occursIn, hnot]

/-- **A second component.**  Splitting gives a second component exactly if the
text contains the separator. -/
theorem components_second (text separator : List χ) :
    ((components text separator)[1]?).isSome = contains text separator :=
  componentsFrom_second separator [] text

/-! ### Splitting and joining -/

theorem componentsFrom_skip (separator part text : List χ) (skip : Nat) :
    componentsFrom separator skip part text =
      componentsFrom separator 0 part (text.drop skip) := by
  induction text generalizing skip with
  | nil => simp [componentsFrom]
  | cons c cs ih =>
      cases skip with
      | zero => rfl
      | succ skip =>
          rw [componentsFrom, List.drop_succ_cons]
          exact ih skip

/-- A separator ends the current component. -/
theorem componentsFrom_separator {separator : List χ} (hnonempty : separator ≠ [])
    (part rest : List χ) :
    componentsFrom separator 0 part (separator ++ rest) =
      part.reverse :: components rest separator := by
  obtain ⟨c, cs, rfl⟩ := List.exists_cons_of_ne_nil hnonempty
  have hhere : (c :: cs).isPrefixOf (c :: (cs ++ rest)) = true :=
    List.isPrefixOf_iff_prefix.mpr (List.prefix_append (c :: cs) rest)
  rw [List.cons_append, componentsFrom, if_pos ⟨hnonempty, hhere⟩, componentsFrom_skip]
  simp [components]

/-- Nowhere in the text before the rest does the separator begin. -/
def Clear (separator rest text : List χ) : Prop :=
  ∀ front back, text = front ++ back → back ≠ [] → ¬ separator <+: back ++ rest

omit [DecidableEq χ] in
theorem Clear.tail {separator rest text : List χ} {c : χ}
    (h : Clear separator rest (c :: text)) : Clear separator rest text := by
  intro front back hsplit
  exact h (c :: front) back (by rw [hsplit, List.cons_append])

omit [DecidableEq χ] in
/-- A clear text does not contain the separator. -/
theorem Clear.absent {separator rest text : List χ} (hnonempty : separator ≠ [])
    (h : Clear separator rest text) : ¬ separator <:+: text := by
  rintro ⟨front, back, hsplit⟩
  apply h front (separator ++ back) (by rw [← hsplit, List.append_assoc])
  · simp [hnonempty]
  · rw [List.append_assoc]
    exact List.prefix_append _ _

theorem componentsFrom_clear {separator rest text : List χ}
    (h : Clear separator rest text) (part : List χ) :
    componentsFrom separator 0 part (text ++ rest) =
      componentsFrom separator 0 (text.reverse ++ part) rest := by
  induction text generalizing part with
  | nil => rfl
  | cons c cs ih =>
      have hnot : ¬ (separator ≠ [] ∧ separator.isPrefixOf (c :: (cs ++ rest)) = true) := by
        rintro ⟨-, hhere⟩
        exact h [] (c :: cs) rfl (List.cons_ne_nil c cs) (List.isPrefixOf_iff_prefix.mp hhere)
      rw [List.cons_append, componentsFrom, if_neg hnot, ih h.tail]
      simp

/-- **The first separator.**  A text is split at the first place where the separator
begins, or not at all. -/
theorem components_cases {separator : List χ} (hnonempty : separator ≠ []) (text : List χ) :
    (¬ separator <:+: text ∧ components text separator = [text]) ∨
      ∃ front rest, text = front ++ separator ++ rest ∧ ¬ separator <:+: front ∧
        components text separator = front :: components rest separator := by
  have hfirst : Clear separator [] text ∨
      ∃ front rest, text = front ++ (separator ++ rest) ∧
        Clear separator (separator ++ rest) front := by
    induction text with
    | nil =>
        left
        intro front back hsplit hback
        exact absurd (List.append_eq_nil_iff.mp hsplit.symm).2 hback
    | cons c cs ih =>
        by_cases hhere : separator <+: c :: cs
        · obtain ⟨rest, hrest⟩ := hhere
          right
          refine ⟨[], rest, hrest.symm, ?_⟩
          intro front back hsplit hback
          exact absurd (List.append_eq_nil_iff.mp hsplit.symm).2 hback
        · cases ih with
          | inl hclear =>
              left
              intro front back hsplit hback
              cases front with
              | nil =>
                  rw [List.append_nil, ← List.nil_append back, ← hsplit]
                  exact hhere
              | cons d front =>
                  obtain ⟨-, htail⟩ := List.cons_eq_cons.mp hsplit
                  exact hclear front back htail hback
          | inr hfound =>
              obtain ⟨before, rest, hrest, hclear⟩ := hfound
              right
              refine ⟨c :: before, rest, by rw [hrest, List.cons_append], ?_⟩
              intro front back hsplit hback
              cases front with
              | nil =>
                  rw [← List.nil_append back, ← hsplit, List.cons_append, ← hrest]
                  exact hhere
              | cons d front =>
                  obtain ⟨-, htail⟩ := List.cons_eq_cons.mp hsplit
                  exact hclear front back htail hback
  cases hfirst with
  | inl hclear =>
      left
      refine ⟨hclear.absent hnonempty, ?_⟩
      have hall := componentsFrom_clear hclear []
      rw [List.append_nil, List.append_nil] at hall
      rw [components, hall, componentsFrom, List.reverse_reverse]
  | inr hfound =>
      obtain ⟨front, rest, hrest, hclear⟩ := hfound
      right
      refine ⟨front, rest, by rw [hrest, List.append_assoc], hclear.absent hnonempty, ?_⟩
      rw [components, hrest, componentsFrom_clear hclear,
        componentsFrom_separator hnonempty, List.append_nil, List.reverse_reverse]

/-- No component contains the separator. -/
theorem not_infix_of_mem_components {separator : List χ} (hnonempty : separator ≠ [])
    {text part : List χ} (h : part ∈ components text separator) : ¬ separator <:+: part := by
  generalize hlength : text.length = n
  induction n using Nat.strongRecOn generalizing text with
  | ind n ih =>
      cases components_cases hnonempty text with
      | inl hwhole =>
          obtain ⟨hnot, hparts⟩ := hwhole
          rw [hparts, List.mem_singleton] at h
          rw [h]
          exact hnot
      | inr hsplit =>
          obtain ⟨front, rest, htext, hnot, hparts⟩ := hsplit
          rw [hparts] at h
          cases List.mem_cons.mp h with
          | inl hpart =>
              rw [hpart]
              exact hnot
          | inr hrest =>
              have hpos := List.length_pos_iff.mpr hnonempty
              have hshorter : rest.length < n := by
                rw [← hlength, htext, List.length_append, List.length_append]
                omega
              exact ih rest.length hshorter hrest rfl

/-- A component is a piece of the text. -/
theorem infix_of_mem_components {separator : List χ} (hnonempty : separator ≠ [])
    {text part : List χ} (h : part ∈ components text separator) : part <:+: text := by
  generalize hlength : text.length = n
  induction n using Nat.strongRecOn generalizing text with
  | ind n ih =>
      cases components_cases hnonempty text with
      | inl hwhole =>
          rw [hwhole.2, List.mem_singleton] at h
          exact h ▸ List.infix_refl part
      | inr hsplit =>
          obtain ⟨front, rest, htext, hnot, hparts⟩ := hsplit
          rw [hparts] at h
          cases List.mem_cons.mp h with
          | inl hpart =>
              rw [hpart, htext, List.append_assoc]
              exact (List.prefix_append front _).isInfix
          | inr hrest =>
              have hpos := List.length_pos_iff.mpr hnonempty
              have hshorter : rest.length < n := by
                rw [← hlength, htext, List.length_append, List.length_append]
                omega
              have hpiece := ih rest.length hshorter hrest rfl
              rw [htext]
              exact hpiece.trans (List.suffix_append _ rest).isInfix

omit [DecidableEq χ] in
/-- A text without the separator is clear in front of one: the first character of
the separator does not come again in it, so that no separator begins in the text
and ends in the next. -/
theorem clear_of_absent {c : χ} {cs text : List χ} (hc : c ∉ cs)
    (hnot : ¬ c :: cs <:+: text) (rest : List χ) : Clear (c :: cs) (c :: cs ++ rest) text := by
  intro front back hsplit hback hbegins
  apply hnot
  by_cases hfits : (c :: cs).length ≤ back.length
  · have hwithin : c :: cs <+: back :=
      List.prefix_of_prefix_length_le hbegins (List.prefix_append back _) hfits
    rw [hsplit]
    exact hwithin.isInfix.trans (List.suffix_append front back).isInfix
  · exfalso
    have hpos := List.length_pos_iff.mpr hback
    have hshort : back.length < (c :: cs).length := by omega
    obtain ⟨after, hafter⟩ := hbegins
    have hget : (c :: cs ++ after)[back.length]? = (back ++ (c :: cs ++ rest))[back.length]? := by
      rw [hafter]
    rw [List.getElem?_append_left hshort, List.getElem?_append_right (Nat.le_refl _),
      Nat.sub_self, List.cons_append, List.getElem?_cons_zero] at hget
    obtain ⟨n, hn⟩ : ∃ n, back.length = n + 1 := ⟨back.length - 1, by omega⟩
    rw [hn, List.getElem?_cons_succ] at hget
    exact hc (List.mem_of_getElem? hget)

/-- **Joining and splitting.**  Parts without the separator come back. -/
theorem components_append {c : χ} {cs part : List χ} (hc : c ∉ cs)
    (hnot : ¬ c :: cs <:+: part) (rest : List χ) :
    components (part ++ (c :: cs ++ rest)) (c :: cs) = part :: components rest (c :: cs) := by
  rw [components, componentsFrom_clear (clear_of_absent hc hnot rest),
    componentsFrom_separator (List.cons_ne_nil c cs), List.append_nil, List.reverse_reverse]

/-- The last part. -/
theorem components_of_absent {separator text : List χ} (hnot : ¬ separator <:+: text) :
    components text separator = [text] := by
  have hnonempty : separator ≠ [] := fun h => hnot (h ▸ List.nil_infix)
  cases components_cases hnonempty text with
  | inl hwhole => exact hwhole.2
  | inr hsplit =>
      obtain ⟨front, rest, htext, -, -⟩ := hsplit
      exact absurd ⟨front, rest, htext.symm⟩ hnot

omit [DecidableEq χ] in
/-- Around a character that it does not have, a text occurs on one side. -/
theorem infix_append_cons {needle front back : List χ} {c : χ} (hc : c ∉ needle)
    (h : needle <:+: front ++ c :: back) : needle <:+: front ∨ needle <:+: back := by
  obtain ⟨before, after, heq⟩ := h
  cases List.append_eq_append_iff.mp heq with
  | inl hfront =>
      obtain ⟨rest, hrest, -⟩ := hfront
      exact Or.inl ⟨before, rest, hrest.symm⟩
  | inr hlater =>
      obtain ⟨rest, hrest, hback⟩ := hlater
      cases rest with
      | nil =>
          rw [List.append_nil] at hrest
          exact Or.inl ⟨before, [], by rw [List.append_nil, hrest]⟩
      | cons d rest =>
          obtain ⟨rfl, rfl⟩ := List.cons_eq_cons.mp hback
          cases List.append_eq_append_iff.mp hrest with
          | inl hacross =>
              obtain ⟨part, -, hneedle⟩ := hacross
              exact absurd (by rw [hneedle]; simp) hc
          | inr hbehind =>
              obtain ⟨part, -, hpart⟩ := hbehind
              cases part with
              | nil => exact absurd (by rw [← List.nil_append needle, ← hpart]; simp) hc
              | cons d part =>
                  obtain ⟨-, htail⟩ := List.cons_eq_cons.mp hpart
                  have hwhole : rest = part ++ needle := htail
                  right
                  refine ⟨part, after, ?_⟩
                  rw [hwhole]
                  rfl

/-! ### Composed characters -/

/-- What the Unicode data say about texts of scalars, or of UTF-16 units. -/
structure Composition (χ : Type) where
  /-- a composed character ends with the first part of a text and another one
  begins with the second -/
  boundary : List χ → List χ → Bool

/-- No two pieces join, as in a text of ASCII characters without line ends. -/
def Composition.separate (χ : Type) : Composition χ where
  boundary := fun _ _ => true

namespace Composition

variable (unicode : Composition χ) (needle replacement : List χ)

/-- Behind `front` the search finds the needle, which is made of ASCII characters. -/
def found (front rest : List χ) : Bool :=
  !needle.isEmpty && needle.isPrefixOf rest && unicode.boundary front rest &&
    unicode.boundary (front ++ needle) (rest.drop needle.length)

/-- The search finds the needle somewhere behind `front`. -/
def foundFrom (front : List χ) : List χ → Bool
  | [] => false
  | c :: cs => unicode.found needle front (c :: cs) || foundFrom (front ++ [c]) cs

/-- `text.contains(needle)`. -/
def contains (text : List χ) : Bool :=
  unicode.foundFrom needle [] text

/-- `text.replacingOccurrences(of: needle, with: replacement)` from a place behind
`front` on: `skip` pieces belong to an occurrence already replaced. -/
def replacingFrom (skip : Nat) (front : List χ) : List χ → List χ
  | [] => []
  | c :: cs =>
      match skip with
      | skip + 1 => replacingFrom skip (front ++ [c]) cs
      | 0 =>
          if unicode.found needle front (c :: cs) then
            replacement ++ replacingFrom (needle.length - 1) (front ++ [c]) cs
          else
            c :: replacingFrom 0 (front ++ [c]) cs

/-- `text.replacingOccurrences(of: needle, with: replacement)`. -/
def replacingOccurrences (text : List χ) : List χ :=
  unicode.replacingFrom needle replacement 0 [] text

variable {unicode}

/-- Every occurrence of a character in `front ++ rest` behind `front` is one that
the search finds. -/
def Alone (unicode : Composition χ) (target : χ) (front rest : List χ) : Prop :=
  ∀ before after, rest = before ++ target :: after →
    unicode.found [target] (front ++ before) (target :: after) = true

omit [DecidableEq χ] in
theorem append_singleton_append (front before : List χ) (c : χ) :
    front ++ [c] ++ before = front ++ c :: before := by
  rw [List.append_assoc, List.singleton_append]

theorem Alone.tail {target c : χ} {front cs : List χ}
    (h : unicode.Alone target front (c :: cs)) : unicode.Alone target (front ++ [c]) cs := by
  intro before after hsplit
  rw [append_singleton_append]
  exact h (c :: before) after (by rw [hsplit, List.cons_append])

theorem replacingFrom_of_alone {target : χ} {front rest : List χ}
    (h : unicode.Alone target front rest) :
    unicode.replacingFrom [target] [] 0 front rest = rest.filter fun c => c ≠ target := by
  induction rest generalizing front with
  | nil => rfl
  | cons c cs ih =>
      by_cases hc : c = target
      · have hfound : unicode.found [target] front (c :: cs) = true := by
          have hhere := h [] cs (by rw [List.nil_append, hc])
          rw [List.append_nil, ← hc] at hhere
          rw [← hc]
          exact hhere
        rw [replacingFrom, if_pos hfound, List.filter_cons_of_neg (by simp [hc])]
        exact ih h.tail
      · have hnot : unicode.found [target] front (c :: cs) = false := by
          simp [found, List.isPrefixOf, Ne.symm hc]
        rw [replacingFrom, hnot, if_neg (by decide), List.filter_cons_of_pos (by simp [hc])]
        exact congrArg (c :: ·) (ih h.tail)

/-- What the search does not find is left. -/
theorem alone_of_replacingFrom {target : χ} {front rest : List χ}
    (h : target ∉ unicode.replacingFrom [target] [] 0 front rest) :
    unicode.Alone target front rest := by
  induction rest generalizing front with
  | nil =>
      intro before after hsplit
      cases before <;> cases hsplit
  | cons c cs ih =>
      cases hfound : unicode.found [target] front (c :: cs) with
      | true =>
          rw [replacingFrom, if_pos hfound] at h
          have hrest : unicode.Alone target (front ++ [c]) cs := ih h
          intro before after hsplit
          cases before with
          | nil =>
              obtain ⟨rfl, rfl⟩ := List.cons_eq_cons.mp hsplit
              rw [List.append_nil]
              exact hfound
          | cons d before =>
              obtain ⟨rfl, htail⟩ := List.cons_eq_cons.mp hsplit
              have hlater := hrest before after htail
              rw [append_singleton_append] at hlater
              exact hlater
      | false =>
          rw [replacingFrom, hfound, if_neg (by decide)] at h
          have hrest : unicode.Alone target (front ++ [c]) cs :=
            ih fun hmem => h (List.mem_cons_of_mem c hmem)
          intro before after hsplit
          cases before with
          | nil =>
              obtain ⟨rfl, rfl⟩ := List.cons_eq_cons.mp hsplit
              exact absurd List.mem_cons_self h
          | cons d before =>
              obtain ⟨rfl, htail⟩ := List.cons_eq_cons.mp hsplit
              have hlater := hrest before after htail
              rw [append_singleton_append] at hlater
              exact hlater

/-- **Deleting a character.**  Replacing it by nothing deletes it everywhere exactly if
no occurrence is joined to what is beside it. -/
theorem replacingOccurrences_singleton_iff (target : χ) (text kept : List χ)
    (hkept : target ∉ kept) :
    unicode.replacingOccurrences [target] [] text = kept ↔
      unicode.Alone target [] text ∧ (text.filter fun c => c ≠ target) = kept := by
  constructor
  · intro h
    have halone : unicode.Alone target [] text := alone_of_replacingFrom (by rwa [← h] at hkept)
    exact ⟨halone, (replacingFrom_of_alone halone).symm.trans h⟩
  · rintro ⟨halone, heq⟩
    exact (replacingFrom_of_alone halone).trans heq

end Composition

/-- Every component behind a separator of one character: that is the text behind one. -/
theorem flatMap_componentsFrom_singleton (separator : χ) (part text : List χ) :
    ((componentsFrom [separator] 0 part text).flatMap fun component => separator :: component) =
      separator :: (part.reverse ++ text) := by
  induction text generalizing part with
  | nil => simp [componentsFrom]
  | cons c cs ih =>
      by_cases hc : c = separator
      · have hstarts : [separator].isPrefixOf (c :: cs) = true := by simp [hc]
        rw [componentsFrom, if_pos ⟨List.cons_ne_nil separator [], hstarts⟩,
          List.flatMap_cons, List.length_singleton, ih, hc]
        simp
      · have hstarts : [separator].isPrefixOf (c :: cs) = false := by
          simp [List.isPrefixOf, Ne.symm hc]
        rw [componentsFrom, if_neg (by simp [hstarts]), ih]
        simp

/-- A separator at the end has an empty component behind it. -/
theorem nil_mem_components_append (separator : χ) (part text : List χ) :
    [] ∈ componentsFrom [separator] 0 part (text ++ [separator]) := by
  induction text generalizing part with
  | nil => simp [componentsFrom]
  | cons c cs ih =>
      rw [List.cons_append, componentsFrom]
      split
      · exact List.mem_cons_of_mem _ (ih [])
      · exact ih (c :: part)

/-- `NSRange`. -/
structure NSRange where
  location : Nat
  length : Nat
  deriving DecidableEq, Repr

/-- `text.substring(with: range)`. -/
def substring (text : List χ) (range : NSRange) : List χ :=
  (text.drop range.location).take range.length

/-- The members of `CharacterSet.whitespacesAndNewlines`: the general category
Z, the controls from tab to carriage return, and next line. -/
def whitespacesAndNewlines (c : Char) : Bool :=
  let n := c.toNat
  (0x09 ≤ n && n ≤ 0x0d) || n == 0x20 || n == 0x85 || n == 0xa0 || n == 0x1680 ||
    (0x2000 ≤ n && n ≤ 0x200a) || n == 0x2028 || n == 0x2029 || n == 0x202f ||
    n == 0x205f || n == 0x3000

/-- `text.trimmingCharacters(in: .whitespacesAndNewlines)`. -/
def trimmed (text : String) : String :=
  let rest := text.toList.dropWhile whitespacesAndNewlines
  String.ofList (rest.reverse.dropWhile whitespacesAndNewlines).reverse

end Foundation
