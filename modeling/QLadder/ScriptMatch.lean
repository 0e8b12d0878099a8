import QLadder.Lookaround

/-!
# The values in a script

`matchInfo` looks in a script for the texts between `key":"` and the next
quote, and takes the last one that is not empty.  Its regular expression
counts in UTF-16 units, but the range it searches is as long as the script has
`Character`s, of which an emoji is one with two units or more.  The backslashes of
the value are replaced by nothing, where the search finds them: one in front of a
combining mark is part of another character, and stays.

* `matchInfo_finds_iff` — `matchInfo` finds the last value of the script if and
  only if the value is closed within that range, or another one that is closed
  there spells the same, and no backslash of the one that is found is joined to
  what is beside it;
* `emoji_hides_value` — an emoji in front of the only value hides it;
* `mark_keeps_backslash` — a backslash in front of a combining mark stays.
-/

namespace QLadder

open Foundation

/-- A `Character`, as its UTF-16 units. -/
structure ScriptCharacter where
  units : List UInt16
  nonempty : units ≠ []
  deriving DecidableEq, Repr

/-- A `String`, as its characters. -/
abbrev Script := List ScriptCharacter

/-- The units of `string as NSString`. -/
def Script.utf16 (string : Script) : List UInt16 :=
  string.flatMap ScriptCharacter.units

/-- `string.count`. -/
def Script.count (string : Script) : Nat :=
  string.length

/-- An ASCII letter. -/
def isLetter (unit : UInt16) : Bool :=
  (0x41 ≤ unit && unit ≤ 0x5a) || (0x61 ≤ unit && unit ≤ 0x7a)

/-- A key, which stands for itself in a regular expression. -/
structure ScriptKey where
  letters : List UInt16
  plain : ∀ unit ∈ letters, isLetter unit = true
  deriving DecidableEq, Repr

def quote : UInt16 := 0x22
def colon : UInt16 := 0x3a
def backslash : UInt16 := 0x5c

/-- What `.` does not match. -/
def isLineTerminator (unit : UInt16) : Bool :=
  (0x0a ≤ unit && unit ≤ 0x0d) || unit == 0x85 || unit == 0x2028 || unit == 0x2029

/-- The foldings of other characters to ASCII letters: long s, the Kelvin sign,
sharp s and the Latin ligatures. -/
def foldings : List (UInt16 × List UInt16) :=
  [(0x17f, [0x73]), (0x212a, [0x6b]), (0xdf, [0x73, 0x73]), (0x1e9e, [0x73, 0x73]),
    (0xfb00, [0x66, 0x66]), (0xfb01, [0x66, 0x69]), (0xfb02, [0x66, 0x6c]),
    (0xfb03, [0x66, 0x66, 0x69]), (0xfb04, [0x66, 0x66, 0x6c]), (0xfb05, [0x73, 0x74]),
    (0xfb06, [0x73, 0x74])]

/-- The full case folding of a character, as far as it is made of ASCII
characters; other foldings play no part in a comparison with a key. -/
def foldCase (unit : UInt16) : List UInt16 :=
  if 0x41 ≤ unit ∧ unit ≤ 0x5a then [unit + 0x20] else (foldings.lookup unit).getD [unit]

/-- The two texts are the same, letter case ignored. -/
def sameLetters (text other : List UInt16) : Bool :=
  text.flatMap foldCase == other.flatMap foldCase

/-- The text ends with an occurrence of the literal. -/
def endsAlike (literal : List UInt16) : List UInt16 → Bool
  | [] => sameLetters [] literal
  | c :: cs => sameLetters (c :: cs) literal || endsAlike literal cs

/-! ## The lookbehind -/

theorem endsAlike_iff {literal text : List UInt16} :
    endsAlike literal text = true ↔
      ∃ occurrence, occurrence <:+ text ∧ sameLetters occurrence literal = true := by
  induction text with
  | nil => simp [endsAlike]
  | cons c cs ih =>
      simp only [endsAlike, Bool.or_eq_true, ih, List.suffix_cons_iff]
      constructor
      · rintro (hsame | ⟨occurrence, hsuffix, hsame⟩)
        · exact ⟨c :: cs, Or.inl rfl, hsame⟩
        · exact ⟨occurrence, Or.inr hsuffix, hsame⟩
      · rintro ⟨occurrence, rfl | hsuffix, hsame⟩
        · exact Or.inl hsame
        · exact Or.inr ⟨occurrence, hsuffix, hsame⟩

theorem upper_add_ne_quote {unit : UInt16} (h : 0x41 ≤ unit ∧ unit ≤ 0x5a) :
    unit + 0x20 ≠ quote := by
  unfold quote
  grind

/-- Only a quote folds to something that ends with a quote. -/
theorem eq_quote_of_foldCase {unit : UInt16}
    (h : (foldCase unit).getLast? = some quote) : unit = quote := by
  unfold foldCase at h
  split at h
  next hupper =>
    have heq : unit + 0x20 = quote := by simpa using h
    exact absurd heq (upper_add_ne_quote hupper)
  next =>
    cases hfolding : foldings.lookup unit with
    | none =>
        rw [hfolding] at h
        simpa using h
    | some folded =>
        have hnever : ∀ folding ∈ foldings, folding.2.getLast? ≠ some quote := by decide
        obtain ⟨before, later, hsplit, _⟩ := List.lookup_eq_some_iff.mp hfolding
        have hmem : (unit, folded) ∈ foldings := by simp [hsplit]
        rw [hfolding] at h
        exact absurd h (hnever _ hmem)

theorem foldCase_ne_nil (unit : UInt16) : foldCase unit ≠ [] := by
  unfold foldCase
  split
  · exact List.cons_ne_nil _ _
  · cases hfolding : foldings.lookup unit with
    | none => exact List.cons_ne_nil _ _
    | some folded =>
        have hnever : ∀ folding ∈ foldings, folding.2 ≠ [] := by decide
        obtain ⟨before, later, hsplit, _⟩ := List.lookup_eq_some_iff.mp hfolding
        exact hnever (unit, folded) (by simp [hsplit])

/-- The last character decides how a folded text ends. -/
theorem getLast?_foldCase (before : List UInt16) (c : UInt16) :
    ((before ++ [c]).flatMap foldCase).getLast? = (foldCase c).getLast? := by
  rw [List.flatMap_append, List.flatMap_singleton, List.getLast?_append,
    List.getLast?_eq_some_getLast (foldCase_ne_nil c)]
  rfl

/-- The literal before a value. -/
def opening (key : ScriptKey) : List UInt16 :=
  key.letters ++ [quote, colon, quote]

/-- An occurrence of the opening ends with a quote. -/
theorem eq_quote_of_endsAlike {key : ScriptKey} {before : List UInt16} {c : UInt16}
    (h : endsAlike (opening key) (before ++ [c]) = true) : c = quote := by
  obtain ⟨occurrence, hsuffix, hsame⟩ := endsAlike_iff.mp h
  have hfold : occurrence.flatMap foldCase = (opening key).flatMap foldCase := by
    simpa [sameLetters] using hsame
  have hopening : opening key = (key.letters ++ [quote, colon]) ++ [quote] := by
    simp [opening]
  have hlast : (occurrence.flatMap foldCase).getLast? = some quote := by
    rw [hfold, hopening, getLast?_foldCase]
    decide
  rcases List.suffix_concat_iff.mp hsuffix with rfl | ⟨start, rfl, _⟩
  · cases hlast
  · rw [getLast?_foldCase] at hlast
    exact eq_quote_of_foldCase hlast

/-! ## `matchInfo` -/

/-- The regular expression `(?<=key":").*?(?=")`, which ignores letter case.  Its
`.` takes the two units of a surrogate pair at once; neither is a quote, so
that the matches are the same unit by unit. -/
def pattern1 (pattern : ScriptKey) : Lookaround UInt16 where
  behind := endsAlike (opening pattern)
  dot := fun unit => !isLineTerminator unit
  ahead := fun unit => unit == quote
  anchored := fun _ _ h => beq_iff_eq.mpr (eq_quote_of_endsAlike h)

/-- The loop over the reversed matches, with the `result` so far. -/
def firstFilled (string result : List UInt16) : List NSRange → List UInt16
  | [] => result
  | checkingRes :: res =>
      let result := substring string checkingRes
      if result ≠ [] then result else firstFilled string result res

/-- `matchInfo`; the result as its units.  Lookbehind and lookahead do not see
past the range that is searched. -/
def matchInfo (unicode : Composition UInt16) (string : Script) (pattern : ScriptKey) :
    List UInt16 :=
  let res := (pattern1 pattern).matchesIn (string.utf16.take string.count)
  let result := firstFilled string.utf16 [] res.reverse
  unicode.replacingOccurrences [backslash] [] result

/-- The value without its backslashes. -/
def unescaped (value : List UInt16) : List UInt16 :=
  value.filter fun unit => unit ≠ backslash

/-- `matchInfo` answers with the last value of the whole script. -/
def FindsLast (unicode : Composition UInt16) (string : Script) (key : ScriptKey) : Prop :=
  ∃ value, (pattern1 key).LastValue string.utf16 value ∧
    matchInfo unicode string key = unescaped value

/-- No backslash is joined to what is beside it, in the last value that is closed
within as many units as the script has characters. -/
def BackslashesAlone (unicode : Composition UInt16) (string : Script) (key : ScriptKey) :
    Prop :=
  ∀ value, (pattern1 key).LastClosed string.count string.utf16 value →
    unicode.Alone backslash [] value

/-- The last value of the script, if there is one, is closed within as many
units as the script has characters, or spells the same as the last one that
is. -/
def WithinCount (string : Script) (key : ScriptKey) : Prop :=
  ∀ before value, (pattern1 key).LastHit string.utf16 before value →
    before.length + value.length < string.count ∨
      ∃ other, (pattern1 key).LastClosed string.count string.utf16 other ∧
        unescaped other = unescaped value

theorem backslash_not_mem_unescaped (value : List UInt16) : backslash ∉ unescaped value := by
  intro hmem
  exact of_decide_eq_true (List.mem_filter.mp hmem).2 rfl

theorem firstFilled_eq (string : List UInt16) (res : List NSRange) :
    firstFilled string [] res =
      ((res.find? fun range => !(substring string range).isEmpty).map
        (substring string)).getD [] := by
  induction res with
  | nil => rfl
  | cons checkingRes res ih =>
      rw [firstFilled]
      by_cases hfilled : substring string checkingRes = []
      · simpa [hfilled] using ih
      · simp [hfilled]

section Found

variable {unicode : Composition UInt16} {string : Script} {key : ScriptKey}

variable (unicode string key) in
/-- **What `matchInfo` finds.**  The last value that is closed within the range
it searches. -/
theorem matchInfo_eq :
    ∃ value, (pattern1 key).LastClosed string.count string.utf16 value ∧
      matchInfo unicode string key =
        unicode.replacingOccurrences [backslash] [] value := by
  have hlast := Lookaround.lastValue_of_find (p := pattern1 key)
    (List.take_prefix string.count string.utf16)
  refine ⟨_, Lookaround.lastValue_take_iff.mp hlast, ?_⟩
  rw [matchInfo, firstFilled_eq]

theorem findsLast_of_withinCount (halone : BackslashesAlone unicode string key)
    (h : WithinCount string key) : FindsLast unicode string key := by
  obtain ⟨found, hfound, heq⟩ := matchInfo_eq unicode string key
  obtain ⟨value, hvalue⟩ := (pattern1 key).exists_lastValue string.utf16
  refine ⟨value, hvalue, ?_⟩
  have hspells : unescaped found = unescaped value := by
    rcases hvalue with ⟨before, hlast⟩ | ⟨rfl, hnone⟩
    · rcases h before value hlast with hclosed | ⟨other, hother, hspells⟩
      · rw [hfound.unique (hlast.closed hclosed)]
      · rw [hfound.unique hother, hspells]
    · rcases hfound with ⟨before, hhit, hfilled, _⟩ | ⟨rfl, _⟩
      · exact absurd (hnone before found hhit) hfilled
      · rfl
  rw [heq]
  exact (Composition.replacingOccurrences_singleton_iff _ _ _
    (backslash_not_mem_unescaped value)).mpr ⟨halone found hfound, hspells⟩

/-- What is found spells the last value, and its backslashes are gone. -/
theorem withinCount_of_findsLast (h : FindsLast unicode string key) :
    BackslashesAlone unicode string key ∧ WithinCount string key := by
  obtain ⟨found, hfound, heq⟩ := matchInfo_eq unicode string key
  obtain ⟨value, hvalue, hanswer⟩ := h
  obtain ⟨halone, hspells⟩ := (Composition.replacingOccurrences_singleton_iff _ _ _
    (backslash_not_mem_unescaped value)).mp (heq.symm.trans hanswer)
  constructor
  · intro other hother
    rw [hother.unique hfound]
    exact halone
  · intro before last hlast
    rw [hvalue.unique (Or.inl ⟨before, hlast⟩)] at hspells
    exact Or.inr ⟨found, hfound, hspells⟩

end Found

/-- In a script whose characters have one unit each every value is closed in
time. -/
theorem withinCount_of_single_units {string : Script} (key : ScriptKey)
    (h : ∀ character ∈ string, character.units.length = 1) : WithinCount string key := by
  have hlength : string.utf16.length = string.count := by
    simp [Script.utf16, Script.count, List.length_flatMap, List.map_congr_left h,
      List.map_const']
  intro before value hlast
  have hclosed := hlast.hit.length_lt
  rw [hlength] at hclosed
  exact Or.inl hclosed

/-- **Exactly when `matchInfo` finds the last value.**  For every script and
key: it answers with the last value of the script, without its backslashes, if
and only if that value is closed within as many UTF-16 units as the script has
characters, or spells the same as the last one that is, and no backslash of that one
is joined to what is beside it. -/
theorem matchInfo_finds_iff (unicode : Composition UInt16) (string : Script)
    (key : ScriptKey) :
    FindsLast unicode string key ↔
      BackslashesAlone unicode string key ∧ WithinCount string key :=
  ⟨withinCount_of_findsLast, fun h => findsLast_of_withinCount h.1 h.2⟩

/-! ## An emoji and a mark -/

/-- The units of an ASCII text. -/
def asciiUnits (literal : String) : List UInt16 :=
  literal.toList.map fun c => c.val.toUInt16

/-- A text whose characters are ASCII. -/
def asciiScript (literal : String) : Script :=
  literal.toList.map fun c => { units := [c.val.toUInt16], nonempty := List.cons_ne_nil _ _ }

def videoUrl : ScriptKey where
  letters := asciiUnits "videoUrl"
  plain := List.all_eq_true.mp (by decide)

/-- The key once, with an emoji in front. -/
def emojiScript : Script :=
  { units := [0xd83d, 0xde00], nonempty := List.cons_ne_nil _ _ } ::
    asciiScript "videoUrl\":\"a\""

/-- **A hidden value.**  The script has 14 characters, and the quote that closes
its value is the fifteenth unit. -/
theorem emoji_hides_value :
    matchInfo (Composition.separate UInt16) emojiScript videoUrl = [] ∧
      ¬ FindsLast (Composition.separate UInt16) emojiScript videoUrl := by
  have hnothing : matchInfo (Composition.separate UInt16) emojiScript videoUrl = [] := by
    decide
  refine ⟨hnothing, ?_⟩
  rintro ⟨value, hvalue, hanswer⟩
  have hvalue' : (pattern1 videoUrl).LastValue emojiScript.utf16 (asciiUnits "a") :=
    Lookaround.lastValue_of_find (List.prefix_rfl)
  rw [hnothing, hvalue.unique hvalue'] at hanswer
  exact absurd hanswer (by decide)

/-- The acute accent joins what is before it. -/
def acuteJoins : Composition UInt16 where
  boundary := fun _ rest => rest.head? != some 0x301

/-- A value of a backslash with an accent, and a character more than it has units so
that it is closed in time. -/
def markScript : Script :=
  asciiScript "videoUrl\":\"" ++
    { units := [backslash, 0x301], nonempty := List.cons_ne_nil _ _ } :: asciiScript "\";"

/-- **A backslash that stays.**  The value is found, with its backslash. -/
theorem mark_keeps_backslash :
    matchInfo acuteJoins markScript videoUrl = [backslash, 0x301] ∧
      WithinCount markScript videoUrl ∧ ¬ FindsLast acuteJoins markScript videoUrl := by
  have hstays : matchInfo acuteJoins markScript videoUrl = [backslash, 0x301] := by decide
  have hvalue : (pattern1 videoUrl).LastValue markScript.utf16 [backslash, 0x301] :=
    Lookaround.lastValue_of_find (List.prefix_rfl)
  refine ⟨hstays, ?_, ?_⟩
  · intro before value hlast
    have hsame : [backslash, 0x301] = value := hvalue.unique (Or.inl ⟨before, hlast⟩)
    have hclosed : (pattern1 videoUrl).LastClosed markScript.count markScript.utf16
        [backslash, 0x301] :=
      Lookaround.lastValue_take_iff.mp (Lookaround.lastValue_of_find
        (List.take_prefix markScript.count markScript.utf16))
    exact Or.inr ⟨_, hclosed, congrArg unescaped hsame⟩
  · rintro ⟨value, hother, hanswer⟩
    rw [hstays, hother.unique hvalue] at hanswer
    exact absurd hanswer (by decide)

end QLadder
