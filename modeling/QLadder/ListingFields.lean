import QLadder.QueryManager

/-!
# The fields of a listing item

`updateBuddhasIn91` reads three fields from the text nodes of an item in one
loop: two by what a node contains, whatever its place, and `user` by its place.
The node with the uploader's name is tested for the other two as well.

* `uploader_harmless_iff` — two items that differ in the uploader's name only
  have the same duration and time, if and only if for each of the two marks a
  later node contains it, or the two names do not differ in it, or the one that
  contains it says what the nodes before it say;
* `uploader_sets_duration` — an uploader called `1:23` has that duration.
-/

namespace QLadder

namespace QueryManager

variable {Node : Type} (kanna : Kanna Node)

/-- The trimmed text of a node, if it contains the mark. -/
def marked (mark : String) (node : Option String) : Option String :=
  (node.map Foundation.trimmed).filter fun text =>
    kanna.contains mark.toList text.toList

/-- The last text that contains the mark. -/
def lastMarked (mark : String) : List (Option String) → Option String
  | [] => none
  | node :: nodes => (lastMarked mark nodes).or (marked kanna mark node)

theorem lastMarked_append (mark : String) (nodes others : List (Option String)) :
    lastMarked kanna mark (nodes ++ others) =
      (lastMarked kanna mark others).or (lastMarked kanna mark nodes) := by
  induction nodes with
  | nil => simp [lastMarked]
  | cons node nodes ih => rw [List.cons_append, lastMarked, ih, lastMarked, Option.or_assoc]

/-- A text that contains a mark is not empty. -/
theorem marked_ne_empty (mark : String) (node : Option String) :
    marked kanna mark node ≠ some "" := by
  intro h
  obtain ⟨_, hcontains⟩ := Option.filter_eq_some_iff.mp h
  cases hcontains

theorem lastMarked_ne_empty (mark : String) (nodes : List (Option String)) :
    lastMarked kanna mark nodes ≠ some "" := by
  induction nodes with
  | nil => simp [lastMarked]
  | cons node nodes ih =>
      rw [lastMarked]
      cases hlater : lastMarked kanna mark nodes with
      | none =>
          rw [Option.none_or]
          exact marked_ne_empty kanna mark node
      | some later =>
          rw [Option.some_or, ← hlater]
          exact ih

theorem marked_some (mark name : String) :
    marked kanna mark (some name) =
      if kanna.contains mark.toList (Foundation.trimmed name).toList then
        some (Foundation.trimmed name)
      else
        none := by
  rw [marked, Option.map_some, Option.filter_some]

/-! ## What the loop reads -/

/-- One node writes the duration if it contains a colon. -/
theorem TextFields.read_duration (fields : TextFields) (node : Option String)
    (index : Nat) :
    (fields.read kanna node index).duration = (marked kanna ":" node).getD fields.duration := by
  cases node with
  | none => rfl
  | some name =>
      have hcolon : [':'] = ":".toList := by decide
      simp only [marked_some, TextFields.read, Option.map_some, hcolon]
      split
      · split <;> split <;> rfl
      · split <;> split <;> rfl

/-- One node writes the time if it contains `ago`. -/
theorem TextFields.read_addTime (fields : TextFields) (node : Option String)
    (index : Nat) :
    (fields.read kanna node index).addTime = (marked kanna "ago" node).getD fields.addTime := by
  cases node with
  | none => rfl
  | some name =>
      simp only [marked_some, TextFields.read, Option.map_some]
      split
      · split <;> split <;> rfl
      · split <;> split <;> rfl

/-- The node at index 8 writes the user. -/
theorem TextFields.read_user (fields : TextFields) (node : Option String) (index : Nat) :
    (fields.read kanna node index).user =
      if index = 8 then (node.map Foundation.trimmed).getD fields.user else fields.user := by
  cases node with
  | none => simp [TextFields.read]
  | some name =>
      simp only [TextFields.read, Option.map_some]
      split <;> split <;> split <;> rfl

/-- The loop from a place in the nodes. -/
def readFrom (fields : TextFields) (nodes : List (Option String)) (start : Nat) :
    TextFields :=
  (nodes.zipIdx start).foldl (fun fields entry => fields.read kanna entry.1 entry.2) fields

/-- A field that every node overwrites with its text, if that contains a mark, is
left with the last such text. -/
theorem readFrom_marked {field : TextFields → String} {mark : String}
    (hread : ∀ fields node index,
      field (TextFields.read kanna fields node index) =
        (marked kanna mark node).getD (field fields))
    (fields : TextFields) (nodes : List (Option String)) (start : Nat) :
    field (readFrom kanna fields nodes start) =
      (lastMarked kanna mark nodes).getD (field fields) := by
  induction nodes generalizing fields start with
  | nil => rfl
  | cons node nodes ih =>
      have hrest := ih (fields.read kanna node start) (start + 1)
      rw [hread, ← Option.getD_or] at hrest
      exact hrest

/-- After index 8 the user is left alone. -/
theorem readFrom_user_of_lt (fields : TextFields) (nodes : List (Option String))
    {start : Nat} (hpast : 8 < start) : (readFrom kanna fields nodes start).user = fields.user := by
  induction nodes generalizing fields start with
  | nil => rfl
  | cons node nodes ih =>
      have hrest := ih (fields.read kanna node start) (Nat.lt_succ_of_lt hpast)
      rw [TextFields.read_user, if_neg (by omega)] at hrest
      exact hrest

/-- The user is the node at index 8. -/
theorem readFrom_user (fields : TextFields) (nodes : List (Option String)) {start : Nat}
    (hstart : start ≤ 8) :
    (readFrom kanna fields nodes start).user =
      ((nodes[8 - start]?).join.map Foundation.trimmed).getD fields.user := by
  induction nodes generalizing fields start with
  | nil => rfl
  | cons node nodes ih =>
      by_cases hhere : start = 8
      · subst hhere
        have hrest : (readFrom kanna (fields.read kanna node 8) nodes 9).user = _ :=
          readFrom_user_of_lt kanna _ nodes (by omega)
        rw [TextFields.read_user, if_pos rfl] at hrest
        exact hrest
      · have hnext : start + 1 ≤ 8 := by omega
        have hrest := ih (fields.read kanna node start) hnext
        have hindex : 8 - start = 8 - (start + 1) + 1 := by omega
        rw [TextFields.read_user, if_neg hhere] at hrest
        rw [hindex, List.getElem?_cons_succ]
        exact hrest

theorem readTexts_duration (nodes : List (Option String)) :
    (readTexts kanna nodes).duration = (lastMarked kanna ":" nodes).getD "" :=
  readFrom_marked kanna (TextFields.read_duration kanna) _ nodes 0

theorem readTexts_addTime (nodes : List (Option String)) :
    (readTexts kanna nodes).addTime = (lastMarked kanna "ago" nodes).getD "" :=
  readFrom_marked kanna (TextFields.read_addTime kanna) _ nodes 0

theorem readTexts_user (nodes : List (Option String)) :
    (readTexts kanna nodes).user = ((nodes[8]?).join.map Foundation.trimmed).getD "" :=
  readFrom_user kanna _ nodes (Nat.zero_le 8)

/-! ## Two items -/

/-- The nodes agree, except for the one at index 8. -/
def SameButName (first second : List (Option String)) : Prop :=
  ∀ i, i ≠ 8 → first[i]? = second[i]?

/-- The node at index 8 with the nodes before and after it. -/
theorem lastMarked_around (mark : String) (nodes : List (Option String)) :
    lastMarked kanna mark nodes =
      ((lastMarked kanna mark (nodes.drop 9)).or (marked kanna mark (nodes[8]?).join)).or
        (lastMarked kanna mark (nodes.take 8)) := by
  have htail : lastMarked kanna mark (nodes.drop 8) =
      (lastMarked kanna mark (nodes.drop 9)).or (marked kanna mark (nodes[8]?).join) := by
    by_cases hlength : 8 < nodes.length
    · rw [List.drop_eq_getElem_cons hlength, List.getElem?_eq_getElem hlength]
      rfl
    · rw [List.drop_eq_nil_of_le (by omega), List.drop_eq_nil_of_le (by omega),
        List.getElem?_eq_none (by omega)]
      rfl
  rw [← htail, ← lastMarked_append, List.take_append_drop]

theorem SameButName.take {first second : List (Option String)}
    (h : SameButName first second) : first.take 8 = second.take 8 := by
  apply List.ext_getElem?
  intro i
  rw [List.getElem?_take, List.getElem?_take]
  split
  · exact h i (by omega)
  · rfl

theorem SameButName.drop {first second : List (Option String)}
    (h : SameButName first second) : first.drop 9 = second.drop 9 := by
  apply List.ext_getElem?
  intro i
  rw [List.getElem?_drop, List.getElem?_drop]
  exact h (9 + i) (by omega)

/-- The name cannot be told from what is read for this mark: a later node
overrules it, or the two names do not differ in it, or the one that contains
the mark says what the last node before it says. -/
def Harmless (mark : String) (nodes : List (Option String)) (name other : Option String) :
    Prop :=
  lastMarked kanna mark (nodes.drop 9) ≠ none ∨ marked kanna mark name = marked kanna mark other ∨
    (marked kanna mark name = none ∧
      marked kanna mark other = lastMarked kanna mark (nodes.take 8)) ∨
    (marked kanna mark other = none ∧
      marked kanna mark name = lastMarked kanna mark (nodes.take 8))

instance (mark : String) (nodes : List (Option String)) (name other : Option String) :
    Decidable (Harmless kanna mark nodes name other) :=
  inferInstanceAs (Decidable (_ ∨ _ ∨ _ ∨ _))

/-- The default is no text that contains a mark. -/
theorem getD_empty_inj {text other : Option String} (htext : text ≠ some "")
    (hother : other ≠ some "") : text.getD "" = other.getD "" ↔ text = other := by
  cases text with
  | none =>
      cases other with
      | none => simp
      | some y => simpa using fun h : "" = y => hother (congrArg some h.symm)
  | some x =>
      cases other with
      | none => simpa using fun h : x = "" => htext (congrArg some h)
      | some y => simp

/-- What is read for a mark is the same for both exactly if the name is harmless. -/
theorem SameButName.lastMarked_eq_iff (mark : String) {first second : List (Option String)}
    (h : SameButName first second) :
    (lastMarked kanna mark first).getD "" = (lastMarked kanna mark second).getD "" ↔
      Harmless kanna mark first (first[8]?).join (second[8]?).join := by
  rw [getD_empty_inj (lastMarked_ne_empty kanna mark first) (lastMarked_ne_empty kanna mark second),
    lastMarked_around kanna mark first, lastMarked_around kanna mark second, ← h.take, ← h.drop]
  unfold Harmless
  cases lastMarked kanna mark (first.drop 9) with
  | some later => simp
  | none =>
      -- nothing after the name contains the mark
      cases marked kanna mark (first[8]?).join with
      | none =>
          cases marked kanna mark (second[8]?).join with
          | none => simp
          | some other => simp [eq_comm]
      | some name =>
          cases marked kanna mark (second[8]?).join with
          | none => simp
          | some other => simp

/-! ## The items -/

/-- The direct text nodes of an item. -/
def textNodes (item : Node) : List (Option String) :=
  (kanna.xpath item "text()").map kanna.text

/-- An item's uploader is its own: the trimmed text node at index 8. -/
def OwnUser (item : Node) : Prop :=
  (buddhaIn91 kanna item).user =
    some ((((textNodes kanna item)[8]?).join.map Foundation.trimmed).getD "")

theorem ownUser (item : Node) : OwnUser kanna item :=
  congrArg some (readTexts_user kanna _)

/-- **Exactly when an uploader's name is harmless.**  For every two items whose
direct text nodes agree except for the one at index 8: the two have the same
duration and the same time, and each its own user, if and only if the names are
harmless for both marks. -/
theorem uploader_harmless_iff (first second : Node)
    (hsame : SameButName (textNodes kanna first) (textNodes kanna second)) :
    ((buddhaIn91 kanna first).duration = (buddhaIn91 kanna second).duration ∧
      (buddhaIn91 kanna first).addTime = (buddhaIn91 kanna second).addTime ∧
      OwnUser kanna first ∧ OwnUser kanna second) ↔
    Harmless kanna ":" (textNodes kanna first) ((textNodes kanna first)[8]?).join
        ((textNodes kanna second)[8]?).join ∧
      Harmless kanna "ago" (textNodes kanna first) ((textNodes kanna first)[8]?).join
        ((textNodes kanna second)[8]?).join := by
  have hduration : ∀ item, (buddhaIn91 kanna item).duration =
      some ((lastMarked kanna ":" (textNodes kanna item)).getD "") :=
    fun item => congrArg some (readTexts_duration kanna _)
  have haddTime : ∀ item, (buddhaIn91 kanna item).addTime =
      some ((lastMarked kanna "ago" (textNodes kanna item)).getD "") :=
    fun item => congrArg some (readTexts_addTime kanna _)
  rw [hduration, hduration, haddTime, haddTime, Option.some_inj, Option.some_inj,
    hsame.lastMarked_eq_iff kanna, hsame.lastMarked_eq_iff kanna]
  constructor
  · rintro ⟨hcolon, hago, _, _⟩
    exact ⟨hcolon, hago⟩
  · rintro ⟨hcolon, hago⟩
    exact ⟨hcolon, hago, ownUser kanna first, ownUser kanna second⟩

/-- Kanna on items that are made of text nodes only. -/
def textItems : Kanna (List String) :=
  { boundary := (Foundation.Composition.separate Char).boundary
    html := fun _ => none
    xpath := fun item query => if query = "text()" then item.map fun text => [text] else []
    text := fun node => node.head?
    subscript := fun _ _ => none }

/-- An item as the site lists it, with this uploader. -/
def listedBy (name : String) : List String :=
  ["", "", "10:20", "", "2 hours ago", "", "", "", name, ""]

theorem sameButName_listedBy (name other : String) :
    SameButName (textNodes textItems (listedBy name))
      (textNodes textItems (listedBy other)) := by
  intro i hi
  match i with
  | 0 | 1 | 2 | 3 | 4 | 5 | 6 | 7 | 9 => rfl
  | 8 => exact absurd rfl hi
  | i + 10 => rfl

/-- Two names without a mark. -/
theorem uploader_harmless_iff_plainNames :
    (buddhaIn91 textItems (listedBy "alice")).duration =
      (buddhaIn91 textItems (listedBy "bob")).duration :=
  ((uploader_harmless_iff textItems (listedBy "alice") (listedBy "bob")
    (sameButName_listedBy "alice" "bob")).mpr (by decide)).1

/-- **The name becomes the duration.**  An uploader called `1:23` overwrites the
duration of the item, and one called `ago` its time. -/
theorem uploader_sets_duration :
    SameButName (textNodes textItems (listedBy "alice"))
        (textNodes textItems (listedBy "1:23")) ∧
      (buddhaIn91 textItems (listedBy "alice")).duration = some "10:20" ∧
      (buddhaIn91 textItems (listedBy "1:23")).duration = some "1:23" ∧
      (buddhaIn91 textItems (listedBy "alice")).addTime = some "2 hours ago" ∧
      (buddhaIn91 textItems (listedBy "ago")).addTime = some "ago" := by
  refine ⟨sameButName_listedBy "alice" "1:23", ?_⟩
  decide

end QueryManager

end QLadder
