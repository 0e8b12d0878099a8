import QLadder.QueryManager

/-!
# The detail page of a buddha

`parseBuddhaIn91` copies the buddha and fills in what it finds on the page.  All
but one of the fields are read under `if let`; the points are read with two
indices that are not checked, into the labels of the box and into its text
split at the fifth label.

* `parse_safe_iff` — parsing is free of traps, and leaves the fields without a
  node as the input has them, if and only if the box, where there is one with a
  text, has a fifth label that its text contains;
* `few_labels_trap` — a box with four labels, and one whose fifth label is
  empty, end the process.
-/

namespace QLadder

/-- `mutableCopy` reads every `nil` as the empty text. -/
def Buddha.mutableCopy (buddha : Buddha) : Buddha :=
  { name := some (buddha.name.getD ""), url := some (buddha.url.getD ""),
    imgUrl := some (buddha.imgUrl.getD ""), duration := some (buddha.duration.getD ""),
    addTime := some (buddha.addTime.getD ""), user := some (buddha.user.getD ""),
    videoUrl := some (buddha.videoUrl.getD ""), name_zh := some (buddha.name_zh.getD ""),
    detailImgUrl := some (buddha.detailImgUrl.getD ""),
    addTime_zh := some (buddha.addTime_zh.getD ""), points := some (buddha.points.getD "") }

/-- The buddha without what `detailFields` may write. -/
def Buddha.withoutDetails (buddha : Buddha) : Buddha :=
  { buddha with name_zh := none, videoUrl := none, detailImgUrl := none, addTime_zh := none }

namespace QueryManager

section Parse

variable {Node : Type} (kanna : Kanna Node)

def nameQuery : String := "//div[@id='viewvideo-title']/text()"
def videoQuery : String := "//video[@id='vid']/source"
def imageQuery : String := "//div[@class='example-video-container']/video"
def addTimeQuery : String := "//div[@id='videodetails-content']/span[@class='title']/text()"
def boxQuery : String := "//div[@class='boxPart']"

/-- The texts of the labels of a box. -/
def itemStringArray (infoItem : Node) : List String :=
  (kanna.xpath infoItem "span[@class='info']").map fun item => (kanna.text item).getD ""

/-- The points in a box; the outer `none` is the trap of an index out of range.
Without a text of the box nothing is indexed. -/
def pointsOf (infoItem : Node) : Option (Option String) :=
  match kanna.text infoItem with
  | none => some none
  | some pointsItemString => do
      let separator ← (itemStringArray kanna infoItem)[4]?
      let points ← (Foundation.components pointsItemString.toList separator.toList)[1]?
      let points := kanna.replacingOccurrences "</div>".toList [] points
      some (some (Foundation.trimmed (String.ofList points)))

/-- `if let item = doc.xpath(query).first`. -/
def ifFirst (doc : Node) (query : String) (newBuddha : Buddha)
    (write : Node → Buddha → Buddha) : Buddha :=
  match (kanna.xpath doc query).head? with
  | some item => write item newBuddha
  | none => newBuddha

def writeName (nameItem : Node) (newBuddha : Buddha) : Buddha :=
  { newBuddha with name_zh := (kanna.text nameItem).map Foundation.trimmed }

def writeVideo (videoItem : Node) (newBuddha : Buddha) : Buddha :=
  { newBuddha with videoUrl := (kanna.subscript videoItem "src").map Foundation.trimmed }

def writeImage (imageItem : Node) (newBuddha : Buddha) : Buddha :=
  { newBuddha with
    detailImgUrl := (kanna.subscript imageItem "poster").map Foundation.trimmed }

def writeAddTime (addTimeItem : Node) (newBuddha : Buddha) : Buddha :=
  { newBuddha with addTime_zh := (kanna.text addTimeItem).map Foundation.trimmed }

/-- The first part of `parseBuddhaIn91`: the fields that are read unindexed. -/
def detailFields (doc : Node) (newBuddha : Buddha) : Buddha :=
  let newBuddha := ifFirst kanna doc nameQuery newBuddha (writeName kanna)
  let newBuddha := ifFirst kanna doc videoQuery newBuddha (writeVideo kanna)
  let newBuddha := ifFirst kanna doc imageQuery newBuddha (writeImage kanna)
  ifFirst kanna doc addTimeQuery newBuddha (writeAddTime kanna)

/-- `parseBuddhaIn91`; the outer `none` is a trap. -/
def parseBuddhaIn91 (buddha : Buddha) (htmlString : String) : Option (Option Buddha) :=
  if htmlString = "" then
    some none
  else
    match kanna.html htmlString with
    | none => some none
    | some doc =>
        let newBuddha := detailFields kanna doc buddha.mutableCopy
        match (kanna.xpath doc boxQuery).head? with
        | some infoItem =>
            (pointsOf kanna infoItem).map fun points =>
              some { newBuddha with points := points }
        | none => some (some newBuddha)

/-- The new buddha has the fields of a listing from the input, and so it has
the others whose node is not on the page; `nil` is read as the empty text. -/
structure KeepsInput (doc : Node) (buddha new : Buddha) : Prop where
  name : new.name = some (buddha.name.getD "")
  url : new.url = some (buddha.url.getD "")
  imgUrl : new.imgUrl = some (buddha.imgUrl.getD "")
  duration : new.duration = some (buddha.duration.getD "")
  addTime : new.addTime = some (buddha.addTime.getD "")
  user : new.user = some (buddha.user.getD "")
  name_zh : kanna.xpath doc nameQuery = [] → new.name_zh = some (buddha.name_zh.getD "")
  videoUrl : kanna.xpath doc videoQuery = [] → new.videoUrl = some (buddha.videoUrl.getD "")
  detailImgUrl : kanna.xpath doc imageQuery = [] →
    new.detailImgUrl = some (buddha.detailImgUrl.getD "")
  addTime_zh : kanna.xpath doc addTimeQuery = [] →
    new.addTime_zh = some (buddha.addTime_zh.getD "")
  points : kanna.xpath doc boxQuery = [] → new.points = some (buddha.points.getD "")

/-- Parsing answers `nil` or a buddha that keeps the input. -/
def ParsesSafely (buddha : Buddha) (htmlString : String) : Prop :=
  ∃ result, parseBuddhaIn91 kanna buddha htmlString = some result ∧
    ∀ new ∈ result, ∃ doc ∈ kanna.html htmlString, KeepsInput kanna doc buddha new

/-- The box, if the page has one with a text, has a fifth label, which its text
contains. -/
def FifthLabel (htmlString : String) : Prop :=
  htmlString ≠ "" → ∀ doc ∈ kanna.html htmlString,
    ∀ infoItem ∈ (kanna.xpath doc boxQuery).head?, ∀ text ∈ kanna.text infoItem,
      ∃ label ∈ (itemStringArray kanna infoItem)[4]?,
        Foundation.contains text.toList label.toList = true

instance (htmlString : String) : Decidable (FifthLabel kanna htmlString) :=
  inferInstanceAs (Decidable (_ → ∀ doc ∈ kanna.html htmlString,
    ∀ infoItem ∈ (kanna.xpath doc boxQuery).head?, ∀ text ∈ kanna.text infoItem, _))

variable {kanna}

/-! ## The fields -/

theorem ifFirst_of_nil {doc : Node} {query : String} (newBuddha : Buddha)
    (write : Node → Buddha → Buddha) (hnil : kanna.xpath doc query = []) :
    ifFirst kanna doc query newBuddha write = newBuddha := by
  simp [ifFirst, hnil]

/-- What is not written, a field or several. -/
theorem ifFirst_field {β : Type} (field : Buddha → β) (write : Node → Buddha → Buddha)
    (hwrite : ∀ item buddha, field (write item buddha) = field buddha) (doc : Node)
    (query : String) (newBuddha : Buddha) :
    field (ifFirst kanna doc query newBuddha write) = field newBuddha := by
  unfold ifFirst
  split
  · exact hwrite _ _
  · rfl

variable (kanna) in
/-- The fields that no node writes are left as they were. -/
theorem detailFields_withoutDetails (doc : Node) (newBuddha : Buddha) :
    (detailFields kanna doc newBuddha).withoutDetails = newBuddha.withoutDetails := by
  unfold detailFields
  rw [ifFirst_field Buddha.withoutDetails (writeAddTime kanna) (fun _ _ => rfl),
    ifFirst_field Buddha.withoutDetails (writeImage kanna) (fun _ _ => rfl),
    ifFirst_field Buddha.withoutDetails (writeVideo kanna) (fun _ _ => rfl),
    ifFirst_field Buddha.withoutDetails (writeName kanna) (fun _ _ => rfl)]

theorem detailFields_name_zh {doc : Node} (newBuddha : Buddha)
    (hnil : kanna.xpath doc nameQuery = []) :
    (detailFields kanna doc newBuddha).name_zh = newBuddha.name_zh := by
  unfold detailFields
  rw [ifFirst_field Buddha.name_zh (writeAddTime kanna) (fun _ _ => rfl),
    ifFirst_field Buddha.name_zh (writeImage kanna) (fun _ _ => rfl),
    ifFirst_field Buddha.name_zh (writeVideo kanna) (fun _ _ => rfl),
    ifFirst_of_nil newBuddha _ hnil]

theorem detailFields_videoUrl {doc : Node} (newBuddha : Buddha)
    (hnil : kanna.xpath doc videoQuery = []) :
    (detailFields kanna doc newBuddha).videoUrl = newBuddha.videoUrl := by
  unfold detailFields
  rw [ifFirst_field Buddha.videoUrl (writeAddTime kanna) (fun _ _ => rfl),
    ifFirst_field Buddha.videoUrl (writeImage kanna) (fun _ _ => rfl),
    ifFirst_of_nil _ (writeVideo kanna) hnil,
    ifFirst_field Buddha.videoUrl (writeName kanna) (fun _ _ => rfl)]

theorem detailFields_detailImgUrl {doc : Node} (newBuddha : Buddha)
    (hnil : kanna.xpath doc imageQuery = []) :
    (detailFields kanna doc newBuddha).detailImgUrl = newBuddha.detailImgUrl := by
  unfold detailFields
  rw [ifFirst_field Buddha.detailImgUrl (writeAddTime kanna) (fun _ _ => rfl),
    ifFirst_of_nil _ (writeImage kanna) hnil,
    ifFirst_field Buddha.detailImgUrl (writeVideo kanna) (fun _ _ => rfl),
    ifFirst_field Buddha.detailImgUrl (writeName kanna) (fun _ _ => rfl)]

theorem detailFields_addTime_zh {doc : Node} (newBuddha : Buddha)
    (hnil : kanna.xpath doc addTimeQuery = []) :
    (detailFields kanna doc newBuddha).addTime_zh = newBuddha.addTime_zh := by
  unfold detailFields
  rw [ifFirst_of_nil _ (writeAddTime kanna) hnil,
    ifFirst_field Buddha.addTime_zh (writeImage kanna) (fun _ _ => rfl),
    ifFirst_field Buddha.addTime_zh (writeVideo kanna) (fun _ _ => rfl),
    ifFirst_field Buddha.addTime_zh (writeName kanna) (fun _ _ => rfl)]

/-- Whatever the points are, if there is a box, the rest keeps the input. -/
theorem keepsInput_detailFields (doc : Node) (buddha : Buddha) {points : Option String}
    (hpoints : kanna.xpath doc boxQuery = [] → points = some (buddha.points.getD "")) :
    KeepsInput kanna doc buddha
      { detailFields kanna doc buddha.mutableCopy with points := points } := by
  have hothers := detailFields_withoutDetails kanna doc buddha.mutableCopy
  exact
    { name := congrArg Buddha.name hothers
      url := congrArg Buddha.url hothers
      imgUrl := congrArg Buddha.imgUrl hothers
      duration := congrArg Buddha.duration hothers
      addTime := congrArg Buddha.addTime hothers
      user := congrArg Buddha.user hothers
      name_zh := fun hnil => detailFields_name_zh _ hnil
      videoUrl := fun hnil => detailFields_videoUrl _ hnil
      detailImgUrl := fun hnil => detailFields_detailImgUrl _ hnil
      addTime_zh := fun hnil => detailFields_addTime_zh _ hnil
      points := hpoints }

/-! ## The points -/

variable (kanna) in
/-- Both indices are in range exactly if there is no text to read them from, or
the text contains the fifth label. -/
theorem pointsOf_isSome (infoItem : Node) :
    (pointsOf kanna infoItem).isSome = true ↔
      ∀ text ∈ kanna.text infoItem, ∃ label ∈ (itemStringArray kanna infoItem)[4]?,
        Foundation.contains text.toList label.toList = true := by
  unfold pointsOf
  cases kanna.text infoItem with
  | none => simp
  | some text =>
      cases (itemStringArray kanna infoItem)[4]? with
      | none => simp
      | some label =>
          have hsecond := Foundation.components_second text.toList label.toList
          cases hpoints : (Foundation.components text.toList label.toList)[1]? with
          | none =>
              rw [hpoints] at hsecond
              simp [hpoints, ← hsecond]
          | some points =>
              rw [hpoints] at hsecond
              simp [hpoints, ← hsecond]

/-- Parsing a page traps exactly where the points do. -/
theorem parseBuddhaIn91_isSome (buddha : Buddha) (htmlString : String) :
    (parseBuddhaIn91 kanna buddha htmlString).isSome = true ↔
      FifthLabel kanna htmlString := by
  unfold parseBuddhaIn91 FifthLabel
  by_cases hempty : htmlString = ""
  · simp [hempty]
  · rw [if_neg hempty]
    cases hdoc : kanna.html htmlString with
    | none => simp
    | some doc =>
        cases hbox : (kanna.xpath doc boxQuery).head? with
        | none => simp [hbox]
        | some infoItem =>
            have hpoints := pointsOf_isSome kanna infoItem
            simp [hbox, hempty, hpoints]

/-- What parsing answers keeps the input. -/
theorem keepsInput_of_parse {buddha new : Buddha} {htmlString : String}
    (h : parseBuddhaIn91 kanna buddha htmlString = some (some new)) :
    ∃ doc ∈ kanna.html htmlString, KeepsInput kanna doc buddha new := by
  unfold parseBuddhaIn91 at h
  split at h
  · cases h
  · cases hdoc : kanna.html htmlString with
    | none =>
        rw [hdoc] at h
        cases h
    | some doc =>
        refine ⟨doc, rfl, ?_⟩
        rw [hdoc] at h
        simp only at h
        cases hbox : (kanna.xpath doc boxQuery).head? with
        | none =>
            rw [hbox] at h
            cases h
            have hpoints : (detailFields kanna doc buddha.mutableCopy).points =
                some (buddha.points.getD "") :=
              congrArg Buddha.points (detailFields_withoutDetails kanna doc buddha.mutableCopy)
            exact keepsInput_detailFields doc buddha fun _ => hpoints
        | some infoItem =>
            rw [hbox] at h
            obtain ⟨points, _, heq⟩ := Option.map_eq_some_iff.mp h
            cases heq
            refine keepsInput_detailFields doc buddha ?_
            intro hnil
            rw [hnil] at hbox
            cases hbox

theorem fifthLabel_of_safe {buddha : Buddha} {htmlString : String}
    (hsafe : ParsesSafely kanna buddha htmlString) : FifthLabel kanna htmlString := by
  obtain ⟨result, hparse, _⟩ := hsafe
  refine (parseBuddhaIn91_isSome buddha htmlString).mp ?_
  rw [hparse]
  rfl

/-- **Safe pages.**  Parsing a page is free of traps, and keeps the fields of
the input whose node is absent, if and only if the box has the fifth label. -/
theorem parse_safe_iff (kanna : Kanna Node) (buddha : Buddha) (htmlString : String) :
    ParsesSafely kanna buddha htmlString ↔ FifthLabel kanna htmlString := by
  constructor
  · exact fifthLabel_of_safe
  · intro hlabel
    obtain ⟨result, hparse⟩ := Option.isSome_iff_exists.mp
      ((parseBuddhaIn91_isSome buddha htmlString).mpr hlabel)
    refine ⟨result, hparse, ?_⟩
    intro new hnew
    rw [Option.mem_def.mp hnew] at hparse
    exact keepsInput_of_parse hparse

end Parse

/-! ## Pages that trap -/

/-- A page with nothing but a box: the node of the page and of the box is the
list of the labels, a label is the list of its text alone. -/
def boxPages (labels : List String) : Kanna (List String) where
  boundary := (Foundation.Composition.separate Char).boundary
  html := fun _ => some labels
  xpath := fun node query =>
    if query = boxQuery then [node]
    else if query = "span[@class='info']" then node.map fun label => [label]
    else []
  text := fun node => some (String.join node)
  subscript := fun _ _ => none

def shortBuddha : Buddha := Buddha.init "a" "b" "c" "1:00" "" ""

/-- **Too few labels.**  A box with four labels traps, and so does one whose
fifth label is empty. -/
theorem few_labels_trap :
    ¬ ParsesSafely (boxPages ["a", "b", "c", "d"]) shortBuddha "<p>" ∧
      ¬ ParsesSafely (boxPages ["a", "b", "c", "d", "", "3"]) shortBuddha "<p>" := by
  have hfour : ¬ FifthLabel (boxPages ["a", "b", "c", "d"]) "<p>" := by decide
  have hempty : ¬ FifthLabel (boxPages ["a", "b", "c", "d", "", "3"]) "<p>" := by decide
  exact ⟨fun hsafe => hfour (fifthLabel_of_safe hsafe),
    fun hsafe => hempty (fifthLabel_of_safe hsafe)⟩

end QueryManager

end QLadder
