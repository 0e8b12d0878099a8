import QLadder.PartialRun
import QLadder.Foundation

/-!
# QueryManager and the main queue

`QueryManager.shared` keeps one list, `buddhas`, for all clients.  Alamofire
puts the handler of a response on the main queue; the handler parses the body
into `buddhas` and puts a second block on the main queue, which passes
`buddhas` to the completion.  The main queue runs its blocks in order.

Kanna is a parameter: what its functions answer for a document is all that is
used of it.  So are the Unicode data by which Foundation searches the texts that Kanna
answers.
-/

namespace QLadder

open PartialRun

/-- The answers of Kanna, with the composition of the texts among them. -/
structure Kanna (Node : Type) extends Foundation.Composition Char where
  /-- `HTML(html:encoding:)`; `none` if it throws -/
  html : String → Option Node
  xpath : Node → String → List Node
  text : Node → Option String
  /-- `node[name]`: an attribute -/
  subscript : Node → String → Option String

inductive BuddhaType where
  | porn_none
  | porn_91
  | porn_hub
  deriving DecidableEq, Repr

structure Buddha where
  name : Option String
  url : Option String
  imgUrl : Option String
  duration : Option String
  addTime : Option String
  user : Option String
  videoUrl : Option String
  name_zh : Option String
  detailImgUrl : Option String
  addTime_zh : Option String
  points : Option String
  deriving DecidableEq, Repr

/-- `Buddha.init` sets the fields of a listing. -/
def Buddha.init (name url imgUrl duration addTime user : String) : Buddha :=
  { name := some name, url := some url, imgUrl := some imgUrl,
    duration := some duration, addTime := some addTime, user := some user,
    videoUrl := none, name_zh := none, detailImgUrl := none, addTime_zh := none,
    points := none }

namespace QueryManager

section Parse

variable {Node : Type} (kanna : Kanna Node)

/-- `text.components(separatedBy: "\n")`, and of these, trimmed, the first that
is not empty. -/
def firstLine (text : String) : String :=
  let textArray := (Foundation.components text.toList ['\n']).map String.ofList
  ((textArray.map Foundation.trimmed).find? fun duration => duration ≠ "").getD ""

/-- One item of the listing in `updateBuddhasInHub`; `none` if it is skipped. -/
def buddhaInHub (item : Node) : Option Buddha :=
  let a := (kanna.xpath item "div/a[@class='img ']").head?
  let img := a.bind fun a => (kanna.xpath a "img").head?
  let url := (a.bind fun a => kanna.subscript a "href").getD ""
  let name := (img.bind fun img => kanna.subscript img "title").getD ""
  let imgUrl := (img.bind fun img => kanna.subscript img "src").getD ""
  if imgUrl = "" ∨ "http".toList.isPrefixOf imgUrl.toList = false then
    none
  else
    let duration := ((kanna.text item).map firstLine).getD ""
    let buddha := Buddha.init name url imgUrl duration "" ""
    if buddha.name ≠ some "" then some buddha else none

/-- `updateBuddhasInHub`, from the list before to the list after. -/
def updateBuddhasInHub (buddhas : List Buddha) (htmlString : String) : List Buddha :=
  if htmlString = "" then
    buddhas
  else
    match kanna.html htmlString with
    | none => buddhas
    | some doc => (kanna.xpath doc "//div[@class='phimage']").filterMap (buddhaInHub kanna)

/-- The fields that `updateBuddhasIn91` reads from the text nodes of an item. -/
structure TextFields where
  duration : String
  addTime : String
  user : String
  deriving DecidableEq, Repr

/-- One text node: the content decides, and the position does too. -/
def TextFields.read (kanna : Kanna Node) (fields : TextFields) (textItem : Option String)
    (index : Nat) : TextFields :=
  match textItem.map Foundation.trimmed with
  | none => fields
  | some text =>
      let fields :=
        if kanna.contains [':'] text.toList then { fields with duration := text }
        else fields
      let fields :=
        if kanna.contains "ago".toList text.toList then { fields with addTime := text }
        else fields
      if index = 8 then { fields with user := text } else fields

/-- The text nodes of an item, in order. -/
def readTexts (textItems : List (Option String)) : TextFields :=
  textItems.zipIdx.foldl (fun fields entry => fields.read kanna entry.1 entry.2)
    { duration := "", addTime := "", user := "" }

/-- One item of the listing in `updateBuddhasIn91`. -/
def buddhaIn91 (item : Node) : Buddha :=
  let img := (kanna.xpath item "div/a[@target='blank']/img").head?
  let name := (img.bind fun img => kanna.subscript img "title").getD ""
  let imgUrl := (img.bind fun img => kanna.subscript img "src").getD ""
  let urlItem := (kanna.xpath item "a[@target='blank']").head?
  let url := (urlItem.bind fun urlItem => kanna.subscript urlItem "href").getD ""
  let fields := readTexts kanna ((kanna.xpath item "text()").map kanna.text)
  Buddha.init name url imgUrl fields.duration fields.addTime fields.user

/-- `updateBuddhasIn91`, from the list before to the list after. -/
def updateBuddhasIn91 (buddhas : List Buddha) (htmlString : String) : List Buddha :=
  if htmlString = "" then
    buddhas
  else
    match kanna.html htmlString with
    | none => buddhas
    | some doc => (kanna.xpath doc "//*[@class='listchannel']").map (buddhaIn91 kanna)

end Parse

/-- The address that `fetchBuddhas` requests. -/
def url (buddhaType : BuddhaType) (page : Int) : String :=
  if buddhaType = .porn_91 then
    if page ≤ 0 then "http://91porn.com/v.php?category=rf&viewtype=basic&page=1"
    else "http://91porn.com/v.php?category=rf&viewtype=basic&page=" ++ toString page
  else
    if page ≤ 0 then "https://www.pornhub.com/video?o=mv&cc=us"
    else "https://www.pornhub.com/video?o=mv&cc=us&page=" ++ toString page

/-- A call of `fetchBuddhas`. -/
structure Call where
  id : Nat
  buddhaType : BuddhaType
  page : Int
  deriving DecidableEq, Repr

/-- What Alamofire reports.  A success has no data if the status is one of
those without a body. -/
inductive Response where
  | failure (localizedDescription : String)
  | success (data : Option String)
  deriving DecidableEq, Repr

/-- The error message that goes to the completion. -/
def Response.errorMessage : Response → Option String
  | .failure localizedDescription => some localizedDescription
  | .success _ => none

/-- A block on the main queue. -/
inductive Block where
  /-- the handler of a response -/
  | respond (call : Call) (response : Response)
  /-- the block that calls the completion -/
  | complete (call : Call) (response : Response)
  deriving DecidableEq, Repr

/-- A completion that was called: what it was given, and the response to its
own call. -/
structure Delivery where
  call : Call
  response : Response
  buddhas : List Buddha
  errorMessage : Option String
  deriving DecidableEq, Repr

end QueryManager

/-- `QueryManager.shared`, the requests under way, the main queue and the
completions called so far. -/
structure QueryManager where
  buddhas : List Buddha
  requests : List QueryManager.Call
  mainQueue : List QueryManager.Block
  delivered : List QueryManager.Delivery
  deriving DecidableEq, Repr

/-- The events of the clients, of Alamofire and of the main queue. -/
inductive QueryEvent where
  | fetchBuddhas (call : QueryManager.Call)
  /-- Alamofire puts the handler of a response on the main queue -/
  | arrive (call : QueryManager.Call) (response : QueryManager.Response)
  /-- the main queue runs its first block -/
  | runMain
  deriving DecidableEq, Repr

namespace QueryManager

def shared : QueryManager :=
  { buddhas := [], requests := [], mainQueue := [], delivered := [] }

variable {Node : Type} (kanna : Kanna Node)

/-- What a response does to the shared list; text without a body is `""`. -/
def updateBuddhas (buddhas : List Buddha) (buddhaType : BuddhaType) :
    Response → List Buddha
  | .failure _ => buddhas
  | .success data =>
      if buddhaType = .porn_91 then
        match data with
        | some htmlString => updateBuddhasIn91 kanna buddhas htmlString
        | none => buddhas
      else
        updateBuddhasInHub kanna buddhas (data.getD "")

/-- The main queue runs a block; `manager` no longer has it on the queue. -/
def runBlock (manager : QueryManager) : Block → QueryManager
  | .respond call response =>
      { manager with
        buddhas := updateBuddhas kanna manager.buddhas call.buddhaType response
        mainQueue := manager.mainQueue ++ [.complete call response] }
  | .complete call response =>
      { manager with
        delivered := manager.delivered ++
          [{ call := call, response := response, buddhas := manager.buddhas,
             errorMessage := response.errorMessage }] }

/-- One event. -/
def step (manager : QueryManager) : QueryEvent → Option QueryManager
  | .fetchBuddhas call => some { manager with requests := manager.requests ++ [call] }
  | .arrive call response =>
      if call ∈ manager.requests then
        some { manager with
          requests := manager.requests.erase call
          mainQueue := manager.mainQueue ++ [.respond call response] }
      else
        none
  | .runMain =>
      match manager.mainQueue with
      | [] => none
      | block :: rest => some (runBlock kanna { manager with mainQueue := rest } block)

end QueryManager

end QLadder
