import QLadder.HTTPHeader

/-!
# Requests on a connection

A client sends one request after another on its connection to the proxy: a header,
and as much content as the header announces.  `HTTPStreamScanner` says how much is to
be read next and what has been read.

What the server should get is a function of the client's bytes alone (`relayed`):
every header as it is sent on, every content as it is.  After a CONNECT everything
is content, and its header is the proxy's own.

* `relayed_header`, `relayed_content` — a piece that is read as the scanner asked for
  it is the next piece of what the server should get;
* `relayed_error` — when the scanner gives up, nothing more should come.
-/

namespace QLadder

open HTTPHeader

/-- `Utils.HTTPData.DoubleCRLF`. -/
def doubleCRLF : Data :=
  [13, 10, 13, 10]

/-- `Opt.MAXHTTPContentBlockLength`. -/
def maxHTTPContentBlockLength : Int :=
  10240

inductive ReadAction where
  | readHeader
  | readContent (length : Int)
  | stop
  deriving DecidableEq, Repr

/-- `HTTPStreamScanner.Result`. -/
inductive ScanResult where
  | header (header : HTTPHeader)
  | content (data : Data)
  deriving DecidableEq, Repr

inductive HTTPStreamScannerError where
  | contentIsTooLong
  | scannerIsStopped
  | unsupportedStreamType
  /-- thrown by `HTTPHeader.init` -/
  | header (error : HTTPHeaderError)
  deriving DecidableEq, Repr

structure HTTPStreamScanner where
  nextAction : ReadAction
  remainContentLength : Int
  currentHeader : Option HTTPHeader
  isConnect : Bool
  deriving DecidableEq, Repr

namespace HTTPStreamScanner

def init : HTTPStreamScanner :=
  { nextAction := .readHeader, remainContentLength := 0, currentHeader := none,
    isConnect := false }

def setNextAction (scanner : HTTPStreamScanner) : HTTPStreamScanner :=
  { scanner with
    nextAction :=
      if scanner.remainContentLength = 0 then .readHeader
      else if scanner.remainContentLength < 0 then .readContent (-1)
      else .readContent (min scanner.remainContentLength maxHTTPContentBlockLength) }

variable (lib : HTTPLibraries)

/-- The header that `input` reads, unless it throws. -/
def readHeader (scanner : HTTPStreamScanner) (data : Data) :
    Except HTTPStreamScannerError HTTPHeader :=
  match ofData lib data with
  | .error error => throw (.header error)
  | .ok header =>
      if scanner.currentHeader.any fun current => header.host ≠ current.host then
        throw .unsupportedStreamType
      else
        pure header

/-- What `input` keeps of a header: the first one decides whether there is anything but
content to come. -/
def takeHeader (scanner : HTTPStreamScanner) (header : HTTPHeader) : HTTPStreamScanner :=
  let scanner :=
    if scanner.currentHeader.isNone then
      if header.isConnect then
        { scanner with isConnect := true, remainContentLength := -1 }
      else
        { scanner with isConnect := false, remainContentLength := header.contentLength }
    else
      { scanner with remainContentLength := header.contentLength }
  { scanner with currentHeader := some header }

/-- `input`, with the scanner it leaves. -/
def input (scanner : HTTPStreamScanner) (data : Data) :
    Except HTTPStreamScannerError ScanResult × HTTPStreamScanner :=
  match scanner.nextAction with
  | .readHeader =>
      match scanner.readHeader lib data with
      | .error error => (throw error, { scanner with nextAction := .stop })
      | .ok header => (pure (.header header), (scanner.takeHeader header).setNextAction)
  | .readContent _ =>
      let scanner :=
        { scanner with remainContentLength := scanner.remainContentLength - data.length }
      if scanner.isConnect = false ∧ scanner.remainContentLength < 0 then
        (throw .contentIsTooLong, { scanner with nextAction := .stop })
      else
        (pure (.content data), setNextAction scanner)
  | .stop => (throw .scannerIsStopped, scanner)

/-- The length that is left would be no `Int`, and `input` traps. -/
def underflows (scanner : HTTPStreamScanner) (data : Data) : Bool :=
  match scanner.nextAction with
  | .readContent _ => scanner.remainContentLength - data.length < -9223372036854775808
  | _ => false

end HTTPStreamScanner

/-! ## What the server should get -/

/-- The first header of a stream with the empty line behind it, and the rest. -/
def splitHeader : Data → Option (Data × Data)
  | [] => none
  | b :: bs =>
      if doubleCRLF.isPrefixOf (b :: bs) then some (doubleCRLF, bs.drop 3)
      else (splitHeader bs).map fun parts => (b :: parts.1, parts.2)

theorem splitHeader_length {stream headerData rest : Data}
    (h : splitHeader stream = some (headerData, rest)) : rest.length < stream.length := by
  induction stream generalizing headerData with
  | nil => cases h
  | cons b bs ih =>
      unfold splitHeader at h
      split at h
      · cases h
        simp only [List.length_drop, List.length_cons]
        omega
      · obtain ⟨⟨front, back⟩, hparts, heq⟩ := Option.map_eq_some_iff.mp h
        cases heq
        have hless : back.length < bs.length := ih hparts
        simp only [List.length_cons]
        omega

section

variable (lib : HTTPLibraries)

/-- The header that is sent on for one that was read. -/
def forwardedHeader (header : HTTPHeader) : Option HTTPHeader :=
  rewriteToRelativePath lib (removeProxyHeader lib header)

/-- What the server should get for a stream of the client, after a request with the
header `current`. -/
def relayed (current : Option HTTPHeader) (stream : Data) : Data :=
  match _hsplit : splitHeader stream with
  | none => []
  | some (headerData, rest) =>
      match ofData lib headerData with
      | .error _ => []
      | .ok header =>
          if current.any fun first => header.host ≠ first.host then []
          else
            match forwardedHeader lib header with
            | none => []
            | some forwarded =>
                if current.isNone = true ∧ header.isConnect = true then rest
                else if header.contentLength < 0 then forwarded.toData
                else
                  forwarded.toData ++ rest.take header.contentLength.toNat ++
                    relayed (some header) (rest.drop header.contentLength.toNat)
termination_by stream.length
decreasing_by
  have hless := splitHeader_length _hsplit
  simp only [List.length_drop]
  omega

namespace HTTPStreamScanner

/-- What the server should get for the bytes that are still to come. -/
def toCome (scanner : HTTPStreamScanner) (stream : Data) : Data :=
  match scanner.nextAction with
  | .readHeader => relayed lib scanner.currentHeader stream
  | .readContent _ =>
      if scanner.isConnect then stream
      else if scanner.remainContentLength < 0 then []
      else
        stream.take scanner.remainContentLength.toNat ++
          relayed lib scanner.currentHeader (stream.drop scanner.remainContentLength.toNat)
  | .stop => []

end HTTPStreamScanner

end

variable {lib : HTTPLibraries}

theorem four_le_of_splitHeader {stream headerData rest : Data}
    (h : splitHeader stream = some (headerData, rest)) : 4 ≤ stream.length := by
  induction stream generalizing headerData with
  | nil => cases h
  | cons b bs ih =>
      unfold splitHeader at h
      split at h
      · rename_i hbegins
        exact (List.isPrefixOf_iff_prefix.mp hbegins).length_le
      · obtain ⟨⟨front, back⟩, hparts, heq⟩ := Option.map_eq_some_iff.mp h
        cases heq
        have hlong : 4 ≤ bs.length := ih hparts
        simp only [List.length_cons]
        omega

/-- More bytes come behind the first header. -/
theorem splitHeader_append {stream headerData rest : Data}
    (h : splitHeader stream = some (headerData, rest)) (more : Data) :
    splitHeader (stream ++ more) = some (headerData, rest ++ more) := by
  induction stream generalizing headerData with
  | nil => cases h
  | cons b bs ih =>
      have hlong := four_le_of_splitHeader h
      have hsame : doubleCRLF.isPrefixOf (b :: (bs ++ more)) = doubleCRLF.isPrefixOf (b :: bs) := by
        rw [Bool.eq_iff_iff, List.isPrefixOf_iff_prefix, List.isPrefixOf_iff_prefix]
        constructor
        · intro hbegins
          exact List.prefix_of_prefix_length_le hbegins (List.prefix_append (b :: bs) more) hlong
        · intro hbegins
          exact hbegins.trans (List.prefix_append (b :: bs) more)
      unfold splitHeader at h
      rw [List.cons_append, splitHeader, hsame]
      split at h
      · rename_i hbegins
        cases h
        have hthree : 3 ≤ bs.length := by
          rw [List.length_cons] at hlong
          omega
        rw [if_pos hbegins, List.drop_append_of_le_length hthree]
      · rename_i hbegins
        obtain ⟨⟨front, back⟩, hparts, heq⟩ := Option.map_eq_some_iff.mp h
        cases heq
        rw [if_neg hbegins, ih hparts]
        rfl

/-- Without a whole header, nothing. -/
theorem relayed_none {current : Option HTTPHeader} {stream : Data}
    (h : splitHeader stream = none) : relayed lib current stream = [] := by
  rw [relayed]
  split
  · rfl
  · rename_i hsplit
    cases h.symm.trans hsplit

/-- The first request of a stream. -/
theorem relayed_some {current : Option HTTPHeader} {stream headerData rest : Data}
    (h : splitHeader stream = some (headerData, rest)) :
    relayed lib current stream =
      match ofData lib headerData with
      | .error _ => []
      | .ok header =>
          if current.any fun first => header.host ≠ first.host then []
          else
            match forwardedHeader lib header with
            | none => []
            | some forwarded =>
                if current.isNone = true ∧ header.isConnect = true then rest
                else if header.contentLength < 0 then forwarded.toData
                else
                  forwarded.toData ++ rest.take header.contentLength.toNat ++
                    relayed lib (some header) (rest.drop header.contentLength.toNat) := by
  rw [relayed]
  split
  · rename_i hsplit
    cases h.symm.trans hsplit
  · rename_i hsplit
    cases h.symm.trans hsplit
    rfl

theorem relayed_nil (current : Option HTTPHeader) : relayed lib current [] = [] :=
  relayed_none rfl

namespace HTTPStreamScanner

theorem toCome_nil (scanner : HTTPStreamScanner) : toCome lib scanner [] = [] := by
  unfold toCome
  cases scanner.nextAction with
  | readHeader => exact relayed_nil _
  | readContent length => simp [relayed_nil]
  | stop => rfl

/-- What comes after content of the length that is announced. -/
def afterContent (lib : HTTPLibraries) (header : HTTPHeader) (length : Int) (stream : Data) :
    Data :=
  if length < 0 then []
  else stream.take length.toNat ++ relayed lib (some header) (stream.drop length.toNat)

/-- `setNextAction` decides by the length alone. -/
theorem toCome_setNextAction {scanner : HTTPStreamScanner} {header : HTTPHeader}
    (hcurrent : scanner.currentHeader = some header) (hconnect : scanner.isConnect = false)
    (stream : Data) :
    toCome lib scanner.setNextAction stream =
      afterContent lib header scanner.remainContentLength stream := by
  unfold toCome afterContent setNextAction
  by_cases hzero : scanner.remainContentLength = 0
  · simp [hzero, hcurrent]
  · by_cases hneg : scanner.remainContentLength < 0
    · simp [hzero, hneg, hconnect]
    · simp [hzero, hneg, hconnect, hcurrent]

/-- After a CONNECT everything is content. -/
theorem toCome_setNextAction_connect {scanner : HTTPStreamScanner}
    (hconnect : scanner.isConnect = true) (hremain : scanner.remainContentLength < 0)
    (stream : Data) : toCome lib scanner.setNextAction stream = stream := by
  have hzero : scanner.remainContentLength ≠ 0 := by omega
  simp [toCome, setNextAction, hzero, hremain, hconnect]

/-- The action, the length and the kind of stream fit together. -/
def Ready (scanner : HTTPStreamScanner) : Prop :=
  match scanner.nextAction with
  | .readHeader => scanner.isConnect = false
  | .readContent length =>
      (∃ header, scanner.currentHeader = some header) ∧
        (scanner.isConnect = true → scanner.remainContentLength < 0) ∧
        scanner.remainContentLength ≠ 0 ∧
        length = if scanner.remainContentLength < 0 then -1
          else min scanner.remainContentLength maxHTTPContentBlockLength
  | .stop => True

theorem ready_init : init.Ready :=
  rfl

theorem ready_setNextAction {scanner : HTTPStreamScanner}
    (hcurrent : ∃ header, scanner.currentHeader = some header)
    (hconnect : scanner.isConnect = true → scanner.remainContentLength < 0) :
    scanner.setNextAction.Ready := by
  unfold setNextAction Ready
  by_cases hzero : scanner.remainContentLength = 0
  · have hno : scanner.isConnect = false := by
      cases hkind : scanner.isConnect with
      | false => rfl
      | true =>
          have hneg := hconnect hkind
          omega
    simpa [hzero] using hno
  · by_cases hneg : scanner.remainContentLength < 0
    · simpa [hzero, hneg] using hcurrent
    · simp only [hzero, hneg, if_false]
      exact ⟨hcurrent, fun hkind => absurd (hconnect hkind) hneg, hzero, trivial⟩

/-- The data of a read that was asked for. -/
def Answers (scanner : HTTPStreamScanner) (data : Data) : Prop :=
  match scanner.nextAction with
  | .readHeader => splitHeader data = some (data, [])
  | .readContent length => 0 < length → (data.length : Int) = length
  | .stop => True

theorem readHeader_ok {scanner : HTTPStreamScanner} {data : Data} {header : HTTPHeader}
    (h : scanner.readHeader lib data = .ok header) :
    ofData lib data = .ok header ∧
      (scanner.currentHeader.any fun current => header.host ≠ current.host) = false := by
  unfold readHeader at h
  cases hread : ofData lib data with
  | error e =>
      rw [hread] at h
      cases h
  | ok read =>
      rw [hread] at h
      simp only at h
      split at h
      · cases h
      · rename_i hhost
        cases h
        exact ⟨rfl, by simpa using hhost⟩

/-- A CONNECT at the beginning. -/
theorem takeHeader_connect {scanner : HTTPStreamScanner} {header : HTTPHeader}
    (h : scanner.currentHeader.isNone = true ∧ header.isConnect = true) :
    (scanner.takeHeader header).isConnect = true ∧
      (scanner.takeHeader header).remainContentLength < 0 := by
  simp [takeHeader, h.1, h.2]

/-- Any other header. -/
theorem takeHeader_request {scanner : HTTPStreamScanner} {header : HTTPHeader}
    (hconnect : scanner.isConnect = false)
    (h : ¬ (scanner.currentHeader.isNone = true ∧ header.isConnect = true)) :
    (scanner.takeHeader header).isConnect = false ∧
      (scanner.takeHeader header).remainContentLength = header.contentLength := by
  cases hfirst : scanner.currentHeader.isNone with
  | false => simp [takeHeader, hfirst, hconnect]
  | true =>
      cases hkind : header.isConnect with
      | false => simp [takeHeader, hfirst, hkind]
      | true => exact absurd ⟨hfirst, hkind⟩ h

/-- What is to come of a stream that begins with a header. -/
theorem toCome_header {scanner : HTTPStreamScanner} {data : Data} {header forwarded : HTTPHeader}
    (haction : scanner.nextAction = .readHeader) (hsplit : splitHeader data = some (data, []))
    (hread : scanner.readHeader lib data = .ok header)
    (hforwarded : forwardedHeader lib header = some forwarded) (more : Data) :
    toCome lib scanner (data ++ more) =
      if scanner.currentHeader.isNone = true ∧ header.isConnect = true then more
      else forwarded.toData ++ afterContent lib header header.contentLength more := by
  obtain ⟨hdata, hhost⟩ := readHeader_ok hread
  rw [toCome, haction]
  simp only
  rw [relayed_some (splitHeader_append hsplit more), hdata]
  simp only [hhost, Bool.false_eq_true, if_false, hforwarded, List.nil_append]
  by_cases hconnect : scanner.currentHeader.isNone = true ∧ header.isConnect = true
  · rw [if_pos hconnect, if_pos hconnect]
  · rw [if_neg hconnect, if_neg hconnect, afterContent]
    by_cases hneg : header.contentLength < 0
    · rw [if_pos hneg, if_pos hneg, List.append_nil]
    · rw [if_neg hneg, if_neg hneg, List.append_assoc]

/-- What `input` can do with a header. -/
theorem input_header {scanner after : HTTPStreamScanner} {data : Data} {header : HTTPHeader}
    (h : scanner.input lib data = (.ok (.header header), after)) :
    scanner.nextAction = .readHeader ∧ scanner.readHeader lib data = .ok header ∧
      after = (scanner.takeHeader header).setNextAction := by
  unfold input at h
  cases haction : scanner.nextAction with
  | stop =>
      rw [haction] at h
      cases h
  | readContent length =>
      rw [haction] at h
      simp only at h
      split at h <;> cases h
  | readHeader =>
      rw [haction] at h
      simp only at h
      cases hread : scanner.readHeader lib data with
      | error e =>
          rw [hread] at h
          cases h
      | ok read =>
          rw [hread] at h
          cases h
          exact ⟨rfl, rfl, rfl⟩

/-- **A header.**  What is sent on for it is the next piece. -/
theorem relayed_header {scanner after : HTTPStreamScanner} {data : Data}
    {header forwarded : HTTPHeader} (hready : scanner.Ready) (hanswers : scanner.Answers data)
    (h : scanner.input lib data = (.ok (.header header), after))
    (hforwarded : forwardedHeader lib header = some forwarded) :
    after.Ready ∧ after.currentHeader = some header ∧ ∀ more,
      toCome lib scanner (data ++ more) =
        (if scanner.currentHeader.isNone = true ∧ header.isConnect = true then []
          else forwarded.toData) ++ toCome lib after more := by
  obtain ⟨haction, hread, rfl⟩ := input_header h
  rw [Ready, haction] at hready
  rw [Answers, haction] at hanswers
  by_cases hconnect : scanner.currentHeader.isNone = true ∧ header.isConnect = true
  · obtain ⟨hkind, hremain⟩ := takeHeader_connect hconnect
    refine ⟨ready_setNextAction ⟨header, rfl⟩ (fun _ => hremain), rfl, ?_⟩
    intro more
    rw [toCome_header haction hanswers hread hforwarded, if_pos hconnect, if_pos hconnect,
      toCome_setNextAction_connect hkind hremain]
    rfl
  · obtain ⟨hkind, hremain⟩ := takeHeader_request hready hconnect
    refine ⟨ready_setNextAction ⟨header, rfl⟩ (fun htrue => ?_), rfl, ?_⟩
    · rw [hkind] at htrue
      cases htrue
    · intro more
      rw [toCome_header haction hanswers hread hforwarded, if_neg hconnect, if_neg hconnect,
        toCome_setNextAction rfl hkind, hremain]

/-- What `input` can do with content. -/
theorem input_content {scanner after : HTTPStreamScanner} {data content : Data}
    (h : scanner.input lib data = (.ok (.content content), after)) :
    content = data ∧ ∃ length, scanner.nextAction = .readContent length ∧
      ¬ (scanner.isConnect = false ∧ scanner.remainContentLength - data.length < 0) ∧
      after = setNextAction { scanner with
        remainContentLength := scanner.remainContentLength - data.length } := by
  unfold input at h
  cases haction : scanner.nextAction with
  | stop =>
      rw [haction] at h
      cases h
  | readHeader =>
      rw [haction] at h
      simp only at h
      cases hread : scanner.readHeader lib data <;> rw [hread] at h <;> cases h
  | readContent length =>
      rw [haction] at h
      simp only at h
      split at h
      · cases h
      · rename_i hfits
        cases h
        exact ⟨rfl, length, rfl, hfits, rfl⟩

/-- **Content.**  It is sent on as it is. -/
theorem relayed_content {scanner after : HTTPStreamScanner} {data content : Data}
    (hready : scanner.Ready)
    (h : scanner.input lib data = (.ok (.content content), after)) :
    content = data ∧ after.Ready ∧ after.currentHeader = scanner.currentHeader ∧ ∀ more,
      toCome lib scanner (data ++ more) = content ++ toCome lib after more := by
  obtain ⟨rfl, length, haction, hfits, rfl⟩ := input_content h
  rw [Ready, haction] at hready
  obtain ⟨⟨header, hcurrent⟩, hremain, -, -⟩ := hready
  refine ⟨rfl, ready_setNextAction ⟨header, hcurrent⟩ ?_, rfl, ?_⟩
  · intro hkind
    have hneg := hremain hkind
    simp only
    omega
  · intro more
    by_cases hkind : scanner.isConnect = true
    · have hneg := hremain hkind
      rw [toCome_setNextAction_connect]
      · simp [toCome, haction, hkind]
      · exact hkind
      · simp only
        omega
    · have hkind' : scanner.isConnect = false := Bool.eq_false_iff.mpr hkind
      have hleft : ¬ scanner.remainContentLength - content.length < 0 :=
        fun hneg => hfits ⟨hkind', hneg⟩
      have hlong : content.length ≤ scanner.remainContentLength.toNat := by omega
      have hpos : ¬ scanner.remainContentLength < 0 := by omega
      have hminus : (scanner.remainContentLength - (content.length : Int)).toNat =
          scanner.remainContentLength.toNat - content.length := by omega
      have hnext : toCome lib (setNextAction { scanner with
            remainContentLength := scanner.remainContentLength - content.length }) more =
          afterContent lib header (scanner.remainContentLength - content.length) more := by
        apply toCome_setNextAction
        · exact hcurrent
        · exact hkind'
      rw [hnext, afterContent, toCome, haction, hkind', hcurrent]
      simp only [Bool.false_eq_true, if_false]
      rw [if_neg hpos, if_neg hleft, hminus, List.take_append, List.drop_append,
        List.take_of_length_le hlong, List.drop_of_length_le hlong, List.append_assoc,
        List.nil_append]

/-- **Giving up.**  When the scanner throws, nothing more should come. -/
theorem relayed_error {scanner after : HTTPStreamScanner} {data : Data}
    {error : HTTPStreamScannerError} (hready : scanner.Ready) (hanswers : scanner.Answers data)
    (h : scanner.input lib data = (.error error, after)) :
    after.nextAction = .stop ∧ ∀ more, toCome lib scanner (data ++ more) = [] := by
  unfold input at h
  cases haction : scanner.nextAction with
  | stop =>
      rw [haction] at h
      cases h
      exact ⟨haction, fun more => by rw [toCome, haction]⟩
  | readHeader =>
      rw [Answers, haction] at hanswers
      rw [haction] at h
      simp only at h
      cases hread : scanner.readHeader lib data with
      | ok header =>
          rw [hread] at h
          cases h
      | error e =>
          rw [hread] at h
          cases h
          refine ⟨rfl, ?_⟩
          intro more
          rw [toCome, haction]
          simp only
          rw [relayed_some (splitHeader_append hanswers more)]
          unfold readHeader at hread
          cases hdata : ofData lib data with
          | error e => rfl
          | ok header =>
              rw [hdata] at hread
              simp only at hread
              split at hread
              · rename_i hhost
                simp only [hhost, if_true]
              · cases hread
  | readContent length =>
      rw [Ready, haction] at hready
      obtain ⟨-, -, hzero, hlength⟩ := hready
      rw [Answers, haction] at hanswers
      rw [haction] at h
      simp only at h
      split at h
      · rename_i hlong
        cases h
        refine ⟨rfl, ?_⟩
        intro more
        have hneg : scanner.remainContentLength < 0 := by
          by_cases hneg : scanner.remainContentLength < 0
          · exact hneg
          · rw [if_neg hneg, maxHTTPContentBlockLength] at hlength
            have hexact := hanswers (by omega)
            omega
        simp [toCome, haction, hlong.1, hneg]
      · cases h

end HTTPStreamScanner

end QLadder
