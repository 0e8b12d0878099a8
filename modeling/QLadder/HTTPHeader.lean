import Mathlib.Data.List.DropRight
import QLadder.Foundation
import QLadder.StreamCrypto
import QLadder.Swift

/-!
# The header of a request

`HTTPHeader` of NEKit: it is read from the bytes in front of an empty line, loses the
fields that are meant for the proxy and the host in its path, and is written again.

A header's text is the list of its scalars.  The lines and words of a header are
separated scalar by scalar, but a line is split at the first colon that is a `Character`
of its own.  What Foundation and the Unicode data know about texts is a parameter
(`HTTPLibraries`).

* `readLines_toString` — the lines of a header that is written are its words and fields;
* `forwarded_reads_back` — the header that is sent on has the method and the version
  of the one received and its fields in their order, without the proxy's, and it
  announces as many bytes as the scanner waits for.
-/

namespace QLadder

open Foundation

/-- What Foundation and the Unicode data answer about texts. -/
structure HTTPLibraries extends Composition Char where
  /-- two texts are the same to `caseInsensitiveCompare` if these are the same -/
  foldCase : List Char → List Char
  uppercased : List Char → List Char
  /-- the host and the port of `Foundation.URL(string:)` -/
  url : List Char → Option (Option (List Char) × Option Int)
  /-- `\\w` and `\\d` of a regular expression -/
  isWord : Char → Bool
  isDigit : Char → Bool
  /-- `text.count` -/
  count : List Char → Nat

/-- The members of `CharacterSet.whitespaces`: the general category Zs and tab. -/
def whitespaces (c : Char) : Bool :=
  let n := c.toNat
  n == 0x09 || n == 0x20 || n == 0xa0 || n == 0x1680 || (0x2000 ≤ n && n ≤ 0x200a) ||
    n == 0x202f || n == 0x205f || n == 0x3000

/-- `text.trimmingCharacters(in: CharacterSet.whitespaces)`. -/
def trimmingWhitespaces (text : List Char) : List Char :=
  ((text.dropWhile whitespaces).reverse.dropWhile whitespaces).reverse

/-- `text.split(separator:maxSplits:omittingEmptySubsequences:)` with one split, if
it gives two parts; `done` is the text before.  The separator is a `Character`. -/
def splitOnce (unicode : Composition Char) (separator : Char) (done : List Char) :
    List Char → Option (List Char × List Char)
  | [] => none
  | c :: cs =>
      if unicode.found [separator] done (c :: cs) then some ([], cs)
      else
        (splitOnce unicode separator (done ++ [c]) cs).map fun parts => (c :: parts.1, parts.2)

def crlf : List Char :=
  ['\r', '\n']

/-- What `.` of a regular expression does not match. -/
def lineTerminator (c : Char) : Bool :=
  c = '\n' || c = '\u000b' || c = '\u000c' || c = '\r' || c = '\u0085' || c = '\u2028' ||
    c = '\u2029'

/-- Drop `http` in any case. -/
def dropHttp : List Char → Option (List Char)
  | h :: t :: t' :: p :: rest =>
      if (h = 'h' ∨ h = 'H') ∧ (t = 't' ∨ t = 'T') ∧ (t' = 't' ∨ t' = 'T') ∧
          (p = 'p' ∨ p = 'P') then
        some rest
      else
        none
  | _ => none

/-- Drop `://`. -/
def dropColonSlashes : List Char → Option (List Char)
  | ':' :: '/' :: '/' :: rest => some rest
  | _ => none

/-! ## HTTPURL -/

structure HTTPURL where
  scheme : Option (List Char)
  host : Option (List Char)
  port : Option Int
  relativePath : List Char
  deriving DecidableEq, Repr

namespace HTTPURL

variable (lib : HTTPLibraries)

/-- `(?:\\/(.*))?$`; the end may be in front of a last line terminator. -/
def path (text : List Char) : Option (List Char) :=
  let relativePath :=
    match text with
    | '/' :: rest => rest.takeWhile fun c => !lineTerminator c
    | _ => []
  let rest :=
    match text with
    | '/' :: rest => rest.dropWhile fun c => !lineTerminator c
    | _ => text
  match rest with
  | [] => some relativePath
  | ['\r', '\n'] => some relativePath
  | [c] => if lineTerminator c then some relativePath else none
  | _ => none

/-- `([\\w\\.-]+)(?::(\\d+))?` and the path: no shorter host leaves a rest that fits. -/
def hostAndPath (scheme : Option (List Char)) (text : List Char) : Option HTTPURL :=
  let isHost := fun c => lib.isWord c || c == '.' || c == '-'
  let host := text.takeWhile isHost
  let rest := text.dropWhile isHost
  let digits :=
    match rest with
    | ':' :: rest => rest.takeWhile lib.isDigit
    | _ => []
  if host = [] then
    none
  else if digits = [] then
    (path rest).map fun relativePath => { scheme, host := some host, port := none, relativePath }
  else
    (path (rest.drop (1 + digits.length))).map fun relativePath =>
      { scheme, host := some host, port := Swift.intOfString (String.ofList digits),
        relativePath }

/-- `(https?):\\/\\/`. -/
def readScheme (text : List Char) : Option (List Char × List Char) := do
  let rest ← dropHttp text
  let length :=
    match rest with
    | 's' :: _ | 'S' :: _ | 'ſ' :: _ => 5
    | _ => 4
  let rest ← dropColonSlashes (text.drop length)
  some (text.take length, rest)

/-- `HTTPURL.init?(string:)`: the regular expression with a scheme and a host, with a
host, and with neither. -/
def init? (text : List Char) : Option HTTPURL :=
  let withScheme := (readScheme text).bind fun found => hostAndPath lib (some found.1) found.2
  withScheme.or <| (hostAndPath lib none text).or <|
    (path text).map fun relativePath =>
      { scheme := none, host := none, port := none, relativePath }

end HTTPURL

/-! ## HTTPHeader -/

inductive HTTPHeaderError where
  | malformedHeader
  | invalidRequestLine
  | invalidHeaderField
  | invalidConnectURL
  | invalidConnectPort
  | invalidURL
  | missingHostField
  | invalidHostField
  | invalidHostPort
  | invalidContentLength
  | illegalEncoding
  deriving DecidableEq, Repr

structure HTTPHeader where
  HTTPVersion : List Char
  method : List Char
  isConnect : Bool
  path : List Char
  host : List Char
  port : Int
  contentLength : Int
  headers : List (List Char × List Char)
  deriving DecidableEq, Repr

namespace HTTPHeader

variable (lib : HTTPLibraries)

/-- A line of `init(headerString:)` after the first. -/
def readField (line : List Char) : Except HTTPHeaderError (List Char × List Char) :=
  match splitOnce lib.toComposition ':' [] line with
  | none => throw .invalidHeaderField
  | some (key, value) => pure (trimmingWhitespaces key, trimmingWhitespaces value)

/-- The first half of `init(headerString:)`: the three words of the request line, and
the fields. -/
def readLines (headerString : List Char) :
    Except HTTPHeaderError
      ((List Char × List Char × List Char) × List (List Char × List Char)) := do
  let lines := components headerString crlf
  if lines.length < 3 then throw .malformedHeader
  match components (lines.headD []) [' '] with
  | [method, path, HTTPVersion] =>
      let headers ← ((lines.drop 1).take (lines.length - 3)).mapM (readField lib)
      pure ((method, path, HTTPVersion), headers)
  | _ => throw .invalidRequestLine

/-- The first field of a name. -/
def field (headers : List (List Char × List Char)) (name : String) : Option (List Char) :=
  (headers.find? fun header => lib.foldCase name.toList = lib.foldCase header.1).map Prod.snd

def readPort (text : List Char) (error : HTTPHeaderError) : Except HTTPHeaderError Int :=
  match Swift.intOfString (String.ofList text) with
  | none => throw error
  | some port => pure port

/-- The host and the port, if the request line does not say them. -/
def readHostField (headers : List (List Char × List Char)) :
    Except HTTPHeaderError (List Char × Int) := do
  let url := (field lib headers "Host").getD []
  if url = [] then throw .missingHostField
  match components url [':'] with
  | [host] => pure (host, 80)
  | [host, port] => pure (host, ← readPort port .invalidHostPort)
  | _ => throw .invalidHostField

/-- The host and the port of a request that is not CONNECT. -/
def readHost (path : List Char) (headers : List (List Char × List Char)) :
    Except HTTPHeaderError (List Char × Int) :=
  match lib.url path with
  | some (some host, port) => pure (host, port.getD 80)
  | some (none, _) => readHostField lib headers
  | none =>
      match HTTPURL.init? lib path with
      | none => throw .invalidURL
      | some url =>
          match url.host with
          | some host => pure (host, url.port.getD 80)
          | none => readHostField lib headers

/-- The length of the content that the fields announce. -/
def readContentLength (headers : List (List Char × List Char)) :
    Except HTTPHeaderError Int :=
  match field lib headers "Content-Length" with
  | none => pure 0
  | some value => readPort value .invalidContentLength

/-- `init(headerString:)`. -/
def init (headerString : List Char) : Except HTTPHeaderError HTTPHeader := do
  let ((method, path, HTTPVersion), headers) ← readLines lib headerString
  if lib.uppercased method = "CONNECT".toList then
    match components path [':'] with
    | [host, port] =>
        let port ← readPort port .invalidConnectPort
        pure { HTTPVersion, method, isConnect := true, path, host, port, contentLength := 0,
               headers }
    | _ => throw .invalidConnectURL
  else
    let (host, port) ← readHost lib path headers
    let contentLength ← readContentLength lib headers
    pure { HTTPVersion, method, isConnect := false, path, host, port, contentLength, headers }

/-- `String(data: data, encoding: .utf8)`. -/
def decode (data : Data) : Option (List Char) :=
  (ByteArray.utf8Decode? ⟨data.toArray⟩).map Array.toList

/-- `text.data(using: .utf8)`. -/
def encode (text : List Char) : Data :=
  text.flatMap String.utf8EncodeChar

/-- `init(headerData:)`. -/
def ofData (headerData : Data) : Except HTTPHeaderError HTTPHeader :=
  match decode headerData with
  | none => throw .illegalEncoding
  | some headerString => init lib headerString

def toString (header : HTTPHeader) : List Char :=
  header.method ++ [' '] ++ header.path ++ [' '] ++ header.HTTPVersion ++ crlf ++
    (header.headers.flatMap fun field => field.1 ++ [':', ' '] ++ field.2 ++ crlf) ++ crlf

def toData (header : HTTPHeader) : Data :=
  encode header.toString

/-- `removeHeader`: the first field of the name. -/
def removeHeader (header : HTTPHeader) (key : String) : HTTPHeader :=
  { header with
    headers := header.headers.eraseP fun field =>
      lib.foldCase field.1 = lib.foldCase key.toList }

/-- The fields that are for the proxy. -/
def proxyHeader : List String :=
  ["Proxy-Authenticate", "Proxy-Authorization", "Proxy-Connection"]

def removeProxyHeader (header : HTTPHeader) : HTTPHeader :=
  proxyHeader.foldl (removeHeader lib) header

/-- The first `length` code units of a text; half a pair of surrogates is replaced. -/
def codeUnits : Nat → List Char → List Char
  | 0, _ => []
  | _ + 1, [] => []
  | length + 1, c :: cs =>
      if c.toNat < 0x10000 then c :: codeUnits length cs
      else
        match length with
        | 0 => ['\uFFFD']
        | length + 1 => c :: codeUnits length cs

/-- `.*?(\\/.*)`: from the first slash of the line to its end. -/
def fromSlash (text : List Char) : Option (List Char) :=
  match text.dropWhile fun c => c != '/' && !lineTerminator c with
  | '/' :: rest => some ('/' :: rest.takeWhile fun c => !lineTerminator c)
  | _ => none

/-- `http.?:\\/\\/.*?(\\/.*)` at a place of the text. -/
def relativePathHere (text : List Char) : Option (List Char) :=
  (dropHttp text).bind fun rest =>
    let withOne :=
      match rest with
      | c :: rest => if lineTerminator c then none else (dropColonSlashes rest).bind fromSlash
      | [] => none
    withOne.or ((dropColonSlashes rest).bind fromSlash)

/-- The first match. -/
def firstRelativePath : List Char → Option (List Char)
  | [] => none
  | c :: cs => (relativePathHere (c :: cs)).or (firstRelativePath cs)

/-- `URL.matchRelativePath`; the range has the length of the text in characters. -/
def matchRelativePath (url : List Char) : Option (List Char) :=
  firstRelativePath (codeUnits (lib.count url) url)

/-- `rewriteToRelativePath`; `none` is the trap of an empty path. -/
def rewriteToRelativePath (header : HTTPHeader) : Option HTTPHeader :=
  match header.path with
  | [] => none
  | c :: _ =>
      if c ≠ '/' then
        match matchRelativePath lib header.path with
        | none => some header
        | some rewrotePath => some { header with path := rewrotePath }
      else
        some header

/-! ### Reading back what was written -/

theorem trimmingWhitespaces_cons {c : Char} (hc : whitespaces c = true) (text : List Char) :
    trimmingWhitespaces (c :: text) = trimmingWhitespaces text := by
  rw [trimmingWhitespaces, List.dropWhile_cons_of_pos hc]
  rfl

theorem trimmingWhitespaces_infix (text : List Char) : trimmingWhitespaces text <:+: text := by
  have hfront : text.dropWhile whitespaces <:+: text := (List.dropWhile_suffix _).isInfix
  have hback : trimmingWhitespaces text <:+: text.dropWhile whitespaces := by
    rw [trimmingWhitespaces, ← List.reverse_infix, List.reverse_reverse]
    exact (List.dropWhile_suffix _).isInfix
  exact hback.trans hfront

/-- A trimmed text is trimmed. -/
theorem trimmingWhitespaces_idem (text : List Char) :
    trimmingWhitespaces (trimmingWhitespaces text) = trimmingWhitespaces text := by
  generalize hfront : text.dropWhile whitespaces = front
  have hno : ∀ c cs, front = c :: cs → whitespaces c = false := by
    intro c cs hcons
    have hne : text.dropWhile whitespaces ≠ [] := by simp [hfront, hcons]
    have hhead := List.head_dropWhile_not whitespaces hne
    simpa [hfront, hcons] using hhead
  have htrim : trimmingWhitespaces text = (front.reverse.dropWhile whitespaces).reverse := by
    rw [trimmingWhitespaces, hfront]
  -- the front stays free of white space when the back is trimmed
  have hkeep : (trimmingWhitespaces text).dropWhile whitespaces = trimmingWhitespaces text := by
    rw [htrim]
    obtain ⟨dropped, hdropped⟩ := List.dropWhile_suffix (l := front.reverse) whitespaces
    have hsplit : front = (front.reverse.dropWhile whitespaces).reverse ++ dropped.reverse := by
      rw [← List.reverse_append, hdropped, List.reverse_reverse]
    cases hrest : (front.reverse.dropWhile whitespaces).reverse with
    | nil => rfl
    | cons c cs =>
        rw [hrest] at hsplit
        have hc : whitespaces c = false := hno c (cs ++ dropped.reverse) hsplit
        exact List.dropWhile_cons_of_neg (by simp [hc])
  rw [trimmingWhitespaces, hkeep, htrim, List.reverse_reverse, List.dropWhile_idempotent]

/-- Trimming drops white space only. -/
theorem whitespaces_or_mem {text : List Char} {c : Char} (hc : c ∈ text) :
    whitespaces c = true ∨ c ∈ trimmingWhitespaces text := by
  have hsplit : ∀ cs : List Char, c ∈ cs → whitespaces c = true ∨ c ∈ cs.dropWhile whitespaces := by
    intro cs hmem
    rw [← List.takeWhile_append_dropWhile (p := whitespaces) (l := cs)] at hmem
    cases List.mem_append.mp hmem with
    | inl htaken => exact Or.inl (List.mem_takeWhile_imp htaken)
    | inr hkept => exact Or.inr hkept
  cases hsplit text hc with
  | inl hspace => exact Or.inl hspace
  | inr hfront =>
      cases hsplit _ (List.mem_reverse.mpr hfront) with
      | inl hspace => exact Or.inl hspace
      | inr hback =>
          rw [trimmingWhitespaces]
          exact Or.inr (List.mem_reverse.mpr hback)

/-! ### The colon of a field -/

section Split

variable {unicode : Composition Char}

theorem found_singleton_iff {separator c : Char} {done cs : List Char} :
    unicode.found [separator] done (c :: cs) = true ↔
      c = separator ∧ unicode.boundary done (separator :: cs) = true ∧
        unicode.boundary (done ++ [separator]) cs = true := by
  by_cases hc : c = separator
  · subst hc
    simp [Composition.found]
  · have hne : separator ≠ c := fun heq => hc heq.symm
    simp [Composition.found, hc, hne]

/-- The text is split at a separator that is found, if there is none before it. -/
theorem splitOnce_append {separator : Char} {done front back : List Char}
    (h : separator ∉ front)
    (hfound : unicode.found [separator] (done ++ front) (separator :: back) = true) :
    splitOnce unicode separator done (front ++ separator :: back) = some (front, back) := by
  induction front generalizing done with
  | nil =>
      rw [List.append_nil] at hfound
      rw [List.nil_append, splitOnce, if_pos hfound]
  | cons c cs ih =>
      have hne : c ≠ separator := fun heq => h (by simp [heq])
      have hcs : separator ∉ cs := fun hmem => h (List.mem_cons_of_mem c hmem)
      have hnot : ¬ unicode.found [separator] done (c :: (cs ++ separator :: back)) = true :=
        fun hc => hne (found_singleton_iff.mp hc).1
      rw [← Composition.append_singleton_append] at hfound
      rw [List.cons_append, splitOnce, if_neg hnot, ih hcs hfound]
      rfl

/-- No separator is found in the first part. -/
theorem splitOnce_eq_some {separator : Char} {done text front back : List Char}
    (h : splitOnce unicode separator done text = some (front, back)) :
    text = front ++ separator :: back ∧
      ∀ before after, front = before ++ separator :: after →
        ¬ unicode.found [separator] (done ++ before)
          (separator :: (after ++ separator :: back)) = true := by
  induction text generalizing done front with
  | nil => cases h
  | cons c cs ih =>
      rw [splitOnce] at h
      split at h
      · rename_i hfound
        cases h
        refine ⟨by rw [(found_singleton_iff.mp hfound).1]; rfl, ?_⟩
        intro before after hbefore
        exact absurd hbefore.symm (List.append_ne_nil_of_right_ne_nil _ (List.cons_ne_nil _ _))
      · rename_i hnot
        obtain ⟨⟨front', back'⟩, hparts, heq⟩ := Option.map_eq_some_iff.mp h
        cases heq
        obtain ⟨hsplit, hnone⟩ := ih hparts
        refine ⟨by rw [hsplit]; rfl, ?_⟩
        intro before after hbefore
        cases before with
        | nil =>
            cases hbefore
            rw [List.append_nil, ← hsplit]
            exact hnot
        | cons d before =>
            cases hbefore
            rw [← Composition.append_singleton_append]
            exact hnone before after rfl

/-- An ASCII character or white space. -/
def plain (c : Char) : Bool :=
  c.toNat < 128 || whitespaces c

/-- What the Unicode data say about a colon: it does not join a plain character that
stands before or behind it. -/
structure ColonsApart (unicode : Composition Char) : Prop where
  before : ∀ front rest, (∀ c, front.getLast? = some c → plain c = true) →
    unicode.boundary front (':' :: rest) = true
  behind : ∀ front rest, (∀ c, rest.head? = some c → plain c = true) →
    unicode.boundary (front ++ [':']) rest = true

theorem ColonsApart.found (h : ColonsApart unicode) {front rest : List Char}
    (hfront : ∀ c ∈ front, plain c = true) (hrest : ∀ c, rest.head? = some c → plain c = true) :
    unicode.found [':'] front (':' :: rest) = true := by
  rw [found_singleton_iff]
  exact ⟨rfl, h.before front rest fun c hc => hfront c (List.mem_of_getLast? hc),
    h.behind front rest hrest⟩

/-- A first part that is plain has no colon at all. -/
theorem ColonsApart.not_mem (h : ColonsApart unicode) {line front back : List Char}
    (hsplit : splitOnce unicode ':' [] line = some (front, back))
    (hplain : ∀ c ∈ front, plain c = true) : ':' ∉ front := by
  intro hmem
  obtain ⟨before, after, hfront⟩ := List.append_of_mem hmem
  refine (splitOnce_eq_some hsplit).2 before after hfront (h.found ?_ ?_)
  · intro c hc
    exact hplain c (hfront ▸ List.mem_append_left _ hc)
  · intro c hc
    cases after with
    | nil =>
        cases hc
        decide
    | cons d after =>
        cases hc
        exact hplain c (hfront ▸ List.mem_append_right _
          (List.mem_cons_of_mem _ List.mem_cons_self))

end Split

/-- A text of the request line. -/
def IsWord (word : List Char) : Prop :=
  ' ' ∉ word ∧ ¬ crlf <:+: word

/-- The name of a field is of ASCII characters. -/
def AsciiName (field : List Char × List Char) : Prop :=
  ∀ c ∈ field.1, c.toNat < 128

/-- The name and the value of a field. -/
def IsField (field : List Char × List Char) : Prop :=
  (':' ∉ field.1 ∧ AsciiName field) ∧
    (trimmingWhitespaces field.1 = field.1 ∧ trimmingWhitespaces field.2 = field.2) ∧
    ¬ crlf <:+: field.1 ∧ ¬ crlf <:+: field.2

/-- The texts of a header that was read. -/
structure Legible (header : HTTPHeader) : Prop where
  method : IsWord header.method
  path : IsWord header.path
  version : IsWord header.HTTPVersion
  headers : ∀ field ∈ header.headers, IsField field

def requestLine (header : HTTPHeader) : List Char :=
  header.method ++ ' ' :: (header.path ++ ' ' :: header.HTTPVersion)

def fieldLine (field : List Char × List Char) : List Char :=
  field.1 ++ ':' :: ' ' :: field.2

theorem not_infix_requestLine {header : HTTPHeader} (h : header.Legible) :
    ¬ crlf <:+: header.requestLine := by
  have hspace : ' ' ∉ crlf := by decide
  intro hinside
  cases infix_append_cons hspace hinside with
  | inl hmethod => exact h.method.2 hmethod
  | inr hrest =>
      cases infix_append_cons hspace hrest with
      | inl hpath => exact h.path.2 hpath
      | inr hversion => exact h.version.2 hversion

theorem not_infix_fieldLine {field : List Char × List Char} (h : IsField field) :
    ¬ crlf <:+: fieldLine field := by
  have hcolon : ':' ∉ crlf := by decide
  have hspace : ' ' ∉ crlf := by decide
  intro hinside
  cases infix_append_cons hcolon hinside with
  | inl hkey => exact h.2.2.1 hkey
  | inr hrest =>
      have hrest' : crlf <:+: [] ++ ' ' :: field.2 := hrest
      cases infix_append_cons hspace hrest' with
      | inl hnone => exact absurd (List.infix_nil.mp hnone) (List.cons_ne_nil _ _)
      | inr hvalue => exact h.2.2.2 hvalue

theorem components_requestLine {header : HTTPHeader} (h : header.Legible) :
    components header.requestLine [' '] = [header.method, header.path, header.HTTPVersion] := by
  have hnot : ∀ word : List Char, ' ' ∉ word → ¬ [' '] <:+: word := by
    intro word hword hinside
    exact hword (hinside.subset List.mem_cons_self)
  have hfirst := components_append (List.not_mem_nil (a := ' ')) (hnot _ h.method.1)
    (header.path ++ ' ' :: header.HTTPVersion)
  have hsecond := components_append (List.not_mem_nil (a := ' ')) (hnot _ h.path.1)
    header.HTTPVersion
  calc components header.requestLine [' ']
      = header.method :: components (header.path ++ ' ' :: header.HTTPVersion) [' '] := hfirst
    _ = header.method :: header.path :: components header.HTTPVersion [' '] :=
        congrArg (List.cons _) hsecond
    _ = [header.method, header.path, header.HTTPVersion] := by
        rw [components_of_absent (hnot _ h.version.1)]

/-- The lines of fields that are written. -/
theorem components_fieldLines {headers : List (List Char × List Char)}
    (h : ∀ field ∈ headers, IsField field) :
    components ((headers.flatMap fun field => fieldLine field ++ crlf) ++ crlf) crlf =
      headers.map fieldLine ++ [[], []] := by
  have hcr : '\r' ∉ ['\n'] := by decide
  induction headers with
  | nil => rfl
  | cons field headers ih =>
      have hline := not_infix_fieldLine (h field List.mem_cons_self)
      have hnext := components_append hcr hline
        ((headers.flatMap fun field => fieldLine field ++ crlf) ++ crlf)
      rw [List.map_cons, List.cons_append, ← ih fun f hf => h f (List.mem_cons_of_mem field hf)]
      rw [← crlf] at hnext
      rw [← hnext, List.flatMap_cons]
      simp only [List.append_assoc]

theorem toString_eq (header : HTTPHeader) :
    header.toString = header.requestLine ++
      (crlf ++ ((header.headers.flatMap fun field => fieldLine field ++ crlf) ++ crlf)) := by
  simp [toString, requestLine, fieldLine]

variable {lib : HTTPLibraries}

theorem plain_of_asciiName {field : List Char × List Char} (h : AsciiName field) :
    ∀ c ∈ field.1, plain c = true := by
  intro c hc
  simp [plain, h c hc]

theorem readField_fieldLine (hcolons : ColonsApart lib.toComposition)
    {field : List Char × List Char} (h : IsField field) :
    readField lib (fieldLine field) = .ok field := by
  have hfound : lib.found [':'] ([] ++ field.1) (':' :: ' ' :: field.2) = true := by
    refine hcolons.found (plain_of_asciiName h.1.2) fun c hc => ?_
    cases hc
    decide
  have hvalue : trimmingWhitespaces (' ' :: field.2) = field.2 := by
    rw [trimmingWhitespaces_cons (by decide)]
    exact h.2.1.2
  rw [readField, fieldLine, splitOnce_append h.1.1 hfound]
  simp only [h.2.1.1, hvalue]
  rfl

theorem mapM_readField (hcolons : ColonsApart lib.toComposition)
    {headers : List (List Char × List Char)} (h : ∀ field ∈ headers, IsField field) :
    (headers.map fieldLine).mapM (readField lib) = .ok headers := by
  induction headers with
  | nil => rfl
  | cons field headers ih =>
      have hfield := readField_fieldLine hcolons (h field List.mem_cons_self)
      rw [List.map_cons, List.mapM_cons, hfield,
        ih fun f hf => h f (List.mem_cons_of_mem field hf)]
      rfl

/-- **Reading back.**  The lines of a header that is written are its words and fields. -/
theorem readLines_toString (hcolons : ColonsApart lib.toComposition) {header : HTTPHeader}
    (h : header.Legible) :
    readLines lib header.toString =
      .ok ((header.method, header.path, header.HTTPVersion), header.headers) := by
  have hcr : '\r' ∉ ['\n'] := by decide
  have hlines : components header.toString crlf =
      header.requestLine :: (header.headers.map fieldLine ++ [[], []]) := by
    rw [toString_eq, ← components_fieldLines h.headers]
    exact components_append hcr (not_infix_requestLine h) _
  have hcount : ¬ (components header.toString crlf).length < 3 := by
    rw [hlines]
    simp
  have hfields : ((components header.toString crlf).drop 1).take
      ((components header.toString crlf).length - 3) = header.headers.map fieldLine := by
    rw [hlines]
    simp
  have hwords : components ((components header.toString crlf).headD []) [' '] =
      [header.method, header.path, header.HTTPVersion] := by
    rw [hlines]
    exact components_requestLine h
  simp only [readLines, if_neg hcount, hwords, hfields, mapM_readField hcolons h.headers]
  rfl

/-- A field that is read, if its name is of ASCII characters. -/
theorem isField_of_readField (hcolons : ColonsApart lib.toComposition) {line : List Char}
    {field : List Char × List Char} (hline : ¬ crlf <:+: line)
    (h : readField lib line = .ok field) (hascii : AsciiName field) : IsField field := by
  unfold readField at h
  cases hsplit : splitOnce lib.toComposition ':' [] line with
  | none =>
      rw [hsplit] at h
      cases h
  | some parts =>
      rw [hsplit] at h
      cases h
      have htext := (splitOnce_eq_some hsplit).1
      have hcolon : ':' ∉ parts.1 := by
        refine hcolons.not_mem hsplit fun c hc => ?_
        cases whitespaces_or_mem hc with
        | inl hspace => simp [plain, hspace]
        | inr hname => exact plain_of_asciiName hascii c hname
      have hkey : parts.1 <:+: line := htext ▸ (List.prefix_append _ _).isInfix
      have hvalue : parts.2 <:+: line :=
        htext ▸ ((List.suffix_cons _ _).trans (List.suffix_append _ _)).isInfix
      have hkey' := trimmingWhitespaces_infix parts.1
      have hvalue' := trimmingWhitespaces_infix parts.2
      refine ⟨⟨fun hmem => hcolon (hkey'.subset hmem), hascii⟩,
        ⟨trimmingWhitespaces_idem _, trimmingWhitespaces_idem _⟩, ?_, ?_⟩
      · intro hinside
        exact hline (hinside.trans (hkey'.trans hkey))
      · intro hinside
        exact hline (hinside.trans (hvalue'.trans hvalue))

theorem isField_of_mapM (hcolons : ColonsApart lib.toComposition) {lines : List (List Char)}
    {headers : List (List Char × List Char)} (hlines : ∀ line ∈ lines, ¬ crlf <:+: line)
    (h : lines.mapM (readField lib) = .ok headers) (hascii : ∀ field ∈ headers, AsciiName field) :
    ∀ field ∈ headers, IsField field := by
  induction lines generalizing headers with
  | nil =>
      cases h
      intro field hfield
      cases hfield
  | cons line lines ih =>
      rw [List.mapM_cons] at h
      cases hfirst : readField lib line with
      | error e =>
          rw [hfirst] at h
          cases h
      | ok first =>
          cases hrest : lines.mapM (readField lib) with
          | error e =>
              rw [hfirst, hrest] at h
              cases h
          | ok rest =>
              rw [hfirst, hrest] at h
              cases h
              intro field hfield
              cases List.mem_cons.mp hfield with
              | inl heq =>
                  rw [heq]
                  exact isField_of_readField hcolons (hlines line List.mem_cons_self) hfirst
                    (hascii first List.mem_cons_self)
              | inr hmem =>
                  exact ih (fun l hl => hlines l (List.mem_cons_of_mem line hl)) hrest
                    (fun f hf => hascii f (List.mem_cons_of_mem first hf)) field hmem

/-- The words and fields that are read. -/
theorem readLines_ok (hcolons : ColonsApart lib.toComposition)
    {headerString method path version : List Char} {headers : List (List Char × List Char)}
    (h : readLines lib headerString = .ok ((method, path, version), headers))
    (hascii : ∀ field ∈ headers, AsciiName field) :
    IsWord method ∧ IsWord path ∧ IsWord version ∧ ∀ field ∈ headers, IsField field := by
  have hcrlf : crlf ≠ [] := List.cons_ne_nil _ _
  have hspace : [' '] ≠ [] := List.cons_ne_nil _ _
  simp only [readLines] at h
  by_cases hcount : (components headerString crlf).length < 3
  · rw [if_pos hcount] at h
    cases h
  · rw [if_neg hcount] at h
    cases hlines : components headerString crlf with
    | nil => simp [hlines] at hcount
    | cons first rest =>
        have hno : ∀ line ∈ first :: rest, ¬ crlf <:+: line := by
          intro line hline
          rw [← hlines] at hline
          exact not_infix_of_mem_components hcrlf hline
        have hword : ∀ word ∈ components first [' '], IsWord word := by
          intro word hword
          constructor
          · intro hmem
            apply not_infix_of_mem_components hspace hword
            obtain ⟨before, after, hsplit⟩ := List.append_of_mem hmem
            exact ⟨before, after, by rw [hsplit, List.append_assoc]; rfl⟩
          · intro hinside
            exact hno first List.mem_cons_self
              (hinside.trans (infix_of_mem_components hspace hword))
        rw [hlines] at h
        simp only [List.headD_cons] at h
        split at h
        · rename_i method' path' version' hwords
          rw [hwords] at hword
          cases hmap : (((first :: rest).drop 1).take ((first :: rest).length - 3)).mapM
              (readField lib) with
          | error e =>
              rw [hmap] at h
              cases h
          | ok headers' =>
              rw [hmap] at h
              cases h
              refine ⟨hword _ (by simp), hword _ (by simp), hword _ (by simp), ?_⟩
              apply isField_of_mapM hcolons _ hmap hascii
              intro line hline
              have hline' := List.mem_of_mem_drop (List.mem_of_mem_take hline)
              exact hno line hline'
        · cases h

/-- What `init` makes of the lines. -/
theorem init_ok {headerString : List Char} {header : HTTPHeader}
    (h : init lib headerString = .ok header) :
    readLines lib headerString =
        .ok ((header.method, header.path, header.HTTPVersion), header.headers) ∧
      (header.isConnect = false →
        readContentLength lib header.headers = .ok header.contentLength) := by
  unfold init at h
  cases hlines : readLines lib headerString with
  | error e =>
      rw [hlines] at h
      cases h
  | ok lines =>
      obtain ⟨⟨method, path, version⟩, headers⟩ := lines
      rw [hlines] at h
      simp only [bind, Except.bind] at h
      split at h
      · split at h
        · rename_i host port hparts
          cases hport : readPort port .invalidConnectPort with
          | error e =>
              rw [hport] at h
              cases h
          | ok port =>
              rw [hport] at h
              cases h
              exact ⟨rfl, fun hconnect => by cases hconnect⟩
        · cases h
      · cases hhost : readHost lib path headers with
        | error e =>
            rw [hhost] at h
            cases h
        | ok host =>
            cases hlength : readContentLength lib headers with
            | error e =>
                rw [hhost, hlength] at h
                cases h
            | ok contentLength =>
                rw [hhost, hlength] at h
                cases h
                exact ⟨rfl, fun _ => hlength⟩

theorem legible_of_init (hcolons : ColonsApart lib.toComposition) {headerString : List Char}
    {header : HTTPHeader} (h : init lib headerString = .ok header)
    (hascii : ∀ field ∈ header.headers, AsciiName field) : header.Legible := by
  obtain ⟨hmethod, hpath, hversion, hheaders⟩ := readLines_ok hcolons (init_ok h).1 hascii
  exact { method := hmethod, path := hpath, version := hversion, headers := hheaders }

theorem init_of_ofData {headerData : Data} {header : HTTPHeader}
    (h : ofData lib headerData = .ok header) :
    ∃ headerString, init lib headerString = .ok header := by
  unfold ofData at h
  cases hdecode : decode headerData with
  | none =>
      rw [hdecode] at h
      cases h
  | some headerString =>
      rw [hdecode] at h
      exact ⟨headerString, h⟩

/-! ### What is sent on -/

theorem dropHttp_suffix {text rest : List Char} (h : dropHttp text = some rest) :
    rest <:+ text := by
  unfold dropHttp at h
  split at h
  · split at h
    · cases h
      exact ⟨_ :: _ :: _ :: [_], rfl⟩
    · cases h
  · cases h

theorem dropColonSlashes_suffix {text rest : List Char}
    (h : dropColonSlashes text = some rest) : rest <:+ text := by
  unfold dropColonSlashes at h
  split at h
  · cases h
    exact ⟨[':', '/', '/'], rfl⟩
  · cases h

/-- A path is made of characters of the text that stand on one line. -/
theorem mem_of_fromSlash {text path : List Char} (h : fromSlash text = some path) :
    ∀ c ∈ path, c ∈ text ∧ lineTerminator c = false := by
  unfold fromSlash at h
  split at h
  · rename_i rest hrest
    cases h
    have hsuffix : '/' :: rest <:+ text := hrest ▸ List.dropWhile_suffix _
    intro c hc
    cases List.mem_cons.mp hc with
    | inl hslash =>
        rw [hslash]
        exact ⟨hsuffix.subset List.mem_cons_self, by decide⟩
    | inr hafter =>
        have hmem := (List.takeWhile_prefix _).subset hafter
        have hnot := List.mem_takeWhile_imp hafter
        exact ⟨hsuffix.subset (List.mem_cons_of_mem _ hmem), by simpa using hnot⟩
  · cases h

theorem mem_of_relativePathHere {text path : List Char}
    (h : relativePathHere text = some path) :
    ∀ c ∈ path, c ∈ text ∧ lineTerminator c = false := by
  unfold relativePathHere at h
  obtain ⟨rest, hrest, hfound⟩ := Option.bind_eq_some_iff.mp h
  have hafter : ∀ after : List Char, after <:+ text →
      (dropColonSlashes after).bind fromSlash = some path →
      ∀ c ∈ path, c ∈ text ∧ lineTerminator c = false := by
    intro after hsuffix hpath c hc
    obtain ⟨authority, hauthority, hslash⟩ := Option.bind_eq_some_iff.mp hpath
    obtain ⟨hmem, hline⟩ := mem_of_fromSlash hslash c hc
    exact ⟨hsuffix.subset ((dropColonSlashes_suffix hauthority).subset hmem), hline⟩
  cases Option.or_eq_some_iff.mp hfound with
  | inl hone =>
      cases rest with
      | nil => cases hone
      | cons d rest =>
          have htail : rest <:+ text := (List.suffix_cons d rest).trans (dropHttp_suffix hrest)
          cases hd : lineTerminator d with
          | true => simp [hd] at hone
          | false =>
              simp only [hd] at hone
              exact hafter rest htail hone
  | inr hzero => exact hafter rest (dropHttp_suffix hrest) hzero.2

theorem mem_of_firstRelativePath {text path : List Char}
    (h : firstRelativePath text = some path) :
    ∀ c ∈ path, c ∈ text ∧ lineTerminator c = false := by
  induction text with
  | nil => cases h
  | cons d text ih =>
      rw [firstRelativePath] at h
      cases Option.or_eq_some_iff.mp h with
      | inl hhere => exact mem_of_relativePathHere hhere
      | inr hlater =>
          intro c hc
          obtain ⟨hmem, hline⟩ := ih hlater.2 c hc
          exact ⟨List.mem_cons_of_mem d hmem, hline⟩

theorem mem_of_codeUnits {length : Nat} {text : List Char} :
    ∀ c ∈ codeUnits length text, c ∈ text ∨ c = '\uFFFD' := by
  fun_induction codeUnits length text with
  | case1 text => intro c hc; cases hc
  | case2 length => intro c hc; cases hc
  | case3 length d text hd ih =>
      intro c hc
      cases List.mem_cons.mp hc with
      | inl heq => exact Or.inl (by rw [heq]; exact List.mem_cons_self)
      | inr hmem =>
          cases ih c hmem with
          | inl hin => exact Or.inl (List.mem_cons_of_mem d hin)
          | inr hhalf => exact Or.inr hhalf
  | case4 d text hd =>
      intro c hc
      exact Or.inr (List.mem_singleton.mp hc)
  | case5 d text hd length ih =>
      intro c hc
      cases List.mem_cons.mp hc with
      | inl heq => exact Or.inl (by rw [heq]; exact List.mem_cons_self)
      | inr hmem =>
          cases ih c hmem with
          | inl hin => exact Or.inl (List.mem_cons_of_mem d hin)
          | inr hhalf => exact Or.inr hhalf

theorem IsWord.matchRelativePath {path rewrotePath : List Char} (hword : IsWord path)
    (h : matchRelativePath lib path = some rewrotePath) : IsWord rewrotePath := by
  have hmem := mem_of_firstRelativePath h
  constructor
  · intro hspace
    cases mem_of_codeUnits ' ' (hmem ' ' hspace).1 with
    | inl hin => exact hword.1 hin
    | inr hhalf => exact absurd hhalf (by decide)
  · intro hinside
    have hcr : '\r' ∈ rewrotePath := hinside.subset List.mem_cons_self
    exact absurd (hmem '\r' hcr).2 (by decide)

theorem headers_removeProxyHeader (header : HTTPHeader) :
    (removeProxyHeader lib header).headers.Sublist header.headers :=
  List.eraseP_sublist.trans (List.eraseP_sublist.trans List.eraseP_sublist)

/-- `rewriteToRelativePath` changes nothing but the path. -/
theorem rewriteToRelativePath_some {header rewritten : HTTPHeader}
    (h : rewriteToRelativePath lib header = some rewritten) :
    rewritten = header ∨
      ∃ rewrotePath, matchRelativePath lib header.path = some rewrotePath ∧
        rewritten = { header with path := rewrotePath } := by
  unfold rewriteToRelativePath at h
  split at h
  · cases h
  · split at h
    · cases hmatch : matchRelativePath lib header.path with
      | none =>
          rw [hmatch] at h
          exact Or.inl (Option.some.inj h).symm
      | some rewrotePath =>
          rw [hmatch] at h
          exact Or.inr ⟨rewrotePath, rfl, (Option.some.inj h).symm⟩
    · exact Or.inl (Option.some.inj h).symm

theorem decode_encode (text : List Char) : decode (encode text) = some text := by
  have hbytes : (⟨(encode text).toArray⟩ : ByteArray) = text.utf8Encode := by
    rw [List.utf8Encode, encode]
    apply ByteArray.ext
    simp
  rw [decode, hbytes, List.utf8Decode?_utf8Encode]
  rfl

theorem field_removeHeader {header : HTTPHeader} {key name : String}
    (h : lib.foldCase name.toList ≠ lib.foldCase key.toList) :
    field lib (removeHeader lib header key).headers name = field lib header.headers name := by
  have hfind : ∀ headers : List (List Char × List Char),
      (headers.eraseP fun field => decide (lib.foldCase field.1 = lib.foldCase key.toList)).find?
          (fun field => decide (lib.foldCase name.toList = lib.foldCase field.1)) =
        headers.find? fun field => decide (lib.foldCase name.toList = lib.foldCase field.1) := by
    intro headers
    induction headers with
    | nil => rfl
    | cons first rest ih =>
        by_cases hkey : lib.foldCase first.1 = lib.foldCase key.toList
        · have hname : ¬ lib.foldCase name.toList = lib.foldCase first.1 := by
            rw [hkey]
            exact h
          rw [List.eraseP_cons_of_pos (by simpa using hkey),
            List.find?_cons_of_neg (by simpa using hname)]
        · rw [List.eraseP_cons_of_neg (by simpa using hkey), List.find?_cons, List.find?_cons, ih]
  simp only [field, removeHeader, hfind]

/-- No other field is touched. -/
theorem field_removeProxyHeader {header : HTTPHeader} {name : String}
    (h : ∀ key ∈ proxyHeader, lib.foldCase name.toList ≠ lib.foldCase key.toList) :
    field lib (removeProxyHeader lib header).headers name = field lib header.headers name := by
  rw [removeProxyHeader, proxyHeader, List.foldl_cons, List.foldl_cons, List.foldl_cons,
    List.foldl_nil,
    field_removeHeader (h _ (by simp [proxyHeader])),
    field_removeHeader (h _ (by simp [proxyHeader])),
    field_removeHeader (h _ (by simp [proxyHeader]))]

/-- **Sent on.**  The bytes of a header that was read, stripped and rewritten read back
as its method, its version, its fields without the proxy's, and they announce the
length of the content that the scanner waits for.  A name that ends with a mark which joins
the character behind it would swallow its colon. -/
theorem forwarded_reads_back (hcolons : ColonsApart lib.toComposition) {headerData : Data}
    {header rewritten : HTTPHeader} (hread : ofData lib headerData = .ok header)
    (hascii : ∀ field ∈ header.headers, AsciiName field)
    (hrewritten : rewriteToRelativePath lib (removeProxyHeader lib header) = some rewritten)
    (hname : ∀ key ∈ proxyHeader,
      lib.foldCase "Content-Length".toList ≠ lib.foldCase key.toList) :
    ∃ headerString, decode rewritten.toData = some headerString ∧
      readLines lib headerString = .ok ((header.method, rewritten.path, header.HTTPVersion),
        (removeProxyHeader lib header).headers) ∧
      (header.isConnect = false →
        readContentLength lib (removeProxyHeader lib header).headers =
          .ok header.contentLength) := by
  obtain ⟨headerString, hinit⟩ := init_of_ofData hread
  have hlegible := legible_of_init hcolons hinit hascii
  have hfields : ∀ field ∈ (removeProxyHeader lib header).headers, IsField field :=
    fun field hfield => hlegible.headers field ((headers_removeProxyHeader header).subset hfield)
  have hstripped : (removeProxyHeader lib header).Legible :=
    { method := hlegible.method, path := hlegible.path, version := hlegible.version,
      headers := hfields }
  have hwritten : rewritten.Legible ∧ rewritten.method = header.method ∧
      rewritten.HTTPVersion = header.HTTPVersion ∧
      rewritten.headers = (removeProxyHeader lib header).headers := by
    cases rewriteToRelativePath_some hrewritten with
    | inl hsame =>
        rw [hsame]
        exact ⟨hstripped, rfl, rfl, rfl⟩
    | inr hpath =>
        obtain ⟨rewrotePath, hmatch, heq⟩ := hpath
        rw [heq]
        exact ⟨{ hstripped with path := hlegible.path.matchRelativePath hmatch }, rfl, rfl, rfl⟩
  obtain ⟨hlegible', hmethod, hversion, hheaders⟩ := hwritten
  refine ⟨rewritten.toString, decode_encode _, ?_, ?_⟩
  · rw [readLines_toString hcolons hlegible', hmethod, hversion, hheaders]
  · intro hconnect
    rw [readContentLength, field_removeProxyHeader hname]
    exact (init_ok hinit).2 hconnect

/-- ASCII texts; a URL is absolute if it begins with `http://`. -/
def asciiLibraries : HTTPLibraries :=
  { boundary := (Composition.separate Char).boundary
    foldCase := fun text => text.map Char.toLower
    uppercased := fun text => text.map Char.toUpper
    url := fun text =>
      if "http://".toList.isPrefixOf text then
        some (some ((text.drop 7).takeWhile fun c => c != '/'), none)
      else
        some (none, none)
    isWord := fun c => c.isAlphanum || c == '_'
    isDigit := Char.isDigit
    count := List.length }

def absoluteRequest : List Char :=
  "GET http://a/b HTTP/1.1\r\nProxy-Connection: close\r\nContent-Length: 2\r\n\r\n".toList

/-- The header that is sent on for it. -/
def relativeRequest : HTTPHeader :=
  { HTTPVersion := "HTTP/1.1".toList, method := "GET".toList, isConnect := false,
    path := "/b".toList, host := "a".toList, port := 80, contentLength := 2,
    headers := [("Content-Length".toList, "2".toList)] }

/-- The header as it is read. -/
def proxyRequest : HTTPHeader :=
  { relativeRequest with
    path := "http://a/b".toList
    headers := [("Proxy-Connection".toList, "close".toList),
      ("Content-Length".toList, "2".toList)] }

theorem forwarded_reads_back_absolute :
    ∃ headerString, decode relativeRequest.toData = some headerString ∧
      readLines asciiLibraries headerString =
        .ok (("GET".toList, "/b".toList, "HTTP/1.1".toList),
          [("Content-Length".toList, "2".toList)]) := by
  have hread : ofData asciiLibraries (encode absoluteRequest) = .ok proxyRequest := by
    rw [ofData, decode_encode]
    rfl
  have hrewritten : rewriteToRelativePath asciiLibraries
      (removeProxyHeader asciiLibraries proxyRequest) = some relativeRequest := by
    decide +kernel
  have hnames : (proxyRequest.headers.all fun field =>
      field.1.all fun c => decide (c.toNat < 128)) = true := by
    decide +kernel
  have hascii : ∀ field ∈ proxyRequest.headers, AsciiName field := by
    intro field hfield c hc
    exact of_decide_eq_true (List.all_eq_true.mp (List.all_eq_true.mp hnames field hfield) c hc)
  obtain ⟨headerString, hdecode, hlines, -⟩ :=
    forwarded_reads_back ⟨fun _ _ _ => rfl, fun _ _ _ => rfl⟩ hread hascii hrewritten
      (by decide +kernel)
  exact ⟨headerString, hdecode, hlines⟩

end HTTPHeader

end QLadder
