import Orion.Foundation.MultiMap
import Orion.Foundation.Text

/-! # HTTP messages

The parts of requests and responses that the proxy reads or rewrites. Header
names are held in the lower-case form to which the `http` crate brings them, and
a body is held as the frames a reader of it would see.
-/

namespace Orion.Http

open Foundation

abbrev Bytes := List UInt8

/-! ## Headers -/

/-- A header name in its canonical lower-case form. -/
structure HeaderName where
  text : Text
  lowerCase : text.toAsciiLower = text
  deriving DecidableEq

/-- A header value, which need not be text. -/
abbrev HeaderValue := Bytes

abbrev HeaderMap := MultiMap HeaderName HeaderValue

namespace HeaderName

def ofText (text : Text) : HeaderName where
  text := text.toAsciiLower
  lowerCase := Text.toAsciiLower_idem text

def host : HeaderName := ofText "host".toList

def connection : HeaderName := ofText "connection".toList

def contentLength : HeaderName := ofText "content-length".toList

end HeaderName

/-- Whether `HeaderMap::with_capacity` finds room for a number of values: it takes a third
more, rounded up to a power of two, and panics beyond `2 ^ 15`. -/
def HeaderMap.hasCapacity (values : Nat) : Bool := values + values / 3 ≤ 2 ^ 15

theorem HeaderMap.hasCapacity_iff : hasCapacity values ↔ values ≤ 24576 := by
  rw [hasCapacity, decide_eq_true_iff]
  omega

/-! ## Bodies -/

inductive Frame where
  | data (bytes : Bytes)
  | trailers (trailers : HeaderMap)
  deriving DecidableEq

def Frame.isData : Frame → Bool
  | .data _ => true
  | .trailers _ => false

/-- Why reading a body failed; only its text is ever used. -/
abbrev BodyError := Text

/-- What a reader of a body sees: data frames, then perhaps trailers, and
perhaps an error in place of a regular end. -/
structure Body where
  data : List Bytes
  trailers : Option HeaderMap
  error : Option BodyError
  deriving DecidableEq

namespace Body

def empty : Body := ⟨[], none, none⟩

def full (bytes : Bytes) : Body :=
  ⟨if bytes = [] then [] else [bytes], none, none⟩

def frames (body : Body) : List Frame :=
  body.data.map .data ++ body.trailers.toList.map .trailers

def bytes (body : Body) : Bytes := body.data.flatten

structure Collected where
  bytes : Bytes
  trailers : Option HeaderMap
  deriving DecidableEq

/-- Read a body to its end (`BodyExt::collect`). -/
def collect (body : Body) : Except BodyError Collected :=
  match body.error with
  | none => .ok ⟨body.bytes, body.trailers⟩
  | some error => .error error

theorem collect_of_error {body : Body} {error : BodyError}
    (failed : body.error = some error) : body.collect = .error error := by
  simp [Body.collect, failed]

theorem collect_of_no_error {body : Body} (complete : body.error = none) :
    body.collect = .ok ⟨body.bytes, body.trailers⟩ := by
  simp [Body.collect, complete]

@[simp] theorem collect_full (bytes : Bytes) : (full bytes).collect = .ok ⟨bytes, none⟩ := by
  by_cases isEmpty : bytes = []
  · simp [full, collect, isEmpty, Body.bytes]
  · simp [full, collect, isEmpty, Body.bytes]

end Body

/-! ## Requests and responses -/

inductive Version where
  | http09
  | http10
  | http11
  | http2
  | http3
  deriving DecidableEq

abbrev StatusCode := Nat

structure PathAndQuery where
  path : Text
  query : Option Text
  deriving DecidableEq

structure Uri where
  scheme : Option Text
  authority : Option Text
  pathAndQuery : Option PathAndQuery
  deriving DecidableEq

/-- The path as `Uri::path` reports it: an empty one reads as a slash. -/
def Uri.path (uri : Uri) : Text :=
  match uri.pathAndQuery with
  | none => []
  | some pathAndQuery =>
    if pathAndQuery.path = [] then "/".toList else pathAndQuery.path

structure Request (Payload : Type u) where
  method : Text
  uri : Uri
  version : Version
  headers : HeaderMap
  body : Payload
  deriving DecidableEq

def Request.get (path : Text) : Request Body where
  method := "GET".toList
  uri := ⟨none, none, some ⟨path, none⟩⟩
  version := .http11
  headers := []
  body := .empty

structure Response (Payload : Type u) where
  status : StatusCode
  version : Version
  headers : HeaderMap
  body : Payload
  deriving DecidableEq

/-! ## The `http` crate

The parsers of the `http` crate are not part of the repository. They are
parameters of the model, together with the documented facts about them on which
the proxy relies.
-/

class HttpCrate where
  headerNameFromBytes : Text → Option HeaderName
  headerValueFromStr : Text → Option HeaderValue
  headerValueFromBytes : Bytes → Option HeaderValue
  /-- A header value as text, when it holds only visible ASCII characters. -/
  headerValueToStr : HeaderValue → Option Text
  methodFromBytes : Text → Option Text
  schemeFromStr : Text → Option Text
  authorityFromStr : Text → Option Text
  pathAndQueryFromStr : Text → Option PathAndQuery
  /-- A URI from its parts, when they go together. -/
  uriFromParts : Uri → Option Uri
  /-- Header names are normalised to lower case. -/
  headerName_normalised : ∀ {key name},
    headerNameFromBytes key = some name → name = HeaderName.ofText key
  /-- A pseudo-header name is not a header name. -/
  headerName_no_colon : ∀ {rest}, headerNameFromBytes (':' :: rest) = none
  headerValueToStr_ascii : ∀ {value text},
    headerValueToStr value = some text → text.isAscii = true
  uriFromParts_eq : ∀ {parts uri}, uriFromParts parts = some uri → uri = parts

def statusCodeFromU16 (code : Nat) : Option StatusCode :=
  if 100 ≤ code ∧ code < 1000 then some code else none

/-! ## The parsers on ASCII text

An implementation of the parsers' documented behaviour for ASCII text. It shows
that the facts above are consistent, and lets the model be evaluated.
-/

namespace Ascii

def isToken (character : Char) : Bool :=
  character.isAlphanum || "!#$%&'*+-.^_`|~".toList.contains character

def parseToken (text : Text) : Option Text :=
  if text ≠ [] ∧ text.all isToken then some text else none

def isVisible (byte : UInt8) : Bool := byte = 9 || (32 ≤ byte && byte < 127)

def toBytes (text : Text) : Bytes :=
  text.map fun character => UInt8.ofNat character.toNat

/-- The text of a visible byte; other bytes are never converted. -/
def ofBytes (bytes : Bytes) : Text :=
  bytes.map fun byte => Char.ofNat (byte.toNat % 128)

def parseVisible (text : Text) : Option HeaderValue :=
  if text.isAscii ∧ (toBytes text).all isVisible then some (toBytes text) else none

def parsePathAndQuery (text : Text) : Option PathAndQuery :=
  let path := text.takeWhile (· ≠ '?')
  if text.head? = some '/' then
    some ⟨path, (text.drop path.length).tail?⟩
  else
    none

/-- A scheme needs an authority and a path, and so does an authority with a path. -/
def fitParts (parts : Uri) : Option Uri :=
  match parts.scheme, parts.authority, parts.pathAndQuery with
  | some _, some _, some _ => some parts
  | some _, _, _ => none
  | none, some _, some _ => none
  | none, _, _ => some parts

theorem utf8Size_ofNat_mod (byte : UInt8) : (Char.ofNat (byte.toNat % 128)).utf8Size = 1 := by
  have small : byte.toNat % 128 < 128 := Nat.mod_lt _ (by decide)
  generalize byte.toNat % 128 = code at small
  interval_cases code <;> decide

end Ascii

@[reducible] def HttpCrate.ascii : HttpCrate where
  headerNameFromBytes key := (Ascii.parseToken key).map HeaderName.ofText
  headerValueFromStr := Ascii.parseVisible
  headerValueFromBytes bytes :=
    if bytes.all fun byte => byte = 9 || (32 ≤ byte && byte ≠ 127) then
      some bytes
    else
      none
  headerValueToStr value :=
    if value.all Ascii.isVisible then some (Ascii.ofBytes value) else none
  methodFromBytes := Ascii.parseToken
  schemeFromStr := Ascii.parseToken
  authorityFromStr text :=
    if text ≠ [] ∧ ¬ text.contains '/' then some text else none
  pathAndQueryFromStr := Ascii.parsePathAndQuery
  uriFromParts := Ascii.fitParts
  headerName_normalised := by
    intro key name parsed
    simp only [Ascii.parseToken] at parsed
    split at parsed
    · cases parsed
      rfl
    · cases parsed
  headerName_no_colon := by
    simp [Ascii.parseToken, Ascii.isToken]
  headerValueToStr_ascii := by
    intro value text converted
    split at converted
    · cases converted
      simp [Text.isAscii, Ascii.ofBytes, Ascii.utf8Size_ofNat_mod]
    · cases converted
  uriFromParts_eq := by
    intro parts uri fitted
    simp only [Ascii.fitParts] at fitted
    split at fitted <;> cases fitted <;> rfl

/-! ## Headers that hold lists

A list header may have several lines, and each of them several items between commas.
-/

/-- Header values are readable if all their bytes are visible. -/
class HeaderCrate extends HttpCrate where
  headerValueToStr_eq : ∀ value, headerValueToStr value =
    if value.all Ascii.isVisible then some (Ascii.ofBytes value) else none
  headerValueFromStr_eq : ∀ text, headerValueFromStr text = Ascii.parseVisible text

@[reducible] def HeaderCrate.ascii : HeaderCrate :=
  { HttpCrate.ascii with
    headerValueToStr_eq := fun _ => rfl
    headerValueFromStr_eq := fun _ => rfl }

def isBlank (byte : UInt8) : Bool := byte = 32 || byte = 9

def trimBlank (bytes : Bytes) : Bytes :=
  ((bytes.dropWhile isBlank).reverse.dropWhile isBlank).reverse

/-- The items that are not empty. -/
def listItems (value : HeaderValue) : List Bytes :=
  ((value.splitOn 44).map trimBlank).filter (· ≠ [])

def HeaderMap.items (headers : HeaderMap) (name : HeaderName) : List Bytes :=
  (headers.getAll name).flatMap listItems

theorem trimBlank_of_clean (clean : ∀ byte ∈ bytes, isBlank byte = false) :
    trimBlank bytes = bytes := by
  have kept : ∀ {bytes : Bytes}, (∀ byte ∈ bytes, isBlank byte = false) →
      bytes.dropWhile isBlank = bytes := by
    intro bytes clean
    cases bytes with
    | nil => rfl
    | cons byte rest => rw [List.dropWhile_cons_of_neg (by simp [clean])]
  rw [trimBlank, kept clean, kept (by simpa using clean), List.reverse_reverse]

/-- A value without commas and blanks is its only item. -/
theorem listItems_of_clean (nonempty : value ≠ [])
    (clean : ∀ byte ∈ value, byte ≠ 44 ∧ isBlank byte = false) : listItems value = [value] := by
  have whole : value.splitOn 44 = [value] := by
    simpa using @List.splitOn_intercalate _ [value] _ _ 44
      (by simpa using fun member => (clean 44 member).1 rfl) (by simp)
  simp [listItems, whole, trimBlank_of_clean fun byte member => (clean byte member).2, nonempty]

end Orion.Http
