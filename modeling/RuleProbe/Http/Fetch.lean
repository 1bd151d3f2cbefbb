import RuleProbe.Charset.Bytes
import RuleProbe.Http.Charset
import RuleProbe.Http.Header

/-!
# Fetching pages

A page is fetched by one request.  Whatever the network answers becomes a result with a
status, or with an error; an address that holds its data itself needs no network.
-/

namespace RuleProbe

/-- The result of fetching an address. -/
structure Page where
  /-- The page is there. -/
  success : Bool
  /-- The address that was asked for. -/
  url : Text
  /-- The status of the answer. -/
  status : Option Int
  /-- The headers of the answer. -/
  headers : Keyed Text
  /-- The text of the page. -/
  body : Text
  /-- The bytes of the page. -/
  raw : Bytes
  /-- The charset of the page. -/
  charset : Option Text
  /-- What went wrong. -/
  error : Option Text
  /-- The address that answered in the end. -/
  finalUrl : Option Text
  deriving DecidableEq, Inhabited

namespace Http

/-- The body of a request. -/
inductive RequestBody where
  /-- Bytes as they are. -/
  | bytes (bytes : Bytes)
  /-- The fields of a form. -/
  | form (fields : Json.Members)
  deriving Inhabited

/-- A request. -/
structure Request where
  /-- The method. -/
  method : Text
  /-- The address. -/
  url : Text
  /-- The headers. -/
  headers : Keyed Text
  /-- The body. -/
  body : Option RequestBody
  /-- The seconds to wait for an answer. -/
  timeout : Float
  /-- The address of a proxy. -/
  proxy : Option Text
  /-- The number of redirections to follow. -/
  maxRedirects : Int
  deriving Inhabited

/-- An answer to a request. -/
structure Response where
  /-- The status. -/
  status : Int
  /-- The wording of the status. -/
  reason : Text
  /-- The headers. -/
  headers : Keyed Text
  /-- The bytes of the page. -/
  content : Bytes
  /-- The address that answered in the end. -/
  url : Text
  deriving Inhabited

/-- What becomes of a request. -/
inductive Answer where
  /-- A response. -/
  | response (response : Response)
  /-- A failure, by its kind and its wording. -/
  | failure (kind message : Text)
  deriving Inhabited

/-- A network: what becomes of each request. -/
abbrev Network := Request → Answer

/-- The seconds to wait when nothing else is asked for. -/
def standardTimeout : Float := 30.0

/-- The number of redirections to follow when nothing else is asked for. -/
def standardRedirects : Int := 5

/-- What is asked for besides an address. -/
structure Options where
  /-- The method. -/
  method : Text := []
  /-- Headers over the standard ones. -/
  headers : Json.Members := []
  /-- The body: nothing, the fields of a form, or a text. -/
  body : Json := .null
  /-- The seconds to wait; zero stands for the standard ones. -/
  timeout : Float := 0.0
  /-- The charset of the page, and of a body that is a text; it should be a text. -/
  charset : Json := .null
  /-- The address of a proxy. -/
  proxy : Text := []
  /-- The number of redirections to follow. -/
  maxRedirects : Option Int := none
  deriving Inhabited

/-! ## Addresses that hold their data -/

/-- What an address that holds data begins with. -/
def dataStart : Text := "data:".toList

/-- A result without a page. -/
def failed (url error : Text) : Page :=
  ⟨false, url, none, [], [], [], none, some error, none⟩

/-- The bytes that an address holds. -/
def dataBytes? (params : List Text) (payload : Text) : Option Bytes :=
  if params.elem "base64".toList then
    Base64.decode? (payload ++ List.replicate ((4 - payload.length % 4) % 4) '=')
  else some (Percent.decode (Utf8.encode payload))

/-- The charset that the last parameter with one names. -/
def paramCharset? (params : List Text) : Option Text :=
  params.foldl (fun found param =>
    if Text.startsWith (Text.lower param) "charset=" then
      PageCharset.normalize (param.drop 8)
    else found) none

/-- The page that an address holds. -/
def decodeData (url : Text) : Page :=
  let (info, payload) := (Text.cut? [','] (url.drop dataStart.length)).getD
    (url.drop dataStart.length, [])
  let params := (Text.splitWhere (· == ';') [] info).map Text.trim
  let type := params.headD []
  match dataBytes? params payload with
  | none => failed url "Invalid data URL".toList
  | some raw =>
      let charset := ((paramCharset? params).filter fun label => !label.isEmpty).getD
        (PageCharset.detect none raw)
      match PageCharset.decodeBody raw (some charset) with
      | .error _ => failed url "Invalid data URL".toList
      | .ok body =>
          { success := true
            url := url
            status := some 200
            headers := [("Content-Type".toList, if type.isEmpty then "text/plain".toList else type)]
            body := body
            raw := raw
            charset := some charset
            error := none
            finalUrl := some url }

/-! ## Requests -/

/-- The label of a charset, if one is given; a value of another type than text is
refused, by the name of its type. -/
def labelOf : Json → Except Text (Option Text)
  | .str label => .ok (some label)
  | value => if value.isGiven then .error value.typeName else .ok none

/-- The body of a request. -/
def bodyOf (options : Options) : Except Defect (Option RequestBody) :=
  match options.body with
  | .null => .ok none
  | .obj fields => .ok (some (.form fields))
  | value => do
      let label ← (labelOf options.charset).mapError fun _ => Defect.missingPart
      let charset ← Charset.ofLabel (PageCharset.normalizeOr PageCharset.standard label)
      let bytes ← charset.encode value.display
      .ok (some (.bytes bytes))

/-- The headers of a request.  A form that is a text says so. -/
def headersOf (method : Text) (options : Options) : Keyed Text :=
  let headers := Keyed.update Header.standard (Header.filter options.headers)
  let isText :=
    match options.body with
    | .null => false
    | .obj _ => false
    | _ => true
  let named := headers.any fun header => Text.lower header.1 == "content-type".toList
  if isText && method == "POST".toList && !named then
    headers.put "Content-Type" "application/x-www-form-urlencoded".toList
  else headers

/-- The request for an address. -/
def requestFor (url : Text) (options : Options) : Except Defect Request := do
  let method := Text.upper (if options.method.isEmpty then "GET".toList else options.method)
  let body ← bodyOf options
  .ok {
    method := method
    url := url
    headers := headersOf method options
    body := body
    timeout := if options.timeout == 0.0 then standardTimeout else options.timeout
    proxy := if options.proxy.isEmpty then none else some options.proxy
    maxRedirects := options.maxRedirects.getD standardRedirects }

/-- The value of a header, case aside. -/
def headerValue? (headers : Keyed Text) (name : Text) : Option Text :=
  (headers.find? fun header => Text.lower header.1 == Text.lower name).map (·.2)

/-- The wording of a defect of a charset. -/
def charsetMessage : Defect → Text
  | .value => "embedded null character".toList
  | _ => "undefined encoding".toList

/-- The result of a response. -/
def pageOf (url : Text) (charset : Option Text) (response : Response) : Page :=
  let used := PageCharset.normalizeOr
    (PageCharset.detect (headerValue? response.headers "Content-Type") response.content) charset
  match PageCharset.decodeBody response.content (some used) with
  | .error defect => failed url (defect.name ++ ": ".toList ++ charsetMessage defect)
  | .ok body =>
      let ok := 200 ≤ response.status && response.status < 300
      let error := Text.trim ("HTTP ".toList ++ Integer.write response.status ++ ' ' :: response.reason)
      { success := ok
        url := url
        status := some response.status
        headers := response.headers
        body := body
        raw := response.content
        charset := some used
        error := if ok then none else some error
        finalUrl := some response.url }

/-- The wording for a charset of another type than text. -/
def noLabelMessage (typeName : Text) : Text :=
  Defect.missingPart.name ++ ": '".toList ++ typeName ++ "' object has no attribute 'strip'".toList

/-- The result of a request. -/
def resultOf (network : Network) (charset : Json) (request : Request) : Page :=
  match network request with
  | .failure kind message => failed request.url (kind ++ ": ".toList ++ message)
  | .response response =>
      match labelOf charset with
      | .error typeName => failed request.url (noLabelMessage typeName)
      | .ok label => pageOf request.url label response

/-- Fetch an address: the result, and the request that was made for it. -/
def fetch (network : Network) (url : Text) (options : Options) :
    Except Defect (Page × Option Request) :=
  if url.startsWith dataStart then .ok (decodeData url, none)
  else
    (requestFor url options).map fun request =>
      (resultOf network options.charset request, some request)

end Http

end RuleProbe
