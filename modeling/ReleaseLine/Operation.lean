import ReleaseLine.Audit
import ReleaseLine.Course
import ReleaseLine.FileTree
import ReleaseLine.Json.Value
import ReleaseLine.Listing
import ReleaseLine.Repository
import ReleaseLine.Text.Base64

namespace ReleaseLine

inductive Payload where
  | none
  | json (text : String)
  | file (path contentType : String)

/-- A request to the service, the status that it should have, and the reading of its body. -/
structure Operation (α : Type) where
  method : Http.Method
  url : Url
  payload : Payload
  token : Option Token
  expected : Nat
  interpret : String → Except Cause α

/-- A place among the releases of a repository. -/
def releasesUrl (base : Url) (repository : Repository) (tail : List String) : Url :=
  base.extend (["repos", repository.owner, repository.name, "releases"] ++ tail)

/-- The greatest of the releases that tags name. -/
def greatest? : List ReleaseVersion → Option ReleaseVersion
  | [] => none
  | v :: rest => some (rest.foldl ReleaseVersion.latest v)

/-- The latest release in a listing. Every tag has to be a release. -/
def readLatest (body : String) : Except Cause ReleaseVersion := do
  let tags ← (Listing.tags body).mapError .json
  let versions ← (tags.mapM ReleaseVersion.parse).mapError .tag
  match greatest? versions with
  | some version => return version
  | none => throw .noReleases

def readCreated (body : String) : Except Cause ReleaseId :=
  ((Listing.createdId body).mapError .json).map fun id => ⟨toString id⟩

namespace Operation

def latest (api : Url) (repository : Repository) : Operation ReleaseVersion where
  method := .get
  url := (releasesUrl api repository []).appendPair "per_page" "1"
  payload := .none
  token := none
  expected := 200
  interpret := readLatest

def create (api : Url) (repository : Repository) (token : Token) (version : ReleaseVersion) :
    Operation ReleaseId where
  method := .post
  url := releasesUrl api repository []
  payload := .json (Json.encodeMember "tag_name" version.render)
  token := some token
  expected := 201
  interpret := readCreated

def upload (uploads : Url) (repository : Repository) (token : Token) (id : ReleaseId)
    (artifact : Artifact) : Operation Unit where
  method := .post
  url := ((releasesUrl uploads repository [id.text, "assets"]).appendPair "name"
    artifact.name).appendPair "label" artifact.label
  payload := .file artifact.path artifact.contentType
  token := some token
  expected := 201
  interpret := fun _ => .ok ()

variable {α : Type}

/-- The credentials in the user information of a URL. A name that is no text makes all of it
unusable; a password that is none is left out. -/
def basicCredentials? (url : Url) : Option String := do
  let a ← url.authority
  let text? (part : String) := String.fromUTF8? ⟨(Url.Percent.decodeText part).toArray⟩
  let username ← text? a.username
  let password := (text? a.password).getD ""
  if username = "" ∧ password = "" then none
  let encoded := Text.Base64.encode (username ++ ":" ++ password).toUTF8.toList
  return "Basic " ++ String.ofList encoded

def bodyFields (contentType : String) (body : ByteArray) : Headers :=
  [("content-type", contentType), ("content-length", toString body.size)]

/-- The header lines that do not depend on the address. -/
def fields (op : Operation α) (userAgent : String) (body : Option (ByteArray × String)) :
    Headers :=
  (basicCredentials? op.url).toList.map ("authorization", ·) ++
    [("accept", "application/vnd.github+json"), ("x-github-api-version", "2022-11-28"),
      ("user-agent", userAgent)] ++
    op.token.toList.map (fun token => ("authorization", token.bearer)) ++
    ((body.map fun b => bodyFields b.2 b.1).getD [])

/-- Where the request is sent: credentials go into a header line instead. -/
def address (op : Operation α) : Url :=
  if (basicCredentials? op.url).isSome then op.url.withoutUserInfo else op.url

/-- The request, unless something in it cannot be sent. -/
def request (op : Operation α) (userAgent : String) (body : Option (ByteArray × String)) :
    Except Cause Http.Request :=
  let fields := op.fields userAgent body
  if Http.isSpoken op.address ∧ Http.isAddress op.address ∧
      fields.all (fun f => Http.isValue f.2) then
    .ok { method := op.method, url := op.address, fields := fields, body := body.map (·.1) }
  else .error (.transport { builder := true })

/-- The body and its type, and the moment at which they are there. -/
def body (op : Operation α) (files : FileTree) :
    Nat × Except Cause (Option (ByteArray × String)) :=
  match op.payload with
  | .none => (0, .ok none)
  | .json text => (0, .ok (some (text.toUTF8, "application/json")))
  | .file path contentType =>
    -- Reading a file takes some time.
    match files.read path with
    | .ok content => (1, .ok (some (content, contentType)))
    | .error fault => (1, .error (.artifact path fault))

def content? (op : Operation α) (files : FileTree) : Option ByteArray :=
  (op.body files).2.toOption.join.map (·.1)

def responseOf (received : Http.Head × List UInt8) : Response where
  status := received.1.status
  headers := (Http.Field.group received.1.fields).map Http.Field.decoded
  body := String.ofList (Text.Utf8.decode received.2)

/-- What a full response amounts to. Its body is read only under the expected status. -/
def judge (op : Operation α) (response : Response) : Except Failure α :=
  if response.status ≠ op.expected then
    .error (.unexpectedStatus op.url op.expected response)
  else (op.interpret response.body).mapError (.unusableBody op.url response ·)

end Operation

end ReleaseLine
