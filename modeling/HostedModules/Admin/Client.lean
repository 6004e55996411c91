/-
HostedModules.Admin.Client — the resources of the administrative service.

Names become path segments byte by byte: unreserved characters stand for
themselves and every other byte is written as `%` and two hexadecimal digits, so
no name can add a segment, a query or a fragment.

Replies are handed on as they come.  A list may be spread over several pages,
each naming the next one by a token; the pages are followed until one has no
token.

* `Path.segment`, `Path.resource` — a name as a path segment, and the path of a
  resource (`_path`)
* `Client.build` — a client with the credentials of the application
* `Client.send` — one request (`_request`)
* `Client.collect` — the items of all pages of a list (`_list`)
* `Client.application`, `Client.services`, … — the resources
  (`get_application` to `patch_version`)
-/
import HostedModules.Admin.Exchange
import HostedModules.Value.Access
import HostedModules.Wire.Datum

namespace HostedModules

/-! ## Paths -/

namespace Path

/-- ASCII letters and digits and four marks. -/
def unreserved (b : UInt8) : Bool :=
  let n := b.toNat
  (65 ≤ n && n ≤ 90) || (97 ≤ n && n ≤ 122) || (48 ≤ n && n ≤ 57) || n = 95 ||
    n = 46 || n = 45 || n = 126

/-- A hexadecimal digit in upper case. -/
def hexDigit (n : Nat) : Char :=
  if n < 10 then Char.ofNat (48 + n) else Char.ofNat (55 + n)

/-- One byte of a segment. -/
def encodeByte (b : UInt8) : List Char :=
  if unreserved b then [Char.ofNat b.toNat]
  else ['%', hexDigit (b.toNat / 16), hexDigit (b.toNat % 16)]

/-- Some bytes as a path segment. -/
def encodeBytes (bytes : List UInt8) : String :=
  String.ofList (bytes.flatMap encodeByte)

/-- A name as a path segment; only texts and byte strings are names. -/
def segment : Value → Except Failure String
  | .text s => .ok (encodeBytes (Wire.utf8 s))
  | .bytes bs => .ok (encodeBytes bs)
  | _ => .error Failure.wrongType

/-- Names as path segments. -/
def segments : List Value → Except Failure (List String)
  | [] => .ok []
  | v :: rest => do
    let s ← segment v
    let ss ← segments rest
    pure (s :: ss)

/-- The path of a resource of a project (`_path`). -/
def resource (project : Value) (parts : List Value) : Except Failure String :=
  (segments (project :: parts)).map fun ss =>
    "apps/" ++ String.intercalate "/" ss

end Path

/-! ## Clients -/

/-- A client of the administrative service (`AdminClient`). -/
structure Client where
  /-- What every path is appended to. -/
  baseUrl : String
  /-- How the client names itself, if it was told to. -/
  userAgent : Option String

namespace Client

/-- The address of the service. -/
def defaultUrl : String := "https://appengine.googleapis.com/v1/"

/-- What the credentials have to allow. -/
def scopes : List String := ["https://www.googleapis.com/auth/cloud-platform"]

/-- How a client that is built for a method names itself. -/
def agentFor (label : String) : String := "appmodules-python-client/" ++ label

/-- A client for a method, once the credentials of the application have been
looked up (`build`). -/
def build (label : String) (credentials : Except Failure Unit) :
    Except Failure Client :=
  match credentials with
  | .ok () => .ok ⟨defaultUrl, some (agentFor label)⟩
  | .error failure =>
    if failure.kind.isA .noCredentials then
      .error (.because .configuration
        (failure.quoting "Failed to build Admin API client: ") failure)
    else .error failure

/-! ## Requests -/

/-- The query of a request as logs show it. -/
def paramsText (params : Option (List (String × Value))) : String :=
  match params with
  | some fields => (Value.record fields).quoted
  | none => "None"

/-- What a request leaves in the trace. -/
def requestEffects (client : Client) (verb path : String)
    (params : Option (List (String × Value)))
    (body : Option Value) : List Effect :=
  [.logged .debug ("Admin API: " ++ verb ++ " " ++ path ++ " " ++
    paramsText params),
   .requested ⟨verb, client.baseUrl ++ path, params, body⟩]

/-- Send a request and read its reply (`_request`). -/
def send (client : Client) (verb path : String)
    (params : Option (List (String × Value))) (body : Option Value) :
    Exchange Value := fun dialogue =>
  let (reply, after) :=
    (dialogue.add (client.requestEffects verb path params body)).takeReply
  (reply.read (client.baseUrl ++ path), after)

/-! ## Lists -/

/-- The items so far with those of one more page, and the token of the next page
if there is one. -/
def readPage (key : String) (found : List Value) (page : Value) :
    Except Failure (List Value × Option Value) := do
  let items ← (← page.get key).orElse (.list []) |>.elements
  let token ← page.get "nextPageToken"
  pure (found ++ items, if token.truthy then some token else none)

/-- The query for the page that a token names. -/
def pageParams (token : Value) : List (String × Value) := [("pageToken", token)]

/-- The items of a list, page by page, from the given replies.  When the replies
have run out the service answers with an empty page, which is the last one. -/
def collectFrom (client : Client) (path key : String)
    (params : List (String × Value)) (found : List Value)
    (effects : List Effect) :
    List Reply → Except Failure (List Value) × Dialogue
  | [] =>
    let effects :=
      effects ++ client.requestEffects "GET" path (some params) none
    (.ok found, ⟨[], effects⟩)
  | reply :: rest =>
    let effects :=
      effects ++ client.requestEffects "GET" path (some params) none
    match reply.read (client.baseUrl ++ path) with
    | .error failure => (.error failure, ⟨rest, effects⟩)
    | .ok page =>
      match readPage key found page with
      | .error failure => (.error failure, ⟨rest, effects⟩)
      | .ok (found, none) => (.ok found, ⟨rest, effects⟩)
      | .ok (found, some token) =>
          collectFrom client path key (pageParams token) found effects rest

/-- The items of all pages of a list (`_list`). -/
def collect (client : Client) (path key : String) :
    Exchange (List Value) := fun dialogue =>
  client.collectFrom path key [] [] dialogue.effects dialogue.replies

/-! ## Resources -/

/-- The application itself (`get_application`). -/
def application (client : Client) (project : Value) : Exchange Value := do
  let path ← Exchange.lift (Path.resource project [])
  client.send "GET" path none none

/-- The services of the application (`list_services`). -/
def services (client : Client) (project : Value) : Exchange (List Value) := do
  let path ← Exchange.lift (Path.resource project [.text "services"])
  client.collect path "services"

/-- One service (`get_service`). -/
def service (client : Client) (project name : Value) : Exchange Value := do
  let path ← Exchange.lift (Path.resource project [.text "services", name])
  client.send "GET" path none none

/-- The versions of a service (`list_versions`). -/
def versions (client : Client) (project name : Value) :
    Exchange (List Value) := do
  let path ← Exchange.lift
    (Path.resource project [.text "services", name, .text "versions"])
  client.collect path "versions"

/-- The path of a version. -/
def versionPath (project service version : Value) : Except Failure String :=
  Path.resource project [.text "services", service, .text "versions", version]

/-- One version, in the view that is asked for if one is (`get_version`). -/
def version (client : Client) (project service version view : Value) :
    Exchange Value := do
  let path ← Exchange.lift (versionPath project service version)
  client.send "GET" path (some (if view.truthy then [("view", view)] else [])) none

/-- Change those fields of a version that the mask names (`patch_version`). -/
def patchVersion (client : Client) (project service version body mask : Value) :
    Exchange Value := do
  let path ← Exchange.lift (versionPath project service version)
  client.send "PATCH" path (some [("updateMask", mask)]) (some body)

end Client

end HostedModules
