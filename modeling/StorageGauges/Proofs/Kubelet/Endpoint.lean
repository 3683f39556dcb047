import StorageGauges.Cluster.Node
import StorageGauges.Kubelet.Client
import StorageGauges.Proofs.Url.Web

/-!
# Where a Kubelet Is Asked

The way from the address that a node reports to the request that is made. One
side puts an endpoint together from scheme, address and port, the other adds a
path to it and reads the whole as a URL. Neither looks at what the other takes
for granted, so what matters is whether the text is read as it was meant.

For an address of 32 bits it is. The host of the request is the address, the
port is the one that was chosen, also where it is the usual one and so is not
written, and the path is that of the summary. The text of the request is again
the text of that URL, so nothing is lost when it is sent.

An address of 128 bits has colons, and the endpoint has no brackets around it.
Reading stops at the first colon, what follows is no port, and no request to the
node can be made.

## Main definitions

* `Url.Host.IsAddress`: A text is that of an address.
* `Url.usedPort?`: The port that a request by a URL goes to.
* `Node.door`: The scheme and the port by which a kubelet is asked.
* `Node.endpointAt`: The endpoint of a node with a given address.
* `Kubelet.Request.GoesTo`: A request goes to a host and a port.
* `Kubelet.summaryAt`: The URL of the summary at a host.

## Theorems

* `Node.endpoint?_eq`: A node with an address and a port has an endpoint.
* `Kubelet.read?_place`: The port of a place is behind the first colon.
* `Kubelet.summaryRequest_address4`, `Kubelet.summaryRequest_address6`: What
  comes of a request to an address.
* `Kubelet.request_by_address`: The address that a node reports decides whether
  it can be asked, and where.
-/

namespace StorageGauges

namespace Url

/-- A text is that of an address: of 32 bits, its four bytes without needless
    zeros; of 128 bits, any of its spellings. -/
def Host.IsAddress (text : List Char) : Host → Prop
  | name _ => False
  | address4 a => a < 4294967296 ∧ text = Address4.write a
  | address6 ps => Address6.read? text = some ps

/-- The port that a request by a URL goes to: its own, or else the usual one of
    its scheme. -/
def usedPort? (u : Url) : Option Nat :=
  u.port.or (usualPorts.lookup u.scheme).join

end Url

/-- The scheme and the port by which a kubelet is asked. -/
def Node.door (n : Node) (readOnlyPort : Nat) : String × Nat :=
  if readOnlyPort ≠ 0 then ("http", readOnlyPort) else ("https", n.kubeletPort.toNat)

theorem Node.door_web (n : Node) (readOnlyPort : Nat) :
    (n.door readOnlyPort).1 = "http" ∨ (n.door readOnlyPort).1 = "https" := by
  unfold door
  split
  · exact Or.inl rfl
  · exact Or.inr rfl

/-- The endpoint of a node with a given address. -/
def Node.endpointAt (n : Node) (readOnlyPort : Nat) (text : String) : String :=
  (n.door readOnlyPort).1 ++ "://" ++ text ++ ":" ++ portText (n.door readOnlyPort).2

theorem Node.endpoint?_eq (n : Node) (readOnlyPort : Nat) {text : String}
    (haddress : n.internalAddress? = some text) (hport : 0 < (n.door readOnlyPort).2) :
    n.endpoint? readOnlyPort = some (n.endpointAt readOnlyPort text) := by
  unfold endpointAt
  unfold door at hport ⊢
  rw [endpoint?, haddress, Option.bind_some]
  by_cases hread : readOnlyPort ≠ 0
  · rw [if_pos hread, if_pos hread]
    rfl
  · -- A port that is not reported is 0, so there is one only if it is above.
    rw [if_neg hread] at hport
    have hreported : 0 < n.kubeletPort := by
      dsimp only at hport
      omega
    rw [if_neg hread, if_neg hread, if_pos hreported]
    rfl

theorem Node.target_eq (n : Node) (readOnlyPort : Nat) {text : String}
    (haddress : n.internalAddress? = some text) (hport : 0 < (n.door readOnlyPort).2) :
    n.target true readOnlyPort =
      { name := n.name, endpoint := some (n.endpointAt readOnlyPort text) } := by
  rw [target, if_pos rfl, n.endpoint?_eq readOnlyPort haddress hport]

namespace Kubelet

/-- The path of the summary. -/
def summaryPath : List Char := "/stats/summary".toList

/-- A request goes to a host and a port, for the summary. -/
def Request.GoesTo (r : Request) (scheme : String) (host : Url.Host) (port : Nat) : Prop :=
  ∃ u, Url.read? r.url = some u ∧ u.write = r.url ∧ u.scheme = scheme ∧ u.host = host ∧
    u.usedPort? = some port ∧ u.path = summaryPath ∧ u.query = none

theorem summaryUrl_of_getLast? {endpoint : String} (h : endpoint.toList.getLast? ≠ some '/') :
    summaryUrl endpoint = endpoint ++ "/stats/summary" := by
  have hkept : endpoint.toList.reverse.dropWhile (fun c => decide (c = '/')) =
      endpoint.toList.reverse := by
    rw [← List.head?_reverse] at h
    cases hback : endpoint.toList.reverse with
    | nil => rfl
    | cons c rest =>
        rw [hback, List.head?_cons] at h
        have hc : c ≠ '/' := fun heq => h (congrArg some heq)
        rw [List.dropWhile_cons, if_neg (by simpa using hc)]
  rw [summaryUrl, hkept, List.reverse_reverse, String.ofList_toList]

theorem summaryUrl_place (scheme text : String) (port : Nat) :
    summaryUrl (scheme ++ "://" ++ text ++ ":" ++ Node.portText port) =
      String.ofList (scheme.toList ++ "://".toList ++
        (text.toList ++ ':' :: Decimal.ofNatText port) ++ summaryPath) := by
  have htext : (scheme ++ "://" ++ text ++ ":" ++ Node.portText port).toList =
      scheme.toList ++ "://".toList ++ (text.toList ++ ':' :: Decimal.ofNatText port) := by
    simp only [String.toList_append, Node.portText, String.toList_ofList, List.append_assoc]
    rfl
  -- The last character is a digit of the port, so no slash is cut off.
  have hlast : (scheme ++ "://" ++ text ++ ":" ++ Node.portText port).toList.getLast? ≠
      some '/' := by
    rw [String.toList_append, Node.portText, String.toList_ofList,
      List.getLast?_append, List.getLast?_eq_some_getLast (Decimal.ofNatText_ne_nil port),
      Option.some_or]
    intro hslash
    have hmem := List.getLast_mem (Decimal.ofNatText_ne_nil port)
    rw [Option.some.inj hslash] at hmem
    exact Decimal.forall_mem_ofNatText (p := fun c => c ≠ '/') (by decide) port '/' hmem rfl
  apply String.toList_injective
  rw [summaryUrl_of_getLast? hlast, String.toList_append, htext]
  exact String.toList_ofList.symm

/-- The URL of the summary at a host. -/
def summaryAt (scheme : String) (host : Url.Host) (port : Option Nat) : Url :=
  { scheme, username := [], password := none, host, port, path := summaryPath, query := none
    fragment := none }

/-- The port of a place is behind the first colon. -/
theorem read?_place {scheme : String} (hweb : scheme = "http" ∨ scheme = "https")
    {name tail : List Char} (hname : ∀ c ∈ name, Url.isAddressChar c = true) (hcolon : ':' ∉ name)
    (htail : ∀ c ∈ tail, Url.isAddressChar c = true) (hport : tail = [] ∨ tail.head? = some ':')
    (hne : name ++ tail ≠ []) :
    Url.read? (String.ofList (scheme.toList ++ "://".toList ++ (name ++ tail) ++ summaryPath)) =
      (Url.Host.read? name).bind fun host =>
        (Url.port? scheme tail).map fun port => summaryAt scheme host port := by
  have hchars : ∀ c ∈ name ++ tail, Url.isAddressChar c = true :=
    List.forall_mem_append.mpr ⟨hname, htail⟩
  -- A bracket would let the host go on behind a colon.
  have hnobracket : ∀ c ∈ name, c ≠ ':' ∧ c ≠ '[' := by
    intro c hc
    refine ⟨fun heq => hcolon (heq ▸ hc), fun heq => ?_⟩
    exact absurd (heq ▸ hname c hc) (by decide)
  have hat : '@' ∉ name ++ tail := fun hmem => absurd (hchars '@' hmem) (by decide)
  have hpath : summaryPath.all (fun c => decide (c ≠ '#' ∧ c ≠ '?')) = true := by rfl
  have hvisible : "stats/summary".toList.all (fun c => decide (0x20 < c.toNat)) = true := by rfl
  have hresolved : Url.resolvedPath true summaryPath = summaryPath := by rfl
  have hread : Url.read? (String.ofList
      (scheme.toList ++ "://".toList ++ (name ++ tail) ++ summaryPath)) =
        Url.assemble? scheme (name ++ tail) summaryPath :=
    Url.read?_web hweb hchars hne fun c hc =>
      of_decide_eq_true (List.all_eq_true.mp hvisible c hc)
  rw [hread, Url.assemble?_eq (Url.isSpecial_web hweb) hat (Url.takeHost_append hnobracket hport)
    fun c hc => of_decide_eq_true (List.all_eq_true.mp hpath c hc), hresolved]
  rfl

/-- A digit is a character of an address. -/
theorem isAddressChar_of_portTail (port : Nat) :
    ∀ c ∈ ':' :: Decimal.ofNatText port, Url.isAddressChar c = true := by
  exact List.forall_mem_cons.mpr ⟨by decide, Decimal.forall_mem_ofNatText (by decide) port⟩

/-- The port that is left of one that is not too large. -/
def portLeft (scheme : String) (port : Nat) : Option Nat :=
  if Url.usualPorts.lookup scheme = some (some port) then none else some port

/-- The port that is used is the one that was asked for, shown or not. -/
theorem usedPort?_summaryAt {scheme : String} (host : Url.Host)
    (port : Nat) : (summaryAt scheme host (portLeft scheme port)).usedPort? = some port := by
  unfold portLeft
  split
  · rename_i husual
    simp only [Url.usedPort?, summaryAt, husual, Option.join_some, Option.none_or]
  · rfl

/-- An address of 32 bits is read as the host, with the port behind it. -/
theorem read?_address4 {scheme : String} (hweb : scheme = "http" ∨ scheme = "https") {a : Nat}
    (ha : a < 4294967296) {tail : List Char} (htail : ∀ c ∈ tail, Url.isAddressChar c = true)
    (hport : tail = [] ∨ tail.head? = some ':') {port : Option Nat}
    (hread : Url.port? scheme tail = some port) :
    Url.read? (String.ofList (scheme.toList ++ "://".toList ++ (Url.Address4.write a ++ tail) ++
      summaryPath)) = some (summaryAt scheme (.address4 a) port) := by
  have hname : ∀ c ∈ Url.Address4.write a, Url.isAddressChar c = true :=
    Url.Address4.forall_mem_write a (by decide) (by decide)
  have hcolon : ':' ∉ Url.Address4.write a := fun hmem =>
    Url.Address4.forall_mem_write (p := fun c => c ≠ ':') a (by decide) (by decide) ':' hmem rfl
  rw [read?_place hweb hname hcolon htail hport
    (List.append_ne_nil_of_left_ne_nil (Url.Address4.write_ne_nil a) tail),
    Url.Host.read?_write a ha, hread]
  rfl

/-- What is written for such a URL is read as that URL. -/
theorem read?_write_summaryAt {scheme : String} (hweb : scheme = "http" ∨ scheme = "https")
    {a port : Nat} (ha : a < 4294967296) (hhigh : port ≤ 65535) :
    Url.read? (summaryAt scheme (.address4 a) (portLeft scheme port)).write =
      some (summaryAt scheme (.address4 a) (portLeft scheme port)) := by
  -- There is no name, no password, no query and no fragment to be written.
  have htext : ∀ shown : Option Nat, (summaryAt scheme (.address4 a) shown).write =
      String.ofList (scheme.toList ++ "://".toList ++ (Url.Address4.write a ++
        Url.writePart ':' (shown.map Decimal.ofNatText)) ++ summaryPath) := by
    intro shown
    simp only [Url.write, summaryAt, Url.writeUserinfo, Url.Host.write, Url.writePart,
      List.isEmpty_nil, if_true, List.append_nil, List.append_assoc]
  rw [htext]
  cases hleft : portLeft scheme port with
  | none =>
      exact read?_address4 hweb ha (List.forall_mem_nil _) (Or.inl rfl) rfl
  | some shown =>
      -- A port is left only if it is not the usual one, so it is read again.
      have hread : Url.port? scheme (':' :: Decimal.ofNatText port) = some (portLeft scheme port) :=
        Url.port?_ofNatText scheme port hhigh
      have hshown : shown = port := by
        unfold portLeft at hleft
        split at hleft
        · exact absurd hleft (by simp)
        · exact (Option.some.inj hleft).symm
      rw [hleft] at hread
      rw [hshown] at hread ⊢
      exact read?_address4 hweb ha (isAddressChar_of_portTail port) (Or.inr rfl) hread

/-- An address of 128 bits without brackets is no URL. -/
theorem read?_address6 {scheme : String} (hweb : scheme = "http" ∨ scheme = "https")
    {text : List Char} {ps : List Nat} (haddress : Url.Address6.read? text = some ps) (port : Nat) :
    Url.read? (String.ofList (scheme.toList ++ "://".toList ++
      (text ++ ':' :: Decimal.ofNatText port) ++ summaryPath)) = none := by
  -- The first colon of the address ends the name of the host.
  rcases Url.Address6.mem_of_read? haddress with ⟨hcolon, hchars⟩
  rcases List.eq_append_cons_of_mem hcolon with ⟨front, back, rfl, hfront⟩
  rcases List.forall_mem_append.mp hchars with ⟨hname, hback⟩
  have htail : ∀ c ∈ ':' :: (back ++ ':' :: Decimal.ofNatText port),
      Url.isAddressChar c = true :=
    List.forall_mem_append.mpr ⟨hback, isAddressChar_of_portTail port⟩
  have hread := read?_place hweb hname hfront htail (Or.inr rfl)
    (List.append_ne_nil_of_right_ne_nil front (List.cons_ne_nil _ _))
  -- What is behind the first colon of the address counts as the port.
  have hport : Url.port? scheme (':' :: (back ++ ':' :: Decimal.ofNatText port)) = none :=
    Url.port?_of_colon scheme (List.mem_append_right back List.mem_cons_self)
  have htext : front ++ ':' :: back ++ ':' :: Decimal.ofNatText port =
      front ++ ':' :: (back ++ ':' :: Decimal.ofNatText port) := List.append_assoc _ _ _
  rw [htext, hread, hport]
  cases Url.Host.read? front with
  | none => rfl
  | some host => rfl

/-- A URL without a name and a password gives no credentials. -/
theorem takeCredentials_summaryAt (scheme : String) (host : Url.Host) (port : Option Nat) :
    takeCredentials (summaryAt scheme host port) = (none, summaryAt scheme host port) := by
  have hdecoded : decoded? [] = some "" := Utf8.decode?_encode ""
  simp only [takeCredentials, summaryAt, hdecoded]
  rfl

/-- What comes of a request whose URL is read. Credentials in the URL come before
    those by token. -/
theorem summaryRequest_of_url {endpoint : String} {u : Url}
    (hread : Url.read? (summaryUrl endpoint) = some u) (name : String)
    (tokenFile : Option String) :
    summaryRequest { name, endpoint := some endpoint } tokenFile =
      match tokenCredentials? endpoint tokenFile with
      | some byToken =>
        .ok
          { method := "GET"
            url := (takeCredentials u).2.write
            authorization := (takeCredentials u).1.or byToken }
      | none => .error { node := name, failure := .transport "no request can be made" } := by
  simp only [summaryRequest, request?, hread, Option.bind_eq_bind, Option.bind_some]
  cases tokenCredentials? endpoint tokenFile with
  | none => rfl
  | some byToken => rfl

/-- What comes of a request whose URL is that of the summary at a host. -/
theorem summaryRequest_of_read? {endpoint scheme : String} {host : Url.Host} {port : Option Nat}
    (hread : Url.read? (summaryUrl endpoint) = some (summaryAt scheme host port)) (name : String)
    (tokenFile : Option String) :
    summaryRequest { name, endpoint := some endpoint } tokenFile =
      match tokenCredentials? endpoint tokenFile with
      | some authorization =>
        .ok { method := "GET", url := (summaryAt scheme host port).write, authorization }
      | none => .error { node := name, failure := .transport "no request can be made" } := by
  simp only [summaryRequest_of_url hread, takeCredentials_summaryAt, Option.none_or]

/-- No request can be made to what is no URL. -/
theorem summaryRequest_of_unread {endpoint : String}
    (hread : Url.read? (summaryUrl endpoint) = none) (name : String) (tokenFile : Option String) :
    summaryRequest { name, endpoint := some endpoint } tokenFile =
      .error { node := name, failure := .transport "no request can be made" } := by
  have hrequest : request? endpoint tokenFile = none := by
    rw [request?, hread]
    rfl
  simp only [summaryRequest, hrequest]

/-- Only the read-only port is asked without security. -/
theorem isSecure_endpointAt (n : Node) (readOnlyPort : Nat) (text : String) :
    isSecure (n.endpointAt readOnlyPort text) = decide (readOnlyPort = 0) := by
  unfold Node.endpointAt Node.door
  split
  · rename_i hread
    rw [decide_eq_false hread]
    simp only [isSecure, String.toList_append]
    rfl
  · rename_i hnone
    rw [decide_eq_true (Decidable.not_not.mp hnone)]
    simp only [isSecure, String.toList_append]
    rfl

/-- No request can be made to an address of 128 bits. -/
theorem summaryRequest_address6 (n : Node) (readOnlyPort : Nat) {text : String}
    (haddress : n.internalAddress? = some text) (hport : 0 < (n.door readOnlyPort).2)
    {ps : List Nat} (hps : Url.Address6.read? text.toList = some ps) (tokenFile : Option String) :
    summaryRequest (n.target true readOnlyPort) tokenFile =
      .error { node := n.name, failure := .transport "no request can be made" } := by
  rw [n.target_eq readOnlyPort haddress hport]
  refine summaryRequest_of_unread ?_ n.name tokenFile
  rw [Node.endpointAt, summaryUrl_place]
  exact read?_address6 (n.door_web readOnlyPort) hps (n.door readOnlyPort).2

/-- What comes of a request to an address of 32 bits. -/
theorem summaryRequest_address4 (n : Node) (readOnlyPort : Nat) {text : String}
    (haddress : n.internalAddress? = some text) (hlow : 0 < (n.door readOnlyPort).2)
    (hhigh : (n.door readOnlyPort).2 ≤ 65535) {a : Nat} (ha : a < 4294967296)
    (htext : text.toList = Url.Address4.write a) (tokenFile : Option String) :
    summaryRequest (n.target true readOnlyPort) tokenFile =
      match tokenCredentials? (n.endpointAt readOnlyPort text) tokenFile with
      | some authorization =>
        .ok
          { method := "GET"
            url := (summaryAt (n.door readOnlyPort).1 (.address4 a)
              (portLeft (n.door readOnlyPort).1 (n.door readOnlyPort).2)).write
            authorization }
      | none => .error { node := n.name, failure := .transport "no request can be made" } := by
  rw [n.target_eq readOnlyPort haddress hlow]
  refine summaryRequest_of_read? ?_ n.name tokenFile
  rw [Node.endpointAt, summaryUrl_place, htext]
  exact read?_address4 (n.door_web readOnlyPort) ha (isAddressChar_of_portTail _) (Or.inr rfl)
    (Url.port?_ofNatText _ _ hhigh)

/-- An endpoint of an address of 32 bits leads there: whenever the credentials
    can be had, the request can be made, and it goes by the scheme and to the
    port of the node's door, for the summary. Only over the read-only port are
    none needed. An address of 128 bits gives an endpoint too, but no request can
    be made to it, with whatever token: it is not put in brackets, so what is
    behind its first colon is taken for the port. -/
theorem request_by_address (n : Node) (readOnlyPort : Nat) (text : String)
    (haddress : n.internalAddress? = some text) (hlow : 0 < (n.door readOnlyPort).2)
    (hhigh : (n.door readOnlyPort).2 ≤ 65535) :
    ∃ endpoint, n.endpoint? readOnlyPort = some endpoint ∧
      isSecure endpoint = decide (readOnlyPort = 0) ∧
      (∀ a, (Url.Host.address4 a).IsAddress text.toList → ∀ tokenFile,
        (∀ authorization, tokenCredentials? endpoint tokenFile = some authorization →
          ∃ r, summaryRequest (n.target true readOnlyPort) tokenFile = .ok r ∧ r.method = "GET" ∧
            r.authorization = authorization ∧
            r.GoesTo (n.door readOnlyPort).1 (.address4 a) (n.door readOnlyPort).2) ∧
        (tokenCredentials? endpoint tokenFile = none →
          summaryRequest (n.target true readOnlyPort) tokenFile =
            .error { node := n.name, failure := .transport "no request can be made" })) ∧
      ∀ ps, (Url.Host.address6 ps).IsAddress text.toList → ∀ tokenFile,
        summaryRequest (n.target true readOnlyPort) tokenFile =
          .error { node := n.name, failure := .transport "no request can be made" } := by
  refine ⟨n.endpointAt readOnlyPort text, n.endpoint?_eq readOnlyPort haddress hlow,
    isSecure_endpointAt n readOnlyPort text, fun a ha tokenFile => ?_, fun ps hps tokenFile => ?_⟩
  · rw [summaryRequest_address4 n readOnlyPort haddress hlow hhigh ha.1 ha.2]
    refine ⟨fun authorization hcredentials => ?_, fun hnone => by rw [hnone]⟩
    rw [hcredentials]
    refine ⟨_, rfl, rfl, rfl, _, read?_write_summaryAt (n.door_web readOnlyPort) ha.1 hhigh, ?_⟩
    exact ⟨rfl, rfl, rfl, usedPort?_summaryAt _ _, rfl, rfl⟩
  · exact summaryRequest_address6 n readOnlyPort haddress hlow hps tokenFile

/-- A node with one internal address, whose kubelet is at the usual port. -/
def nodeAt (text : String) : Node :=
  { name := "node", conditions := [], addresses := [{ kind := "InternalIP", text }]
    kubeletPort := 10250 }

/-- The request to a secure port has the token. -/
theorem request_by_address_secure :
    ∃ r, summaryRequest ((nodeAt "10.0.0.1").target true 0) (some "token") = .ok r ∧
      r.authorization = some "Bearer token" ∧ r.GoesTo "https" (.address4 167772161) 10250 := by
  rcases request_by_address (nodeAt "10.0.0.1") 0 "10.0.0.1" rfl (by decide) (by decide) with
    ⟨endpoint, -, hsecure, hasked, -⟩
  have haddress : (Url.Host.address4 167772161).IsAddress "10.0.0.1".toList := by
    have hdigits : Decimal.digitsOf 0 = [0] ∧ Decimal.digitsOf 1 = [1] ∧
        Decimal.digitsOf 10 = [1, 0] := by
      simp [Decimal.digitsOf]
    refine ⟨by decide, ?_⟩
    simp only [Url.Address4.write, Decimal.ofNatText, hdigits, Nat.reduceDiv, Nat.reduceMod]
    rfl
  have hcredentials : tokenCredentials? endpoint (some "token") = some (some "Bearer token") := by
    rw [tokenCredentials?, hsecure]
    decide
  rcases (hasked 167772161 haddress (some "token")).1 _ hcredentials with
    ⟨r, hr, -, hauthorization, hgoes⟩
  exact ⟨r, hr, hauthorization, hgoes⟩

/-- Not every node is asked at its address, though its port is known and the
    credentials can be had. -/
theorem address6_not_asked :
    ¬ ∀ (n : Node) (readOnlyPort : Nat) (text : String) (host : Url.Host),
      n.internalAddress? = some text → host.IsAddress text.toList →
      0 < (n.door readOnlyPort).2 → (n.door readOnlyPort).2 ≤ 65535 →
      ∃ endpoint, n.endpoint? readOnlyPort = some endpoint ∧
        ∀ tokenFile authorization, tokenCredentials? endpoint tokenFile = some authorization →
          ∃ r, summaryRequest (n.target true readOnlyPort) tokenFile = .ok r ∧
            r.GoesTo (n.door readOnlyPort).1 host (n.door readOnlyPort).2 := by
  intro h
  have haddress : Url.Address6.read? "fd00::1".toList = some [0xFD00, 0, 0, 0, 0, 0, 0, 1] := by
    decide
  -- Over the read-only port no credentials are needed.
  rcases h (nodeAt "fd00::1") 10255 "fd00::1" (.address6 [0xFD00, 0, 0, 0, 0, 0, 0, 1]) rfl haddress
    (by decide) (by decide) with ⟨endpoint, hendpoint, hasked⟩
  rw [(nodeAt "fd00::1").endpoint?_eq 10255 rfl (by decide)] at hendpoint
  have hcredentials : tokenCredentials? endpoint none = some none := by
    rw [← Option.some.inj hendpoint, tokenCredentials?, isSecure_endpointAt]
    rfl
  rcases hasked none none hcredentials with ⟨r, hr, -⟩
  rw [summaryRequest_address6 (nodeAt "fd00::1") 10255 rfl (by decide) haddress none] at hr
  exact absurd hr (by simp)

end Kubelet

end StorageGauges
