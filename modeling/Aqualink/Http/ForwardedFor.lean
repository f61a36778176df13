import Aqualink.Http.SubjectResolver

/-!
# The client behind a proxy

A request that a trusted proxy hands on comes from the address of the proxy.  The client is then
taken to be the first entry of `X-Forwarded-For`, on the ground that each proxy appends the address
that it has the request from.

What a proxy appends to is the header that the client has sent.  So the first entry is the client's
own address only if the client has sent no such header, or one that names it: any other header
chooses the identity that the request goes by (`effectiveClientIp_forward_iff`).

Addresses are read by a library, which is a parameter.
-/

namespace AqualinkAutomate.Http

open Auth General List

/-! ## Networks -/

structure IpNetwork (width : ℕ) where
  address : BitVec width
  scopeId : ℕ := 0
  prefixLength : ℕ
  deriving DecidableEq

def IpNetwork.canonical {width : ℕ} (network : IpNetwork width) : IpNetwork width :=
  { network with
    address := network.address &&& (BitVec.allOnes width <<< (width - network.prefixLength)) }

inductive IpAddress where
  | v4 (address : BitVec 32)
  | v6 (address : BitVec 128) (scopeId : ℕ)

/-- How the library reads addresses and networks. -/
structure IpTexts where
  makeAddress : String → Option IpAddress
  makeNetworkV4 : String → Option (IpNetwork 32)
  makeNetworkV6 : String → Option (IpNetwork 128)

def addressInCidr (texts : IpTexts) (address : IpAddress) (cidr : String) : Bool :=
  match address with
  | .v4 address =>
    match texts.makeNetworkV4 cidr with
    | none => false
    | some network =>
      IpNetwork.canonical { address, prefixLength := network.prefixLength } ==
        network.canonical
  | .v6 address scopeId =>
    match texts.makeNetworkV6 cidr with
    | none => false
    | some network =>
      IpNetwork.canonical { address, scopeId, prefixLength := network.prefixLength } ==
        network.canonical

/-! ## The identity of a request -/

def firstEntry (header : String) : String :=
  String.ofList (trimBy isBlank (header.toList.takeWhile fun char => char != ','))

def effectiveClientIp (texts : IpTexts) (trustedProxyCidrs : List String) (headers : Headers)
    (peerIp : String) : String :=
  if trustedProxyCidrs = [] ∨ peerIp = "" then peerIp
  else
    match texts.makeAddress peerIp with
    | none => peerIp
    | some peer =>
      if trustedProxyCidrs.any (addressInCidr texts peer) then
        let header := (headerValue headers "X-Forwarded-For").getD ""
        if header = "" then peerIp
        else if firstEntry header = "" then peerIp
        else firstEntry header
      else peerIp

/-! ## The proxy -/

structure AddressText where
  text : String
  ne_empty : text ≠ ""
  plain : ∀ char ∈ text.toList, char ≠ ',' ∧ isBlank char = false

/-- What a proxy hands on: the client's request, with its address appended. -/
def forward (client : AddressText) (headers : Headers) : Headers :=
  let appended := match headerValue headers "X-Forwarded-For" with
    | none => client.text
    | some supplied => supplied ++ ", " ++ client.text
  ("X-Forwarded-For", appended) ::
    headers.filter fun header => lowercase header.1 != lowercase "X-Forwarded-For"

/-- The proxy is in one of the networks. -/
def Trusted (texts : IpTexts) (trustedProxyCidrs : List String) (proxy : AddressText) : Prop :=
  ∃ address, texts.makeAddress proxy.text = some address ∧
    ∃ cidr ∈ trustedProxyCidrs, addressInCidr texts address cidr = true

/-- The client has sent no `X-Forwarded-For`, or one whose first entry is its own address.  An empty
first entry stands for the proxy. -/
def NamesItself (proxy client : AddressText) (headers : Headers) : Prop :=
  ∀ supplied, headerValue headers "X-Forwarded-For" = some supplied →
    firstEntry supplied = client.text ∨ firstEntry supplied = "" ∧ proxy.text = client.text

section

variable {proxy client : AddressText} {headers : Headers}

theorem trimBy_of_forall {p : Char → Bool} {text : List Char} (h : ∀ char ∈ text, p char = false) :
    trimBy p text = text := by
  have hdrop : text.dropWhile p = text := by
    cases text with
    | nil => rfl
    | cons char rest => rw [dropWhile_cons, if_neg (by simp [h char mem_cons_self])]
  rw [trimBy, hdrop, rdropWhile_eq_self_iff]
  exact fun hne => by simp [h _ (getLast_mem hne)]

theorem firstEntry_text : firstEntry client.text = client.text := by
  have htake : (client.text.toList.takeWhile fun char => char != ',') = client.text.toList :=
    List.takeWhile_eq_self_iff.mpr fun char hchar => by simpa using (client.plain char hchar).1
  rw [firstEntry, htake, trimBy_of_forall fun char hchar => (client.plain char hchar).2,
    String.ofList_toList]

theorem firstEntry_append (supplied appended : String) :
    firstEntry (supplied ++ ", " ++ appended) = firstEntry supplied := by
  have htake (front rest : List Char) :
      ((front ++ ',' :: rest).takeWhile fun char => char != ',') =
        front.takeWhile fun char => char != ',' := by
    induction front with
    | nil => rfl
    | cons char front ih => simp only [cons_append, takeWhile_cons, ih]
  have hsplit : (supplied ++ ", " ++ appended).toList =
      supplied.toList ++ ',' :: (' ' :: appended.toList) := by
    simp
  rw [firstEntry, firstEntry, hsplit, htake]

theorem headerValue_forward :
    headerValue (forward client headers) "X-Forwarded-For" =
      some (match headerValue headers "X-Forwarded-For" with
        | none => client.text
        | some supplied => supplied ++ ", " ++ client.text) := by
  rw [headerValue, forward, find?_cons_of_pos (by simp), Option.map_some]

theorem effectiveClientIp_of_trusted {texts : IpTexts} {trustedProxyCidrs : List String}
    (h : Trusted texts trustedProxyCidrs proxy) {header : String}
    (hheader : headerValue headers "X-Forwarded-For" = some header) (hne : header ≠ "") :
    effectiveClientIp texts trustedProxyCidrs headers proxy.text =
      if firstEntry header = "" then proxy.text else firstEntry header := by
  obtain ⟨address, haddress, cidr, hcidr, hin⟩ := h
  have hgo : ¬ (trustedProxyCidrs = [] ∨ proxy.text = "") := by
    rintro (hnil | hempty)
    · rw [hnil] at hcidr; cases hcidr
    · exact proxy.ne_empty hempty
  have hany : trustedProxyCidrs.any (addressInCidr texts address) :=
    List.any_eq_true.mpr ⟨cidr, hcidr, hin⟩
  simp only [effectiveClientIp, if_neg hgo, haddress, if_pos hany, hheader, Option.getD_some,
    if_neg hne]

end

/-- **The client chooses its identity.**  A request that a trusted proxy hands on goes by the
address of its client exactly if the header that the client has sent names it. -/
theorem effectiveClientIp_forward_iff (texts : IpTexts) (trustedProxyCidrs : List String)
    (proxy client : AddressText) (headers : Headers)
    (htrusted : Trusted texts trustedProxyCidrs proxy) :
    effectiveClientIp texts trustedProxyCidrs (forward client headers) proxy.text = client.text ↔
      NamesItself proxy client headers := by
  have hforward := @headerValue_forward client headers
  unfold NamesItself
  cases hsupplied : headerValue headers "X-Forwarded-For" with
  | none =>
    rw [hsupplied] at hforward
    rw [effectiveClientIp_of_trusted htrusted hforward client.ne_empty, firstEntry_text,
      if_neg client.ne_empty]
    exact iff_of_true rfl fun supplied hnone => by cases hnone
  | some supplied =>
    rw [hsupplied] at hforward
    have hne : supplied ++ ", " ++ client.text ≠ "" := by
      intro hempty
      have hlength := congrArg String.length hempty
      simp at hlength
    rw [effectiveClientIp_of_trusted htrusted hforward hne, firstEntry_append]
    simp only [Option.some.injEq, forall_eq']
    by_cases hentry : firstEntry supplied = ""
    · simp [hentry, client.ne_empty.symm]
    · simp [hentry]

/-! ## A client that names another -/

/-- The library on the texts below. -/
def sampleTexts : IpTexts where
  makeAddress text := if text = "10.0.0.1" then some (.v4 0x0A000001) else none
  makeNetworkV4 text :=
    if text = "10.0.0.0/8" then some { address := 0x0A000000, prefixLength := 8 } else none
  makeNetworkV6 _ := none

def sampleProxy : AddressText := ⟨"10.0.0.1", by decide, by simp [isBlank]⟩

def sampleClient : AddressText := ⟨"203.0.113.9", by decide, by simp [isBlank]⟩

theorem sampleProxy_trusted : Trusted sampleTexts ["10.0.0.0/8"] sampleProxy :=
  ⟨.v4 0x0A000001, rfl, "10.0.0.0/8", mem_cons_self, by decide⟩

theorem effectiveClientIp_forward_plain :
    effectiveClientIp sampleTexts ["10.0.0.0/8"] (forward sampleClient []) sampleProxy.text =
      sampleClient.text :=
  (effectiveClientIp_forward_iff sampleTexts ["10.0.0.0/8"] sampleProxy sampleClient []
    sampleProxy_trusted).mpr nofun

/-- A request of the same client that goes by the address of another. -/
theorem forged_identity :
    effectiveClientIp sampleTexts ["10.0.0.0/8"]
        (forward sampleClient [("X-Forwarded-For", "198.51.100.1")]) sampleProxy.text =
      "198.51.100.1" ∧
    sampleClient.text ≠ "198.51.100.1" := by
  refine ⟨?_, by decide⟩
  have hheader : headerValue (forward sampleClient [("X-Forwarded-For", "198.51.100.1")])
      "X-Forwarded-For" = some ("198.51.100.1" ++ ", " ++ sampleClient.text) :=
    headerValue_forward
  rw [effectiveClientIp_of_trusted sampleProxy_trusted hheader (by decide), firstEntry_append]
  decide

end AqualinkAutomate.Http
