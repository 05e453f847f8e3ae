import IicpDirectory.Endpoints

/-!
# The guards of a probe

A directory does not dial what is internal. Whether an endpoint is, is looked at
three times: at its registration, by the address; when a client asks for a probe,
by the address and by what a text begins with; and when the directory probes its
nodes, by what a text begins with and nothing else.

The last two do not know an address of version four that is mapped into version
six, the last knows of version six no more than `::1`, and does not look at what a
name resolves to. Both take a name for an address that begins like one.
`guards_agree_iff` has the texts that all three agree on.
-/

open Addresses Authority

namespace Validate

/-- Refused for being private, of the machine, of the link or none. -/
def isInternalV4 (v4 : Ipv4Addr) : Bool :=
  v4.isPrivate || v4.isLoopback || v4.isLinkLocal || v4.isUnspecified

/-- **The address is internal**: private, of the machine, of the link, or none. -/
def isInternal : IpAddr → Bool
  | .v4 v4 => isInternalV4 v4
  | .v6 v6 =>
    match v6.toIpv4Mapped with
    | some v4 => isInternalV4 v4
    | none => v6.isLoopback || v6.isUnspecified || v6.isUniqueLocal || v6.isUnicastLinkLocal

/-- An internal address is refused at registration. -/
theorem not_routable_of_isInternal {ip : IpAddr} (h : isInternal ip = true) :
    isPubliclyRoutableIp ip = false := by
  have hv4 : ∀ v4, isInternalV4 v4 = true → isPubliclyRoutableV4 v4 = false := by
    intro v4 hv4
    unfold isInternalV4 at hv4
    unfold isPubliclyRoutableV4
    simp only [Bool.or_eq_true] at hv4
    rcases hv4 with ((h | h) | h) | h
    · simp [h]
    · simp [h]
    · simp [h]
    · simp [h]
  cases ip with
  | v4 v4 => exact hv4 v4 h
  | v6 v6 =>
    unfold isInternal at h
    unfold isPubliclyRoutableIp
    dsimp only at h ⊢
    cases hmapped : v6.toIpv4Mapped with
    | some v4 =>
      rw [hmapped] at h
      exact hv4 v4 h
    | none =>
      rw [hmapped] at h
      simp only [Bool.or_eq_true] at h
      rcases h with ((h | h) | h) | h
      · simp [h]
      · simp [h]
      · simp [h]
      · simp [h]

end Validate

namespace BehaviorContract

/-- `trim_matches`, of brackets. -/
def trimBrackets (value : List Char) : List Char :=
  (value.dropWhile fun c => c == '[' || c == ']').rdropWhile fun c => c == '[' || c == ']'

/-- **`blocked_ip`.** -/
def blockedIp (value : List Char) : Bool :=
  match IpAddr.ofText (trimBrackets value) with
  | none => false
  | some (.v4 v4) => v4.isLoopback || v4.isUnspecified || (v4.isPrivate || v4.isLinkLocal)
  | some (.v6 v6) =>
    v6.isLoopback || v6.isUnspecified || (v6.isUniqueLocal || v6.isUnicastLinkLocal)

end BehaviorContract

/-- An address and a port. -/
abbrev SocketAddr := IpAddr × ℕ

/-- The addresses that are dialled, one after the other until one answers. -/
def dialled (connects : SocketAddr → Bool) : List SocketAddr → List SocketAddr
  | [] => []
  | address :: rest => address :: if connects address then [] else dialled connects rest

namespace Probe

open Validate BehaviorContract

/-- `is_loopback_or_unspecified`. -/
def isLoopbackOrUnspecified (host : List Char) : Bool :=
  "127.".toList.isPrefixOf host || host = "0.0.0.0".toList || host = "::1".toList
    || host = "localhost".toList || host = "::".toList

/-- `is_rfc1918_v4`. -/
def isRfc1918V4 (host : List Char) : Bool :=
  "10.".toList.isPrefixOf host || "192.168.".toList.isPrefixOf host
    || "169.254.".toList.isPrefixOf host
    || ((stripPrefix "172.".toList host).bind fun remainder =>
      parseU8 (remainder.takeWhile (· != '.'))).any fun octet => decide (16 ≤ octet ∧ octet ≤ 31)

/-- `is_ipv6_private`. -/
def isIpv6Private (host : List Char) : Bool :=
  "fe80:".toList.isPrefixOf host || "fc".toList.isPrefixOf host || "fd".toList.isPrefixOf host

/-- **`is_private_host`**, of a client's probe. -/
def isPrivateHost (host : List Char) : Bool :=
  let host := trimBrackets host
  blockedIp host || isLoopbackOrUnspecified host || isRfc1918V4 host || isIpv6Private host

/-- `resolve_probe_addresses`. -/
def resolveProbeAddresses (dns : Resolver) (host : List Char) (port : ℕ) :
    Except String (List SocketAddr) :=
  match toSocketAddrs dns host with
  | none => .error "unresolved_host"
  | some addrs =>
    if addrs.any fun ip => isPrivateHost ip.toText then .error "unroutable_address"
    else if addrs.isEmpty then .error "unresolved_host"
    else .ok (addrs.map fun ip => (ip, port))

/-- **`probe_node_host`**: what it dials, and whether one of these answers. -/
def probeNodeHost (dns : Resolver) (connects : SocketAddr → Bool) (host : List Char) (port : ℕ) :
    List SocketAddr × Except String Bool :=
  match resolveProbeAddresses dns host port with
  | .error error => ([], .error error)
  | .ok addresses => (dialled connects addresses, .ok (addresses.any connects))

end Probe

namespace Background

open Validate

/-- `PRIVATE_PREFIXES`. -/
def privatePrefixes : List String :=
  ["10.", "172.16.", "172.17.", "172.18.", "172.19.", "172.20.", "172.21.", "172.22.", "172.23.",
    "172.24.", "172.25.", "172.26.", "172.27.", "172.28.", "172.29.", "172.30.", "172.31.",
    "192.168.", "127.", "169.254."]

/-- The text begins like a private address. -/
def startsPrivate (text : List Char) : Bool :=
  privatePrefixes.any fun p => p.toList.isPrefixOf text

/-- **`is_private_host`**, of the probes of nodes. -/
def isPrivateHost (host : List Char) : Bool :=
  let h := host.map Char.toLower
  if h.isEmpty || h = "localhost".toList || h = "::1".toList then true else startsPrivate h

/-- `tcp_probe`, of a host and a port: what it dials, and whether one of these
answers. -/
def tcpProbeAt (dns : Resolver) (connects : SocketAddr → Bool) (host : List Char) (port : ℕ) :
    List SocketAddr × Bool :=
  if isPrivateHost host then ([], false)
  else
    let addresses := ((toSocketAddrs dns host).getD []).map fun ip => (ip, port)
    (dialled connects addresses, addresses.any connects)

end Background

/-! ## Texts of addresses -/

namespace Addresses

/-- What is behind the first digits, if there is something. -/
def firstSeparator (text : List Char) : Option Char := (text.dropWhile (isDigitOf 16)).head?

theorem firstSeparator_append {digits : List Char} (hdigits : ∀ c ∈ digits, isDigitOf 16 c = true)
    {c : Char} (hc : isDigitOf 16 c = false) (rest : List Char) :
    firstSeparator (digits ++ c :: rest) = some c := by
  unfold firstSeparator
  rw [List.dropWhile_append_of_pos hdigits, List.dropWhile_cons, hc]
  rfl

/-- What a text begins with has its separator. -/
theorem firstSeparator_of_prefix {start text : List Char} {c : Char}
    (hstart : firstSeparator start = some c) (h : start <+: text) : firstSeparator text = some c := by
  obtain ⟨rest, rfl⟩ := h
  unfold firstSeparator at hstart ⊢
  cases hdrop : start.dropWhile (isDigitOf 16) with
  | nil =>
    rw [hdrop] at hstart
    exact absurd hstart (by simp)
  | cons d tail =>
    rw [hdrop] at hstart
    rw [List.dropWhile_append, hdrop]
    exact hstart

/-- Behind the first digits of an address of version six is a colon. -/
theorem firstSeparator_of_v6 {text : List Char} {v6 : Ipv6Addr}
    (h : IpAddr.ofText text = some (.v6 v6)) : firstSeparator text = some ':' := by
  rcases shape_of_readIpv6 (IpAddr.ofText_eq_v6_iff.mp h) with ⟨t, rfl⟩ | ⟨digits, t, rfl, -, hall, -⟩
  · exact @firstSeparator_append [] (by simp) ':' (by decide) (':' :: t)
  · exact firstSeparator_append hall (by decide) t

/-- Behind the first digits of one of version four is a point. -/
theorem firstSeparator_toText (v4 : Ipv4Addr) : firstSeparator v4.toText = some '.' := by
  refine firstSeparator_append (fun c hc => ?_) (by decide) _
  have hdigit := of_decide_eq_true ((toDigits_spec (by decide : 1 < 10) (by decide) v4.a).1 c hc)
  exact decide_eq_true (by omega)

theorem ofDigits_octetText (n : Fin 256) : ofDigits 10 (octetText n) = n :=
  (toDigits_spec (by decide) (by decide) n).2

theorem isDigitOf_of_mem_octetText {n : Fin 256} {c : Char} (h : c ∈ octetText n) :
    isDigitOf 10 c = true :=
  (toDigits_spec (by decide) (by decide) n).1 c h

/-- The first number of a text is the first octet. -/
theorem octet_of_append {digits r s : List Char} {n : Fin 256} (hdigits : '.' ∉ digits)
    (h : octetText n ++ '.' :: s = digits ++ '.' :: r) : (n : ℕ) = ofDigits 10 digits ∧ s = r := by
  have hoctet : ∀ c ∈ octetText n, c ≠ '.' := by
    rintro c hc rfl
    exact absurd (isDigitOf_of_mem_octetText hc) (by decide)
  have hpoint : ∀ t : List Char, ∀ c ∈ ('.' :: t).head?, ¬ c ≠ '.' := by
    intro t c hc
    exact not_not.mpr (Option.some.inj hc).symm
  obtain ⟨heq, hrest⟩ := Delimited.append_inj_of_class hoctet
    (fun c hc hdot => hdigits (hdot ▸ hc)) (hpoint s) (hpoint r) h
  rw [← heq, ofDigits_octetText]
  exact ⟨rfl, (List.cons.inj hrest).2⟩

/-- The brackets around a text without some are none. -/
theorem trimBrackets_eq_self {text : List Char} (h : ∀ c ∈ text, IsSymbol c) :
    BehaviorContract.trimBrackets text = text := by
  have hno : ∀ c ∈ text, (c == '[' || c == ']') = false := by
    intro c hc
    have hsymbol := h c hc
    by_contra hbracket
    have hor : c = '[' ∨ c = ']' := or_iff_not_imp_left.mpr (by simpa using hbracket)
    rcases hor with rfl | rfl
    · exact absurd hsymbol (by unfold IsSymbol; decide)
    · exact absurd hsymbol (by unfold IsSymbol; decide)
  unfold BehaviorContract.trimBrackets
  cases htext : text with
  | nil => rfl
  | cons c rest =>
    rw [htext] at hno
    rw [List.dropWhile_cons, hno c List.mem_cons_self]
    simp only [Bool.false_eq_true, if_false]
    refine List.rdropWhile_eq_self_iff.mpr fun hne => ?_
    rw [hno _ (List.getLast_mem hne)]
    exact Bool.false_ne_true

end Addresses

namespace Background

open Validate

/-- **An internal address of version four begins with a private prefix**, unless it
is none. -/
theorem startsPrivate_of_internal {v4 : Ipv4Addr} (h : isInternalV4 v4 = true)
    (hsome : v4.isUnspecified = false) : startsPrivate v4.toText = true := by
  obtain ⟨a, b, c, d⟩ := v4
  have hone : ∀ p ∈ privatePrefixes, p.toList = octetText a ++ ['.'] →
      startsPrivate (Ipv4Addr.mk a b c d).toText = true := by
    intro p hp hstart
    refine List.any_eq_true.mpr ⟨p, hp, List.isPrefixOf_iff_prefix.mpr
      ⟨octetText b ++ '.' :: (octetText c ++ '.' :: octetText d), ?_⟩⟩
    rw [hstart, List.append_assoc]
    rfl
  have htwo : ∀ p ∈ privatePrefixes, p.toList = octetText a ++ '.' :: (octetText b ++ ['.']) →
      startsPrivate (Ipv4Addr.mk a b c d).toText = true := by
    intro p hp hstart
    refine List.any_eq_true.mpr ⟨p, hp, List.isPrefixOf_iff_prefix.mpr
      ⟨octetText c ++ '.' :: octetText d, ?_⟩⟩
    rw [hstart, List.append_assoc, List.cons_append, List.append_assoc]
    rfl
  unfold isInternalV4 at h
  rw [hsome, Bool.or_false] at h
  unfold Ipv4Addr.isPrivate Ipv4Addr.isLoopback Ipv4Addr.isLinkLocal at h
  simp only [Bool.or_eq_true, Bool.and_eq_true, decide_eq_true_eq] at h
  rcases h with (((rfl | ⟨rfl, hlo, hhi⟩) | ⟨rfl, rfl⟩) | rfl) | ⟨rfl, rfl⟩
  · exact hone "10." (by decide) (by decide)
  · have hall : ∀ b : Fin 256, 16 ≤ b → b ≤ 31 →
        ∃ p ∈ privatePrefixes, p.toList = octetText 172 ++ '.' :: (octetText b ++ ['.']) := by
      decide +kernel
    obtain ⟨p, hp, hstart⟩ := hall b hlo hhi
    exact htwo p hp hstart
  · exact htwo "192.168." (by decide) (by decide)
  · exact hone "127." (by decide) (by decide)
  · exact htwo "169.254." (by decide) (by decide)

/-- No address of version six does. -/
theorem startsPrivate_of_v6 {text : List Char} {v6 : Ipv6Addr}
    (h : IpAddr.ofText text = some (.v6 v6)) : startsPrivate text = false := by
  by_contra hstarts
  obtain ⟨p, hp, hstart⟩ := List.any_eq_true.mp (Bool.not_eq_false _ ▸ hstarts)
  have hpoint : ∀ p ∈ privatePrefixes, firstSeparator p.toList = some '.' := by decide
  have hdot := firstSeparator_of_prefix (hpoint p hp) (List.isPrefixOf_iff_prefix.mp hstart)
  rw [firstSeparator_of_v6 h] at hdot
  exact absurd hdot (by decide)

end Background

/-! ## The guard of a client's probe, of what is printed -/

namespace Probe

open Validate BehaviorContract

/-- An address of version four in version six. -/
def isMapped : IpAddr → Bool
  | .v4 _ => false
  | .v6 v6 => v6.toIpv4Mapped.isSome

/-- The address is printed with the letters that those of private networks begin
with. -/
def printsPrivate (ip : IpAddr) : Bool :=
  "fc".toList.isPrefixOf ip.toText || "fd".toList.isPrefixOf ip.toText

/-- **The guard knows the address**: it is internal and not mapped, or it is printed
like one of a private network. -/
def isGuarded (ip : IpAddr) : Bool := (isInternal ip && !isMapped ip) || printsPrivate ip

/-- A mapped address is none of those of version six that are blocked. -/
theorem not_blocked_of_mapped {v6 : Ipv6Addr} {v4 : Ipv4Addr} (h : v6.toIpv4Mapped = some v4) :
    (v6.isLoopback || v6.isUnspecified || (v6.isUniqueLocal || v6.isUnicastLinkLocal)) = false := by
  have hgroups := Ipv6Addr.groups_of_mapped h
  have hfirst : v6.first = 0 := by
    unfold Ipv6Addr.first
    rw [hgroups]
    rfl
  have hno : ∀ g, v6.groups ≠ [0, 0, 0, 0, 0, 0, 0, g] := by
    intro g hg
    rw [hgroups] at hg
    have hsixth := congrArg (fun l => l[5]?) hg
    exact absurd hsixth (by simp)
  unfold Ipv6Addr.isLoopback Ipv6Addr.isUnspecified Ipv6Addr.isUniqueLocal
    Ipv6Addr.isUnicastLinkLocal
  rw [hfirst]
  simp only [Bool.or_eq_false_iff, decide_eq_false_iff_not]
  exact ⟨⟨hno 1, hno 0⟩, by decide, by decide⟩

/-- `blocked_ip` knows the internal addresses that are not mapped. -/
theorem blockedIp_iff {text : List Char} {ip : IpAddr} (h : IpAddr.ofText text = some ip) :
    blockedIp text = true ↔ isInternal ip = true ∧ isMapped ip = false := by
  unfold blockedIp
  rw [trimBrackets_eq_self (IpAddr.isSymbol_of_ofText h), h]
  cases ip with
  | v4 v4 =>
    have horder : (v4.isLoopback || v4.isUnspecified || (v4.isPrivate || v4.isLinkLocal))
        = isInternalV4 v4 := by
      unfold isInternalV4
      cases v4.isLoopback <;> cases v4.isUnspecified <;> cases v4.isPrivate <;>
        cases v4.isLinkLocal <;> rfl
    dsimp only
    rw [horder]
    exact (and_iff_left rfl).symm
  | v6 v6 =>
    unfold isInternal isMapped
    dsimp only
    cases hmapped : v6.toIpv4Mapped with
    | some v4 =>
      rw [not_blocked_of_mapped hmapped]
      simp
    | none =>
      simp [Bool.or_assoc]

/-- The number before a point is an octet. -/
theorem octet_of_parseU8 {n : Fin 256} {rest text : List Char} {octet : ℕ}
    (htext : octetText n ++ '.' :: rest = text)
    (h : parseU8 (text.takeWhile (· != '.')) = some octet) : octet = n := by
  have hdigit : ∀ c ∈ octetText n, isDigitOf 10 c = true := fun c hc => isDigitOf_of_mem_octetText hc
  have htake : text.takeWhile (· != '.') = octetText n := by
    rw [← htext, List.takeWhile_append_of_pos, List.takeWhile_cons]
    · exact List.append_nil _
    · intro c hc
      refine bne_iff_ne.mpr ?_
      rintro rfl
      exact absurd (hdigit _ hc) (by decide)
  have hsign : stripPrefix ['+'] (octetText n) = none := by
    refine if_neg fun hstart => ?_
    have hmem : '+' ∈ octetText n := hstart.subset List.mem_cons_self
    exact absurd (hdigit _ hmem) (by decide)
  rw [htake] at h
  unfold parseU8 at h
  rw [hsign] at h
  dsimp only [Option.getD_none] at h
  split at h
  · rw [← Option.some.inj h, ofDigits_octetText]
  · exact absurd h (by simp)

/-- Texts of version four begin with their octets. -/
theorem isInternal_of_start {v4 : Ipv4Addr}
    (h : "127.".toList.isPrefixOf v4.toText = true ∨ isRfc1918V4 v4.toText = true) :
    isInternalV4 v4 = true := by
  have hone : ∀ {digits : List Char}, '.' ∉ digits →
      (digits ++ ['.']).isPrefixOf v4.toText = true → (v4.a : ℕ) = ofDigits 10 digits := by
    intro digits hdigits hstart
    obtain ⟨rest, hrest⟩ := List.isPrefixOf_iff_prefix.mp hstart
    rw [List.append_assoc] at hrest
    exact (octet_of_append hdigits hrest.symm).1
  have htwo : ∀ {digits next : List Char}, '.' ∉ digits → '.' ∉ next →
      (digits ++ '.' :: (next ++ ['.'])).isPrefixOf v4.toText = true →
      (v4.a : ℕ) = ofDigits 10 digits ∧ (v4.b : ℕ) = ofDigits 10 next := by
    intro digits next hdigits hnext hstart
    obtain ⟨rest, hrest⟩ := List.isPrefixOf_iff_prefix.mp hstart
    rw [List.append_assoc, List.cons_append, List.append_assoc] at hrest
    obtain ⟨ha, htail⟩ := octet_of_append hdigits hrest.symm
    exact ⟨ha, (octet_of_append hnext htail).1⟩
  unfold isInternalV4 Ipv4Addr.isPrivate Ipv4Addr.isLoopback Ipv4Addr.isLinkLocal
  simp only [Bool.or_eq_true, Bool.and_eq_true, decide_eq_true_eq]
  rcases h with h | h
  · have ha : v4.a = 127 := Fin.ext (@hone "127".toList (by decide) h)
    exact Or.inl (Or.inl (Or.inr ha))
  unfold isRfc1918V4 at h
  simp only [Bool.or_eq_true] at h
  rcases h with ((h | h) | h) | h
  · have ha : v4.a = 10 := Fin.ext (@hone "10".toList (by decide) h)
    exact Or.inl (Or.inl (Or.inl (Or.inl (Or.inl ha))))
  · obtain ⟨ha, hb⟩ := @htwo "192".toList "168".toList (by decide) (by decide) h
    exact Or.inl (Or.inl (Or.inl (Or.inr ⟨Fin.ext ha, Fin.ext hb⟩)))
  · obtain ⟨ha, hb⟩ := @htwo "169".toList "254".toList (by decide) (by decide) h
    exact Or.inl (Or.inr ⟨Fin.ext ha, Fin.ext hb⟩)
  · obtain ⟨octet, hoctet, hrange⟩ := (Option.any_eq_true _ _).mp h
    obtain ⟨remainder, hstrip, hparse⟩ := Option.bind_eq_some_iff.mp hoctet
    have htext : octetText v4.a ++ '.' :: (octetText v4.b ++ '.' :: (octetText v4.c ++ '.' ::
        octetText v4.d)) = "172".toList ++ '.' :: remainder :=
      (stripPrefix_eq_some_iff.mp hstrip).trans rfl
    obtain ⟨ha, hrest⟩ := octet_of_append (by decide) htext
    have hb := octet_of_parseU8 hrest hparse
    obtain ⟨hlo, hhi⟩ := of_decide_eq_true hrange
    refine Or.inl (Or.inl (Or.inl (Or.inl (Or.inr ⟨Fin.ext ha, ?_, ?_⟩))))
    · exact Fin.le_def.mpr (hb ▸ hlo)
    · exact Fin.le_def.mpr (hb ▸ hhi)

/-- What begins with the group of the link is of the link. -/
theorem isUnicastLinkLocal_of_start {text : List Char} {v6 : Ipv6Addr}
    (h : IpAddr.ofText text = some (.v6 v6)) (hstart : "fe80:".toList.isPrefixOf text = true) :
    v6.isUnicastLinkLocal = true := by
  obtain ⟨rest, hrest⟩ := List.isPrefixOf_iff_prefix.mp hstart
  have htext : text = "fe80".toList ++ ':' :: rest := hrest.symm
  rcases shape_of_readIpv6 (IpAddr.ofText_eq_v6_iff.mp h) with ⟨t, ht⟩ | ⟨digits, t, ht, -, hall, g, hg, hvalue⟩
  · rw [ht] at htext
    exact absurd (List.cons.inj htext).1 (by decide)
  · have hcolon : ∀ t : List Char, ∀ c ∈ (':' :: t).head?, ¬ isDigitOf 16 c = true := by
      intro t c hc
      rw [← Option.some.inj hc]
      decide
    have hdigits : "fe80".toList.all (isDigitOf 16) = true := by decide
    obtain ⟨heq, -⟩ := Delimited.append_inj_of_class hall (List.all_eq_true.mp hdigits) (hcolon t)
      (hcolon rest) (ht.symm.trans htext)
    have hfirst : v6.first = 65152 := by
      have hvalue' : ofDigits 16 "fe80".toList = 65152 := by decide
      unfold Ipv6Addr.first
      rw [List.headD_eq_head?_getD, hg, Option.getD_some, ← hvalue, heq, hvalue']
    unfold Ipv6Addr.isUnicastLinkLocal
    rw [hfirst]
    decide

/-- What begins with a number and a point is no address of version six. -/
theorem not_prefix_of_v6 {text : List Char} {v6 : Ipv6Addr} (h : IpAddr.ofText text = some (.v6 v6))
    {start : List Char} (hstart : firstSeparator start = some '.') : start.isPrefixOf text = false := by
  by_contra hbegins
  have hdot := firstSeparator_of_prefix hstart
    (List.isPrefixOf_iff_prefix.mp (Bool.not_eq_false _ ▸ hbegins))
  rw [firstSeparator_of_v6 h] at hdot
  exact absurd hdot (by decide)

/-- No text of version six begins like a private one of version four. -/
theorem isRfc1918V4_of_v6 {text : List Char} {v6 : Ipv6Addr}
    (h : IpAddr.ofText text = some (.v6 v6)) :
    "127.".toList.isPrefixOf text = false ∧ isRfc1918V4 text = false := by
  have hno : ∀ {start : String}, firstSeparator start.toList = some '.' →
      start.toList.isPrefixOf text = false := fun hstart => not_prefix_of_v6 h hstart
  refine ⟨hno (by decide), ?_⟩
  have hstrip : stripPrefix "172.".toList text = none := by
    refine if_neg fun hstart => ?_
    have hfalse := @hno "172." (by decide)
    rw [List.isPrefixOf_iff_prefix.mpr hstart] at hfalse
    exact absurd hfalse (by simp)
  unfold isRfc1918V4
  rw [@hno "10." (by decide), @hno "192.168." (by decide), @hno "169.254." (by decide), hstrip]
  rfl

/-- **The guard of a client's probe refuses an address that it knows**, and no
other, in the text that is printed for it. -/
theorem isPrivateHost_toText (ip : IpAddr) : isPrivateHost ip.toText = isGuarded ip := by
  have htext := IpAddr.ofText_toText ip
  have hblocked := blockedIp_iff htext
  rw [Bool.eq_iff_iff]
  unfold isPrivateHost isGuarded
  rw [trimBrackets_eq_self (IpAddr.isSymbol_of_ofText htext)]
  simp only [Bool.or_eq_true, Bool.and_eq_true, Bool.not_eq_true']
  constructor
  · rintro (((h | h) | h) | h)
    · exact Or.inl (hblocked.mp h)
    · refine Or.inl ?_
      have hliteral : ∀ {s : List Char} {other : IpAddr}, ip.toText = s → IpAddr.ofText s = some other →
          ip = other := by
        rintro s other rfl hother
        exact Option.some.inj (htext.symm.trans hother)
      unfold isLoopbackOrUnspecified at h
      simp only [Bool.or_eq_true, decide_eq_true_eq] at h
      rcases h with (((h | h) | h) | h) | h
      · cases ip with
        | v4 v4 => exact ⟨isInternal_of_start (Or.inl h), rfl⟩
        | v6 v6 =>
          rw [(isRfc1918V4_of_v6 htext).1] at h
          exact absurd h (by simp)
      · rw [@hliteral _ (.v4 ⟨0, 0, 0, 0⟩) h (by decide +kernel)]
        decide
      · rw [@hliteral _ (.v6 ⟨[0, 0, 0, 0, 0, 0, 0, 1], rfl⟩) h (by decide +kernel)]
        decide
      · have hnone : IpAddr.ofText "localhost".toList = none := by decide +kernel
        rw [h, hnone] at htext
        exact absurd htext (by simp)
      · rw [@hliteral _ (.v6 ⟨[0, 0, 0, 0, 0, 0, 0, 0], rfl⟩) h (by decide +kernel)]
        decide
    · cases ip with
      | v4 v4 => exact Or.inl ⟨isInternal_of_start (Or.inr h), rfl⟩
      | v6 v6 =>
        rw [(isRfc1918V4_of_v6 htext).2] at h
        exact absurd h (by simp)
    · unfold isIpv6Private at h
      simp only [Bool.or_eq_true] at h
      unfold printsPrivate
      simp only [Bool.or_eq_true]
      rcases h with (h | h) | h
      · refine Or.inl ?_
        cases ip with
        | v4 v4 =>
          have hcolon := firstSeparator_of_prefix (by decide : firstSeparator "fe80:".toList = some ':')
            (List.isPrefixOf_iff_prefix.mp h)
          have hpoint : firstSeparator (IpAddr.v4 v4).toText = some '.' := firstSeparator_toText v4
          rw [hpoint] at hcolon
          exact absurd hcolon (by decide)
        | v6 v6 =>
          refine hblocked.mp ?_
          unfold blockedIp
          rw [trimBrackets_eq_self (IpAddr.isSymbol_of_ofText htext), htext]
          dsimp only
          rw [isUnicastLinkLocal_of_start htext h]
          simp
      · exact Or.inr (Or.inl h)
      · exact Or.inr (Or.inr h)
  · rintro (h | h)
    · exact Or.inl (Or.inl (Or.inl (hblocked.mpr h)))
    · unfold printsPrivate at h
      unfold isIpv6Private
      simp only [Bool.or_eq_true] at h ⊢
      exact Or.inr (h.elim (fun hfc => Or.inl (Or.inr hfc)) Or.inr)

end Probe

/-! ## What the guards agree on -/

namespace ProbeGuards

open Validate BehaviorContract

/-- The text is that of the machine itself, or there is none. -/
def isReservedName (text : List Char) : Bool := text = "localhost".toList || text.isEmpty

/-- The text begins like an address of version four that is private, or with the
letters that those of version six begin with. -/
def startsLikePrivate (text : List Char) : Bool :=
  "127.".toList.isPrefixOf text || Probe.isRfc1918V4 text || Probe.isIpv6Private text

/-- **The guards agree** on a text that is a host: an internal address is refused by
both and dialled by neither, whatever a name resolves to, and no name is refused but
a reserved one. -/
structure GuardsAgree (dns : Resolver) (host : List Char) : Prop where
  probe : ∀ ip, IpAddr.ofText host = some ip → isInternal ip = true →
    Probe.isPrivateHost host = true
  background : ∀ ip, IpAddr.ofText host = some ip → isInternal ip = true →
    Background.isPrivateHost host = true
  probeOpens : ∀ connects port, ∀ s ∈ (Probe.probeNodeHost dns connects host port).1,
    isInternal s.1 = false
  tcpOpens : ∀ connects port, ∀ s ∈ (Background.tcpProbeAt dns connects host port).1,
    isInternal s.1 = false
  probeName : IpAddr.ofText (trimBrackets host) = none → Probe.isPrivateHost host = true →
    isReservedName (trimBrackets host) = true
  backgroundName : IpAddr.ofText (trimBrackets host) = none →
    Background.isPrivateHost host = true → isReservedName (host.map Char.toLower) = true

/-- **What the guards cover**: of the internal addresses those of version four but
none, and `::1`. Of what a name resolves to, no internal address, or one with it
that the first guard knows; a name that the second knows. No name begins like a
private address. -/
structure GuardsCover (dns : Resolver) (host : List Char) : Prop where
  text : ∀ ip, IpAddr.ofText host = some ip → isInternal ip = true →
    (∃ v4, ip = .v4 v4 ∧ v4.isUnspecified = false) ∨ host = "::1".toList
  probeAnswers : IpAddr.ofText host = none → ∀ addrs, dns host = some addrs →
    (∃ ip ∈ addrs, Probe.isGuarded ip = true) ∨ ∀ ip ∈ addrs, isInternal ip = false
  tcpAnswers : IpAddr.ofText host = none → ∀ addrs, dns host = some addrs →
    isReservedName (host.map Char.toLower) = true
      ∨ Background.startsPrivate (host.map Char.toLower) = true ∨ ∀ ip ∈ addrs, isInternal ip = false
  probeName : IpAddr.ofText (trimBrackets host) = none →
    startsLikePrivate (trimBrackets host) = false
  backgroundName : IpAddr.ofText (trimBrackets host) = none →
    Background.startsPrivate (host.map Char.toLower) = false

/-- Everything is dialled if nothing answers. -/
theorem dialled_none (addresses : List SocketAddr) :
    dialled (fun _ => false) addresses = addresses := by
  induction addresses with
  | nil => rfl
  | cons address rest ih =>
    unfold dialled
    rw [ih]
    rfl

theorem mem_of_mem_dialled {connects : SocketAddr → Bool} {addresses : List SocketAddr}
    {s : SocketAddr} (h : s ∈ dialled connects addresses) : s ∈ addresses := by
  induction addresses with
  | nil => exact h
  | cons address rest ih =>
    unfold dialled at h
    rcases List.mem_cons.mp h with rfl | h
    · exact List.mem_cons_self
    · split at h
      · exact absurd h List.not_mem_nil
      · exact List.mem_cons_of_mem _ (ih h)

/-- What a client's probe may dial. -/
theorem probeOpens_iff {dns : Resolver} {host : List Char} :
    (∀ connects port, ∀ s ∈ (Probe.probeNodeHost dns connects host port).1, isInternal s.1 = false)
      ↔ ∀ addrs, toSocketAddrs dns host = some addrs →
        (∃ ip ∈ addrs, Probe.isGuarded ip = true) ∨ ∀ ip ∈ addrs, isInternal ip = false := by
  have hopens : ∀ connects port, (Probe.probeNodeHost dns connects host port).1
      = ((toSocketAddrs dns host).elim [] fun addrs =>
        if addrs.any Probe.isGuarded then []
        else dialled connects (addrs.map fun ip => (ip, port))) := by
    intro connects port
    unfold Probe.probeNodeHost Probe.resolveProbeAddresses
    simp only [Probe.isPrivateHost_toText]
    cases toSocketAddrs dns host with
    | none => rfl
    | some addrs =>
      dsimp only [Option.elim_some]
      cases addrs.any Probe.isGuarded with
      | true => rfl
      | false =>
        cases addrs with
        | nil => rfl
        | cons ip rest => rfl
  simp only [hopens]
  cases toSocketAddrs dns host with
  | none => simp
  | some addrs =>
    simp only [Option.elim_some, Option.some.injEq, forall_eq']
    constructor
    · intro h
      by_cases hguarded : addrs.any Probe.isGuarded = true
      · exact Or.inl (by simpa using hguarded)
      · refine Or.inr fun ip hip => ?_
        have hmem := h (fun _ => false) 0 (ip, 0)
        rw [if_neg hguarded, dialled_none] at hmem
        exact hmem (List.mem_map.mpr ⟨ip, hip, rfl⟩)
    · intro h connects port s hs
      split at hs
      · exact absurd hs List.not_mem_nil
      · next hguarded =>
        obtain ⟨ip, hip, rfl⟩ := List.mem_map.mp (mem_of_mem_dialled hs)
        rcases h with ⟨ip', hip', hguard⟩ | hsafe
        · exact absurd (List.any_eq_true.mpr ⟨ip', hip', hguard⟩) hguarded
        · exact hsafe ip hip

/-- What a probe of nodes may dial. -/
theorem tcpOpens_iff {dns : Resolver} {host : List Char} :
    (∀ connects port, ∀ s ∈ (Background.tcpProbeAt dns connects host port).1, isInternal s.1 = false)
      ↔ Background.isPrivateHost host = true
        ∨ ∀ addrs, toSocketAddrs dns host = some addrs → ∀ ip ∈ addrs, isInternal ip = false := by
  unfold Background.tcpProbeAt
  cases Background.isPrivateHost host with
  | true => simp
  | false =>
    simp only [Bool.false_eq_true, if_false, false_or]
    constructor
    · intro h addrs haddrs ip hip
      have hmem := h (fun _ => false) 0 (ip, 0)
      rw [dialled_none, haddrs] at hmem
      exact hmem (List.mem_map.mpr ⟨ip, hip, rfl⟩)
    · intro h connects port s hs
      obtain ⟨ip, hip, rfl⟩ := List.mem_map.mp (mem_of_mem_dialled hs)
      cases haddrs : toSocketAddrs dns host with
      | none =>
        rw [haddrs] at hip
        exact absurd hip List.not_mem_nil
      | some addrs =>
        rw [haddrs] at hip
        exact h addrs haddrs ip hip

/-! ## Addresses and names -/

/-- The texts that the second guard refuses. -/
theorem background_eq_true_iff (host : List Char) :
    Background.isPrivateHost host = true
      ↔ isReservedName (host.map Char.toLower) = true ∨ host = "::1".toList
        ∨ Background.startsPrivate (host.map Char.toLower) = true := by
  have hcaseless : ("::1".toList.all fun d => decide (Caseless d)) = true := by decide
  have hone : host.map Char.toLower = "::1".toList ↔ host = "::1".toList :=
    map_toLower_eq_iff fun d hd => of_decide_eq_true (List.all_eq_true.mp hcaseless d hd)
  unfold Background.isPrivateHost isReservedName
  rw [← hone]
  dsimp only
  generalize host.map Char.toLower = lower
  split
  · next h =>
    simp only [Bool.or_eq_true, decide_eq_true_eq] at h ⊢
    tauto
  · next h =>
    simp only [Bool.or_eq_true, decide_eq_true_eq] at h ⊢
    tauto

/-- No address is reserved as a name. -/
theorem not_reserved_of_ofText {text : List Char} {ip : IpAddr} (h : IpAddr.ofText text = some ip) :
    isReservedName text = false := by
  by_contra hreserved
  unfold isReservedName at hreserved
  simp only [Bool.not_eq_false, Bool.or_eq_true, decide_eq_true_eq, List.isEmpty_iff] at hreserved
  have hnone : IpAddr.ofText "localhost".toList = none ∧ IpAddr.ofText [] = none := by decide +kernel
  rcases hreserved with rfl | rfl
  · exact absurd (hnone.1.symm.trans h) (by simp)
  · exact absurd (hnone.2.symm.trans h) (by simp)

/-- **The second guard refuses an internal address** of version four but none, and
`::1`. -/
theorem background_iff {host : List Char} {ip : IpAddr} (hip : IpAddr.ofText host = some ip)
    (hinternal : isInternal ip = true) :
    Background.isPrivateHost host = true
      ↔ (∃ v4, ip = .v4 v4 ∧ v4.isUnspecified = false) ∨ host = "::1".toList := by
  have hlower := (IpAddr.ofText_map_toLower host).trans hip
  rw [background_eq_true_iff, not_reserved_of_ofText hlower, or_comm (a := host = "::1".toList)]
  simp only [Bool.false_eq_true, false_or]
  refine or_congr_left ?_
  cases ip with
  | v4 v4 =>
    have hsame : host.map Char.toLower = v4.toText := IpAddr.ofText_eq_v4_iff.mp hlower
    rw [hsame]
    constructor
    · intro hstarts
      refine ⟨v4, rfl, ?_⟩
      by_contra hnone
      have hzero : v4 = ⟨0, 0, 0, 0⟩ := by
        obtain ⟨a, b, c, d⟩ := v4
        unfold Ipv4Addr.isUnspecified at hnone
        simp only [Bool.not_eq_false, Bool.and_eq_true, decide_eq_true_eq] at hnone
        obtain ⟨⟨⟨rfl, rfl⟩, rfl⟩, rfl⟩ := hnone
        rfl
      rw [hzero] at hstarts
      exact absurd hstarts (by decide)
    · rintro ⟨other, hother, hsome⟩
      obtain rfl := IpAddr.v4.inj hother
      exact Background.startsPrivate_of_internal hinternal hsome
  | v6 v6 =>
    rw [Background.startsPrivate_of_v6 hlower]
    simp

/-- Brackets are trimmed once. -/
theorem trimBrackets_trimBrackets (text : List Char) :
    trimBrackets (trimBrackets text) = trimBrackets text := by
  set bracket : Char → Bool := fun c => c == '[' || c == ']' with hbracket
  have hfront : (trimBrackets text).dropWhile bracket = trimBrackets text := by
    cases htrim : trimBrackets text with
    | nil => rfl
    | cons c rest =>
      have hstart : trimBrackets text <+: text.dropWhile bracket := List.rdropWhile_prefix _ _
      obtain ⟨more, hmore⟩ := hstart
      have hnot := List.head?_dropWhile_not bracket text
      rw [← hmore, htrim] at hnot
      have hc : bracket c = false := by simpa using hnot
      rw [List.dropWhile_cons, hc]
      rfl
  show ((trimBrackets text).dropWhile bracket).rdropWhile bracket = trimBrackets text
  rw [hfront]
  exact List.rdropWhile_idempotent _ _

/-- **The first guard refuses a name** that begins like a private address, or is
reserved. -/
theorem probe_of_name {host : List Char} (h : IpAddr.ofText (trimBrackets host) = none) :
    Probe.isPrivateHost host = true
      ↔ startsLikePrivate (trimBrackets host) = true ∨ trimBrackets host = "localhost".toList := by
  have hblocked : blockedIp (trimBrackets host) = false := by
    unfold blockedIp
    rw [trimBrackets_trimBrackets, h]
  have hother : ∀ {s : List Char}, IpAddr.ofText s ≠ none → trimBrackets host ≠ s := by
    rintro s hs rfl
    exact hs h
  unfold Probe.isPrivateHost Probe.isLoopbackOrUnspecified startsLikePrivate
  dsimp only
  rw [hblocked]
  have hzero := @hother "0.0.0.0".toList (by decide +kernel)
  have hone := @hother "::1".toList (by decide +kernel)
  have hnone := @hother "::".toList (by decide +kernel)
  simp only [hzero, hone, hnone, decide_false, Bool.or_false, Bool.false_or, Bool.or_eq_true,
    decide_eq_true_eq]
  tauto

/-- **The guards agree exactly on what they cover.** -/
theorem guards_agree_iff (dns : Resolver) (host : List Char) :
    GuardsAgree dns host ↔ GuardsCover dns host := by
  have hname : IpAddr.ofText host = none → toSocketAddrs dns host = dns host := by
    intro h
    unfold toSocketAddrs
    rw [h]
  have haddress : ∀ {ip}, IpAddr.ofText host = some ip → toSocketAddrs dns host = some [ip] := by
    intro ip h
    unfold toSocketAddrs
    rw [h]
  have hreserved : ∀ {text : List Char}, isReservedName text = true →
      startsLikePrivate text = false ∧ Background.startsPrivate text = false := by
    intro text h
    unfold isReservedName at h
    simp only [Bool.or_eq_true, decide_eq_true_eq, List.isEmpty_iff] at h
    rcases h with rfl | rfl
    · decide
    · decide
  have hloopback : IpAddr.ofText "::1".toList = some (.v6 ⟨[0, 0, 0, 0, 0, 0, 0, 1], rfl⟩) := by
    decide +kernel
  constructor
  · intro h
    refine ⟨fun ip hip hinternal => (background_iff hip hinternal).mp (h.background ip hip hinternal),
      fun hnone addrs haddrs => ?_, fun hnone addrs haddrs => ?_, fun hnone => ?_, fun hnone => ?_⟩
    · exact probeOpens_iff.mp h.probeOpens addrs ((hname hnone).trans haddrs)
    · rcases tcpOpens_iff.mp h.tcpOpens with hrefused | hsafe
      · rcases (background_eq_true_iff host).mp hrefused with hres | rfl | hstarts
        · exact Or.inl hres
        · exact absurd (hnone.symm.trans hloopback) (by simp)
        · exact Or.inr (Or.inl hstarts)
      · exact Or.inr (Or.inr (hsafe addrs ((hname hnone).trans haddrs)))
    · by_contra hstarts
      have hrefused := (probe_of_name hnone).mpr (Or.inl (Bool.not_eq_false _ ▸ hstarts))
      exact hstarts (hreserved (h.probeName hnone hrefused)).1
    · by_contra hstarts
      have hrefused := (background_eq_true_iff host).mpr
        (Or.inr (Or.inr (Bool.not_eq_false _ ▸ hstarts)))
      exact hstarts (hreserved (h.backgroundName hnone hrefused)).2
  · intro h
    have hguarded : ∀ ip, IpAddr.ofText host = some ip → isInternal ip = true →
        Probe.isGuarded ip = true := by
      intro ip hip hinternal
      rcases h.text ip hip hinternal with ⟨v4, rfl, -⟩ | rfl
      · unfold Probe.isGuarded
        rw [hinternal]
        rfl
      · rw [← Option.some.inj (hloopback.symm.trans hip)]
        decide
    refine ⟨fun ip hip hinternal => ?_, fun ip hip hinternal => ?_,
      probeOpens_iff.mpr fun addrs haddrs => ?_, tcpOpens_iff.mpr ?_, fun hnone hrefused => ?_,
      fun hnone hrefused => ?_⟩
    · rcases h.text ip hip hinternal with ⟨v4, rfl, -⟩ | rfl
      · rw [IpAddr.ofText_eq_v4_iff.mp hip]
        exact (Probe.isPrivateHost_toText (.v4 v4)).trans (hguarded _ hip hinternal)
      · decide +kernel
    · exact (background_iff hip hinternal).mpr (h.text ip hip hinternal)
    · cases hip : IpAddr.ofText host with
      | none => exact h.probeAnswers hip addrs ((hname hip).symm.trans haddrs)
      | some ip =>
        obtain rfl := Option.some.inj ((haddress hip).symm.trans haddrs)
        cases hinternal : isInternal ip with
        | true => exact Or.inl ⟨ip, List.mem_singleton_self ip, hguarded ip hip hinternal⟩
        | false => exact Or.inr fun other hother => List.mem_singleton.mp hother ▸ hinternal
    · cases hip : IpAddr.ofText host with
      | none =>
        rw [hname hip]
        cases haddrs : dns host with
        | none => exact Or.inr fun addrs hnone => absurd hnone (by simp)
        | some addrs =>
          rcases h.tcpAnswers hip addrs haddrs with hres | hstarts | hsafe
          · exact Or.inl ((background_eq_true_iff host).mpr (Or.inl hres))
          · exact Or.inl ((background_eq_true_iff host).mpr (Or.inr (Or.inr hstarts)))
          · refine Or.inr fun other hother => ?_
            rwa [← Option.some.inj hother]
      | some ip =>
        rw [haddress hip]
        cases hinternal : isInternal ip with
        | true => exact Or.inl ((background_iff hip hinternal).mpr (h.text ip hip hinternal))
        | false =>
          refine Or.inr fun addrs haddrs other hother => ?_
          rw [← Option.some.inj haddrs] at hother
          exact List.mem_singleton.mp hother ▸ hinternal
    · rcases (probe_of_name hnone).mp hrefused with hstarts | hlocal
      · exact absurd ((h.probeName hnone).symm.trans hstarts) (by simp)
      · rw [hlocal]
        decide
    · rcases (background_eq_true_iff host).mp hrefused with hres | rfl | hstarts
      · exact hres
      · have htrim : IpAddr.ofText (trimBrackets "::1".toList) ≠ none := by decide +kernel
        exact absurd hnone htrim
      · exact absurd ((h.backgroundName hnone).symm.trans hstarts) (by simp)

namespace Sample

/-- Names resolve to the machine itself, in version six. -/
def mapsLoopback : Resolver := fun _ =>
  (IpAddr.ofText "::ffff:127.0.0.1".toList).map fun ip => [ip]

end Sample

/-- **An address of the machine itself is dialled** where it is mapped into version
six. -/
theorem mapped_loopback_dialled : ¬ ∀ (dns : Resolver) (host : List Char), GuardsAgree dns host := by
  intro h
  have hopens := (h Sample.mapsLoopback "::ffff:127.0.0.1".toList).probeOpens (fun _ => false) 9484
  have hmem : (IpAddr.v6 ⟨[0, 0, 0, 0, 0, 65535, 32512, ⟨1, by decide⟩], rfl⟩, 9484)
      ∈ (Probe.probeNodeHost Sample.mapsLoopback (fun _ => false) "::ffff:127.0.0.1".toList 9484).1 := by
    decide +kernel
  exact absurd (hopens _ hmem) (by decide +kernel)

end ProbeGuards
