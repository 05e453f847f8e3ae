import Mathlib.Data.List.DropRight
import IicpDirectory.Evidence
import IicpDirectory.Foundations.Authority

/-!
# Endpoints

A node registers the URL of an endpoint, and a directory dials it: to see whether
an endpoint that a node leaves is alive, and to see whether a node is reached. What
is dialled is to be public. So the host is cut out of the text of the endpoint,
before its last colon or out of its brackets, and looked at: an address has to be a
public one, and a name has to resolve to public ones.

The client that dials cuts by the rules of URLs. Where the two agree is in
`KeepsHost`: nothing that the client ends a host at is in what was cut out, and it
has no user before it. `dialled_is_checked_iff` says that the host which is dialled
is the one that was looked at exactly there.
-/

open Addresses Authority

/-- **How names are resolved**: to some addresses, or not. -/
abbrev Resolver := List Char → Option (List IpAddr)

/-- `(host, port).to_socket_addrs()`: an address is its own, and a name is
resolved. -/
def toSocketAddrs (dns : Resolver) (host : List Char) : Option (List IpAddr) :=
  match IpAddr.ofText host with
  | some ip => some [ip]
  | none => dns host

namespace Validate

/-- `EndpointReject`. -/
inductive EndpointReject
  | badScheme
  | nonRoutableHost
  | bareHostname
  | unresolvableHost
  deriving DecidableEq

/-- `is_publicly_routable_ip`, of version four. -/
def isPubliclyRoutableV4 (v4 : Ipv4Addr) : Bool :=
  !v4.isPrivate && !v4.isLoopback && !v4.isUnspecified && !v4.isLinkLocal && !v4.isBroadcast
    && !v4.isMulticast && !v4.isDocumentation

/-- **`is_publicly_routable_ip`.** -/
def isPubliclyRoutableIp : IpAddr → Bool
  | .v4 v4 => isPubliclyRoutableV4 v4
  | .v6 v6 =>
    match v6.toIpv4Mapped with
    | some v4 => isPubliclyRoutableV4 v4
    | none =>
      !v6.isLoopback && !v6.isUnspecified && !v6.isMulticast && !v6.isUniqueLocal
        && !v6.isUnicastLinkLocal

/-- `ensure_host_dns_is_public`. -/
def ensureHostDnsIsPublic (dns : Resolver) (host : List Char) : Except EndpointReject Unit :=
  match toSocketAddrs dns host with
  | none => .error .unresolvableHost
  | some addrs =>
    if addrs.any fun ip => !isPubliclyRoutableIp ip then .error .nonRoutableHost
    else if addrs.isEmpty then .error .unresolvableHost
    else .ok ()

/-- `strip_prefix`. -/
def stripPrefix (start text : List Char) : Option (List Char) :=
  if start <+: text then some (text.drop start.length) else none

/-- What is before and behind the first of a symbol. -/
def splitOnce (d : Char) (text : List Char) : Option (List Char × List Char) :=
  match text.dropWhile (· != d) with
  | [] => none
  | _ :: rest => some (text.takeWhile (· != d), rest)

/-- What is before and behind the last of a symbol. -/
def rsplitOnce (d : Char) (text : List Char) : Option (List Char × List Char) :=
  match text.reverse.dropWhile (· != d) with
  | [] => none
  | _ :: before => some (before.reverse, afterLast d text)

/-- `parse::<u8>()`. -/
def parseU8 (text : List Char) : Option ℕ :=
  let digits := (stripPrefix ['+'] text).getD text
  if digits ≠ [] ∧ digits.all (isDigitOf 10) = true ∧ ofDigits 10 digits < 256 then
    some (ofDigits 10 digits)
  else none

/-- **`endpoint_authority_host`.** -/
def endpointAuthorityHost : List Char → Except EndpointReject (List Char)
  | '[' :: bracketed =>
    match splitOnce ']' bracketed with
    | none => .error .nonRoutableHost
    | some (host, suffix) =>
      if (readIpv6 host).all (fun p => p.2 ≠ []) then .error .nonRoutableHost
      else
        match suffix with
        | [] => .ok host
        | ':' :: port =>
          if port = [] ∨ port.all (isDigitOf 10) = false ∨ 65536 ≤ ofDigits 10 port then
            .error .nonRoutableHost
          else .ok host
        | _ => .error .nonRoutableHost
  | authority =>
    if authority.contains '[' || authority.contains ']' then .error .nonRoutableHost
    else .ok ((rsplitOnce ':' authority).elim authority Prod.fst)

/-- The suffixes that are reserved. -/
def reservedSuffix : List String := [".local", ".test", ".example", ".invalid", ".lan", ".internal"]

/-- The host is reserved by its text. -/
def isReserved (lower : List Char) : Bool :=
  lower = "localhost".toList || lower = "::1".toList || "127.".toList.isPrefixOf lower
    || "169.254.".toList.isPrefixOf lower
    || reservedSuffix.any fun s => s.toList.isSuffixOf lower

/-- The host is in a private range by its text. -/
def isPrivateText (lower : List Char) : Bool :=
  "10.".toList.isPrefixOf lower || "192.168.".toList.isPrefixOf lower
    || ("172.".toList.isPrefixOf lower
      && (((lower.splitOn '.')[1]?.bind parseU8).any fun octet => decide (16 ≤ octet ∧ octet ≤ 31)))

/-- `endpoint_routable`, of a host. -/
def hostRoutable (dns : Resolver) (lower : List Char) : Except EndpointReject Unit :=
  if isReserved lower then .error .nonRoutableHost
  else if isPrivateText lower then .error .nonRoutableHost
  else if ("fc".toList.isPrefixOf lower || "fd".toList.isPrefixOf lower) && lower.contains ':' then
    .error .nonRoutableHost
  else if !(lower.contains '.' || lower.contains ':') then .error .bareHostname
  else
    match IpAddr.ofText lower with
    | some ip => if isPubliclyRoutableIp ip then .ok () else .error .nonRoutableHost
    | none => ensureHostDnsIsPublic dns lower

/-- `after_scheme`. -/
def afterScheme (endpoint : List Char) : Option (List Char) :=
  (stripPrefix "https://".toList endpoint).or (stripPrefix "http://".toList endpoint)

/-- `host_port`: what is before the first slash. -/
def hostPortText (text : List Char) : List Char := text.takeWhile (· != '/')

/-- `enforces_routability`. -/
def enforcesRoutability : Config.Env → Bool
  | .production | .staging => true
  | .local | .testing => false

/-- **`endpoint_routable`.** -/
def endpointRoutable (dns : Resolver) (endpoint : String) (env : Config.Env) :
    Except EndpointReject Unit :=
  match afterScheme endpoint.toList with
  | none => .error .badScheme
  | some text =>
    if !enforcesRoutability env then .ok ()
    else
      match endpointAuthorityHost (hostPortText text) with
      | .error reject => .error reject
      | .ok host =>
        if host.isEmpty then .error .nonRoutableHost
        else hostRoutable dns (host.map Char.toLower)

end Validate

namespace Background

open Validate

/-- `extract_host`, behind the scheme. -/
def hostOfText (text : List Char) : List Char :=
  match hostPortText text with
  | '[' :: inner => inner.takeWhile (· != ']')
  | hostPort => (rsplitOnce ':' hostPort).elim hostPort Prod.fst

/-- **`extract_host`.** -/
def extractHost (url : List Char) : List Char := hostOfText ((afterScheme url).getD url)

end Background

/-! ## What is cut out -/

namespace Validate

theorem stripPrefix_eq_some_iff {start text rest : List Char} :
    stripPrefix start text = some rest ↔ text = start ++ rest := by
  unfold stripPrefix
  split
  · next h =>
    obtain ⟨tail, rfl⟩ := h
    rw [List.drop_left, Option.some.injEq, List.append_cancel_left_eq]
  · next h =>
    simp only [reduceCtorEq, false_iff]
    rintro rfl
    exact h (List.prefix_append _ _)

theorem rsplitOnce_eq_some {d : Char} {text before after : List Char}
    (h : rsplitOnce d text = some (before, after)) : text = before ++ d :: after ∧ d ∉ after := by
  unfold rsplitOnce at h
  split at h
  · exact absurd h (by simp)
  · next c rest hdrop =>
    obtain ⟨rfl, rfl⟩ := Prod.mk.inj (Option.some.inj h)
    refine ⟨?_, not_mem_afterLast d text⟩
    have hc : (c != d) = false := by
      have hnot := List.head?_dropWhile_not (fun c => c != d) text.reverse
      rw [hdrop] at hnot
      simpa using hnot
    obtain rfl : c = d := by simpa using hc
    have hsplit := @List.takeWhile_append_dropWhile _ (fun x => x != c) text.reverse
    rw [hdrop] at hsplit
    have hreverse := congrArg List.reverse hsplit
    rw [List.reverse_reverse, List.reverse_append, List.reverse_cons, List.append_assoc,
      List.singleton_append] at hreverse
    exact hreverse.symm

theorem not_mem_of_rsplitOnce {d : Char} {text : List Char} (h : rsplitOnce d text = none) :
    d ∉ text := by
  unfold rsplitOnce at h
  split at h
  · next hdrop =>
    intro hmem
    have hall := List.dropWhile_eq_nil_iff.mp hdrop d (List.mem_reverse.mpr hmem)
    simp at hall
  · exact absurd h (by simp)

end Validate

namespace Background

open Validate

/-- **How a text is cut**, behind a bracket: the host is up to the one that closes. -/
theorem hostOfText_bracket {text : List Char} (h : text.head? = some '[') :
    ∃ rest, text = '[' :: hostOfText text ++ rest ∧ ']' ∉ hostOfText text
      ∧ (remainder rest = [] ∨ ∃ v, remainder rest = ']' :: v) := by
  obtain ⟨inner, rfl⟩ := List.head?_eq_some_iff.mp h
  have hcut : hostOfText ('[' :: inner)
      = inner.takeWhile fun c => decide (c != ']' ∧ c != '/') := List.takeWhile_takeWhile _ _ _
  have hclosed : ']' ∉ hostOfText ('[' :: inner) := by
    intro hmem
    have hne := List.mem_takeWhile_imp hmem
    simp at hne
  refine ⟨inner.dropWhile fun c => decide (c != ']' ∧ c != '/'), ?_, hclosed, ?_⟩
  · rw [hcut, List.cons_append, List.takeWhile_append_dropWhile]
  · cases hdrop : inner.dropWhile fun c => decide (c != ']' ∧ c != '/') with
    | nil => exact Or.inl rfl
    | cons c rest =>
      have hnot := List.head?_dropWhile_not (fun c => decide (c != ']' ∧ c != '/')) inner
      rw [hdrop] at hnot
      have hc : c = ']' ∨ c = '/' := or_iff_not_imp_left.mpr (by simpa using hnot)
      rcases hc with rfl | rfl
      · exact Or.inr ⟨remainder rest, rfl⟩
      · exact Or.inl rfl

/-- Otherwise it is up to the last colon before a slash. -/
theorem hostOfText_of_head {text : List Char} (h : text.head? ≠ some '[') :
    ∃ rest, text = hostOfText text ++ rest
      ∧ (remainder rest = [] ∧ ':' ∉ hostOfText text
        ∨ ∃ v, remainder rest = ':' :: v ∧ ':' ∉ v) := by
  have hcut : hostOfText text
      = (rsplitOnce ':' (hostPortText text)).elim (hostPortText text) Prod.fst := by
    unfold hostOfText
    split
    · next inner hinner =>
      refine absurd ?_ h
      have hstart : hostPortText text <+: text := List.takeWhile_prefix _
      rw [hinner] at hstart
      obtain ⟨rest, rfl⟩ := hstart
      rfl
    · rfl
  have htext : hostPortText text ++ text.dropWhile (fun c => c != '/') = text :=
    List.takeWhile_append_dropWhile
  have hslash : text.dropWhile (fun c => c != '/') = []
      ∨ ∃ v, text.dropWhile (fun c => c != '/') = '/' :: v := by
    cases hdrop : text.dropWhile (fun c => c != '/') with
    | nil => exact Or.inl rfl
    | cons c rest =>
      have hnot := List.head?_dropWhile_not (fun c => c != '/') text
      rw [hdrop] at hnot
      obtain rfl : c = '/' := by simpa using hnot
      exact Or.inr ⟨rest, rfl⟩
  cases hsplit : rsplitOnce ':' (hostPortText text) with
  | none =>
    rw [hsplit] at hcut
    refine ⟨_, ?_, Or.inl ⟨remainder_slash hslash, ?_⟩⟩
    · rw [hcut]
      exact htext.symm
    · rw [hcut]
      exact not_mem_of_rsplitOnce hsplit
  | some p =>
    obtain ⟨before, after⟩ := p
    rw [hsplit] at hcut
    obtain ⟨hbefore, hafter⟩ := rsplitOnce_eq_some hsplit
    refine ⟨':' :: (after ++ text.dropWhile fun c => c != '/'), ?_,
      Or.inr ⟨remainder (after ++ text.dropWhile fun c => c != '/'), rfl,
        not_mem_remainder hafter hslash⟩⟩
    rw [hcut]
    rw [hbefore, List.append_assoc] at htext
    exact htext.symm

/-! ## When it is the host that is dialled -/

/-- What was cut out, in small letters. -/
def cutHost (text : List Char) : Host := .ofText ((hostOfText text).map Char.toLower)

/-- **The cut keeps the host**: nothing that an authority ends at, and no at sign,
is in what is cut out. Where there is a user before the host, behind it is the same
host. A name that is cut out is read as it is, in small letters. -/
structure KeepsHost (N : NameReader) (text : List Char) : Prop where
  plain : ∀ c ∈ hostOfText text, isPlain c = true
  user : '@' ∈ authority text → ∀ host, hostOf N (hostText text) = some host → host = cutHost text
  spelled : '@' ∉ authority text → text.head? ≠ some '[' →
    ∀ host, N.read (hostOfText text) = some host → host = cutHost text

/-- What has a meaning in a URL is not in a host that is dialled. -/
theorem plain_of_eq_cutHost {N : NameReader} {text given : List Char} {host : Host}
    (hhost : hostOf N given = some host) (h : host = cutHost text) :
    ∀ c ∈ hostOfText text, isPlain c = true := by
  intro c hc
  by_contra hplain
  obtain ⟨hforbidden, hlower, hsymbol⟩ := isForbidden_of_isPlain (Bool.not_eq_true _ ▸ hplain)
  have hmem : c ∈ (hostOfText text).map Char.toLower := List.mem_map.mpr ⟨c, hc, hlower⟩
  have hname : cutHost text = .name ((hostOfText text).map Char.toLower) := by
    unfold cutHost Host.ofText
    cases hip : IpAddr.ofText ((hostOfText text).map Char.toLower) with
    | none => rfl
    | some ip => exact absurd (IpAddr.isSymbol_of_ofText hip c hmem) hsymbol
  rw [h, hname] at hhost
  have hvalid := isForbidden_of_hostOf hhost c hmem
  rw [hforbidden] at hvalid
  exact absurd hvalid (by simp)

section Cut

variable {N : NameReader} {text : List Char} {host : Host}

/-- Behind a bracket the host that is dialled is the one that is cut out, -/
theorem eq_cutHost_of_bracket (hplain : ∀ c ∈ hostOfText text, isPlain c = true)
    (hat : '@' ∉ authority text) (hhead : text.head? = some '[')
    (hhost : hostOf N (hostText text) = some host) : host = cutHost text := by
  obtain ⟨rest, htext, hclosed, hrest⟩ := hostOfText_bracket hhead
  have hall : ∀ c ∈ '[' :: hostOfText text, isPlain c = true := by
    intro c hc
    rcases List.mem_cons.mp hc with rfl | hc
    · decide
    · exact hplain c hc
  have hat' : '@' ∉ remainder rest := by
    rw [htext, authority_append (List.cons_ne_nil _ _) hall] at hat
    exact fun h => hat (List.mem_append_right _ h)
  rw [htext] at hhost
  obtain ⟨a, rfl, hread⟩ := hostOf_bracketed hplain hclosed hat' hrest hhost
  unfold cutHost Host.ofText
  rw [IpAddr.ofText_map_toLower, IpAddr.ofText_eq_v6_iff.mpr hread]
  rfl

/-- and otherwise its text is. -/
theorem hostText_eq_hostOfText (hne : hostOfText text ≠ [])
    (hplain : ∀ c ∈ hostOfText text, isPlain c = true) (hat : '@' ∉ authority text)
    (hhead : text.head? ≠ some '[') (hhost : hostOf N (hostText text) = some host)
    (hport : portOf (hostPort text).2 ≠ none) :
    hostText text = hostOfText text ∧ N.read (hostOfText text) = some host := by
  obtain ⟨rest, htext, hrest⟩ := hostOfText_of_head hhead
  have hat' : '@' ∉ remainder rest := by
    rw [htext, authority_append hne hplain] at hat
    exact fun h => hat (List.mem_append_right _ h)
  have hheadText : (hostText text).head? ≠ some '[' := by
    intro hbracket
    obtain ⟨inner, hinner⟩ := List.head?_eq_some_iff.mp hbracket
    have hsplit := splitPort_eq false (hostOfText text ++ remainder rest)
    rw [← hostPort_append hne hplain hat', ← htext] at hsplit
    rw [show (hostPort text).1 = '[' :: inner from hinner] at hsplit
    obtain ⟨c, tail, hcut⟩ := List.exists_cons_of_ne_nil hne
    rw [hcut] at hsplit
    have hc : c = '[' := (List.cons.inj hsplit).1
    rw [htext, hcut, hc] at hhead
    exact hhead rfl
  obtain ⟨-, hread⟩ := hostOf_eq_some_of_head hheadText hhost
  have hbracket : '[' ∉ hostText text := by
    intro hmem
    have hvalid := N.valid _ _ hread '[' hmem
    exact absurd hvalid (by decide)
  have heq : hostText text = hostOfText text := by
    rw [htext] at hbracket hport
    have h := hostText_eq_of_plain hne hplain hat' hrest hbracket hport
    rwa [← htext] at h
  exact ⟨heq, heq ▸ hread⟩

/-- **The host that is dialled is the one that is cut out exactly where the cut
keeps it.** -/
theorem eq_cutHost_iff (hne : hostOfText text ≠ []) (hhost : hostOf N (hostText text) = some host)
    (hport : portOf (hostPort text).2 ≠ none) : host = cutHost text ↔ KeepsHost N text := by
  constructor
  · intro h
    have hplain := plain_of_eq_cutHost hhost h
    refine ⟨hplain, fun _ other hother => ?_, fun hat hhead other hother => ?_⟩
    · rw [← Option.some.inj (hhost.symm.trans hother)]
      exact h
    · obtain ⟨-, hread⟩ := hostText_eq_hostOfText hne hplain hat hhead hhost hport
      rw [← Option.some.inj (hread.symm.trans hother)]
      exact h
  · intro h
    by_cases hat : '@' ∈ authority text
    · exact h.user hat host hhost
    · by_cases hhead : text.head? = some '['
      · exact eq_cutHost_of_bracket h.plain hat hhead hhost
      · obtain ⟨-, hread⟩ := hostText_eq_hostOfText hne h.plain hat hhead hhost hport
        exact h.spelled hat hhead host hread

end Cut

end Background

namespace Validate

open Background

/-- The host that is looked at. -/
def checkedHost (endpoint : String) : Option Host :=
  (afterScheme endpoint.toList).bind fun text =>
    (endpointAuthorityHost (hostPortText text)).toOption.map fun host =>
      .ofText (host.map Char.toLower)

/-- **The host is public**: an address is, and a name resolves to addresses that
are. -/
def IsPublic (dns : Resolver) : Host → Prop
  | .ip ip => isPubliclyRoutableIp ip = true
  | .name name => ∃ addrs, dns name = some addrs ∧ addrs ≠ [] ∧ ∀ ip ∈ addrs, isPubliclyRoutableIp ip = true

/-- What is looked at is what is cut out. -/
theorem eq_hostOfText_of_ok {text host : List Char}
    (h : endpointAuthorityHost (hostPortText text) = .ok host) : host = hostOfText text := by
  unfold hostOfText
  unfold endpointAuthorityHost at h
  split at h
  · next bracketed hbracketed =>
    split at h
    · exact absurd h (by simp)
    next first suffix hsplit =>
    have hfirst : first = bracketed.takeWhile fun c => c != ']' := by
      unfold splitOnce at hsplit
      split at hsplit
      · exact absurd hsplit (by simp)
      · exact (Prod.mk.inj (Option.some.inj hsplit)).1.symm
    split at h
    · exact absurd h (by simp)
    split at h
    · rw [← Except.ok.inj h, hfirst]
    · split at h
      · exact absurd h (by simp)
      · rw [← Except.ok.inj h, hfirst]
    · exact absurd h (by simp)
  · split at h
    · exact absurd h (by simp)
    · exact (Except.ok.inj h).symm

/-- A host that is let through is public. -/
theorem isPublic_of_hostRoutable {dns : Resolver} {lower : List Char}
    (h : hostRoutable dns lower = .ok ()) : IsPublic dns (.ofText lower) := by
  unfold hostRoutable at h
  split at h
  · exact absurd h (by simp)
  split at h
  · exact absurd h (by simp)
  split at h
  · exact absurd h (by simp)
  split at h
  · exact absurd h (by simp)
  unfold Host.ofText
  cases hip : IpAddr.ofText lower with
  | some ip =>
    rw [hip] at h
    dsimp only at h
    split at h
    · next hpublic => exact hpublic
    · exact absurd h (by simp)
  | none =>
    rw [hip] at h
    have hdns : toSocketAddrs dns lower = dns lower := by
      unfold toSocketAddrs
      rw [hip]
    unfold ensureHostDnsIsPublic at h
    rw [hdns] at h
    cases haddrs : dns lower with
    | none =>
      rw [haddrs] at h
      exact absurd h (by simp)
    | some addrs =>
      rw [haddrs] at h
      dsimp only at h
      split at h
      · exact absurd h (by simp)
      next hany =>
      split at h
      · exact absurd h (by simp)
      next hempty =>
      exact ⟨addrs, haddrs, by simpa using hempty, by simpa using hany⟩

/-- **What an endpoint that is accepted has**: a scheme, and a host that is cut out
of it, is not empty and is public. -/
theorem of_endpointRoutable {dns : Resolver} {endpoint : String} {env : Config.Env}
    (henv : enforcesRoutability env = true) (h : endpointRoutable dns endpoint env = .ok ()) :
    ∃ text, afterScheme endpoint.toList = some text ∧ hostOfText text ≠ []
      ∧ checkedHost endpoint = some (cutHost text) ∧ IsPublic dns (cutHost text) := by
  unfold endpointRoutable at h
  split at h
  · exact absurd h (by simp)
  next text htext =>
  rw [henv] at h
  simp only [Bool.not_true, Bool.false_eq_true, if_false] at h
  split at h
  · exact absurd h (by simp)
  next host hhost =>
  split at h
  · exact absurd h (by simp)
  next hempty =>
  have hcut := eq_hostOfText_of_ok hhost
  refine ⟨text, htext, ?_, ?_, ?_⟩
  · rw [← hcut]
    simpa using hempty
  · unfold checkedHost cutHost
    rw [htext, Option.bind_some, hhost, hcut]
    rfl
  · unfold cutHost
    rw [← hcut]
    exact isPublic_of_hostRoutable h

end Validate

namespace NodeLifecycle

open Validate Background

/-- `trim_end_matches('/')`. -/
def trimEndSlashes (text : List Char) : List Char := text.rdropWhile (· == '/')

/-- **The URL that `probe_endpoint_alive` asks for.** -/
def healthUrl (endpoint : String) : List Char :=
  trimEndSlashes endpoint.toList ++ "/iicp/health".toList

/-- What is behind its scheme. -/
def healthText (endpoint : String) : List Char := (afterScheme (healthUrl endpoint)).getD []

/-- Slashes are trimmed behind what does not end with one. -/
theorem trimEndSlashes_append {start rest : List Char} (h : ∀ c ∈ start.getLast?, c ≠ '/') :
    trimEndSlashes (start ++ rest) = start ++ trimEndSlashes rest := by
  have hstart : start.reverse.dropWhile (· == '/') = start.reverse := by
    refine List.dropWhile_eq_self_iff.mpr fun hpos => ?_
    have hhead : start.getLast? = some (start.reverse[0]) := by
      rw [← List.head?_reverse, List.head?_eq_getElem?, List.getElem?_eq_getElem hpos]
    simpa using h _ hhead
  unfold trimEndSlashes List.rdropWhile
  rw [List.reverse_append, List.dropWhile_append, hstart]
  split
  · next hempty =>
    rw [List.isEmpty_iff.mp hempty]
    simp
  · rw [List.reverse_append, List.reverse_reverse]

/-- What is behind a scheme, whatever is there. -/
theorem afterScheme_eq_some {url text : List Char} (h : afterScheme url = some text) :
    ∃ scheme, url = scheme ++ text ∧ ∀ rest, afterScheme (scheme ++ rest) = some rest := by
  have hsecure : ∀ rest, afterScheme ("https://".toList ++ rest) = some rest := by
    intro rest
    unfold afterScheme
    rw [stripPrefix_eq_some_iff.mpr rfl]
    rfl
  have hplain : ∀ rest, afterScheme ("http://".toList ++ rest) = some rest := by
    intro rest
    have hnone : stripPrefix "https://".toList ("http://".toList ++ rest) = none := by
      refine if_neg fun hstart => ?_
      have hbool : "https://".toList.isPrefixOf ("http://".toList ++ rest) = true :=
        List.isPrefixOf_iff_prefix.mpr hstart
      have hnot : "https://".toList.isPrefixOf ("http://".toList ++ rest) = false := rfl
      rw [hnot] at hbool
      exact absurd hbool Bool.false_ne_true
    unfold afterScheme
    rw [hnone, stripPrefix_eq_some_iff.mpr rfl]
    rfl
  unfold afterScheme at h
  rcases Option.or_eq_some_iff.mp h with hstrip | ⟨-, hstrip⟩
  · exact ⟨_, stripPrefix_eq_some_iff.mp hstrip, hsecure⟩
  · exact ⟨_, stripPrefix_eq_some_iff.mp hstrip, hplain⟩

/-- The scheme stays, and what is before the first slash. -/
theorem hostPortText_healthText {endpoint : String} {text : List Char}
    (h : afterScheme endpoint.toList = some text) (hne : hostPortText text ≠ []) :
    afterScheme (healthUrl endpoint) = some (healthText endpoint)
      ∧ hostPortText (healthText endpoint) = hostPortText text := by
  obtain ⟨scheme, hurl, hscheme⟩ := afterScheme_eq_some h
  set start := hostPortText text
  have hplain : ∀ c ∈ start, c ≠ '/' := fun c hc => by
    simpa using List.mem_takeWhile_imp hc
  have htext : text = start ++ text.dropWhile (fun c => c != '/') :=
    List.takeWhile_append_dropWhile.symm
  have hlast : ∀ c ∈ (scheme ++ start).getLast?, c ≠ '/' := by
    intro c hc
    rw [List.getLast?_append_of_ne_nil _ hne] at hc
    exact hplain c (List.mem_of_getLast? hc)
  -- what is behind it still begins with a slash
  have hrest : ∃ rest, trimEndSlashes (text.dropWhile fun c => c != '/') ++ "/iicp/health".toList
      = '/' :: rest := by
    cases htrim : trimEndSlashes (text.dropWhile fun c => c != '/') with
    | nil => exact ⟨_, rfl⟩
    | cons c rest =>
      have hstart : trimEndSlashes (text.dropWhile fun c => c != '/')
          <+: text.dropWhile fun c => c != '/' := List.rdropWhile_prefix _ _
      rw [htrim] at hstart
      obtain ⟨more, hmore⟩ := hstart
      have hnot := List.head?_dropWhile_not (fun c => c != '/') text
      rw [← hmore] at hnot
      obtain rfl : c = '/' := by simpa using hnot
      exact ⟨_, rfl⟩
  obtain ⟨rest, hrest⟩ := hrest
  have hhealth : healthUrl endpoint = scheme ++ (start ++ '/' :: rest) := by
    unfold healthUrl
    rw [hurl]
    conv_lhs => rw [htext]
    rw [← List.append_assoc, trimEndSlashes_append hlast, List.append_assoc, hrest,
      List.append_assoc]
  have hafter : afterScheme (healthUrl endpoint) = some (start ++ '/' :: rest) := by
    rw [hhealth, hscheme]
  have hhealthText : healthText endpoint = start ++ '/' :: rest := by
    unfold healthText
    rw [hafter]
    rfl
  refine ⟨hafter.trans (congrArg some hhealthText.symm), ?_⟩
  rw [hhealthText]
  unfold hostPortText
  rw [List.takeWhile_append_of_pos fun c hc => bne_iff_ne.mpr (hplain c hc)]
  exact List.append_nil _

/-- What is dialled for a URL has the host behind its scheme. -/
theorem of_target {N : NameReader} {url : List Char} {t : Target} (h : target N url = some t) :
    ∃ text, afterScheme url = some text ∧ hostOf N (hostText text) = some t.host
      ∧ portOf (hostPort text).2 ≠ none := by
  obtain ⟨port, text, given, hscheme, hhost, hgiven, -⟩ := target_eq_some_iff.mp h
  refine ⟨text, ?_, hhost, by rw [hgiven]; exact Option.some_ne_none _⟩
  unfold stripScheme at hscheme
  unfold afterScheme stripPrefix
  split at hscheme
  · next hsecure =>
    rw [if_pos hsecure, ← (Prod.mk.inj (Option.some.inj hscheme)).2]
    rfl
  · next hsecure =>
    split at hscheme
    · next hplain =>
      rw [if_neg hsecure, if_pos hplain, ← (Prod.mk.inj (Option.some.inj hscheme)).2]
      rfl
    · exact absurd hscheme (by simp)

/-- **The host that is dialled is the one that was looked at, and is public, exactly
where the cut keeps it.** -/
theorem dialled_is_checked_iff (N : NameReader) (dns : Resolver) {endpoint : String}
    {env : Config.Env} (henv : enforcesRoutability env = true)
    (haccepted : endpointRoutable dns endpoint env = .ok ()) :
    (∀ t, target N (healthUrl endpoint) = some t →
        checkedHost endpoint = some t.host ∧ IsPublic dns t.host)
      ↔ ((target N (healthUrl endpoint)).isSome = true → KeepsHost N (healthText endpoint)) := by
  obtain ⟨text, htext, hne, hchecked, hpublic⟩ := of_endpointRoutable henv haccepted
  have hhost : hostPortText text ≠ [] := by
    intro hnil
    apply hne
    unfold hostOfText
    rw [hnil]
    rfl
  obtain ⟨hhealth, hsame⟩ := hostPortText_healthText htext hhost
  have hcutText : hostOfText (healthText endpoint) = hostOfText text := by
    unfold hostOfText
    rw [hsame]
  have hcut : cutHost (healthText endpoint) = cutHost text := by
    unfold cutHost
    rw [hcutText]
  have hpoint : ∀ t, target N (healthUrl endpoint) = some t →
      (t.host = cutHost text ↔ KeepsHost N (healthText endpoint)) := by
    intro t ht
    obtain ⟨text', htext', hhost', hport'⟩ := of_target ht
    obtain rfl := Option.some.inj (hhealth.symm.trans htext')
    rw [← hcut]
    exact eq_cutHost_iff (hcutText ▸ hne) hhost' hport'
  constructor
  · intro h hsome
    obtain ⟨t, ht⟩ := Option.isSome_iff_exists.mp hsome
    have heq := (h t ht).1
    rw [hchecked] at heq
    exact (hpoint t ht).mp (Option.some.inj heq).symm
  · intro h t ht
    have heq := (hpoint t ht).mpr (h (by rw [ht]; rfl))
    rw [hchecked, heq]
    exact ⟨rfl, hpublic⟩

namespace Sample

/-- A host is read as it is, in small letters. -/
def plainNames : NameReader where
  read text :=
    if text.any isForbidden then none else some (.ofText (text.map Char.toLower))
  valid text host h := by
    split at h
    · exact absurd h (by simp)
    · next hvalid =>
      intro c hc
      exact Bool.eq_false_iff.mpr fun hforbidden => hvalid (List.any_eq_true.mpr ⟨c, hc, hforbidden⟩)
  name_valid text name h := by
    split at h
    · exact absurd h (by simp)
    · next hvalid =>
      intro c hc
      have hname : name = text.map Char.toLower := by
        have h' := Option.some.inj h
        unfold Host.ofText at h'
        cases hip : IpAddr.ofText (text.map Char.toLower) with
        | none => rw [hip] at h'; exact (Host.name.inj h').symm
        | some ip => rw [hip] at h'; exact absurd h' (by simp)
      rw [hname] at hc
      obtain ⟨d, hd, rfl⟩ := List.mem_map.mp hc
      rcases toLower_cases d with hlower | ⟨n, hn, rfl⟩
      · rw [hlower]
        exact Bool.eq_false_iff.mpr fun hforbidden =>
          hvalid (List.any_eq_true.mpr ⟨d, hd, hforbidden⟩)
      · have hletters : ∀ n < 26, isForbidden (Char.ofNat (n + 65)).toLower = false := by decide
        exact hletters n hn

/-- No name resolves. -/
def noNames : Resolver := fun _ => none

end Sample

theorem dialled_is_checked_iff_sample :
    (∀ t, target Sample.plainNames (healthUrl "https://8.8.8.8:8090/") = some t →
        checkedHost "https://8.8.8.8:8090/" = some t.host ∧ IsPublic Sample.noNames t.host)
      ↔ ((target Sample.plainNames (healthUrl "https://8.8.8.8:8090/")).isSome = true →
        KeepsHost Sample.plainNames (healthText "https://8.8.8.8:8090/")) :=
  @dialled_is_checked_iff Sample.plainNames Sample.noNames "https://8.8.8.8:8090/" .production rfl
    (by decide +kernel)

/-- **A public address as a user lets a private host through**: the address is looked
at, and the host behind the at sign is dialled. -/
theorem user_hides_the_host :
    ¬ ∀ (N : NameReader) (dns : Resolver) (endpoint : String) (env : Config.Env),
      enforcesRoutability env = true → endpointRoutable dns endpoint env = .ok () →
      ∀ t, target N (healthUrl endpoint) = some t →
        checkedHost endpoint = some t.host ∧ IsPublic dns t.host := by
  intro h
  have haccepted : endpointRoutable Sample.noNames "http://8.8.8.8:x@127.0.0.1" .production = .ok () := by
    decide +kernel
  have htarget : target Sample.plainNames (healthUrl "http://8.8.8.8:x@127.0.0.1")
      = some ⟨.ip (.v4 ⟨127, 0, 0, 1⟩), 80⟩ := by decide +kernel
  have hpublic := (h Sample.plainNames Sample.noNames _ .production rfl haccepted _ htarget).2
  exact absurd hpublic (by decide +kernel : ¬ isPubliclyRoutableIp (.v4 ⟨127, 0, 0, 1⟩) = true)

end NodeLifecycle
