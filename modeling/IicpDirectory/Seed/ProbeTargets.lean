import IicpDirectory.ProbeGuards
import IicpDirectory.Seed.Routes

/-!
# What a probe of a node dials

A directory probes the endpoints of its nodes, and a node whose endpoint does not
answer twice is not reachable any more. The host that is dialled is the one that is
cut out of the endpoint; the port is that of its scheme, whatever port the endpoint
has.

`probe_judges_iff` has the endpoints that are judged by what they advertise: their
port is the one of their scheme, the cut keeps their host, and the guard does not
take it for a private one.
-/

open Addresses Authority

namespace Background

open Validate

/-- `extract_port`. -/
def extractPort (url : List Char) : ℕ := if "https://".toList.isPrefixOf url then 443 else 80

/-- **What `tcp_probe` connects to**: a host, which is resolved, and a port. -/
def probeTarget (endpoint : List Char) : Option (List Char × ℕ) :=
  if isPrivateHost (extractHost endpoint) then none
  else some (extractHost endpoint, extractPort endpoint)

/-- **`tcp_probe`.** -/
def tcpProbe (dns : Resolver) (connects : SocketAddr → Bool) (endpoint : List Char) :
    List SocketAddr × Bool :=
  tcpProbeAt dns connects (extractHost endpoint) (extractPort endpoint)

/-- `should_probe`. -/
def shouldProbe (host : List Char) (ipv6Egress : Bool) : Bool :=
  if isPrivateHost host then false else !(host.contains ':' && !ipv6Egress)

/-- What a probe of a node finds, if it is probed: the second attempt is made where
the first fails. -/
def probeNode (dns : Resolver) (first second : SocketAddr → Bool) (ipv6Egress : Bool)
    (endpoint : List Char) : Option Bool :=
  if shouldProbe (extractHost endpoint) ipv6Egress then
    some (RouteDb.confirmedProbe (tcpProbe dns first endpoint).2 (tcpProbe dns second endpoint).2)
  else none

/-- **A turn of `run_probe_nodes_loop`**, of a node and the endpoint that was read for
it. -/
def probeRoute {fold : String → String} (dns : Resolver) (first second : SocketAddr → Bool)
    (ipv6Egress : Bool) (L : Libs) (signingKey : Option String) (server : Server) (draw : Draw)
    (db : RouteDb fold) (nodeId endpoint : String) : RouteDb fold :=
  match probeNode dns first second ipv6Egress endpoint.toList with
  | none => db
  | some passed => (RouteDb.applyProbeRouteState L signingKey server draw db nodeId passed).2

/-! ## What it judges -/

/-- What a host resolves to. -/
def addressesOf (dns : Resolver) : Host → List IpAddr
  | .ip ip => [ip]
  | .name name => (dns name).getD []

/-- Something answers at what a URL is dialled at. -/
def answersAt (dns : Resolver) (connects : SocketAddr → Bool) (t : Target) : Bool :=
  (addressesOf dns t.host).any fun ip => connects (ip, t.port)

/-- **A probe judges what is advertised**: it connects to the host and the port of the
endpoint, and a route is taken back only if neither attempt was answered there. -/
structure JudgesAdvertised (fold : String → String) (N : NameReader) (dns : Resolver)
    (endpoint : String) : Prop where
  connects : ∀ t, target N endpoint.toList = some t →
    ∃ host, probeTarget endpoint.toList = some (host, t.port)
      ∧ Host.ofText (host.map Char.toLower) = t.host
  demotes : ∀ t, target N endpoint.toList = some t →
    ∀ first second ipv6Egress L signingKey server draw (db : RouteDb fold) nodeId,
      (db.route nodeId).map Prod.fst = some true →
      ((probeRoute dns first second ipv6Egress L signingKey server draw db nodeId
        endpoint).route nodeId).map Prod.fst = some false →
      answersAt dns first t = false ∧ answersAt dns second t = false

/-- **An endpoint can be judged**: the cut keeps its host, which does not look like a
private one, and its port is that of its scheme. -/
structure Judgeable (N : NameReader) (endpoint : String) (t : Target) : Prop where
  keeps : ∀ text, afterScheme endpoint.toList = some text → KeepsHost N text
  notReserved : ProbeGuards.isReservedName ((extractHost endpoint.toList).map Char.toLower) = false
  notLoopback : extractHost endpoint.toList ≠ "::1".toList
  notPrivate : startsPrivate ((extractHost endpoint.toList).map Char.toLower) = false
  port : (stripScheme endpoint.toList).map Prod.fst = some t.port

/-- The port of a scheme. -/
theorem stripScheme_eq {url text : List Char} (h : afterScheme url = some text) :
    stripScheme url = some (extractPort url, text) := by
  unfold afterScheme stripPrefix at h
  unfold stripScheme extractPort
  by_cases hsecure : "https://".toList <+: url
  · rw [if_pos hsecure] at h ⊢
    rw [if_pos (List.isPrefixOf_iff_prefix.mpr hsecure), ← Option.some.inj h]
    rfl
  · rw [if_neg hsecure] at h ⊢
    rw [if_neg fun hstart => hsecure (List.isPrefixOf_iff_prefix.mp hstart)]
    by_cases hplain : "http://".toList <+: url
    · rw [if_pos hplain] at h ⊢
      rw [← Option.some.inj h]
      rfl
    · rw [if_neg hplain] at h
      exact absurd h (by simp)

/-- An endpoint that is accepted has a scheme. -/
theorem afterScheme_of_endpointRoutable {dns : Resolver} {endpoint : String} {env : Config.Env}
    (h : endpointRoutable dns endpoint env = .ok ()) :
    ∃ text, afterScheme endpoint.toList = some text := by
  unfold endpointRoutable at h
  cases htext : afterScheme endpoint.toList with
  | none =>
    rw [htext] at h
    exact absurd h (by simp)
  | some text => exact ⟨text, rfl⟩

/-- **A route is taken back only by a probe that failed.** -/
theorem failed_of_demoted {fold : String → String} {L : Libs} {signingKey : Option String}
    {server : Server} {draw : Draw} {db : RouteDb fold} {nodeId : String} {passed : Bool}
    (hbefore : (db.route nodeId).map Prod.fst = some true)
    (hafter : ((RouteDb.applyProbeRouteState L signingKey server draw db nodeId
      passed).2.route nodeId).map Prod.fst = some false) : passed = false := by
  have hsame : (db.route nodeId).map Prod.fst ≠ some false := by
    rw [hbefore]
    simp
  unfold RouteDb.applyProbeRouteState at hafter
  split at hafter
  · exact absurd hafter hsame
  · cases hrow : db.repo.find nodeId with
    | none =>
      rw [hrow] at hafter
      exact absurd hafter hsame
    | some row =>
      rw [hrow] at hafter
      dsimp only at hafter
      split at hafter
      · exact absurd hafter hsame
      · next ev hev =>
        cases hreached : Transaction.reaches server
            (RouteDb.routeBody L signingKey nodeId passed ev draw) db with
        | none =>
          rw [Transaction.run_of_not_reached hreached] at hafter
          exact absurd hafter hsame
        | some db' =>
          have hevidenced := RouteDb.evidenced_of_routeBody hrow hev
            (Transaction.foldlM_of_reached hreached)
          rw [Transaction.run_of_reached hreached] at hafter
          have hdemoted : MySqlRepo.transitionOf row passed = .demoted := by
            rcases hevidenced.ne_unchanged with ht | ht
            · exact ht
            · have hreachable := hevidenced.reachable
              rw [ht] at hreachable
              cases hcommit : server.commit with
              | done =>
                rw [hcommit] at hafter
                exact absurd (hreachable.symm.trans hafter) (by simp)
              | refused =>
                rw [hcommit] at hafter
                exact absurd hafter hsame
              | lost =>
                rw [hcommit] at hafter
                exact absurd (hreachable.symm.trans hafter) (by simp)
          exact (MySqlRepo.transitionOf_eq_demoted hdemoted).1

/-- A probe that connects to what is advertised sees whether it answers. -/
theorem tcpProbe_eq_answersAt {dns : Resolver} (hdns : ∀ name, dns (name.map Char.toLower) = dns name)
    {endpoint host : List Char} {t : Target} (h : probeTarget endpoint = some (host, t.port))
    (hhost : Host.ofText (host.map Char.toLower) = t.host) (connects : SocketAddr → Bool) :
    (tcpProbe dns connects endpoint).2 = answersAt dns connects t := by
  unfold probeTarget at h
  split at h
  · exact absurd h (by simp)
  next hpublic =>
  obtain ⟨rfl, hport⟩ := Prod.mk.inj (Option.some.inj h)
  have haddresses : (toSocketAddrs dns (extractHost endpoint)).getD [] = addressesOf dns t.host := by
    rw [← hhost]
    unfold toSocketAddrs Host.ofText
    rw [IpAddr.ofText_map_toLower]
    cases IpAddr.ofText (extractHost endpoint) with
    | some ip => rfl
    | none =>
      unfold addressesOf
      dsimp only [Option.elim_none]
      rw [hdns]
  unfold tcpProbe tcpProbeAt answersAt
  rw [if_neg hpublic, hport, haddresses]
  exact List.any_map

/-- What is not probed, or is connected to, by what it looks like. -/
theorem probeTarget_eq_some_iff {endpoint host : List Char} {port : ℕ} :
    probeTarget endpoint = some (host, port)
      ↔ (ProbeGuards.isReservedName ((extractHost endpoint).map Char.toLower) = false
          ∧ extractHost endpoint ≠ "::1".toList
          ∧ startsPrivate ((extractHost endpoint).map Char.toLower) = false)
        ∧ extractHost endpoint = host ∧ extractPort endpoint = port := by
  have hguard := ProbeGuards.background_eq_true_iff (extractHost endpoint)
  unfold probeTarget
  split
  · next hrefused =>
    have hno := hguard.mp hrefused
    simp only [reduceCtorEq, false_iff]
    rintro ⟨⟨hreserved, hloopback, hstarts⟩, -, -⟩
    rw [hreserved, hstarts] at hno
    exact hloopback (by simpa using hno)
  · next hopen =>
    rw [hguard] at hopen
    simp only [not_or, Bool.not_eq_true] at hopen
    rw [Option.some.injEq, Prod.mk.injEq]
    exact (and_iff_right hopen).symm

/-- **A probe judges what is advertised exactly where it can be judged.** -/
theorem probe_judges_iff (fold : String → String) (N : NameReader) {dns : Resolver}
    (hdns : ∀ name, dns (name.map Char.toLower) = dns name) {endpoint : String} {env : Config.Env}
    (haccepted : endpointRoutable dns endpoint env = .ok ()) :
    JudgesAdvertised fold N dns endpoint
      ↔ ∀ t, target N endpoint.toList = some t → Judgeable N endpoint t := by
  obtain ⟨text, htext⟩ := afterScheme_of_endpointRoutable haccepted
  have hcut : extractHost endpoint.toList = hostOfText text := by
    unfold extractHost
    rw [htext]
    rfl
  have hhost : ∀ t, target N endpoint.toList = some t → hostOfText text ≠ [] →
      (t.host = cutHost text ↔ KeepsHost N text) := by
    intro t ht hne
    obtain ⟨text', htext', hhost', hport'⟩ := NodeLifecycle.of_target ht
    obtain rfl := Option.some.inj (htext.symm.trans htext')
    exact eq_cutHost_iff hne hhost' hport'
  have hnonempty : ProbeGuards.isReservedName ((extractHost endpoint.toList).map Char.toLower) = false →
      hostOfText text ≠ [] := by
    intro h hnil
    rw [hcut, hnil] at h
    exact absurd h (by decide)
  constructor
  · intro h t ht
    obtain ⟨host, hprobe, hsame⟩ := h.connects t ht
    obtain ⟨⟨hreserved, hloopback, hprivate⟩, rfl, hport⟩ := probeTarget_eq_some_iff.mp hprobe
    refine ⟨fun other hother => ?_, hreserved, hloopback, hprivate, ?_⟩
    · obtain rfl := Option.some.inj (htext.symm.trans hother)
      refine (hhost t ht (hnonempty hreserved)).mp ?_
      rw [← hsame, hcut]
      rfl
    · rw [stripScheme_eq htext, ← hport]
      rfl
  · intro h
    have hconnects : ∀ t, target N endpoint.toList = some t →
        ∃ host, probeTarget endpoint.toList = some (host, t.port)
          ∧ Host.ofText (host.map Char.toLower) = t.host := by
      intro t ht
      have hjudge := h t ht
      refine ⟨extractHost endpoint.toList, probeTarget_eq_some_iff.mpr
        ⟨⟨hjudge.notReserved, hjudge.notLoopback, hjudge.notPrivate⟩, rfl, ?_⟩, ?_⟩
      · have hport := hjudge.port
        rw [stripScheme_eq htext] at hport
        exact Option.some.inj hport
      · rw [(hhost t ht (hnonempty hjudge.notReserved)).mpr (hjudge.keeps text htext), hcut]
        rfl
    refine ⟨hconnects, fun t ht first second ipv6Egress L signingKey server draw db nodeId hbefore
      hafter => ?_⟩
    obtain ⟨host, hprobe, hsame⟩ := hconnects t ht
    unfold probeRoute at hafter
    cases hnode : probeNode dns first second ipv6Egress endpoint.toList with
    | none =>
      rw [hnode] at hafter
      exact absurd (hbefore.symm.trans hafter) (by simp)
    | some passed =>
      rw [hnode] at hafter
      obtain rfl := failed_of_demoted hbefore hafter
      unfold probeNode at hnode
      split at hnode
      · have hconfirmed := Option.some.inj hnode
        rw [tcpProbe_eq_answersAt hdns hprobe hsame, tcpProbe_eq_answersAt hdns hprobe hsame]
          at hconfirmed
        unfold RouteDb.confirmedProbe at hconfirmed
        split at hconfirmed
        · exact absurd hconfirmed (by simp)
        · next hfirst => exact ⟨Bool.not_eq_true _ ▸ hfirst, hconfirmed⟩
      · exact absurd hnode (by simp)

theorem probe_judges_iff_sample :
    JudgesAdvertised id NodeLifecycle.Sample.plainNames NodeLifecycle.Sample.noNames "https://8.8.8.8"
      ↔ ∀ t, target NodeLifecycle.Sample.plainNames "https://8.8.8.8".toList = some t →
        Judgeable NodeLifecycle.Sample.plainNames "https://8.8.8.8" t :=
  @probe_judges_iff id NodeLifecycle.Sample.plainNames NodeLifecycle.Sample.noNames (fun _ => rfl)
    "https://8.8.8.8" .production (by decide +kernel)

/-- **A port that an endpoint has is not the one that is probed.** -/
theorem explicit_port_not_probed :
    ¬ ∀ (N : NameReader) (dns : Resolver) (endpoint : String) (env : Config.Env),
      (∀ name, dns (name.map Char.toLower) = dns name) →
      endpointRoutable dns endpoint env = .ok () → JudgesAdvertised id N dns endpoint := by
  intro h
  have hjudges := h NodeLifecycle.Sample.plainNames NodeLifecycle.Sample.noNames
    "http://8.8.8.8:8090" .production (fun _ => rfl) (by decide +kernel)
  have htarget : target NodeLifecycle.Sample.plainNames "http://8.8.8.8:8090".toList
      = some ⟨.ip (.v4 ⟨8, 8, 8, 8⟩), 8090⟩ := by decide +kernel
  obtain ⟨host, hprobe, -⟩ := hjudges.connects _ htarget
  have hport : extractPort "http://8.8.8.8:8090".toList = 8090 :=
    (probeTarget_eq_some_iff.mp hprobe).2.2
  exact absurd hport (by decide)

end Background
