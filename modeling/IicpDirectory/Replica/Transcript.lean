import IicpDirectory.Canonical
import IicpDirectory.Replica.Verify

/-!
# What a transcript says of its event

A replica computes the transcript of an event from what came over the wire,
and joins its fields with colons. The digest of the payload has none, nor
have the two numbers; the identity, the type and the link can have any. So
whoever reads a transcript may find several events in it, and
`transcript_binds_iff` says when there is one: the event has no service
identity, its identity and type have no colon, and its link does not itself
hold what ends a transcript (`EmbeddedTail`).

An event with a service identity is never alone. Its transcript, for all
its prefix, is the one of an event without, whose identity starts with that
prefix.
-/

open Federation

/-! ## Events off the wire -/

/-- A 64-bit integer. -/
def IsI64 (i : ℤ) : Prop := -2 ^ 63 ≤ i ∧ i < 2 ^ 63

namespace Json

/-- The field of a value as it is held is one. -/
theorem Proper.field {v : Json} (hv : v.Proper) {i : ℕ} {name : String} {w : Json}
    (h : v.field i name = some w) : w.Proper := by
  cases v with
  | array items => exact (proper_array items).mp hv w (List.mem_of_getElem? h)
  | object entries =>
    obtain ⟨e, he, rfl⟩ := Option.map_eq_some_iff.mp h
    exact (proper_object entries).mp hv e (List.mem_of_find?_eq_some he)
  | _ => exact absurd h (by simp [Json.field])

/-- A 64-bit integer is read off a number as it is held. -/
theorem Proper.isI64 {v : Json} (hv : v.Proper) {i : ℤ} (h : v.asI64 = some i) : IsI64 i := by
  cases v with
  | number n =>
    cases n with
    | posInt n =>
      simp only [asI64] at h
      split at h
      · obtain rfl := Option.some.inj h
        exact ⟨by omega, by omega⟩
      · exact absurd h (by simp)
    | negInt j =>
      obtain rfl := Option.some.inj h
      have hj : -2 ^ 63 ≤ j ∧ j < 0 := hv
      exact ⟨hj.1, by omega⟩
    | float x => exact absurd h (by simp [asI64])
  | _ => exact absurd h (by simp [asI64])

theorem proper_ofInt {i : ℤ} (h : IsI64 i) : (ofInt i).Proper := by
  obtain ⟨hlower, hupper⟩ := h
  unfold ofInt
  split
  · show i.toNat < 2 ^ 64
    omega
  · show -2 ^ 63 ≤ i ∧ i < 0
    omega

theorem proper_ofOptionStr (o : Option String) : (ofOptionStr o).Proper := by
  cases o <;> trivial

end Json

namespace Replica

namespace FederatedEvent

/-- **An event as it can be received**: numbers of 64 bits, a payload as
values are held. The texts are any. -/
structure OnWire (ev : FederatedEvent) : Prop where
  seq : IsI64 ev.seq
  tsMs : IsI64 ev.tsMs
  payload : ev.payload.Proper

/-- An event, written with all its fields. -/
def wireJson (ev : FederatedEvent) : Json :=
  .object
    [("event_id", .string ev.eventId), ("event_type", .string ev.eventType),
     ("service_id", Json.ofOptionStr ev.serviceId), ("seq", Json.ofInt ev.seq),
     ("ts_ms", Json.ofInt ev.tsMs), ("node_id", Json.ofOptionStr ev.nodeId),
     ("payload", ev.payload), ("prev_hash", Json.ofOptionStr ev.prevHash),
     ("sig", Json.ofOptionStr ev.sig), ("signer_did", Json.ofOptionStr ev.signerDid)]

/-- **What can be received** is what some value is read as. -/
theorem onWire_iff (ev : FederatedEvent) :
    ev.OnWire ↔ ∃ v : Json, v.Proper ∧ FederatedEvent.ofJson v = some ev := by
  constructor
  · rintro ⟨hseq, hts, hpayload⟩
    refine ⟨ev.wireJson, ?_, ?_⟩
    · refine (Json.proper_object _).mpr ?_
      simp only [List.forall_mem_cons]
      exact ⟨trivial, trivial, Json.proper_ofOptionStr _, Json.proper_ofInt hseq,
        Json.proper_ofInt hts, Json.proper_ofOptionStr _, hpayload, Json.proper_ofOptionStr _,
        Json.proper_ofOptionStr _, Json.proper_ofOptionStr _, fun _ h => absurd h List.not_mem_nil⟩
    · simp [FederatedEvent.ofJson, wireJson, Json.isStruct, Json.fieldReq, Json.fieldOr,
        Json.field, Json.asI64_ofInt hseq.2, Json.asI64_ofInt hts.2, guard]
  · rintro ⟨v, hv, hread⟩
    unfold FederatedEvent.ofJson at hread
    simp only [Option.bind_eq_bind, Option.bind_eq_some_iff] at hread
    obtain ⟨_, _, _, _, _, _, _, _, seq, hseq, ts, hts, _, _, payload, hpayload, _, _, _, _, _, _,
      hev⟩ := hread
    obtain rfl := Option.some.inj hev
    obtain ⟨w, hw, hseq⟩ := Option.bind_eq_some_iff.mp hseq
    obtain ⟨w', hw', hts⟩ := Option.bind_eq_some_iff.mp hts
    refine ⟨(hv.field hw).isI64 hseq, (hv.field hw').isI64 hts, ?_⟩
    unfold Json.fieldOr at hpayload
    cases hfield : v.field 6 "payload" with
    | none =>
      rw [hfield] at hpayload
      obtain rfl := Option.some.inj hpayload
      trivial
    | some x =>
      rw [hfield] at hpayload
      obtain rfl := Option.some.inj hpayload
      exact hv.field hfield

end FederatedEvent

/-! ## The transcript and its parts -/

/-- What a transcript with a service identity starts with. -/
def servicePrefix : String := "iicp-event-v2"

section Transcript

variable (L : Libs)

/-- **The text whose digest is signed.** -/
def transcript (ev : FederatedEvent) : String :=
  (match ev.serviceId with
    | some serviceId => servicePrefix ++ ":" ++ serviceId ++ ":"
    | none => "")
    ++ ev.eventId ++ ":" ++ ev.eventType ++ ":" ++ toString ev.seq ++ ":" ++ toString ev.tsMs
    ++ ":" ++ payloadHash L ev.payload ++ ":" ++ ev.link

/-- The message of an event is the digest of its transcript. -/
theorem signingMessage_eq {ev : FederatedEvent} (h : badServiceId ev = false) :
    signingMessage L ev = some (L.sha256 (transcript L ev)) := by
  unfold badServiceId at h
  unfold signingMessage transcript
  cases hs : ev.serviceId with
  | none =>
    simp only [eventMessage, String.empty_append]
  | some serviceId =>
    rw [hs] at h
    have hvalid : validServiceId serviceId = true := by simpa using h
    simp only [eventMessageWithServiceId, if_pos hvalid, servicePrefix, String.append_assoc]
    rfl

/-- An event with a message has a service identity that is valid, or none. -/
theorem badServiceId_of_signingMessage {ev : FederatedEvent} {msg : Bytes}
    (h : signingMessage L ev = some msg) : badServiceId ev = false := by
  unfold badServiceId
  unfold signingMessage at h
  cases hs : ev.serviceId with
  | none => rfl
  | some serviceId =>
    rw [hs] at h
    simp only [eventMessageWithServiceId] at h
    split at h
    · rename_i hvalid
      simpa using hvalid
    · exact absurd h (by simp)

/-- The parts of a text between colons. -/
def parts (s : String) : List (List Char) := s.toList.splitOn ':'

/-- The parts of a transcript before its first number. -/
def frontParts (ev : FederatedEvent) : List (List Char) :=
  (match ev.serviceId with
    | some serviceId => [servicePrefix.toList, serviceId.toList]
    | none => [])
    ++ parts ev.eventId ++ parts ev.eventType

theorem parts_append (a b : String) : parts (a ++ ":" ++ b) = parts a ++ parts b := by
  unfold parts
  rw [String.toList_append, String.toList_append, List.append_assoc]
  exact Delimited.splitOn_append_cons ':' a.toList b.toList

theorem parts_of_notMem {s : String} (h : ':' ∉ s.toList) : parts s = [s.toList] :=
  Delimited.splitOn_of_notMem h

/-! ### What has no colon -/

omit L in
theorem colon_notMem_intToString (i : ℤ) : ':' ∉ (toString i).toList := by
  intro h
  rcases NumberText.isDigit_or_sign_of_mem h with hdigit | hsign
  · exact absurd hdigit (by decide)
  · exact absurd hsign (by decide)

omit L in
theorem colon_notMem_hex (bytes : Bytes) : ':' ∉ (Hex.encode bytes).toList := by
  intro h
  obtain ⟨n, hn, hc⟩ := Hex.exists_digit_of_mem h
  have hdigits : ∀ m < 16, ':' ≠ Hex.digit m := by decide
  exact hdigits n hn hc

omit L in
theorem colon_notMem_serviceId {serviceId : String} (h : validServiceId serviceId = true) :
    ':' ∉ serviceId.toList := by
  intro hmem
  unfold validServiceId at h
  cases hs : serviceId.toList with
  | nil =>
    rw [hs] at hmem
    exact absurd hmem List.not_mem_nil
  | cons c rest =>
    rw [hs] at h hmem
    simp only [Bool.and_eq_true] at h
    exact absurd (List.all_eq_true.mp h.2 _ hmem) (by decide)

/-- **The parts of a transcript**: what is before the first number, the two
numbers and the digest, the parts of the link. -/
theorem parts_transcript {ev : FederatedEvent} (h : badServiceId ev = false) :
    parts (transcript L ev) = frontParts ev
      ++ ([(toString ev.seq).toList, (toString ev.tsMs).toList,
            (payloadHash L ev.payload).toList] ++ parts ev.link) := by
  have htail : parts (ev.eventId ++ ":" ++ (ev.eventType ++ ":" ++ (toString ev.seq ++ ":"
      ++ (toString ev.tsMs ++ ":" ++ (payloadHash L ev.payload ++ ":" ++ ev.link)))))
      = parts ev.eventId ++ (parts ev.eventType ++ ([(toString ev.seq).toList,
          (toString ev.tsMs).toList, (payloadHash L ev.payload).toList] ++ parts ev.link)) := by
    have hhash : ':' ∉ (payloadHash L ev.payload).toList := colon_notMem_hex _
    rw [parts_append, parts_append, parts_append, parts_append, parts_append,
      parts_of_notMem (colon_notMem_intToString _), parts_of_notMem (colon_notMem_intToString _),
      parts_of_notMem hhash]
    rfl
  unfold transcript frontParts
  cases hs : ev.serviceId with
  | none =>
    simp only [String.empty_append, String.append_assoc, List.nil_append, List.append_assoc] at htail ⊢
    exact htail
  | some serviceId =>
    have hvalid : validServiceId serviceId = true := by
      unfold badServiceId at h
      rw [hs] at h
      simpa using h
    have hstart : parts servicePrefix = [servicePrefix.toList] := parts_of_notMem (by decide)
    have hservice := parts_of_notMem (colon_notMem_serviceId hvalid)
    have hfront : ∀ text : String, parts (servicePrefix ++ ":" ++ (serviceId ++ ":" ++ text))
        = [servicePrefix.toList, serviceId.toList] ++ parts text := by
      intro text
      rw [parts_append, parts_append, hstart, hservice]
      rfl
    have hall := hfront (ev.eventId ++ ":" ++ (ev.eventType ++ ":" ++ (toString ev.seq ++ ":"
      ++ (toString ev.tsMs ++ ":" ++ (payloadHash L ev.payload ++ ":" ++ ev.link)))))
    rw [htail] at hall
    simp only [String.append_assoc, List.append_assoc] at hall ⊢
    exact hall

/-! ## Reading a transcript -/

/-- A number is never the digest of a payload: it is too short. -/
theorem intToString_ne_payloadHash {L : Libs} (hL : L.Lawful) {i : ℤ} (hi : IsI64 i)
    (payload : Json) : (toString i).toList ≠ (payloadHash L payload).toList := by
  intro h
  have hlength := congrArg List.length h
  have hshort := NumberText.length_intToString_le hi.1 hi.2
  have hlong : (payloadHash L payload).toList.length = 64 := by
    rw [payloadHash, Hex.length_encode, hL.sha256_length]
  omega

end Transcript

/-- **Where the numbers and the digest can be found** in a row of parts that
holds them after its first two: there, or in what follows. The first ways
in between are closed where neither number can be the digest. -/
theorem tail_cases {α : Type} {a b q t h q' t' h' : α} {front rest rest' : List α}
    (heq : front ++ ([q', t', h'] ++ rest') = [a, b] ++ ([q, t, h] ++ rest))
    (hfront : 2 ≤ front.length) (hq : q' ≠ h) (ht : t' ≠ h) :
    (front = [a, b] ∧ q' = q ∧ t' = t ∧ h' = h ∧ rest' = rest)
      ∨ ∃ before, front = [a, b, q, t, h] ++ before ∧ rest = before ++ ([q', t', h'] ++ rest') := by
  match front, hfront with
  | [x, y], _ =>
    simp only [List.cons_append, List.nil_append, List.cons.injEq] at heq
    obtain ⟨rfl, rfl, rfl, rfl, rfl, rfl⟩ := heq
    exact Or.inl ⟨rfl, rfl, rfl, rfl, rfl⟩
  | [x, y, z], _ =>
    simp only [List.cons_append, List.nil_append, List.cons.injEq] at heq
    exact absurd heq.2.2.2.2.1 ht
  | [x, y, z, w], _ =>
    simp only [List.cons_append, List.nil_append, List.cons.injEq] at heq
    exact absurd heq.2.2.2.2.1 hq
  | x :: y :: z :: w :: v :: before, _ =>
    simp only [List.cons_append, List.nil_append, List.cons.injEq] at heq
    obtain ⟨rfl, rfl, rfl, rfl, rfl, hrest⟩ := heq
    exact Or.inr ⟨before, rfl, hrest.symm⟩

section Binding

variable (L : Libs)

/-- **A text holds what ends a transcript**: behind a colon or at its start, a
number, a number, the digest of a payload, and something more. -/
def EmbeddedTail (link : String) : Prop :=
  ∃ (front rest : String) (seq tsMs : ℤ) (payload : Json),
    IsI64 seq ∧ IsI64 tsMs ∧ payload.Proper ∧
    ":" ++ link = front ++ ":" ++ toString seq ++ ":" ++ toString tsMs ++ ":"
      ++ payloadHash L payload ++ ":" ++ rest

/-- **An event alone in its transcript.** -/
structure Unambiguous (ev : FederatedEvent) : Prop where
  legacy : ev.serviceId = none
  eventId : ':' ∉ ev.eventId.toList
  eventType : ':' ∉ ev.eventType.toList
  link : ¬ EmbeddedTail L ev.link

/-- Two events agree on all that a transcript is made of, the payload up to the
order of its members. -/
structure SameTuple (e₁ e₂ : FederatedEvent) : Prop where
  serviceId : e₁.serviceId = e₂.serviceId
  eventId : e₁.eventId = e₂.eventId
  eventType : e₁.eventType = e₂.eventType
  seq : e₁.seq = e₂.seq
  tsMs : e₁.tsMs = e₂.tsMs
  payload : e₁.payload.SameUpToKeyOrder e₂.payload
  link : e₁.link = e₂.link

/-- **Nothing else has the digests of an event**: of its transcript and of its
payload. A SHA-256 that is injective has this of every event. -/
structure DigestsBind (ev : FederatedEvent) : Prop where
  transcript : ∀ text, L.sha256 text = L.sha256 (transcript L ev) → text = transcript L ev
  payload : ∀ text, L.sha256 text = L.sha256 (canonicalJson L ev.payload) →
    text = canonicalJson L ev.payload

theorem digestsBind_of_injective (h : Function.Injective L.sha256) (ev : FederatedEvent) :
    DigestsBind L ev :=
  ⟨fun _ heq => h heq, fun _ heq => h heq⟩

variable {L}

/-- What is found in the parts of a link is found in the link. -/
theorem embeddedTail_of_parts {link : String} {before rest : List (List Char)} {seq tsMs : ℤ}
    {payload : Json} (hrest : rest ≠ []) (hseq : IsI64 seq) (hts : IsI64 tsMs)
    (hpayload : payload.Proper)
    (h : parts link = before ++ ([(toString seq).toList, (toString tsMs).toList,
      (payloadHash L payload).toList] ++ rest)) : EmbeddedTail L link := by
  refine ⟨String.ofList ([':'].intercalate ([] :: before)), String.ofList ([':'].intercalate rest),
    seq, tsMs, payload, hseq, hts, hpayload, ?_⟩
  have htext : ':' :: link.toList = [':'].intercalate (([] :: before)
      ++ ([(toString seq).toList, (toString tsMs).toList, (payloadHash L payload).toList]
        ++ rest)) := by
    have hparts : (':' :: link.toList).splitOn ':' = [] :: parts link :=
      Delimited.splitOn_append_cons ':' [] link.toList
    rw [List.cons_append, ← h, ← hparts, List.intercalate_splitOn]
  rw [Delimited.intercalate_append ':' (List.cons_ne_nil _ _) (by simp),
    Delimited.intercalate_append ':' (List.cons_ne_nil _ _) hrest,
    List.intercalate_cons_cons, List.intercalate_cons_cons, List.intercalate_singleton] at htext
  refine String.toList_inj.mp ?_
  simp only [String.toList_append, String.toList_ofList]
  show ':' :: link.toList = _
  rw [htext]
  simp only [List.append_assoc, List.cons_append]
  rfl

/-- A text has a part. -/
theorem one_le_length_parts (s : String) : 1 ≤ (parts s).length :=
  List.length_pos_iff.mpr (List.splitOn_ne_nil ':' s.toList)

/-- There are two parts before the first number, and four behind a service
identity. -/
theorem two_le_length_frontParts (ev : FederatedEvent) : 2 ≤ (frontParts ev).length := by
  have hid := one_le_length_parts ev.eventId
  have htype := one_le_length_parts ev.eventType
  unfold frontParts
  rw [List.length_append, List.length_append]
  omega

/-- Two parts before the first number are an identity and a type. -/
theorem frontParts_eq_pair {ev : FederatedEvent} {a b : List Char} (h : frontParts ev = [a, b]) :
    ev.serviceId = none ∧ ev.eventId.toList = a ∧ ev.eventType.toList = b := by
  have hid := one_le_length_parts ev.eventId
  have htype := one_le_length_parts ev.eventType
  have hlength := congrArg List.length h
  unfold frontParts at h hlength
  cases hs : ev.serviceId with
  | some serviceId =>
    rw [hs] at hlength
    simp only [List.length_append, List.length_cons, List.length_nil] at hlength
    omega
  | none =>
    rw [hs] at h hlength
    simp only [List.nil_append] at h hlength
    rw [List.length_append] at hlength
    have hone : (parts ev.eventId).length = [a].length := by
      simp only [List.length_cons, List.length_nil] at hlength ⊢
      omega
    obtain ⟨hleft, hright⟩ := List.append_inj (h.trans (show [a, b] = [a] ++ [b] from rfl)) hone
    exact ⟨rfl, Delimited.eq_of_splitOn_eq_singleton hleft,
      Delimited.eq_of_splitOn_eq_singleton hright⟩

/-- **An unambiguous event is the only one in its transcript.** -/
theorem Unambiguous.sameTuple (hL : L.Lawful) (hP : L.PrintsNumbers) {ev ev' : FederatedEvent}
    (hun : Unambiguous L ev) (hev : ev.OnWire) (hev' : ev'.OnWire) (hbind : DigestsBind L ev)
    (hmsg : signingMessage L ev' = signingMessage L ev) : SameTuple ev ev' := by
  have hservice : badServiceId ev = false := by
    unfold badServiceId
    rw [hun.legacy]
    rfl
  rw [signingMessage_eq L hservice] at hmsg
  have hservice' := badServiceId_of_signingMessage L hmsg
  rw [signingMessage_eq L hservice'] at hmsg
  have htranscript := hbind.transcript _ (Option.some.inj hmsg)
  have hparts : parts (transcript L ev') = parts (transcript L ev) := by rw [htranscript]
  have hfront : frontParts ev = [ev.eventId.toList, ev.eventType.toList] := by
    unfold frontParts
    rw [hun.legacy, parts_of_notMem hun.eventId, parts_of_notMem hun.eventType]
    rfl
  rw [parts_transcript L hservice', parts_transcript L hservice, hfront] at hparts
  rcases tail_cases hparts (two_le_length_frontParts ev')
      (intToString_ne_payloadHash hL hev'.seq ev.payload)
      (intToString_ne_payloadHash hL hev'.tsMs ev.payload)
    with ⟨hpair, hseq, hts, hhash, hlink⟩ | ⟨before, _, hlink⟩
  · obtain ⟨hnone, hid, htype⟩ := frontParts_eq_pair hpair
    have hdigest : L.sha256 (canonicalJson L ev'.payload)
        = L.sha256 (canonicalJson L ev.payload) :=
      Hex.encode_injective (String.toList_inj.mp hhash)
    exact
      { serviceId := hun.legacy.trans hnone.symm
        eventId := (String.toList_inj.mp hid).symm
        eventType := (String.toList_inj.mp htype).symm
        seq := (NumberText.intToString_inj (String.toList_inj.mp hseq)).symm
        tsMs := (NumberText.intToString_inj (String.toList_inj.mp hts)).symm
        payload := sortKeys_of_canonicalJson_eq hP hev.payload hev'.payload
          (hbind.payload _ hdigest).symm
        link := (String.toList_inj.mp (Delimited.splitOn_inj hlink)).symm }
  · exact absurd (embeddedTail_of_parts (List.splitOn_ne_nil ':' ev'.link.toList) hev'.seq
      hev'.tsMs hev'.payload hlink) hun.link

/-- Two events with one transcript have one message. -/
theorem signingMessage_congr {ev ev' : FederatedEvent} (hservice : badServiceId ev = false)
    (hservice' : badServiceId ev' = false) (h : transcript L ev' = transcript L ev) :
    signingMessage L ev' = signingMessage L ev := by
  rw [signingMessage_eq L hservice, signingMessage_eq L hservice', h]

/-- A text with a colon, before and after it. -/
theorem exists_of_colon_mem {s : String} (h : ':' ∈ s.toList) : ∃ a b : String, s = a ++ ":" ++ b := by
  obtain ⟨a, b, hab⟩ := List.append_of_mem h
  refine ⟨String.ofList a, String.ofList b, String.toList_inj.mp ?_⟩
  rw [hab]
  simp only [String.toList_append, String.toList_ofList, List.append_assoc]
  rfl

/-- A text is not what is left of it behind a colon. -/
theorem ne_of_append_colon (a b : String) : a ++ ":" ++ b ≠ b := by
  intro h
  have hlength := congrArg (fun s => s.toList.length) h
  simp only [String.toList_append, List.length_append] at hlength
  have hcolon : ":".toList.length = 1 := rfl
  omega

/-- **An event alone in its transcript is unambiguous**: whatever is not gives
a second way to read it. -/
theorem unambiguous_of_binds {ev : FederatedEvent} (hev : ev.OnWire)
    (hservice : badServiceId ev = false)
    (h : ∀ ev', ev'.OnWire → signingMessage L ev' = signingMessage L ev → SameTuple ev ev') :
    Unambiguous L ev := by
  refine ⟨?_, fun hmem => ?_, fun hmem => ?_, ?_⟩
  · -- the prefix and the service identity read as part of the identity
    cases hs : ev.serviceId with
    | none => rfl
    | some serviceId =>
      have hsame := h { ev with
          serviceId := none
          eventId := servicePrefix ++ ":" ++ serviceId ++ ":" ++ ev.eventId }
        ⟨hev.seq, hev.tsMs, hev.payload⟩
        (signingMessage_congr hservice rfl (by
          simp only [transcript, hs, String.empty_append, String.append_assoc]
          rfl))
      have hnone : ev.serviceId = none := hsame.serviceId
      exact hs.symm.trans hnone
  · obtain ⟨a, b, hab⟩ := exists_of_colon_mem hmem
    have hsame := h { ev with
        eventId := a
        eventType := b ++ ":" ++ ev.eventType }
      ⟨hev.seq, hev.tsMs, hev.payload⟩
      (signingMessage_congr hservice hservice (by
        simp only [transcript, hab, String.append_assoc]
        rfl))
    have htype : ev.eventType = b ++ ":" ++ ev.eventType := hsame.eventType
    exact ne_of_append_colon b ev.eventType htype.symm
  · obtain ⟨a, b, hab⟩ := exists_of_colon_mem hmem
    have hsame := h { ev with
        eventId := ev.eventId ++ ":" ++ a
        eventType := b }
      ⟨hev.seq, hev.tsMs, hev.payload⟩
      (signingMessage_congr hservice hservice (by
        simp only [transcript, hab, String.append_assoc]
        rfl))
    have htype : ev.eventType = b := hsame.eventType
    exact ne_of_append_colon a b (hab.symm.trans htype)
  · -- everything up to the second ending reads as part of the type
    rintro ⟨front, rest, seq, tsMs, payload, hseq, hts, hpayload, hlink⟩
    have hsame := h { ev with
        eventType := ev.eventType ++ ":" ++ toString ev.seq ++ ":" ++ toString ev.tsMs ++ ":"
          ++ payloadHash L ev.payload ++ front
        seq := seq
        tsMs := tsMs
        payload := payload
        prevHash := some rest }
      ⟨hseq, hts, hpayload⟩
      (signingMessage_congr hservice hservice (by
        have hlink' : ":" ++ ev.link = front ++ (":" ++ (toString seq ++ (":" ++ (toString tsMs
            ++ (":" ++ (payloadHash L payload ++ (":" ++ rest))))))) := by
          rw [hlink]
          simp only [String.append_assoc]
        simp only [transcript, FederatedEvent.link, String.append_assoc] at hlink' ⊢
        rw [hlink']
        rfl))
    have hrest : ev.link = rest := hsame.link
    rw [hrest] at hlink
    have hlength := congrArg (fun s => s.toList.length) hlink
    simp only [String.toList_append, List.length_append] at hlength
    have hcolon : ":".toList.length = 1 := rfl
    omega

/-- **What the signature binds**: the message of an event is that of no other
tuple, up to the order of the payload's members, if and only if the event
has no service identity, no colon in its identity or type, and no second
ending in its link. -/
theorem transcript_binds_iff (hL : L.Lawful) (hP : L.PrintsNumbers) {ev : FederatedEvent}
    (hev : ev.OnWire) (hservice : badServiceId ev = false) (hbind : DigestsBind L ev) :
    (∀ ev', ev'.OnWire → signingMessage L ev' = signingMessage L ev → SameTuple ev ev')
      ↔ Unambiguous L ev :=
  ⟨unambiguous_of_binds hev hservice,
    fun hun _ hev' hmsg => hun.sameTuple hL hP hev hev' hbind hmsg⟩

/-- A link without a colon, as every link a seed computes is, holds no second
ending. -/
theorem not_embeddedTail_of_notMem {link : String} (h : ':' ∉ link.toList) :
    ¬ EmbeddedTail L link := by
  rintro ⟨front, rest, seq, tsMs, payload, _, _, _, hlink⟩
  have hcount := congrArg (fun s => s.toList.count ':') hlink
  simp only [String.toList_append, List.count_append, List.count_eq_zero.mpr h] at hcount
  have hcolon : ":".toList.count ':' = 1 := by decide
  omega

end Binding

end Replica

/-! ## An event that stands alone, and two that do not -/

namespace Sample

open Replica

/-- The sample libraries, with doubles printed as two integers. -/
def printingLibs : Libs :=
  { libs with printF64 := fun x => toString x.num ++ "." ++ toString x.den }

theorem printingLibs_lawful : printingLibs.Lawful where
  sha256_length := libs_lawful.sha256_length
  publicKey_length := libs_lawful.publicKey_length
  sign_length := libs_lawful.sign_length
  verify_sign := libs_lawful.verify_sign

/-- A fraction is printed with a point between its integers. -/
theorem toList_printF64 (x : ℚ) : (printingLibs.printF64 x).toList
    = (toString x.num).toList ++ '.' :: (toString x.den).toList := by
  show (toString x.num ++ "." ++ toString x.den).toList = _
  rw [String.toList_append, String.toList_append, List.append_assoc]
  rfl

theorem point_notMem_intToString (i : ℤ) : '.' ∉ (toString i).toList := by
  intro h
  rcases NumberText.isDigit_or_sign_of_mem h with hdigit | hsign
  · exact absurd hdigit (by decide)
  · exact absurd hsign (by decide)

theorem point_notMem_natToString (n : ℕ) : '.' ∉ (toString n).toList := by
  intro h
  exact absurd (NumberText.isDigit_of_mem h) (by decide)

theorem printingLibs_printsNumbers : printingLibs.PrintsNumbers where
  printF64_inj {x y} h := by
    have htext := congrArg String.toList h
    rw [toList_printF64, toList_printF64] at htext
    obtain ⟨hnum, _, hden⟩ := (List.append_cons_inj_of_notMem (point_notMem_intToString _)
      (point_notMem_natToString _)).mp htext
    exact Rat.ext (NumberText.intToString_inj (String.toList_inj.mp hnum))
      (NumberText.natToString_inj (String.toList_inj.mp hden))
  printF64_chars x c hc := by
    rw [toList_printF64, List.mem_append, List.mem_cons] at hc
    rcases hc with hnum | rfl | hden
    · rcases NumberText.isDigit_or_sign_of_mem hnum with hdigit | rfl
      · exact NumberText.isNumberChar_of_isDigit hdigit
      · rfl
    · rfl
    · exact NumberText.isNumberChar_of_isDigit (NumberText.isDigit_of_mem hden)
  printF64_float x := by
    refine ⟨'.', ?_, Or.inl rfl⟩
    rw [toList_printF64]
    exact List.mem_append_right _ List.mem_cons_self

/-- The digests of the table are the table's. -/
theorem tableValue_digests : ∀ e ∈ digests, tableValue digests e.1 = e.2 := by
  decide +kernel

/-- They are different, and none is zero. -/
theorem digests_distinct : ∀ e ∈ digests, bytes 32 0 ≠ bytes 32 e.2
    ∧ ∀ e' ∈ digests, bytes 32 e'.2 = bytes 32 e.2 → e'.1 = e.1 := by
  decide +kernel

/-- **Nothing else has a value of a table** that is not zero and is listed once. -/
theorem eq_of_tableValue {table : List (String × ℕ)} {e : String × ℕ}
    (hvalue : tableValue table e.1 = e.2) (hzero : bytes 32 0 ≠ bytes 32 e.2)
    (honce : ∀ e' ∈ table, bytes 32 e'.2 = bytes 32 e.2 → e'.1 = e.1) {text : String}
    (h : bytes 32 (tableValue table text) = bytes 32 (tableValue table e.1)) : text = e.1 := by
  rw [hvalue] at h
  unfold tableValue at h
  cases hlookup : table.lookup text with
  | none =>
    rw [hlookup] at h
    exact absurd h hzero
  | some n =>
    rw [hlookup] at h
    obtain ⟨l, r, hsplit, _⟩ := List.lookup_eq_some_iff.mp hlookup
    have hmem : (text, n) ∈ table := by
      rw [hsplit]
      exact List.mem_append_right _ List.mem_cons_self
    exact honce (text, n) hmem h

/-- **Nothing else has a digest of the table.** -/
theorem eq_of_sha256_eq {e : String × ℕ} (he : e ∈ digests) {text : String}
    (h : printingLibs.sha256 text = printingLibs.sha256 e.1) : text = e.1 :=
  eq_of_tableValue (tableValue_digests e he) (digests_distinct e he).1 (digests_distinct e he).2 h

theorem event1_onWire : event1.OnWire where
  seq := ⟨by decide, by decide⟩
  tsMs := ⟨by decide, by decide⟩
  payload := (Json.proper_object _).mpr fun e he => by
    obtain rfl := List.mem_singleton.mp he
    trivial

theorem event1_digestsBind : DigestsBind printingLibs event1 where
  transcript _ h := eq_of_sha256_eq
    (e := ("evt-1:REGISTER:1:1:9e0b6b31915d25dd97ba6fc9754b6faab6d1858320c880a6fd53a8b285a1a9db:"
      ++ Federation.genesisRoot, 0x092c3d050fbf89e80b753309e5ab910b2f3cdd2d4143998b86fd457d5acc0fc2))
    (by decide +kernel) h
  payload _ h := eq_of_sha256_eq
    (e := ("\x7b\"endpoint\":\"https://n1.test\"\x7d",
      0x9e0b6b31915d25dd97ba6fc9754b6faab6d1858320c880a6fd53a8b285a1a9db)) (by decide) h

theorem event1_unambiguous : Unambiguous printingLibs event1 where
  legacy := rfl
  eventId := by decide
  eventType := by decide
  link := not_embeddedTail_of_notMem (by decide)

/-- An event of a service. -/
def serviceEvent : FederatedEvent where
  eventId := "474a7713-85c8-4d61-bea5-0ab16f3825a0"
  eventType := "REGISTER"
  serviceId := some "directory-monolith"
  seq := 1080
  tsMs := 1779195794150
  nodeId := some "n1"
  payload := endpointPayload "http://localhost:8090"
  prevHash := some Federation.genesisRoot
  sig := none
  signerDid := none

/-- An event without a service identity, whose own starts like a service's
transcript. -/
def prefixedEvent : FederatedEvent :=
  { serviceEvent with
    eventId := "iicp-event-v2:directory-monolith:474a7713-85c8-4d61-bea5-0ab16f3825a0"
    serviceId := none }

theorem serviceEvent_onWire : serviceEvent.OnWire where
  seq := ⟨by decide, by decide⟩
  tsMs := ⟨by decide, by decide⟩
  payload := (Json.proper_object _).mpr fun e he => by
    obtain rfl := List.mem_singleton.mp he
    trivial

end Sample

namespace Replica

/-- The first event of the sample is the only one with its message. -/
theorem transcript_binds_sample :
    Unambiguous Sample.printingLibs Sample.event1 ∧ ∀ ev' : FederatedEvent, ev'.OnWire →
      signingMessage Sample.printingLibs ev' = signingMessage Sample.printingLibs Sample.event1 →
      SameTuple Sample.event1 ev' :=
  ⟨Sample.event1_unambiguous,
    (transcript_binds_iff Sample.printingLibs_lawful Sample.printingLibs_printsNumbers
      Sample.event1_onWire rfl Sample.event1_digestsBind).mpr Sample.event1_unambiguous⟩

/-- **A service's event and one without a service identity have one message**,
whatever the digest: a signature of either verifies for the other. -/
theorem service_event_read_as_legacy :
    Sample.serviceEvent.OnWire ∧ Sample.prefixedEvent.OnWire
      ∧ badServiceId Sample.serviceEvent = false ∧ badServiceId Sample.prefixedEvent = false
      ∧ (∀ L : Libs, signingMessage L Sample.prefixedEvent
          = signingMessage L Sample.serviceEvent)
      ∧ ¬ SameTuple Sample.serviceEvent Sample.prefixedEvent := by
  have hservice : badServiceId Sample.serviceEvent = false := by decide
  have hstarted : badServiceId Sample.prefixedEvent = false := rfl
  refine ⟨Sample.serviceEvent_onWire, ⟨Sample.serviceEvent_onWire.seq,
    Sample.serviceEvent_onWire.tsMs, Sample.serviceEvent_onWire.payload⟩, hservice, hstarted,
    fun L => signingMessage_congr hservice hstarted ?_, fun h => ?_⟩
  · have hid : "iicp-event-v2:directory-monolith:474a7713-85c8-4d61-bea5-0ab16f3825a0"
        = servicePrefix ++ (":" ++ ("directory-monolith" ++ (":"
          ++ "474a7713-85c8-4d61-bea5-0ab16f3825a0"))) := by decide
    unfold transcript
    simp only [Sample.prefixedEvent, Sample.serviceEvent, String.empty_append, String.append_assoc,
      hid]
    rfl
  · exact absurd h.serviceId (by decide)

end Replica
