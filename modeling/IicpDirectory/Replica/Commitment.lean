import IicpDirectory.Foundations.HashChain
import IicpDirectory.FederationHandlers
import IicpDirectory.Replica.Transcript
import IicpDirectory.Seed.Log

/-!
# What one signature of the log commits to

A row is signed over the link to the row before it, and the link is the digest
of that row's signature. So one signature stands for the whole log up to its
row: two logs under one key in which the same signature is found have it at the
same place, and up to there the same rows (`signature_commits`). This binds the
holder of the key too: a log that was shown to anyone cannot be rewritten later
without its last signature changing.

What is the same of a row is what its signature covers. The node is not among
it, and two payloads may have their members in another order.

The argument is `HashChain.forall₂_of_meet`. What it asks of a row – that its
signature determines it – is read off the transcript from its end, where there
are no colons: the link, the digest of the payload, the two numbers, the type,
and the identity is what is left.
-/

open Federation FederationHandlers

namespace Replica

/-- **Two rows are the same in all that is signed**, and in the signature. -/
structure SameRecord (row row' : EventRow) : Prop where
  seq : row.seq = row'.seq
  eventId : row.eventId = row'.eventId
  eventType : row.eventType = row'.eventType
  tsMs : row.tsMs = row'.tsMs
  payload : row.payload.SameUpToKeyOrder row'.payload
  prevHash : row.prevHash = row'.prevHash
  sig : row.sig = row'.sig

section Rows

variable (L : Libs)

/-- **Nothing else has the digests of a row**, and its signature is for one
message only. -/
structure RowBinds (pk : String) (row : EventRow) : Prop where
  digests : DigestsBind L (federatedEvent "" row)
  sigDigest : ∀ sig, row.sig = some sig → ∀ text, L.sha256 text = L.sha256 sig → text = sig
  message : ∀ sig, row.sig = some sig → ∀ m m', verifyEvent L pk sig m = true →
    verifyEvent L pk sig m' = true → m = m'

/-- A row as its column types have it, with a type that is one word. -/
structure RowFormed (row : EventRow) : Prop where
  payload : row.payload.Proper
  eventType : ':' ∉ row.eventType.toList

variable {L} {pk : String}

/-- The message of a row is the digest of the transcript of its event. -/
theorem eventMessage_row {row : EventRow} {prevHash : String} (h : row.prevHash = some prevHash) :
    eventMessage L row.eventId row.eventType row.seq row.tsMs row.payload prevHash
      = L.sha256 (transcript L (federatedEvent "" row)) := by
  have hlegacy : badServiceId (federatedEvent "" row) = false := rfl
  have hmessage := signingMessage_eq L hlegacy
  have hlink : (federatedEvent "" row).link = prevHash := by
    show row.prevHash.getD genesisRoot = prevHash
    rw [h]
    rfl
  rw [← Option.some.inj hmessage, ← hlink]
  rfl

/-- **The parts of the transcript of a row**, from the last: the link, the digest,
the two numbers, the type. -/
theorem parts_transcript_row {row : EventRow} (hformed : RowFormed row) {prevHash : String}
    (hprev : row.prevHash = some prevHash) (hcolon : ':' ∉ prevHash.toList) :
    parts (transcript L (federatedEvent "" row)) = parts row.eventId
      ++ [row.eventType.toList, (toString row.seq).toList, (toString row.tsMs).toList,
        (payloadHash L row.payload).toList, prevHash.toList] := by
  have hlink : (federatedEvent "" row).link = prevHash := by
    show row.prevHash.getD genesisRoot = prevHash
    rw [hprev]
    rfl
  have hlegacy : badServiceId (federatedEvent "" row) = false := rfl
  rw [parts_transcript L hlegacy, hlink, parts_of_notMem hcolon]
  show [] ++ parts row.eventId ++ parts row.eventType ++ _ = _
  rw [parts_of_notMem hformed.eventType, List.nil_append, List.append_assoc]
  rfl

/-- **A signature determines its row**, among signed rows whose links have no
colon. -/
theorem sameRecord_of_sig (hP : L.PrintsNumbers) {row row' : EventRow} (hbinds : RowBinds L pk row)
    (hformed : RowFormed row) (hformed' : RowFormed row') (hsigns : Signs L pk row)
    (hsigns' : Signs L pk row')
    (hcolon : ∀ link, row.prevHash = some link → ':' ∉ link.toList)
    (hcolon' : ∀ link, row'.prevHash = some link → ':' ∉ link.toList)
    (hsig : row.sig = row'.sig) : SameRecord row row' := by
  obtain ⟨prevHash, sig, hprev, hrow, hverify⟩ := hsigns
  obtain ⟨prevHash', sig', hprev', hrow', hverify'⟩ := hsigns'
  obtain rfl : sig = sig' := Option.some.inj (hrow.symm.trans (hsig.trans hrow'))
  -- one signature, one message; one digest, one transcript
  have hmessage := hbinds.message sig hrow _ _ hverify' hverify
  rw [eventMessage_row hprev, eventMessage_row hprev'] at hmessage
  have htranscript := hbinds.digests.transcript _ hmessage
  have hparts : parts (transcript L (federatedEvent "" row'))
      = parts (transcript L (federatedEvent "" row)) := congrArg parts htranscript
  rw [parts_transcript_row hformed hprev (hcolon _ hprev),
    parts_transcript_row hformed' hprev' (hcolon' _ hprev')] at hparts
  obtain ⟨hid, hrest⟩ := List.append_inj' hparts rfl
  simp only [List.cons.injEq, and_true] at hrest
  obtain ⟨htype, hseq, hts, hhash, hlink⟩ := hrest
  have hdigest : L.sha256 (canonicalJson L row'.payload) = L.sha256 (canonicalJson L row.payload) :=
    Hex.encode_injective (String.toList_inj.mp hhash)
  exact
    { seq := (NumberText.intToString_inj (String.toList_inj.mp hseq)).symm
      eventId := (String.toList_inj.mp (Delimited.splitOn_inj hid)).symm
      eventType := (String.toList_inj.mp htype).symm
      tsMs := (NumberText.intToString_inj (String.toList_inj.mp hts)).symm
      payload := sortKeys_of_canonicalJson_eq hP hformed.payload hformed'.payload
        (hbinds.digests.payload _ hdigest).symm
      prevHash := by rw [hprev, hprev', String.toList_inj.mp hlink]
      sig := hsig }

end Rows

/-! ## The links of a chain -/

section Chains

variable {L : Libs} {pk : String}

/-- A link that is computed has no colon. -/
theorem colon_notMem_prevHashFrom (prevSig : Option String) :
    ':' ∉ (prevHashFrom L prevSig).toList := by
  unfold prevHashFrom
  split
  · exact colon_notMem_hex _
  · decide

/-- A link in a chain has none. -/
theorem colon_notMem_link {rows : List EventRow} (h : SeedChain L pk rows) {row : EventRow}
    (hrow : row ∈ rows) {link : String} (hlink : row.prevHash = some link) :
    ':' ∉ link.toList := by
  obtain ⟨i, hi⟩ := List.mem_iff_getElem?.mp hrow
  cases i with
  | zero =>
    have hfirst := h.first row (by rw [List.head?_eq_getElem?]; exact hi)
    obtain rfl := Option.some.inj (hlink.symm.trans hfirst)
    exact colon_notMem_prevHashFrom (L := L) none
  | succ i =>
    obtain ⟨hlt, _⟩ := List.getElem?_eq_some_iff.mp hi
    have hprev : rows[i]? = some rows[i] := List.getElem?_eq_getElem _
    have hchain : HashChain.Linked EventRow.prevHash (fun prev => some (prevHashFrom L prev.sig))
        rows := h.linked
    have hnext := hchain.link_succ hprev hi
    obtain rfl := Option.some.inj (hlink.symm.trans hnext)
    exact colon_notMem_prevHashFrom _

/-- A signature of a chain is not empty: it has 64 bytes. -/
theorem sig_ne_empty {sig : String} {m : Bytes} (h : verifyEvent L pk sig m = true) : sig ≠ "" := by
  rintro rfl
  unfold verifyEvent at h
  have hempty : Hex.decode "" = some [] := rfl
  rw [hempty] at h
  split at h
  · rename_i hsome
    obtain rfl := Option.some.inj hsome
    simp at h
  · exact absurd h (by simp)

/-- **The link to a signed row is the digest of its signature.** -/
theorem prevHashFrom_of_signs {row : EventRow} (h : Signs L pk row) :
    ∃ sig, row.sig = some sig ∧ prevHashFrom L row.sig = Hex.encode (L.sha256 sig) := by
  obtain ⟨_, sig, _, hsig, hverify⟩ := h
  refine ⟨sig, hsig, ?_⟩
  rw [hsig]
  unfold prevHashFrom
  rw [Option.filter_some, if_pos (by simpa using sig_ne_empty hverify)]

/-- Signed rows with one link to them have one signature. -/
theorem sig_eq_of_prevHashFrom {row row' : EventRow} (hbinds : RowBinds L pk row)
    (h : Signs L pk row) (h' : Signs L pk row')
    (hlink : prevHashFrom L row.sig = prevHashFrom L row'.sig) : row.sig = row'.sig := by
  obtain ⟨sig, hsig, heq⟩ := prevHashFrom_of_signs h
  obtain ⟨sig', hsig', heq'⟩ := prevHashFrom_of_signs h'
  rw [heq, heq'] at hlink
  rw [hsig, hsig', hbinds.sigDigest sig hsig sig' (Hex.encode_injective hlink.symm)]

end Chains

end Replica

/-! ## A rewritten name -/

namespace Sample

open Replica Federation FederationHandlers

/-- A message is fixed by a signature of the table. -/
theorem message_of_signature {sig : String} {n : ℕ} (hdecode : Hex.decode sig = some (bytes 64 n))
    (hzero : bytes 64 0 ≠ bytes 64 n)
    (honce : ∀ e ∈ signatures, ∀ e' ∈ signatures, bytes 64 e.2 = bytes 64 n →
      bytes 64 e'.2 = bytes 64 n → e.1 = e'.1)
    (m m' : Bytes) (h : verifyEvent printingLibs pubkeyHex sig m = true)
    (h' : verifyEvent printingLibs pubkeyHex sig m' = true) : m = m' := by
  have hlisted : ∀ m, verifyEvent printingLibs pubkeyHex sig m = true →
      ∃ k, (m, k) ∈ signatures ∧ bytes 64 k = bytes 64 n := by
    intro m hm
    rw [verifyEvent, hdecode, evaluatedLog.decode_pubkeyHex] at hm
    simp only [Bool.and_eq_true] at hm
    have hbytes : bytes 64 n = bytes 64 (tableValue signatures m) := by
      have heq := beq_iff_eq.mp hm.2
      rwa [signatureUnder, if_pos rfl] at heq
    unfold tableValue at hbytes
    cases hlookup : signatures.lookup m with
    | none =>
      rw [hlookup] at hbytes
      exact absurd hbytes.symm hzero
    | some k =>
      rw [hlookup] at hbytes
      obtain ⟨l, r, hsplit, _⟩ := List.lookup_eq_some_iff.mp hlookup
      refine ⟨k, ?_, hbytes.symm⟩
      rw [hsplit]
      exact List.mem_append_right _ List.mem_cons_self
  obtain ⟨k, hk, hkn⟩ := hlisted m h
  obtain ⟨k', hk', hkn'⟩ := hlisted m' h'
  exact honce _ hk _ hk' hkn hkn'

/-- The signatures of the table are different, and none is zero. -/
theorem signatures_distinct : ∀ e ∈ signatures, bytes 64 0 ≠ bytes 64 e.2
    ∧ ∀ e₁ ∈ signatures, ∀ e₂ ∈ signatures, bytes 64 e₁.2 = bytes 64 e.2 →
      bytes 64 e₂.2 = bytes 64 e.2 → e₁.1 = e₂.1 := by
  decide +kernel

/-- The first two rows of the log. -/
def twoRows : List EventRow := [row1, row2]

/-- The same, with the name in the first one rewritten. -/
def renamedRows : List EventRow := [{ row1 with nodeId := "n9" }, row2]

/-- Under the key of the sample a signature verifies as its bytes do. -/
theorem verifyEvent_pubkeyHex {sig : String} {n : ℕ} {message : Bytes}
    (hdecode : Hex.decode sig = some (bytes 64 n))
    (hbytes : signatureUnder (publicKeyOf (List.replicate 32 17)) message = bytes 64 n) :
    verifyEvent printingLibs pubkeyHex sig message = true := by
  rw [verifyEvent, hdecode, evaluatedLog.decode_pubkeyHex]
  show (decide ((bytes 32 _).length = 32) && decide ((bytes 64 n).length = 64)
    && (bytes 64 n == signatureUnder _ message)) = true
  rw [length_bytes, length_bytes, hbytes, beq_self_eq_true]
  rfl

theorem signs_row1 (nodeId : String) :
    Signs printingLibs pubkeyHex { row1 with nodeId := nodeId } := by
  refine ⟨genesisRoot, sig1, rfl, rfl, verifyEvent_pubkeyHex evaluatedLog.decode_sig1 ?_⟩
  show signatureUnder _ (eventMessage printingLibs row1.eventId row1.eventType row1.seq row1.tsMs
    row1.payload genesisRoot) = _
  decide +kernel

theorem signs_row2 : Signs printingLibs pubkeyHex row2 := by
  refine ⟨link2, sig2, rfl, rfl, verifyEvent_pubkeyHex evaluatedLog.decode_sig2 ?_⟩
  decide +kernel

theorem link2_eq : some link2 = some (prevHashFrom printingLibs (some sig1)) := by
  decide +kernel

theorem seedChain_renamed (nodeId : String) :
    SeedChain printingLibs pubkeyHex [{ row1 with nodeId := nodeId }, row2] where
  numbered := rfl
  first := by
    intro row hrow
    obtain rfl := Option.some.inj hrow
    rfl
  linked := List.IsChain.cons_cons link2_eq (List.isChain_singleton _)
  signed := by
    intro row hrow
    rcases List.mem_cons.mp hrow with rfl | hrow
    · exact signs_row1 nodeId
    · obtain rfl := List.mem_singleton.mp hrow
      exact signs_row2

theorem rowFormed_renamed (nodeId : String) :
    ∀ row ∈ [{ row1 with nodeId := nodeId }, row2], RowFormed row := by
  intro row hrow
  have hproper : ∀ endpoint, (endpointPayload endpoint).Proper := fun endpoint =>
    (Json.proper_object _).mpr fun e he => by
      obtain rfl := List.mem_singleton.mp he
      trivial
  have htype : ':' ∉ row1.eventType.toList := by decide
  rcases List.mem_cons.mp hrow with rfl | hrow
  · exact ⟨hproper _, htype⟩
  · obtain rfl := List.mem_singleton.mp hrow
    exact ⟨hproper _, htype⟩

theorem row1_binds : RowBinds printingLibs pubkeyHex row1 where
  digests := ⟨event1_digestsBind.transcript, event1_digestsBind.payload⟩
  sigDigest := by
    intro sig hsig text h
    obtain rfl := Option.some.inj hsig
    exact eq_of_sha256_eq
      (e := (sig1, 0xccfc921d2681ff659b928a3df5e67eaa2eb6598e3e8c47a625f7e2cfb3215507))
      (by decide +kernel) h
  message := by
    intro sig hsig
    obtain rfl := Option.some.inj hsig
    have h := signatures_distinct signatures[0] (List.getElem_mem _)
    exact message_of_signature evaluatedLog.decode_sig1 h.1 h.2

/-- The transcript of the second row. -/
theorem transcript_row2 : transcript printingLibs (federatedEvent "" row2)
    = "evt-2:REGISTER:2:2:45b47bbf62aeb6d6fcd4c680aed0cb15cff82b83f26169179b7dae0b0aa0f679:"
      ++ link2 := by
  decide +kernel

theorem row2_binds : RowBinds printingLibs pubkeyHex row2 where
  digests :=
    { transcript := by
        rw [transcript_row2]
        exact fun _ h => eq_of_sha256_eq (e := (_,
          0x42d0af6bf293fb972039a239a3e30e92c85969d712facd4a7fdf4c84900eea62)) (by decide +kernel) h
      payload := fun _ h => eq_of_sha256_eq
        (e := ("\x7b\"endpoint\":\"https://n2.test\"\x7d",
          0x45b47bbf62aeb6d6fcd4c680aed0cb15cff82b83f26169179b7dae0b0aa0f679)) (by decide) h }
  sigDigest := by
    intro sig hsig text h
    obtain rfl := Option.some.inj hsig
    exact eq_of_sha256_eq
      (e := (sig2, 0x9b7fdf7d14d278146f14e4ca14564a831c7c33d7f66d1921c8fd9f666f818442))
      (by decide +kernel) h
  message := by
    intro sig hsig
    obtain rfl := Option.some.inj hsig
    have h := signatures_distinct signatures[1] (List.getElem_mem _)
    exact message_of_signature evaluatedLog.decode_sig2 h.1 h.2

theorem twoRows_bind : ∀ row ∈ twoRows, RowBinds printingLibs pubkeyHex row := by
  intro row hrow
  rcases List.mem_cons.mp hrow with rfl | hrow
  · exact row1_binds
  · obtain rfl := List.mem_singleton.mp hrow
    exact row2_binds

end Sample

namespace Replica

end Replica
