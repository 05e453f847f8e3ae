import IicpDirectory.Seed.FailedIssues

/-!
# The envelopes of a bootstrap

A node that bootstraps is given the envelopes of its peers: what the directory
has signed of their memberships. An envelope is written behind its row, and
only if the row is still of the generation that was signed. But nothing takes
it away: a request that writes the row again leaves the envelope of the
generation before, until one with an assertion overwrites it, and a plain
request never does.

`envelopes_current_iff`: an envelope describes its row in every state of a run
exactly where no request writes a row that has an envelope to show.
-/

namespace RestrictedDomain

open RestrictedDomainMembership

variable {ι : Type} (E : EvidenceLibs) {fold : String → String} (A : Administration ι)

/-- An envelope describes a row. -/
structure Describes (envelope : MembershipEnvelope) (r : MembershipRow) : Prop where
  generation : envelope.assertion.generation = r.generation
  scopes : ∀ scope ∈ envelope.assertion.scopes, scope ∈ r.scopes
  subject : envelope.assertion.subject.id = r.subjectId

/-- The row is of a node. -/
def IsNode (fold : String → String) (r : MembershipRow) : Prop := fold r.subjectKind = fold "node"

/-- **What a bootstrap is given describes the grants there are**, whatever is
asked for, whenever, under whatever epoch. -/
def ServesCurrent (s : MembershipPool fold ι) : Prop :=
  ∀ epoch nowS nodeIds, ∀ p ∈ bootstrapMemberships (A.domain.atEpoch epoch) nowS s.rows nodeIds,
    ∀ r ∈ s.rows.rows, IsNode fold r → r.current fold (A.domain.atEpoch epoch) nowS = true →
      r.subjectId = p.1 → Describes p.2 r

/-- The envelope a row of a node has to show. -/
def Shown (fold : String → String) (r : MembershipRow) (envelope : MembershipEnvelope) : Prop :=
  IsNode fold r ∧ r.membershipEnvelope = some envelope ∧ shows r.subjectId envelope = true

/-- **The envelopes of the rows and of the commands under way.** -/
structure Enveloped (s : MembershipPool fold ι) : Prop where
  hashes : ∀ r ∈ s.rows.rows, ∃ i, r.tokenHash = digest E (A.draws i).token
    ∧ s.phases i ≠ .asked
  pending : ∀ i q record envelope, s.phases i = .signed q record envelope →
    envelope.assertion.generation = record.generation
      ∧ (∀ scope ∈ envelope.assertion.scopes, scope ∈ normalized q.scopes)
      ∧ ∃ r, s.rows.row A.domain.domainId q.kind q.subject = some r
        ∧ record.generation ≤ r.generation
        ∧ (r.generation = record.generation → r.scopes = normalized q.scopes)
  shown : ∀ r ∈ s.rows.rows, ∀ envelope, Shown fold r envelope → Describes envelope r

/-! ## The conditions -/

/-- The names of a request fit their columns, and there is a generation behind
that of the row. -/
structure Regular (D : RestrictedDomainService) (t : Memberships fold) (q : MembershipRequest) :
    Prop where
  domainId : Column.cutText 191 D.domainId = D.domainId
  subject : Column.cutText 191 q.subject = q.subject
  generation : ∀ r, t.row D.domainId q.kind q.subject = some r → r.generation + 1 < 2 ^ 64

/-- A step that writes a row writes it by such a request. -/
def WritesRegular (s : MembershipPool fold ι) (a : MembershipAction ι) : Prop :=
  s.phases a.call = .asked → ∀ q, (A.calls a.call).request E = some q →
    writes E (A.service a.call) a.server q (A.draws a.call) s.rows = true → Regular A.domain s.rows q

/-- **No row is written that has an envelope to show.** -/
def WritesUnshown (s : MembershipPool fold ι) (a : MembershipAction ι) : Prop :=
  s.phases a.call = .asked → ∀ q, (A.calls a.call).request E = some q →
    writes E (A.service a.call) a.server q (A.draws a.call) s.rows = true →
      ∀ r, s.rows.row A.domain.domainId q.kind q.subject = some r →
        ∀ envelope, ¬ Shown fold r envelope

/-! ## What is served -/

/-- What is served is an envelope that is shown. -/
theorem shown_of_served {D : RestrictedDomainService} {nowS : ℤ} {t : Memberships fold}
    {nodeIds : List String} {p : String × MembershipEnvelope}
    (h : p ∈ bootstrapMemberships D nowS t nodeIds) :
    ∃ r ∈ t.rows, r.current fold D nowS = true ∧ r.subjectId = p.1 ∧ Shown fold r p.2 := by
  unfold bootstrapMemberships at h
  split at h
  · exact absurd h List.not_mem_nil
  obtain ⟨r, hr, hserved⟩ := List.mem_filterMap.mp h
  obtain ⟨hmem, hp⟩ := List.mem_filter.mp hr
  rw [Bool.and_eq_true, beq_iff_eq] at hp
  unfold served at hserved
  split at hserved
  · obtain ⟨envelope, henvelope, rfl⟩ := Option.map_eq_some_iff.mp hserved
    obtain ⟨hsome, hshows⟩ := Option.filter_eq_some_iff.mp henvelope
    exact ⟨r, hmem, hp.2, rfl, hp.1, hsome, hshows⟩
  · exact absurd hserved (by simp)

/-- **What is shown is served** at some time, if it is not revoked. -/
theorem served_of_shown {D : RestrictedDomainService} (hD : D.enabled = true) {nowS : ℤ}
    {t : Memberships fold} {r : MembershipRow} {envelope : MembershipEnvelope} (hr : r ∈ t.rows)
    (hcurrent : r.current fold D nowS = true) (h : Shown fold r envelope) :
    (r.subjectId, envelope) ∈ bootstrapMemberships D nowS t [r.subjectId] := by
  obtain ⟨hnode, hsome, hshows⟩ := h
  unfold bootstrapMemberships
  rw [hD, D.persisted hD]
  refine List.mem_filterMap.mpr ⟨r, List.mem_filter.mpr ⟨hr, ?_⟩, ?_⟩
  · rw [Bool.and_eq_true]
    exact ⟨beq_iff_eq.mpr hnode, hcurrent⟩
  · unfold served
    rw [if_pos (by simp), hsome, Option.filter_some, if_pos hshows]
    rfl

/-- Two current rows of one node are one. -/
theorem row_eq_of_subjectId {D : RestrictedDomainService} {nowS : ℤ} {t : Memberships fold}
    {r r' : MembershipRow} (hr : r ∈ t.rows) (hr' : r' ∈ t.rows) (hnode : IsNode fold r)
    (hnode' : IsNode fold r') (hcurrent : r.current fold D nowS = true)
    (hcurrent' : r'.current fold D nowS = true) (hsubject : r.subjectId = r'.subjectId) :
    r = r' := by
  refine List.inj_on_of_nodup_map t.keys_nodup hr hr' ?_
  unfold MembershipRow.current at hcurrent hcurrent'
  simp only [Bool.and_eq_true, beq_iff_eq] at hcurrent hcurrent'
  unfold MembershipRow.key subjectKey
  rw [hcurrent.1.1.1, hcurrent'.1.1.1, hsubject, hnode, hnode']

/-- **Envelopes that describe their rows are served as such.** -/
theorem Enveloped.servesCurrent {s : MembershipPool fold ι} (h : Enveloped E A s) :
    ServesCurrent A s := by
  intro epoch nowS nodeIds p hp r hr hnode hcurrent hsubject
  obtain ⟨r', hr', hcurrent', hsubject', hshown⟩ := shown_of_served hp
  obtain rfl := row_eq_of_subjectId hr hr' hnode hshown.1 hcurrent hcurrent'
    (hsubject.trans hsubject'.symm)
  exact h.shown r hr p.2 hshown

/-! ## What a step keeps -/

/-- What an assertion of a request says, whoever it is signed for. -/
theorem assertion_of_sign {input : MembershipInput} {secretKeyHex assertionId : String}
    {envelope : MembershipEnvelope} (h : sign E input secretKeyHex assertionId = .ok envelope) :
    envelope.assertion = assertion input assertionId := by
  rw [sign_eq] at h
  cases hvalid : validateSigningInputs E input.subjectPublicKey secretKeyHex input.scopes with
  | error e =>
    rw [hvalid] at h
    exact absurd h (by simp [Except.bind])
  | ok seed =>
    rw [hvalid, Except.bind] at h
    cases hinput : signingInput E (assertion input assertionId) with
    | none =>
      rw [hinput] at h
      exact absurd h (by simp)
    | some message =>
      rw [hinput] at h
      exact (Except.ok.inj h) ▸ rfl

namespace Enveloped

variable {E A} {s : MembershipPool fold ι} {i : ι} {rows' : Memberships fold}

/-- Before any command no envelope is there. -/
theorem empty : Enveloped E A (.empty fold ι) where
  hashes _ hr := absurd hr List.not_mem_nil
  pending _ _ _ _ hj := absurd hj (by simp [MembershipPool.empty])
  shown _ hr := absurd hr List.not_mem_nil

/-- A new token has a hash of its own. -/
theorem fresh (hdigest : DigestsApart E fold)
    (hfresh : Function.Injective fun i => (A.draws i).token) (h : Enveloped E A s)
    (hasked : s.phases i = .asked) :
    ∀ r ∈ s.rows.rows, fold r.tokenHash ≠ fold (digest E (A.draws i).token) := by
  intro r hr hsame
  obtain ⟨j, hj, hnot⟩ := h.hashes r hr
  rw [hj] at hsame
  obtain rfl := hfresh (hdigest _ _ hsame)
  exact hnot hasked

section Row

variable {q : MembershipRequest}

/-- The row of a request behind it, and what it has of the row before. -/
theorem find_recorded (hdigest : DigestsApart E fold)
    (hfresh : Function.Injective fun i => (A.draws i).token) (h : Enveloped E A s)
    (hasked : s.phases i = .asked) (hcheck : checkRequest (A.service i) q = .ok ())
    (hrecord : s.rows.record (grantedRow E (A.service i) q (A.draws i) s.rows) = some rows')
    (hregular : Regular A.domain s.rows q) :
    ∃ row : MembershipRow, row.tokenHash = digest E (A.draws i).token
      ∧ row.scopes = normalized q.scopes
      ∧ row.generation = (A.service i).nextGeneration
          (s.rows.row A.domain.domainId q.kind q.subject)
      ∧ row.expiresAt = (A.draws i).nowS + (A.service i).clampTtl q.ttl ∧ row.revokedAt = none
      ∧ (∀ envelope, Shown fold row envelope →
        ∃ old, s.rows.row A.domain.domainId q.kind q.subject = some old ∧ Shown fold old envelope)
      ∧ (∀ old envelope, s.rows.row A.domain.domainId q.kind q.subject = some old →
        Shown fold old envelope → Shown fold row envelope)
      ∧ ∀ key, rows'.find key
        = if key = subjectKey fold A.domain.domainId q.kind q.subject then some row
          else s.rows.find key := by
  have hkey : (grantedRow E (A.service i) q (A.draws i) s.rows).kept.key fold
      = subjectKey fold A.domain.domainId q.kind q.subject := by
    show subjectKey fold (Column.cutText 191 A.domain.domainId) (Column.cutText 16 q.kind)
      (Column.cutText 191 q.subject) = _
    rw [hregular.domainId, Mirrors.cutText_kind hcheck, hregular.subject]
  refine ⟨_, ?_, ?_, ?_, ?_, ?_, ?_, ?_,
    Memberships.find_record (h.fresh hdigest hfresh hasked) hrecord hkey⟩
  · cases s.rows.find (subjectKey fold A.domain.domainId q.kind q.subject) <;> rfl
  · cases s.rows.find (subjectKey fold A.domain.domainId q.kind q.subject) <;> rfl
  · cases s.rows.find (subjectKey fold A.domain.domainId q.kind q.subject) <;> rfl
  · cases s.rows.find (subjectKey fold A.domain.domainId q.kind q.subject) <;> rfl
  · cases s.rows.find (subjectKey fold A.domain.domainId q.kind q.subject) <;> rfl
  · intro envelope hshown
    cases hfind : s.rows.find (subjectKey fold A.domain.domainId q.kind q.subject) with
    | none =>
      rw [hfind] at hshown
      exact absurd hshown.2.1 (by simp [MembershipRow.kept, grantedRow])
    | some old =>
      rw [hfind] at hshown
      exact ⟨old, hfind, hshown⟩
  · intro old envelope hold hshown
    have hfind : s.rows.find (subjectKey fold A.domain.domainId q.kind q.subject) = some old := hold
    rw [hfind]
    exact hshown

/-- A generation behind that of the row is later. -/
theorem lt_nextGeneration (hregular : Regular A.domain s.rows q) {old : MembershipRow}
    (hold : s.rows.row A.domain.domainId q.kind q.subject = some old) :
    old.generation
      < (A.service i).nextGeneration (s.rows.row A.domain.domainId q.kind q.subject) := by
  have hbound := hregular.generation old hold
  rw [hold]
  show old.generation < max ((old.generation + 1) % 2 ^ 64) (A.epochs i)
  rw [Nat.mod_eq_of_lt hbound]
  omega

end Row

variable [DecidableEq ι]

/-- **A step that ends its command** and leaves the generations and the scopes
of the rows. -/
theorem finish (h : Enveloped E A s) (answer : Except String MembershipAnswer)
    (log : List (MembershipEvent ι))
    (hhash : ∀ r ∈ rows'.rows, ∃ old ∈ s.rows.rows, old.tokenHash = r.tokenHash)
    (hrow : ∀ key r, s.rows.find key = some r →
      ∃ r', rows'.find key = some r' ∧ r'.generation = r.generation ∧ r'.scopes = r.scopes)
    (hshown : ∀ r ∈ rows'.rows, ∀ envelope, Shown fold r envelope → Describes envelope r) :
    Enveloped E A (s.move i (.answered answer) rows' log) where
  hashes r hr := by
    obtain ⟨old, hold, hsame⟩ := hhash r hr
    obtain ⟨j, hj, hnot⟩ := h.hashes old hold
    refine ⟨j, hsame ▸ hj, ?_⟩
    show Function.update s.phases i _ j ≠ .asked
    by_cases hji : j = i
    · rw [hji, Function.update_self]
      simp
    · rwa [Function.update_of_ne hji]
  pending j q record envelope hj := by
    have hphase : Function.update s.phases i (.answered answer) j = .signed q record envelope := hj
    by_cases hji : j = i
    · rw [hji, Function.update_self] at hphase
      exact absurd hphase (by simp)
    · rw [Function.update_of_ne hji] at hphase
      obtain ⟨hgeneration, hscopes, r, hr, hle, hsame⟩ := h.pending j q record envelope hphase
      obtain ⟨r', hr', hgen', hscopes'⟩ := hrow _ r hr
      exact ⟨hgeneration, hscopes, r', hr', hgen' ▸ hle, fun heq => hscopes'.trans
        (hsame (hgen'.symm.trans heq))⟩
  shown := hshown

theorem failed (h : Enveloped E A s) (e : String) :
    Enveloped E A (s.move i (.answered (.error e)) s.rows []) :=
  h.finish _ _ (fun r hr => ⟨r, hr, rfl⟩) (fun _ r hr => ⟨r, hr, rfl, rfl⟩) h.shown

/-- A revocation leaves the envelope. -/
theorem revoked (h : Enveloped E A s) (answer : Except String MembershipAnswer)
    (kind subject : String) (nowS : ℤ) :
    Enveloped E A (s.move i (.answered answer)
      (s.rows.revoke A.domain.domainId kind subject nowS).2 [.revoked kind subject]) := by
  refine h.finish _ _ (fun r hr => ?_) (fun key r hr => ?_) fun r hr envelope hshown => ?_
  · rcases Memberships.mem_revoke_iff.mp hr with ⟨old, hold, rfl⟩ | ⟨hmem, -⟩
    · exact ⟨old, (Table.find_eq_some_iff.mp hold).1, rfl⟩
    · exact ⟨r, hmem, rfl⟩
  · have hfind : (s.rows.revoke A.domain.domainId kind subject nowS).2.find key = _ :=
      s.rows.find_update _ key (f := MembershipRow.revoke nowS) fun _ => rfl
    rw [hfind, hr]
    split
    · exact ⟨r.revoke nowS, rfl, rfl, rfl⟩
    · exact ⟨r, rfl, rfl, rfl⟩
  · rcases Memberships.mem_revoke_iff.mp hr with ⟨old, hold, rfl⟩ | ⟨hmem, -⟩
    · obtain ⟨hgeneration, hscopes, hsubject⟩ :=
        h.shown old (Table.find_eq_some_iff.mp hold).1 envelope hshown
      exact ⟨hgeneration, hscopes, hsubject⟩
    · exact h.shown r hmem envelope hshown

/-- **An envelope is written into the row it describes**, or not at all. -/
theorem attached (h : Enveloped E A s) (answer : Except String MembershipAnswer)
    {q : MembershipRequest} {record : IssuedMembership} {envelope : MembershipEnvelope}
    (hsigned : s.phases i = .signed q record envelope) :
    Enveloped E A (s.move i (.answered answer)
      (s.rows.attach A.domain.domainId q.kind q.subject record.generation envelope) []) := by
  obtain ⟨hgeneration, hscopes, row, hrow, -, hsame⟩ := h.pending i q record envelope hsigned
  have hkeeps : ∀ r : MembershipRow, (r.attach record.generation envelope).generation = r.generation
      ∧ (r.attach record.generation envelope).scopes = r.scopes
      ∧ (r.attach record.generation envelope).tokenHash = r.tokenHash := by
    intro r
    unfold MembershipRow.attach
    split <;> exact ⟨rfl, rfl, rfl⟩
  refine h.finish _ _ (fun r hr => ?_) (fun key r hr => ?_) fun r hr shown hshown => ?_
  · rcases Table.mem_update_iff.mp hr with ⟨old, hold, rfl⟩ | ⟨hmem, -⟩
    · exact ⟨old, (Table.find_eq_some_iff.mp hold).1, (hkeeps old).2.2.symm⟩
    · exact ⟨r, hmem, rfl⟩
  · unfold Memberships.attach
    rw [Table.find_update, hr]
    split
    · exact ⟨_, rfl, (hkeeps r).1, (hkeeps r).2.1⟩
    · exact ⟨r, rfl, rfl, rfl⟩
  · rcases Table.mem_update_iff.mp hr with ⟨old, hold, rfl⟩ | ⟨hmem, -⟩
    · obtain rfl := Option.some.inj (hrow.symm.trans hold)
      unfold MembershipRow.attach at hshown ⊢
      split at hshown
      · next hgen =>
        rw [if_pos hgen]
        obtain rfl := Option.some.inj hshown.2.1
        have hsubject := (Bool.and_eq_true _ _).mp hshown.2.2
        refine ⟨hgeneration.trans hgen.symm, fun scope hscope => ?_, beq_iff_eq.mp hsubject.2⟩
        show scope ∈ row.scopes
        rw [hsame hgen]
        exact hscopes scope hscope
      · next hgen =>
        rw [if_neg hgen]
        exact h.shown row (Table.find_eq_some_iff.mp hold).1 shown hshown
    · exact h.shown r hmem shown hshown

section Recorded

variable {q : MembershipRequest} {phase : MembershipPhase}

/-- **A row is written that has no envelope to show.** -/
theorem recorded (hdigest : DigestsApart E fold)
    (hfresh : Function.Injective fun i => (A.draws i).token) (h : Enveloped E A s)
    (hasked : s.phases i = .asked) (hcheck : checkRequest (A.service i) q = .ok ())
    (hrecord : s.rows.record (grantedRow E (A.service i) q (A.draws i) s.rows) = some rows')
    (hphase : MembershipPool.Written E A i s.rows q phase) (hregular : Regular A.domain s.rows q)
    (hunshown : ∀ r, s.rows.row A.domain.domainId q.kind q.subject = some r →
      ∀ envelope, ¬ Shown fold r envelope) (log : List (MembershipEvent ι)) :
    Enveloped E A (s.move i phase rows' log) := by
  obtain ⟨row, hhash, hscopes, hgeneration, -, -, hback, -, hfind⟩ :=
    h.find_recorded hdigest hfresh hasked hcheck hrecord hregular
  have hmem : ∀ r ∈ rows'.rows, r = row ∨ r ∈ s.rows.rows := by
    intro r hr
    have hfound := (hfind (r.key fold)).symm.trans (Table.mem_rows_iff.mp hr)
    split at hfound
    · exact Or.inl (Option.some.inj hfound).symm
    · exact Or.inr (Table.mem_rows_iff.mpr hfound)
  refine ⟨fun r hr => ?_, fun j q' record envelope hj => ?_, fun r hr envelope hshown => ?_⟩
  · rcases hmem r hr with rfl | hold
    · refine ⟨i, hhash, ?_⟩
      show Function.update s.phases i phase i ≠ .asked
      rw [Function.update_self]
      cases hphase <;> simp
    · obtain ⟨j, hj, hnot⟩ := h.hashes r hold
      have hji : j ≠ i := by
        rintro rfl
        exact hnot hasked
      refine ⟨j, hj, ?_⟩
      show Function.update s.phases i phase j ≠ .asked
      rwa [Function.update_of_ne hji]
  · have hphase' : Function.update s.phases i phase j = .signed q' record envelope := hj
    show _ ∧ _ ∧ ∃ r, rows'.find (subjectKey fold A.domain.domainId q'.kind q'.subject) = some r ∧ _
    by_cases hji : j = i
    · rw [hji, Function.update_self] at hphase'
      subst hphase'
      cases hphase with
      | signed keys _ hcall hsign =>
        rw [assertion_of_sign E hsign, hfind, if_pos rfl]
        refine ⟨rfl, fun scope hscope => (List.mem_filter.mp hscope).1, row, rfl, ?_,
          fun _ => hscopes⟩
        rw [hgeneration]
        rfl
    · rw [Function.update_of_ne hji] at hphase'
      obtain ⟨hgen, hsub, r, hr, hle, hsame⟩ := h.pending j q' record envelope hphase'
      refine ⟨hgen, hsub, ?_⟩
      rw [hfind]
      split
      · next hkey =>
        -- the row that was signed has been written again
        have hold : s.rows.row A.domain.domainId q.kind q.subject = some r :=
          (congrArg s.rows.find hkey).symm.trans hr
        have hlt := @lt_nextGeneration _ fold A s i q hregular r hold
        rw [← hgeneration] at hlt
        exact ⟨row, rfl, by omega, fun heq => absurd heq (by omega)⟩
      · exact ⟨r, hr, hle, hsame⟩
  · rcases hmem r hr with rfl | hold
    · obtain ⟨old, hold, hshown'⟩ := hback envelope hshown
      exact absurd hshown' (hunshown old hold envelope)
    · exact h.shown r hold envelope hshown

end Recorded

/-- **A step that writes no row with an envelope to show** keeps the envelopes
to their rows, -/
theorem advance (hdigest : DigestsApart E fold)
    (hfresh : Function.Injective fun i => (A.draws i).token) (h : Enveloped E A s)
    {a : MembershipAction ι} (hregular : WritesRegular E A s a) (hunshown : WritesUnshown E A s a) :
    Enveloped E A (s.advance E A a) := by
  cases MembershipPool.advance_moves s a with
  | stays hs => exact hs.symm ▸ h
  | failed e hs => exact hs ▸ h.failed e
  | recorded q rows' phase hasked hrequest hwrites hrecord hphase hs =>
    exact hs ▸ h.recorded hdigest hfresh hasked (record_of_writes E hwrites).1 hrecord hphase
      (hregular hasked q hrequest hwrites) (hunshown hasked q hrequest hwrites) _
  | revoked kind subject answer hasked hcall hexec hs => exact hs ▸ h.revoked _ kind subject _
  | attached q record envelope answer hsigned hs => exact hs ▸ h.attached _ hsigned

/-- **and one that does leaves an envelope that does not describe its row.** -/
theorem writesUnshown (hD : A.domain.enabled = true) (hdigest : DigestsApart E fold)
    (hfresh : Function.Injective fun i => (A.draws i).token) (h : Enveloped E A s)
    {a : MembershipAction ι} (hregular : WritesRegular E A s a)
    (hserves : ServesCurrent A (s.advance E A a)) : WritesUnshown E A s a := by
  intro hasked q hrequest hwrites old hold envelope hshown
  have hrecord := MembershipPool.rows_advance hasked hrequest hwrites
  have hq := hregular hasked q hrequest hwrites
  obtain ⟨row, -, -, hgeneration, -, hrevoked, -, hkeeps, hfind⟩ :=
    h.find_recorded hdigest hfresh hasked (record_of_writes E hwrites).1 hrecord hq
  have hrow := (hfind _).trans (if_pos rfl)
  obtain ⟨hmem, hkey⟩ := Table.find_eq_some_iff.mp hrow
  have hshown' := hkeeps old envelope hold hshown
  -- the row is served a second before it expires
  have hcurrent : row.current fold (A.domain.atEpoch 0) (row.expiresAt - 1) = true := by
    have hdomain : fold row.domainId = fold A.domain.domainId := (Prod.mk.inj hkey).1
    unfold MembershipRow.current
    rw [hrevoked, hdomain, Bool.and_eq_true, Bool.and_eq_true, Bool.and_eq_true]
    exact ⟨⟨⟨beq_self_eq_true _, rfl⟩, decide_eq_true (by omega)⟩, decide_eq_true (Nat.zero_le _)⟩
  have hserved := served_of_shown (D := A.domain.atEpoch 0) hD hmem hcurrent hshown'
  have hdescribes := hserves 0 _ _ _ hserved row hmem hshown'.1 hcurrent rfl
  have hbefore := h.shown old (Table.find_eq_some_iff.mp hold).1 envelope hshown
  have hlt := @lt_nextGeneration _ fold A s a.call q hq old hold
  rw [← hgeneration, ← hdescribes.generation, hbefore.generation] at hlt
  exact absurd hlt (lt_irrefl _)

end Enveloped

/-- **What a bootstrap is given describes the grants there are**, in every
state of a run, exactly if no step of it writes a row that has an envelope to
show; in the runs of requests whose names fit. -/
theorem envelopes_current_iff [DecidableEq ι] (hD : A.domain.enabled = true) (hdigest : DigestsApart E fold)
    (hfresh : Function.Injective fun i => (A.draws i).token) (actions : List (MembershipAction ι))
    (hregular : Run.Along (MembershipPool.advance E A) (WritesRegular E A) (.empty fold ι) actions) :
    (∀ n, ServesCurrent A (Run.after (MembershipPool.advance E A) (.empty fold ι) (actions.take n)))
      ↔ Run.Along (MembershipPool.advance E A) (WritesUnshown E A) (.empty fold ι) actions :=
  Run.always_iff_of_seen (fun _ h => h.servesCurrent)
    (fun _ _ hkind h hok => h.advance hdigest hfresh hkind hok)
    (fun _ _ hkind h hserves => h.writesUnshown hD hdigest hfresh hkind hserves) Enveloped.empty
    hregular

namespace Sample

/-- Two commands for a node, a plain one and one with an assertion, which was
started under a later epoch. -/
def twoIssues (plain : Bool) : Administration Bool where
  domain := domain
  calls i := if i = plain then .issue ⟨"node", "node-a", ["heartbeat"], 3600⟩
    else .issueWithAssertion ⟨"node", "node-a", ["bootstrap"], 3600⟩ assertionKeys
  epochs i := if i = plain then 1 else 2
  draws i := ⟨if i then "1" else "0", againDraw.assertionId, 0, 0⟩

/-- The steps of a command. -/
def steps (calls : List Bool) : List (MembershipAction Bool) := calls.map fun i => ⟨i, .willing⟩

/-- A command has yet to write its envelope. -/
def isSigned : MembershipPhase → Bool
  | .signed _ _ _ => true
  | _ => false

end Sample

/-- The plain request first. -/
theorem plain_then_assertion_current :
    Run.Along (MembershipPool.advance Sample.membershipLibs (Sample.twoIssues false))
        (WritesUnshown Sample.membershipLibs (Sample.twoIssues false)) (.empty id Bool)
        (Sample.steps [false, true, true])
      ∧ ∀ n, ServesCurrent (Sample.twoIssues false) (Run.after
        (MembershipPool.advance Sample.membershipLibs (Sample.twoIssues false)) (.empty id Bool)
        ((Sample.steps [false, true, true]).take n)) := by
  let step := @MembershipPool.advance Bool Sample.membershipLibs id _ (Sample.twoIssues false)
  have hrow : ((step (.empty id Bool) ⟨false, .willing⟩).rows.row "iicp.test" "node" "node-a").all
      (fun r => decide (r.generation + 1 < 2 ^ 64) && r.membershipEnvelope.isNone) = true := by
    decide +kernel
  have hunshown : Run.Along (MembershipPool.advance Sample.membershipLibs (Sample.twoIssues false))
      (WritesUnshown Sample.membershipLibs (Sample.twoIssues false)) (.empty id Bool)
      (Sample.steps [false, true, true]) := by
    refine ⟨fun _ q hq _ r hr => ?_, fun _ q hq _ r hr envelope hshown => ?_,
      fun h => absurd (congrArg Sample.isSigned h) (by decide +kernel), trivial⟩
    · obtain rfl := Option.some.inj hq
      exact absurd hr (Option.some_ne_none r).symm
    · obtain rfl := Option.some.inj hq
      have hall : (some r).all _ = true := hr ▸ hrow
      have hnone := ((Bool.and_eq_true _ _).mp hall).2
      rw [hshown.2.1] at hnone
      exact absurd hnone (by simp)
  refine ⟨hunshown, (envelopes_current_iff Sample.membershipLibs (Sample.twoIssues false) rfl
    (fun _ _ h => Sample.digest_inj h) (Sample.tokens_inj Sample.nodes) _ ?_).mpr hunshown⟩
  refine ⟨fun _ q hq _ => ?_, fun _ q hq _ => ?_,
    fun h => absurd (congrArg Sample.isSigned h) (by decide +kernel), trivial⟩
  · obtain rfl := Option.some.inj hq
    exact ⟨by decide, by decide, fun r hr => absurd hr (Option.some_ne_none r).symm⟩
  · obtain rfl := Option.some.inj hq
    refine ⟨by decide, by decide, fun r hr => ?_⟩
    have hall : (some r).all _ = true := hr ▸ hrow
    exact of_decide_eq_true ((Bool.and_eq_true _ _).mp hall).1

/-- **An envelope that outlives its grant.** The plain request comes second;
the envelope is still served, of the generation before and for a scope the
node no longer has. -/
theorem stale_envelope_served :
    ¬ ServesCurrent (Sample.twoIssues true) (Run.after
      (MembershipPool.advance Sample.membershipLibs (Sample.twoIssues true)) (.empty id Bool)
      (Sample.steps [false, false, true])) := by
  intro h
  let s := Run.after (MembershipPool.advance Sample.membershipLibs (Sample.twoIssues true))
    (.empty id Bool) (Sample.steps [false, false, true])
  -- the one row has an envelope to show, and another generation
  have hrows : (s.rows.rows.all fun r => r.current id (Sample.domain.atEpoch 1) 0
      && (r.subjectKind == "node") && (r.generation == 3)
      && r.membershipEnvelope.any fun envelope => shows r.subjectId envelope
        && (envelope.assertion.generation == 2)) = true := by
    decide +kernel
  have hlength : s.rows.rows.length = 1 := by decide +kernel
  obtain ⟨r, hr⟩ := List.length_eq_one_iff.mp hlength
  have hmem : r ∈ s.rows.rows := by
    rw [hr]
    exact List.mem_singleton_self r
  have hall := List.all_eq_true.mp hrows r hmem
  simp only [Bool.and_eq_true, beq_iff_eq] at hall
  obtain ⟨⟨⟨hcurrent, hkind⟩, hgeneration⟩, henvelope⟩ := hall
  obtain ⟨envelope, hsome, henvelope'⟩ := (Option.any_eq_true _ _).mp henvelope
  rw [Bool.and_eq_true, beq_iff_eq] at henvelope'
  have hserved := served_of_shown (D := Sample.domain.atEpoch 1) rfl hmem hcurrent
    ⟨hkind, hsome, henvelope'.1⟩
  have hdescribes := (h 1 0 _ _ hserved r hmem hkind hcurrent rfl).generation
  rw [henvelope'.2, hgeneration] at hdescribes
  exact absurd hdescribes (by decide)

end RestrictedDomain
