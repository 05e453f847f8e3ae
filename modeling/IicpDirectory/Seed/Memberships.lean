import IicpDirectory.MembershipLog

/-!
# A token lets in its subject

A token is let in for the subject it was issued to, while it is the latest
one of that subject, neither revoked nor expired, of the epoch or later, and
for the scopes it has. That is so as long as a subject is always named as its
row names it. The row is found by the collation: a command for `Node-A` finds
the row of `node-a`, gives it a new token and leaves it its name. The token
that is returned is then let in for `node-a` and not for `Node-A`, and the one
of `node-a` is lost, though nothing was issued to it.

The law is proved along the runs in which each row that is written is named as
it was (`members_let_in`). The rows then mirror the log: each is what stands
under its name (`Mirrors`).
-/

namespace RestrictedDomain

open RestrictedDomainMembership

variable {ι : Type} (E : EvidenceLibs) {fold : String → String}

/-- **Tokens are told apart by their hashes**, as the collation compares
these. -/
def DigestsApart (E : EvidenceLibs) (fold : String → String) : Prop :=
  ∀ token token', fold (digest E token) = fold (digest E token') → token = token'

/-! ## The rows behind a statement -/

namespace Memberships

/-- A row with a hash of its own is written under its key. -/
theorem record_of_fresh {t t' : Memberships fold} {row : MembershipRow}
    (hfresh : ∀ r ∈ t.rows, fold r.tokenHash ≠ fold row.tokenHash) (h : t.record row = some t') :
    t' = t.upsert row.kept row.kept.supersede fun _ => rfl := by
  have hnone : t.sameToken row.kept = none :=
    List.find?_eq_none.mpr fun r hr hsame => by
      rw [Bool.and_eq_true, beq_iff_eq] at hsame
      exact hfresh r hr hsame.1
  unfold record at h
  rw [hnone] at h
  split at h
  · exact (Option.some.inj h).symm
  · exact absurd h (by simp)

/-- What a row with a hash of its own leaves under each key. -/
theorem find_record {t t' : Memberships fold} {row : MembershipRow}
    (hfresh : ∀ r ∈ t.rows, fold r.tokenHash ≠ fold row.tokenHash) (h : t.record row = some t')
    {k : String × String × String} (hkey : row.kept.key fold = k) (k' : String × String × String) :
    t'.find k' = if k' = k then some (((t.find k).map row.kept.supersede).getD row.kept)
      else t.find k' := by
  have hmerge : ∀ r : MembershipRow, (row.kept.supersede r).key fold = r.key fold := fun _ => rfl
  rw [record_of_fresh hfresh h, ← hkey]
  exact t.find_upsert row.kept hmerge k'

/-- The rows behind a revocation. -/
theorem mem_revoke_iff {t : Memberships fold} {domainId kind subject : String} {nowS : ℤ}
    {r : MembershipRow} :
    r ∈ (t.revoke domainId kind subject nowS).2.rows
      ↔ (∃ old, t.row domainId kind subject = some old ∧ r = old.revoke nowS)
        ∨ (r ∈ t.rows ∧ r.key fold ≠ subjectKey fold domainId kind subject) := by
  have hf : ∀ r : MembershipRow, (r.revoke nowS).key fold = r.key fold := fun _ => rfl
  exact @Table.mem_update_iff _ _ _ _ t _ _ hf r

end Memberships

/-! ## Rows and log -/

/-- **A row is what stands.** -/
structure Matches (D : RestrictedDomainService) (r : MembershipRow) (s : Standing ι) : Prop where
  domainId : r.domainId = D.domainId
  tokenHash : r.tokenHash = digest E s.grant.token
  scopes : r.scopes = s.grant.scopes
  generation : r.generation = s.grant.generation
  expiresAt : r.expiresAt = s.grant.expiresAt
  revoked : r.revokedAt.isSome = s.revoked

variable (A : Administration ι)

/-- The token a command was told, or is about to be. -/
def MembershipPhase.told : MembershipPhase → Option String
  | .asked => none
  | .signed _ record _ => some record.token
  | .answered (.ok (.token token)) => some token
  | .answered (.ok (.assertion token _)) => some token
  | .answered (.ok (.revoked _)) => none
  | .answered (.error _) => none

/-- The grant is what its command asked for. -/
structure Asked (i : ι) (grant : Grant) : Prop where
  token : grant.token = (A.draws i).token
  asked : ∃ q, (A.calls i).request E = some q ∧ checkRequest (A.service i) q = .ok ()
    ∧ grant.kind = q.kind ∧ grant.subject = q.subject ∧ grant.scopes = normalized q.scopes
    ∧ grant.expiresAt = (A.draws i).nowS + (A.service i).clampTtl q.ttl

/-- **The rows mirror the log.** -/
structure Mirrors (s : MembershipPool fold ι) : Prop where
  found : ∀ r ∈ s.rows.rows, ∃ st, standing s.log r.subjectKind r.subjectId = some st
    ∧ Matches E A.domain r st
  stands : ∀ kind subject st, standing s.log kind subject = some st →
    ∃ r ∈ s.rows.rows, r.subjectKind = kind ∧ r.subjectId = subject
  asked : ∀ i grant, .issued i grant ∈ s.log → s.phases i ≠ .asked ∧ Asked E A i grant
  told : ∀ i token, (s.phases i).told = some token →
    ∃ grant, .issued i grant ∈ s.log ∧ grant.token = token
  rises : ∀ kind subject, (generations s.log kind subject).Pairwise (· > ·)

/-! ## The condition -/

/-- **A row is named as it was**, and has a generation after its own. -/
structure NamedAsKept (D : RestrictedDomainService) (t : Memberships fold) (q : MembershipRequest) :
    Prop where
  domainId : Column.cutText 191 D.domainId = D.domainId
  subject : Column.cutText 191 q.subject = q.subject
  same : ∀ r, t.row D.domainId q.kind q.subject = some r →
    r.subjectKind = q.kind ∧ r.subjectId = q.subject ∧ r.generation + 1 < 2 ^ 64

/-- **What is written is named as it was**: by a request that writes its row,
and by a revocation that finds one to revoke. -/
def WellNamed (s : MembershipPool fold ι) (a : MembershipAction ι) : Prop :=
  s.phases a.call = .asked →
    (∀ q, (A.calls a.call).request E = some q →
      writes E (A.service a.call) a.server q (A.draws a.call) s.rows = true →
      NamedAsKept A.domain s.rows q)
    ∧ ∀ kind subject, A.calls a.call = .revoke kind subject → a.server.executes = true →
      ∀ r, s.rows.row A.domain.domainId kind subject = some r → r.revokedAt = none →
        r.subjectKind = kind ∧ r.subjectId = subject


/-! ## What a step keeps -/

namespace MembershipPhase

/-- What a command is told behind its last statement it was about to be
told. -/
theorem told_answered {record : IssuedMembership} {envelope : MembershipEnvelope}
    {answer : Except String Unit} {token : String}
    (h : (answered (answer.map fun _ => .assertion record.token envelope)).told = some token) :
    record.token = token := by
  cases answer with
  | error e => exact absurd h (by simp [Except.map, told])
  | ok u => exact Option.some.inj h

end MembershipPhase

namespace Mirrors

variable {E A} {s : MembershipPool fold ι} {i : ι} {phase : MembershipPhase}
  {rows' : Memberships fold}

/-- A row whose names are those of the domain is under their key. -/
theorem key_eq (h : Mirrors E A s) {r : MembershipRow} (hr : r ∈ s.rows.rows) :
    r.key fold = subjectKey fold A.domain.domainId r.subjectKind r.subjectId := by
  obtain ⟨st, -, hm⟩ := h.found r hr
  unfold MembershipRow.key
  rw [hm.domainId]

/-- Rows under other keys have other names. -/
theorem names_ne (h : Mirrors E A s) {r : MembershipRow} (hr : r ∈ s.rows.rows)
    {kind subject : String} (hne : r.key fold ≠ subjectKey fold A.domain.domainId kind subject) :
    ¬ (kind = r.subjectKind ∧ subject = r.subjectId) := by
  rintro ⟨rfl, rfl⟩
  exact hne (h.key_eq hr)

variable [DecidableEq ι]

/-- **A step that writes no entry**, and leaves the rows as they stand. -/
theorem move (h : Mirrors E A s) (hphase : phase ≠ .asked)
    (htold : ∀ token, phase.told = some token → (s.phases i).told = some token)
    (hrows : ∀ r ∈ rows'.rows, ∃ old ∈ s.rows.rows, old.subjectKind = r.subjectKind
      ∧ old.subjectId = r.subjectId ∧ ∀ st : Standing ι, Matches E A.domain old st →
        Matches E A.domain r st)
    (hback : ∀ old ∈ s.rows.rows, ∃ r ∈ rows'.rows, r.subjectKind = old.subjectKind
      ∧ r.subjectId = old.subjectId) :
    Mirrors E A (s.move i phase rows' []) where
  found r hr := by
    obtain ⟨old, hold, hkind, hid, hmatches⟩ := hrows r hr
    obtain ⟨st, hst, hm⟩ := h.found old hold
    rw [hkind, hid] at hst
    exact ⟨st, hst, hmatches st hm⟩
  stands kind subject st hst := by
    obtain ⟨old, hold, hkind, hid⟩ := h.stands kind subject st hst
    obtain ⟨r, hr, hkind', hid'⟩ := hback old hold
    exact ⟨r, hr, hkind'.trans hkind, hid'.trans hid⟩
  asked j grant hj := by
    obtain ⟨hnot, hasked⟩ := h.asked j grant hj
    refine ⟨?_, hasked⟩
    show Function.update s.phases i phase j ≠ .asked
    by_cases hji : j = i
    · rw [hji, Function.update_self]
      exact hphase
    · rwa [Function.update_of_ne hji]
  told j token hj := by
    by_cases hji : j = i
    · subst hji
      have hphase' : (Function.update s.phases j phase j).told = some token := hj
      rw [Function.update_self] at hphase'
      exact h.told j token (htold token hphase')
    · have hphase' : (Function.update s.phases i phase j).told = some token := hj
      rw [Function.update_of_ne hji] at hphase'
      exact h.told j token hphase'
  rises := h.rises

/-- A command fails. -/
theorem failed (h : Mirrors E A s) (e : String) :
    Mirrors E A (s.move i (.answered (.error e)) s.rows []) :=
  h.move (by simp) (fun _ htold => absurd htold (by simp [MembershipPhase.told]))
    (fun r hr => ⟨r, hr, rfl, rfl, fun _ hm => hm⟩) fun old hold => ⟨old, hold, rfl, rfl⟩

/-- An envelope is written into a row. -/
theorem attached (h : Mirrors E A s) {q : MembershipRequest} {record : IssuedMembership}
    {envelope : MembershipEnvelope} (hsigned : s.phases i = .signed q record envelope)
    (answer : Except String Unit) :
    Mirrors E A (s.move i (.answered (answer.map fun _ => .assertion record.token envelope))
      (s.rows.attach A.domain.domainId q.kind q.subject record.generation envelope) []) := by
  refine h.move (by simp) (fun token htold => ?_) (fun r hr => ?_) fun old hold => ?_
  · rw [hsigned]
    exact congrArg some (MembershipPhase.told_answered htold)
  · rcases Table.mem_update_iff.mp hr with ⟨old, hold, rfl⟩ | ⟨hmem, -⟩
    · refine ⟨old, (Table.find_eq_some_iff.mp hold).1, ?_⟩
      unfold MembershipRow.attach
      split
      · exact ⟨rfl, rfl, fun st hm => ⟨hm.1, hm.2, hm.3, hm.4, hm.5, hm.6⟩⟩
      · exact ⟨rfl, rfl, fun st hm => hm⟩
    · exact ⟨r, hmem, rfl, rfl, fun _ hm => hm⟩
  · by_cases hkey : old.key fold = subjectKey fold A.domain.domainId q.kind q.subject
    · refine ⟨old.attach record.generation envelope,
        Table.mem_update_iff.mpr (Or.inl ⟨old, Table.find_eq_some_iff.mpr ⟨hold, hkey⟩, rfl⟩), ?_⟩
      unfold MembershipRow.attach
      split <;> exact ⟨rfl, rfl⟩
    · exact ⟨old, Table.mem_update_iff.mpr (Or.inr ⟨hold, hkey⟩), rfl, rfl⟩

/-- **A membership is revoked**, the row of that very subject. -/
theorem revoked (h : Mirrors E A s) {kind subject : String} (answer : Except String Bool)
    (nowS : ℤ) (hnamed : ∀ r, s.rows.row A.domain.domainId kind subject = some r →
      r.revokedAt = none → r.subjectKind = kind ∧ r.subjectId = subject) :
    Mirrors E A (s.move i (.answered (answer.map .revoked))
      (s.rows.revoke A.domain.domainId kind subject nowS).2 [.revoked kind subject]) where
  found r hr := by
    rcases Memberships.mem_revoke_iff.mp hr with ⟨old, hold, rfl⟩ | ⟨hmem, hne⟩
    · obtain ⟨st, hst, hm⟩ := h.found old (Table.find_eq_some_iff.mp hold).1
      show ∃ st', standing (.revoked kind subject :: s.log) old.subjectKind old.subjectId = some st' ∧ _
      rw [standing, hst]
      split
      · exact ⟨_, rfl, ⟨hm.1, hm.2, hm.3, hm.4, hm.5, rfl⟩⟩
      · next hother =>
        -- a row of another name is not found, unless it is revoked
        refine ⟨st, rfl, ⟨hm.1, hm.2, hm.3, hm.4, hm.5, ?_⟩⟩
        cases hrevoked : old.revokedAt with
        | none =>
          obtain ⟨hkind, hid⟩ := hnamed old hold hrevoked
          exact absurd ⟨hkind.symm, hid.symm⟩ hother
        | some at_ =>
          rw [← hm.revoked, hrevoked]
          rfl
    · obtain ⟨st, hst, hm⟩ := h.found r hmem
      refine ⟨st, ?_, hm⟩
      show standing (.revoked kind subject :: s.log) r.subjectKind r.subjectId = some st
      rw [standing, if_neg (h.names_ne hmem hne)]
      exact hst
  stands kind' subject' st hst := by
    have hold : ∃ st', standing s.log kind' subject' = some st' := by
      have hlog : standing (.revoked kind subject :: s.log) kind' subject' = some st := hst
      rw [standing] at hlog
      split at hlog
      · obtain ⟨st', hst', -⟩ := Option.map_eq_some_iff.mp hlog
        exact ⟨st', hst'⟩
      · exact ⟨st, hlog⟩
    obtain ⟨st', hst'⟩ := hold
    obtain ⟨r, hr, hkind, hid⟩ := h.stands kind' subject' st' hst'
    by_cases hkey : r.key fold = subjectKey fold A.domain.domainId kind subject
    · exact ⟨r.revoke nowS, Memberships.mem_revoke_iff.mpr
        (Or.inl ⟨r, Table.find_eq_some_iff.mpr ⟨hr, hkey⟩, rfl⟩), hkind, hid⟩
    · exact ⟨r, Memberships.mem_revoke_iff.mpr (Or.inr ⟨hr, hkey⟩), hkind, hid⟩
  asked j grant hj := by
    rcases List.mem_cons.mp hj with heq | hmem
    · exact absurd heq (by simp)
    · obtain ⟨hnot, hasked⟩ := h.asked j grant hmem
      refine ⟨?_, hasked⟩
      show Function.update s.phases i _ j ≠ .asked
      by_cases hji : j = i
      · rw [hji, Function.update_self]
        simp
      · rwa [Function.update_of_ne hji]
  told j token hj := by
    have htold : (Function.update s.phases i (.answered (answer.map .revoked)) j).told
        = some token := hj
    by_cases hji : j = i
    · rw [hji, Function.update_self] at htold
      cases answer <;> exact absurd htold (by simp [Except.map, MembershipPhase.told])
    · rw [Function.update_of_ne hji] at htold
      obtain ⟨grant, hmem, htoken⟩ := h.told j token htold
      exact ⟨grant, List.mem_cons_of_mem _ hmem, htoken⟩
  rises := h.rises

/-- The kinds that are issued fit their column. -/
theorem cutText_kind {D : RestrictedDomainService} {q : MembershipRequest}
    (h : checkRequest D q = .ok ()) : Column.cutText 16 q.kind = q.kind := by
  unfold checkRequest at h
  split at h
  · exact absurd h (by simp)
  split at h
  · exact absurd h (by simp)
  next hkind =>
    have hmem : q.kind = "node" ∨ q.kind = "client" := by
      by_contra hnot
      rw [not_or] at hnot
      exact hkind (by simp [hnot.1, hnot.2])
    refine Column.cutText_of_length_le ?_
    rcases hmem with hk | hk <;> rw [hk] <;> decide

/-- **A row is written**, under the names of its request. -/
theorem recorded (hdigest : DigestsApart E fold)
    (hfresh : Function.Injective fun i => (A.draws i).token) (h : Mirrors E A s)
    {q : MembershipRequest} (hasked : s.phases i = .asked)
    (hrequest : (A.calls i).request E = some q) (hcheck : checkRequest (A.service i) q = .ok ())
    (hrecord : s.rows.record (grantedRow E (A.service i) q (A.draws i) s.rows) = some rows')
    (hphase : MembershipPool.Written E A i s.rows q phase)
    (hnamed : NamedAsKept A.domain s.rows q) :
    Mirrors E A (s.move i phase rows'
      [.issued i (grantOf (A.service i) q (A.draws i) s.rows)]) := by
  have hnew : ∀ j grant, .issued j grant ∈ s.log → j ≠ i := by
    rintro j grant hj rfl
    exact (h.asked j grant hj).1 hasked
  -- no row has the hash of a new token
  obtain rfl := Memberships.record_of_fresh (fun r hr hsame => by
    obtain ⟨st, hst, hm⟩ := h.found r hr
    have hissued := (mem_of_standing hst).1
    rw [hm.tokenHash] at hsame
    have htoken := hdigest _ _ hsame
    rw [(h.asked _ _ hissued).2.token] at htoken
    exact hnew _ _ hissued (hfresh htoken)) hrecord
  set row := grantedRow E (A.service i) q (A.draws i) s.rows with hrow
  set grant := grantOf (A.service i) q (A.draws i) s.rows with hgrant
  have hkept : row.kept.subjectKind = q.kind ∧ row.kept.subjectId = q.subject
      ∧ row.kept.domainId = A.domain.domainId :=
    ⟨cutText_kind hcheck, hnamed.subject, hnamed.domainId⟩
  have hkey : row.kept.key fold = subjectKey fold A.domain.domainId q.kind q.subject := by
    unfold MembershipRow.key
    rw [hkept.1, hkept.2.1, hkept.2.2]
  set kept := ((s.rows.find (row.kept.key fold)).map row.kept.supersede).getD row.kept with hR
  have hnames : kept.subjectKind = q.kind ∧ kept.subjectId = q.subject
      ∧ Matches E A.domain kept (⟨i, grant, false⟩ : Standing ι) := by
    rw [hR, hkey]
    cases hfind : s.rows.find (subjectKey fold A.domain.domainId q.kind q.subject) with
    | none => exact ⟨hkept.1, hkept.2.1, ⟨hkept.2.2, rfl, rfl, rfl, rfl, rfl⟩⟩
    | some old =>
      obtain ⟨hkind, hid, -⟩ := hnamed.same old hfind
      obtain ⟨st, -, hm⟩ := h.found old (Table.find_eq_some_iff.mp hfind).1
      exact ⟨hkind, hid, ⟨hm.domainId, rfl, rfl, rfl, rfl, rfl⟩⟩
  have hmem : ∀ r, r ∈ (s.rows.upsert row.kept row.kept.supersede fun _ => rfl).rows
      ↔ r = kept ∨ (r ∈ s.rows.rows ∧ r.key fold ≠ row.kept.key fold) :=
    fun r => Table.mem_upsert_iff
  have hother : ∀ r ∈ s.rows.rows, r.key fold ≠ row.kept.key fold →
      ¬ (grant.kind = r.subjectKind ∧ grant.subject = r.subjectId) := by
    intro r hr hne
    rw [hkey] at hne
    exact h.names_ne hr hne
  refine ⟨fun r hr => ?_, fun kind subject st hst => ?_, fun j g hj => ?_, fun j token hj => ?_,
    fun kind subject => ?_⟩
  · show ∃ st, standing (.issued i grant :: s.log) r.subjectKind r.subjectId = some st ∧ _
    rw [standing]
    rcases (hmem r).mp hr with rfl | ⟨hold, hne⟩
    · rw [if_pos ⟨hnames.1.symm, hnames.2.1.symm⟩]
      exact ⟨_, rfl, hnames.2.2⟩
    · rw [if_neg (hother r hold hne)]
      exact h.found r hold
  · have hlog : standing (.issued i grant :: s.log) kind subject = some st := hst
    rw [standing] at hlog
    split at hlog
    · next hname => exact ⟨kept, (hmem kept).mpr (Or.inl rfl), hnames.1.trans hname.1,
        hnames.2.1.trans hname.2⟩
    · next hname =>
      obtain ⟨r, hr, rfl, rfl⟩ := h.stands kind subject st hlog
      refine ⟨r, (hmem r).mpr (Or.inr ⟨hr, fun hsame => hname ?_⟩), rfl, rfl⟩
      rw [hkey] at hsame
      obtain ⟨hkind, hid, -⟩ := hnamed.same r (Table.find_eq_some_iff.mpr ⟨hr, hsame⟩)
      exact ⟨hkind.symm, hid.symm⟩
  · have hphase' : phase ≠ .asked := by
      cases hphase <;> simp
    have hnot : ∀ j, (j ≠ i → s.phases j ≠ .asked) →
        Function.update s.phases i phase j ≠ .asked := by
      intro j hj
      by_cases hji : j = i
      · rw [hji, Function.update_self]
        exact hphase'
      · rw [Function.update_of_ne hji]
        exact hj hji
    rcases List.mem_cons.mp hj with heq | hold
    · obtain ⟨rfl, rfl⟩ := MembershipEvent.issued.inj heq
      exact ⟨hnot j fun hne => absurd rfl hne, rfl, q, hrequest, hcheck, rfl, rfl, rfl, rfl⟩
    · obtain ⟨hasked', hg⟩ := h.asked j g hold
      exact ⟨hnot j fun _ => hasked', hg⟩
  · have htold : (Function.update s.phases i phase j).told = some token := hj
    by_cases hji : j = i
    · subst hji
      rw [Function.update_self] at htold
      refine ⟨grant, List.mem_cons_self, ?_⟩
      cases hphase with
      | told => exact Option.some.inj htold
      | failed e => exact absurd htold (by simp [MembershipPhase.told])
      | signed keys envelope hcall hsign => exact Option.some.inj htold
    · rw [Function.update_of_ne hji] at htold
      obtain ⟨g, hg, htoken⟩ := h.told j token htold
      exact ⟨g, List.mem_cons_of_mem _ hg, htoken⟩
  · show (generations (.issued i grant :: s.log) kind subject).Pairwise (· > ·)
    rw [generations]
    split
    · next hname =>
      obtain ⟨rfl, rfl⟩ := hname
      have hhead := generations_of_standing s.log grant.kind grant.subject
      have hrises := h.rises grant.kind grant.subject
      cases hst : standing s.log grant.kind grant.subject with
      | none =>
        rw [hst] at hhead
        rw [List.head?_eq_none_iff.mp hhead]
        exact List.pairwise_singleton _ _
      | some st =>
        rw [hst] at hhead
        obtain ⟨r, hr, hkind, hid⟩ := h.stands _ _ st hst
        have hrow' : s.rows.row A.domain.domainId q.kind q.subject = some r := by
          refine Table.find_eq_some_iff.mpr ⟨hr, ?_⟩
          rw [h.key_eq hr, hkind, hid]
          rfl
        obtain ⟨st', hst', hm⟩ := h.found r hr
        rw [hkind, hid, hst] at hst'
        obtain rfl := Option.some.inj hst'
        have hlt : st.grant.generation < grant.generation := by
          have hgen : grant.generation = max ((r.generation + 1) % 2 ^ 64) (A.epochs i) := by
            rw [hgrant]
            show (A.service i).nextGeneration (s.rows.row A.domain.domainId q.kind q.subject) = _
            rw [hrow']
            rfl
          have hbound := (hnamed.same r hrow').2.2
          rw [hgen, ← hm.generation, Nat.mod_eq_of_lt hbound]
          omega
        obtain ⟨rest, hrest⟩ := List.head?_eq_some_iff.mp hhead
        rw [hrest] at hrises ⊢
        refine List.pairwise_cons.mpr ⟨fun g hg => ?_, hrises⟩
        rcases List.mem_cons.mp hg with rfl | htail
        · exact hlt
        · exact lt_trans ((List.pairwise_cons.mp hrises).1 g htail) hlt
    · exact h.rises kind subject

end Mirrors

/-! ## Who is let in -/

/-- **The law of the tokens**, in a state: who is let in has the token that
stands for that very subject; the generations of a subject rise; and the token
a command was told lets in its subject while it stands. -/
structure LetIn (s : MembershipPool fold ι) : Prop where
  onlyStanding : ∀ epoch nowS token subject operation m,
    authorize E (A.domain.atEpoch epoch) nowS s.rows token subject operation = some m →
      ∃ st, standing s.log m.subjectKind subject = some st ∧ st.grant.token = token
        ∧ st.revoked = false ∧ nowS < st.grant.expiresAt ∧ epoch ≤ st.grant.generation
        ∧ covers st.grant.scopes operation = true
  rises : ∀ kind subject, (generations s.log kind subject).Pairwise (· > ·)
  letsIn : ∀ i token, (s.phases i).told = some token →
    ∃ q grant, (A.calls i).request E = some q ∧ .issued i grant ∈ s.log
      ∧ grant.expiresAt = (A.draws i).nowS + (A.service i).clampTtl q.ttl
      ∧ (standing s.log q.kind q.subject = some ⟨i, grant, false⟩ →
        ∀ epoch nowS operation, nowS < grant.expiresAt → epoch ≤ grant.generation →
          covers (normalized q.scopes) operation = true →
          authorize E (A.domain.atEpoch epoch) nowS s.rows token q.subject operation
            = some ⟨q.kind, grant.generation, grant.expiresAt⟩)

/-- A subject that is issued to has a name. -/
theorem subject_ne_of_checked {D : RestrictedDomainService} {q : MembershipRequest}
    (h : checkRequest D q = .ok ()) : q.subject ≠ "" := by
  intro hempty
  unfold checkRequest at h
  rw [hempty] at h
  have hblank : isBlank "" = true := rfl
  rw [hblank, Bool.or_true] at h
  split at h
  · exact absurd h (by simp)
  · exact absurd h (by simp)

namespace Mirrors

variable {E A} {s : MembershipPool fold ι}

/-- The row whose hash a token has, and the grant of the token. -/
theorem standing_of_authorize (hdigest : DigestsApart E fold) (h : Mirrors E A s) {epoch : ℕ}
    {nowS : ℤ} {token subject operation : String} {m : AuthorizedMembership}
    (hm : authorize E (A.domain.atEpoch epoch) nowS s.rows token subject operation = some m) :
    ∃ st, standing s.log m.subjectKind subject = some st ∧ st.grant.token = token
      ∧ st.revoked = false ∧ nowS < st.grant.expiresAt ∧ epoch ≤ st.grant.generation
      ∧ covers st.grant.scopes operation = true := by
  obtain ⟨r, hr, hhash, hcurrent, rfl, hcovers, rfl⟩ := row_of_authorize E hm
  obtain ⟨st, hst, hmatches⟩ := h.found r hr
  unfold MembershipRow.current at hcurrent
  simp only [Bool.and_eq_true, decide_eq_true_eq] at hcurrent
  obtain ⟨⟨⟨-, hrevoked⟩, hnow⟩, hepoch⟩ := hcurrent
  rw [hmatches.tokenHash] at hhash
  refine ⟨st, hst, hdigest _ _ hhash, ?_, hmatches.expiresAt ▸ hnow, hmatches.generation ▸ hepoch,
    hmatches.scopes ▸ hcovers⟩
  rw [← hmatches.revoked, Option.isSome_eq_false_iff]
  exact hrevoked

/-- **The hash of a token is of one row.** -/
theorem row_unique (hdigest : DigestsApart E fold)
    (hfresh : Function.Injective fun i => (A.draws i).token) (h : Mirrors E A s)
    {r r' : MembershipRow} (hr : r ∈ s.rows.rows) (hr' : r' ∈ s.rows.rows)
    (hhash : fold r'.tokenHash = fold r.tokenHash) : r' = r := by
  obtain ⟨st, hst, hm⟩ := h.found r hr
  obtain ⟨st', hst', hm'⟩ := h.found r' hr'
  obtain ⟨hissued, hkind, hid⟩ := mem_of_standing hst
  obtain ⟨hissued', hkind', hid'⟩ := mem_of_standing hst'
  obtain ⟨-, htoken, q, hq, -, hk, hs, -⟩ := h.asked _ _ hissued
  obtain ⟨-, htoken', q', hq', -, hk', hs', -⟩ := h.asked _ _ hissued'
  rw [hm.tokenHash, hm'.tokenHash] at hhash
  have hcall : st'.call = st.call := hfresh (by
    show (A.draws st'.call).token = (A.draws st.call).token
    rw [← htoken, ← htoken', hdigest _ _ hhash])
  rw [hcall, hq] at hq'
  obtain rfl := Option.some.inj hq'
  refine List.inj_on_of_nodup_map s.rows.keys_nodup hr' hr ?_
  rw [h.key_eq hr, h.key_eq hr', ← hkind, ← hkind', ← hid, ← hid', hk, hk', hs, hs']

/-- **The token of a grant that stands lets in.** -/
theorem authorize_of_standing (hD : A.domain.enabled = true) (hdigest : DigestsApart E fold)
    (hfresh : Function.Injective fun i => (A.draws i).token) (h : Mirrors E A s) {i : ι}
    {grant : Grant} {kind subject : String}
    (hst : standing s.log kind subject = some ⟨i, grant, false⟩) {epoch : ℕ} {nowS : ℤ}
    {operation : String} (hnow : nowS < grant.expiresAt) (hepoch : epoch ≤ grant.generation)
    (hcovers : covers grant.scopes operation = true) :
    authorize E (A.domain.atEpoch epoch) nowS s.rows grant.token subject operation
      = some ⟨kind, grant.generation, grant.expiresAt⟩ := by
  obtain ⟨r, hr, rfl, rfl⟩ := h.stands kind subject _ hst
  obtain ⟨st, hst', hm⟩ := h.found r hr
  obtain rfl := Option.some.inj (hst.symm.trans hst')
  obtain ⟨hissued, -, hid⟩ := mem_of_standing hst
  obtain ⟨-, htoken, q, -, hcheck, -, hsubject, -⟩ := h.asked _ _ hissued
  have hcurrent : r.current fold (A.domain.atEpoch epoch) nowS = true := by
    have hrevoked : r.revokedAt.isNone = true := Option.isSome_eq_false_iff.mp hm.revoked
    unfold MembershipRow.current
    rw [hm.domainId, hrevoked, hm.expiresAt, hm.generation, decide_eq_true hnow, Bool.and_true,
      Bool.and_true, Bool.and_eq_true]
    exact ⟨beq_self_eq_true _, decide_eq_true hepoch⟩
  have htokenNe : grant.token ≠ "" := by
    intro hempty
    rw [hempty] at htoken
    have hlength := congrArg String.length htoken
    rw [MembershipDraw.token, String.length_append] at hlength
    have hnine : ("iicp_mem_" : String).length = 9 := by decide
    have hzero : ("" : String).length = 0 := by decide
    omega
  have hauthorize := @authorize_of_row E fold (A.domain.atEpoch epoch) nowS s.rows grant.token
    operation r hD htokenNe (by rw [← hid, hsubject]; exact subject_ne_of_checked hcheck) hr
    (by rw [hm.tokenHash])
    (fun r' hr' hhash => h.row_unique hdigest hfresh hr hr' (by rw [hhash, hm.tokenHash])) hcurrent
    (by rw [hm.scopes]; exact hcovers)
  rw [hauthorize, hm.generation, hm.expiresAt]

/-- **Rows that mirror the log let in who should be.** -/
theorem letIn (hD : A.domain.enabled = true) (hdigest : DigestsApart E fold)
    (hfresh : Function.Injective fun i => (A.draws i).token) (h : Mirrors E A s) : LetIn E A s where
  onlyStanding _ _ _ _ _ _ hm := h.standing_of_authorize hdigest hm
  rises := h.rises
  letsIn i token htold := by
    obtain ⟨grant, hissued, rfl⟩ := h.told i token htold
    obtain ⟨-, -, q, hq, -, -, -, hscopes, hexpires⟩ := h.asked i grant hissued
    refine ⟨q, grant, hq, hissued, hexpires, fun hst epoch nowS operation hnow hepoch hcovers => ?_⟩
    exact h.authorize_of_standing hD hdigest hfresh hst hnow hepoch (hscopes ▸ hcovers)

/-- Before any command there is nothing to mirror. -/
theorem empty : Mirrors E A (.empty fold ι) where
  found _ hr := absurd hr List.not_mem_nil
  stands _ _ _ hst := absurd hst (by simp [MembershipPool.empty, standing])
  asked _ _ hj := absurd hj List.not_mem_nil
  told _ _ hj := absurd hj (by simp [MembershipPool.empty, MembershipPhase.told])
  rises _ _ := List.Pairwise.nil

/-- **A step under the names there are keeps the mirror.** -/
theorem advance [DecidableEq ι] (hdigest : DigestsApart E fold)
    (hfresh : Function.Injective fun i => (A.draws i).token) {a : MembershipAction ι}
    (h : Mirrors E A s) (hnamed : WellNamed E A s a) : Mirrors E A (s.advance E A a) := by
  cases MembershipPool.advance_moves s a with
  | stays hs => exact hs.symm ▸ h
  | failed e hs => exact hs ▸ h.failed e
  | recorded q rows' phase hasked hrequest hwrites hrecord hphase hs =>
    exact hs ▸ h.recorded hdigest hfresh hasked hrequest (record_of_writes E hwrites).1 hrecord
      hphase ((hnamed hasked).1 q hrequest hwrites)
  | revoked kind subject answer hasked hcall hexec hs =>
    exact hs ▸ h.revoked answer _ ((hnamed hasked).2 kind subject hcall hexec)
  | attached q record envelope answer hsigned hs => exact hs ▸ h.attached hsigned answer

end Mirrors

/-- **Tokens let in their subjects**, in every state of the runs in which what
is written is named as it was. -/
theorem members_let_in [DecidableEq ι] (hD : A.domain.enabled = true)
    (hdigest : DigestsApart E fold) (hfresh : Function.Injective fun i => (A.draws i).token)
    (actions : List (MembershipAction ι))
    (hrun : Run.Along (MembershipPool.advance E A) (WellNamed E A) (.empty fold ι) actions) :
    LetIn E A (Run.after (MembershipPool.advance E A) (.empty fold ι) actions) :=
  (Run.invariant_along (fun _ _ h hnamed => Mirrors.advance hdigest hfresh h hnamed) Mirrors.empty
    hrun).letIn hD hdigest hfresh

namespace Sample

/-- A domain. -/
def domain : RestrictedDomainService :=
  ⟨⟨true, "iicp.test", "did:iicp:a", "", 1, 86400⟩, true, fun _ => rfl⟩

/-- The digests of two tokens. -/
def tokenDigests : List (String × ℕ) :=
  [("iicp_mem_0", 0x89663bbf9c1e189ca3b197fbbcdcca98eb06fda14728f4e6bfd46c30b5cd67d8),
   ("iicp_mem_1", 0xb55dda2213e17b2a371f72910dd2cd7a8a9633cb8d69174079474b6ab8d85257)]

/-- What is signed for a node that is issued to a second time. -/
def assertionMessage : Bytes :=
  utf8 ("IICP-RTD-MEMBERSHIP-V0\n\x7b\"assertion_id\":\"3f2b8c1e-6a4d-4e0b-9f57-0d1c2b3a4e5f\","
    ++ "\"audience\":[\"iicp.test\"],\"domain_id\":\"iicp.test\",\"expires_at\":3600,\"generation\":2,"
    ++ "\"issued_at\":0,\"issuer\":\x7b\"id\":\"did:iicp:a\",\"key_id\":\"did:iicp:a#key-1\"\x7d,"
    ++ "\"profile\":\"urn:iicp:profile:restricted-trust-domain:v1\","
    ++ "\"schema\":\"iicp.restricted-trust-domain.membership-assertion.v0\",\"scopes\":[\"bootstrap\"],"
    ++ "\"subject\":\x7b\"id\":\"node-a\",\"key_id\":\"node-a#key-1\",\"kind\":\"node\","
    ++ "\"public_key_ed25519\":\"0EqyMnQrtKs6E2i9RhXk5tAiSrcaAWuvhSCjMsl3hzc\"\x7d\x7d")

/-- Its signature under the seed of bytes `0x11`. -/
def assertionSignature : Bytes :=
  Sample.bytes 64 0xbfa2cdf755b7de2f28b289cc98b806919af3b4f89e4eb132bac4735656eeefb659f7569e0537ea968b5a219e1103d41fec6b3e83b9a6a3319ab283055d86a30d

/-- **The libraries on two tokens and an assertion.** Off the table a digest
is longer than the others and ends with its text. -/
def membershipLibs : EvidenceLibs :=
  { Sample.evidenceLibs with
    toLibs := { Sample.evidenceLibs.toLibs with
      sha256 := fun text =>
        ((tokenDigests.lookup text).map (Sample.bytes 32)).getD (List.replicate 33 0 ++ utf8 text)
      sign := fun seed msg =>
        if seed = List.replicate 32 17 ∧ msg = assertionMessage then assertionSignature
        else Sample.evidenceLibs.sign seed msg }
    base64UrlEncode := fun raw =>
      if raw = assertionSignature then
        "v6LN91W33i8osonMmLgGkZrztPieTrEyusRzVlbu77ZZ91aeBTfqlotaIZ4RA9Qf7Gs-g7mmozGasoMFXYajDQ"
      else Sample.evidenceLibs.base64UrlEncode raw }

/-- A collation that has one name for two. -/
def nodeFold (text : String) : String := if text = "Node-A" then "node-a" else text

/-- Two commands, each for a name. -/
def twoNames (subject : Bool → String) : Administration Bool where
  domain := domain
  calls i := .issue ⟨"node", subject i, ["*"], 3600⟩
  epochs _ := 1
  draws i := ⟨if i then "1" else "0", "", 0, 0⟩

/-- One after the other. -/
def oneByOne : List (MembershipAction Bool) := [⟨false, .willing⟩, ⟨true, .willing⟩]

/-- The same subject, named in two ways. -/
def spellings (i : Bool) : String := if i then "Node-A" else "node-a"

/-- Two subjects. -/
def nodes (i : Bool) : String := if i then "node-b" else "node-a"

theorem sha256_inj {text text' : String}
    (h : membershipLibs.sha256 text = membershipLibs.sha256 text') : text = text' := by
  have htable : ∀ e ∈ tokenDigests, ∀ e' ∈ tokenDigests, Sample.bytes 32 e.2 = Sample.bytes 32 e'.2 → e.1 = e'.1 := by
    decide
  have hmem : ∀ {text n}, tokenDigests.lookup text = some n → (text, n) ∈ tokenDigests := by
    intro text n hn
    obtain ⟨l, r, hsplit, -⟩ := List.lookup_eq_some_iff.mp hn
    rw [hsplit]
    exact List.mem_append_right _ List.mem_cons_self
  have hlong : ∀ n, ∀ text : String, Sample.bytes 32 n ≠ List.replicate 33 0 ++ utf8 text := by
    intro n text heq
    have hlength := congrArg List.length heq
    rw [Sample.length_bytes, List.length_append, List.length_replicate] at hlength
    omega
  have hdigest : ((tokenDigests.lookup text).map (Sample.bytes 32)).getD (List.replicate 33 0 ++ utf8 text)
      = ((tokenDigests.lookup text').map (Sample.bytes 32)).getD (List.replicate 33 0 ++ utf8 text') := h
  cases hn : tokenDigests.lookup text with
  | some n =>
    cases hn' : tokenDigests.lookup text' with
    | some n' =>
      rw [hn, hn'] at hdigest
      exact htable _ (hmem hn) _ (hmem hn') hdigest
    | none =>
      rw [hn, hn'] at hdigest
      exact absurd hdigest (hlong n text')
  | none =>
    cases hn' : tokenDigests.lookup text' with
    | some n' =>
      rw [hn, hn'] at hdigest
      exact absurd hdigest.symm (hlong n' text)
    | none =>
      rw [hn, hn'] at hdigest
      have hutf8 : utf8 text = utf8 text' := List.append_cancel_left hdigest
      exact String.toByteArray_inj.mp (ByteArray.ext (Array.ext' hutf8))

theorem digest_inj {token token' : String}
    (h : digest membershipLibs token = digest membershipLibs token') : token = token' :=
  sha256_inj (Hex.encode_injective h)

/-- No digest is the name of a node. -/
theorem digest_ne_node (token : String) : digest membershipLibs token ≠ "Node-A"
    ∧ digest membershipLibs token ≠ "node-a" := by
  have hdecode : ∀ {text : String}, Hex.decode text = none → digest membershipLibs token ≠ text := by
    rintro text htext rfl
    unfold digest at htext
    rw [Hex.decode_encode] at htext
    exact absurd htext (by simp)
  exact ⟨hdecode (by decide), hdecode (by decide)⟩

theorem digestsApart_nodeFold : DigestsApart membershipLibs nodeFold := by
  intro token token' h
  unfold nodeFold at h
  rw [if_neg (digest_ne_node token).1, if_neg (digest_ne_node token').1] at h
  exact digest_inj h

theorem tokens_inj (subject : Bool → String) :
    Function.Injective fun i => ((twoNames subject).draws i).token := by
  have htokens : ∀ i j : Bool, "iicp_mem_" ++ (if i then "1" else "0")
      = "iicp_mem_" ++ (if j then "1" else "0") → i = j := by decide
  exact fun i j h => htokens i j h

end Sample

/-- Two nodes of different names. -/
theorem two_nodes_let_in :
    LetIn Sample.membershipLibs (Sample.twoNames Sample.nodes)
      (Run.after (MembershipPool.advance Sample.membershipLibs (Sample.twoNames Sample.nodes))
        (.empty Sample.nodeFold Bool) Sample.oneByOne) := by
  have hfirst : (MembershipPool.advance Sample.membershipLibs (Sample.twoNames Sample.nodes)
      (.empty Sample.nodeFold Bool) ⟨false, .willing⟩).rows.row "iicp.test" "node" "node-b" = none := by
    decide
  refine members_let_in Sample.membershipLibs _ rfl Sample.digestsApart_nodeFold
    (Sample.tokens_inj _) _ ⟨fun _ => ⟨?_, ?_⟩, fun _ => ⟨?_, ?_⟩, trivial⟩
  · rintro q hq -
    obtain rfl := Option.some.inj hq
    exact ⟨by decide, by decide, fun r hr => absurd hr (Option.some_ne_none r).symm⟩
  · exact fun kind subject hcall => MembershipCall.noConfusion hcall
  · rintro q hq -
    obtain rfl := Option.some.inj hq
    exact ⟨by decide, by decide,
      fun r hr => absurd (hfirst.symm.trans hr) (Option.some_ne_none r).symm⟩
  · exact fun kind subject hcall => MembershipCall.noConfusion hcall

/-- **A subject named in two ways.** The token that is issued for `Node-A` is
written into the row of `node-a`, and does not let in `Node-A`. -/
theorem other_spelling_not_let_in :
    DigestsApart Sample.membershipLibs Sample.nodeFold
      ∧ ¬ LetIn Sample.membershipLibs (Sample.twoNames Sample.spellings)
        (Run.after (MembershipPool.advance Sample.membershipLibs (Sample.twoNames Sample.spellings))
          (.empty Sample.nodeFold Bool) Sample.oneByOne) := by
  refine ⟨Sample.digestsApart_nodeFold, fun h => ?_⟩
  obtain ⟨q, grant, hq, hissued, -, hlets⟩ := h.letsIn true "iicp_mem_1" rfl
  obtain rfl := Option.some.inj hq
  rcases List.mem_cons.mp hissued with heq | hmem
  · obtain ⟨-, rfl⟩ := MembershipEvent.issued.inj heq
    have hauthorize := hlets rfl 1 0 "peers" (by decide) (by decide) (by decide)
    exact absurd hauthorize (by decide)
  · rcases List.mem_cons.mp hmem with heq | hnil
    · exact absurd (MembershipEvent.issued.inj heq).1 (by decide)
    · exact absurd hnil List.not_mem_nil

end RestrictedDomain
