import IicpDirectory.Foundations.Run
import IicpDirectory.RestrictedDomain
import Mathlib.Logic.Function.Basic

/-!
# Memberships, issued and revoked by many

Memberships are administered by commands, each a process of its own with the
configuration it was started under. A command that issues with an assertion
writes twice, and others may come in between. Who is let in is looked up by a
server with an epoch of its own.

A run is what the commands do, in whatever order, under a server of the
database that may fail any of it. Beside the rows it keeps a log of what was
issued and revoked, under the names that were asked for: what a token stands
for is read off the log (`standing`), what it is let in for off the rows.

What one step can do is said once (`advance_moves`).
-/

namespace RestrictedDomain

open RestrictedDomainMembership

/-! ## The log -/

/-- A membership, as it was asked for and granted. -/
structure Grant where
  kind : String
  subject : String
  token : String
  scopes : List String
  generation : ℕ
  expiresAt : ℤ

/-- What was written. -/
inductive MembershipEvent (ι : Type)
  | issued (call : ι) (grant : Grant)
  | revoked (kind subject : String)

/-- The grant that stands, of whichever call, and whether it is revoked. -/
structure Standing (ι : Type) where
  call : ι
  grant : Grant
  revoked : Bool := false

variable {ι : Type}

/-- **What stands for a subject**: the latest grant under its very name, and
whether it was revoked since. The log has the latest entry first. -/
def standing : List (MembershipEvent ι) → String → String → Option (Standing ι)
  | [], _, _ => none
  | .issued call grant :: before, kind, subject =>
    if grant.kind = kind ∧ grant.subject = subject then some ⟨call, grant, false⟩
    else standing before kind subject
  | .revoked kind' subject' :: before, kind, subject =>
    if kind' = kind ∧ subject' = subject then
      (standing before kind subject).map fun s => { s with revoked := true }
    else standing before kind subject

/-- The generations a subject was given, the latest one first. -/
def generations : List (MembershipEvent ι) → String → String → List ℕ
  | [], _, _ => []
  | .issued _ grant :: before, kind, subject =>
    if grant.kind = kind ∧ grant.subject = subject then
      grant.generation :: generations before kind subject
    else generations before kind subject
  | .revoked _ _ :: before, kind, subject => generations before kind subject

/-- What stands was issued, -/
theorem mem_of_standing {log : List (MembershipEvent ι)} {kind subject : String} {s : Standing ι}
    (h : standing log kind subject = some s) :
    .issued s.call s.grant ∈ log ∧ s.grant.kind = kind ∧ s.grant.subject = subject := by
  induction log generalizing s with
  | nil => exact absurd h (by simp [standing])
  | cons e before ih =>
    cases e with
    | issued call grant =>
      rw [standing] at h
      split at h
      · next hname =>
        obtain rfl := Option.some.inj h
        exact ⟨List.mem_cons_self, hname⟩
      · obtain ⟨hmem, hname⟩ := ih h
        exact ⟨List.mem_cons_of_mem _ hmem, hname⟩
    | revoked kind' subject' =>
      rw [standing] at h
      split at h
      · obtain ⟨old, hold, rfl⟩ := Option.map_eq_some_iff.mp h
        obtain ⟨hmem, hname⟩ := ih hold
        exact ⟨List.mem_cons_of_mem _ hmem, hname⟩
      · obtain ⟨hmem, hname⟩ := ih h
        exact ⟨List.mem_cons_of_mem _ hmem, hname⟩

/-- and what its generation is heads the generations of the subject. -/
theorem generations_of_standing (log : List (MembershipEvent ι)) (kind subject : String) :
    (generations log kind subject).head?
      = (standing log kind subject).map fun s => s.grant.generation := by
  induction log with
  | nil => rfl
  | cons e before ih =>
    cases e with
    | issued call grant =>
      rw [generations, standing]
      split
      · rfl
      · exact ih
    | revoked kind' subject' =>
      rw [generations, standing, ih]
      split
      · rw [Option.map_map]
        rfl
      · rfl

/-! ## The commands -/

/-- **What a command asks for.** -/
inductive MembershipCall
  | issue (q : MembershipRequest)
  | issueWithAssertion (q : MembershipRequest) (keys : AssertionKeys)
  | revoke (kind subject : String)

/-- What a command is answered. -/
inductive MembershipAnswer
  | token (token : String)
  | assertion (token : String) (envelope : MembershipEnvelope)
  | revoked (found : Bool)

/-- Where a command is. -/
inductive MembershipPhase
  | asked
  | signed (q : MembershipRequest) (record : IssuedMembership) (envelope : MembershipEnvelope)
  | answered (answer : Except String MembershipAnswer)

/-- **The commands of a domain**: what each asks for, the epoch it was started
under, and what it draws. -/
structure Administration (ι : Type) where
  domain : RestrictedDomainService
  calls : ι → MembershipCall
  epochs : ι → ℕ
  draws : ι → MembershipDraw

/-- The service of a command. -/
def Administration.service (A : Administration ι) (i : ι) : RestrictedDomainService :=
  A.domain.atEpoch (A.epochs i)

/-- The rows, where each command is, and what was written. -/
structure MembershipPool (fold : String → String) (ι : Type) where
  rows : Memberships fold
  phases : ι → MembershipPhase
  log : List (MembershipEvent ι)

/-- Before any command. -/
def MembershipPool.empty (fold : String → String) (ι : Type) : MembershipPool fold ι :=
  ⟨.empty _, fun _ => .asked, []⟩

/-- A step of a command, and what the database makes of it. -/
structure MembershipAction (ι : Type) where
  call : ι
  server : Server

variable (E : EvidenceLibs) {fold : String → String}

/-- The row of a request is written, whatever is heard of it. -/
def writes (D : RestrictedDomainService) (server : Server) (q : MembershipRequest)
    (draw : MembershipDraw) (t : Memberships fold) : Bool :=
  (checkRequest D q).isOk && server.carries 2 && (t.record (grantedRow E D q draw t)).isSome

/-- The keys of a request are in order, and so are the scopes it asks for. -/
def signable (q : MembershipRequest) (keys : AssertionKeys) : Bool :=
  !isBlank keys.subjectKeyId && (validateSigningInputs E keys.subjectPublicKey keys.signingKey
    (q.scopes.filter isPeerScope)).isOk

/-- The request of a command, if it gets as far as that. -/
def MembershipCall.request : MembershipCall → Option MembershipRequest
  | .issue q => some q
  | .issueWithAssertion q keys => if signable E q keys then some q else none
  | .revoke _ _ => none

/-- The grant a request makes. -/
def grantOf (D : RestrictedDomainService) (q : MembershipRequest) (draw : MembershipDraw)
    (t : Memberships fold) : Grant where
  kind := q.kind
  subject := q.subject
  token := draw.token
  scopes := normalized q.scopes
  generation := D.nextGeneration (t.row D.domainId q.kind q.subject)
  expiresAt := draw.nowS + D.clampTtl q.ttl

variable [DecidableEq ι] (A : Administration ι)

namespace MembershipPool

/-- A command moves on. -/
def move (s : MembershipPool fold ι) (i : ι) (phase : MembershipPhase) (rows : Memberships fold)
    (written : List (MembershipEvent ι)) : MembershipPool fold ι :=
  ⟨rows, Function.update s.phases i phase, written ++ s.log⟩

/-- What the log gets of a request. -/
def entry (s : MembershipPool fold ι) (a : MembershipAction ι) (q : MembershipRequest) :
    List (MembershipEvent ι) :=
  if writes E (A.service a.call) a.server q (A.draws a.call) s.rows then
    [.issued a.call (grantOf (A.service a.call) q (A.draws a.call) s.rows)]
  else []

/-- **A step of a command.** -/
def advance (s : MembershipPool fold ι) (a : MembershipAction ι) : MembershipPool fold ι :=
  match s.phases a.call with
  | .asked =>
    match A.calls a.call with
    | .issue q =>
      let r := issue E (A.service a.call) a.server q (A.draws a.call) s.rows
      s.move a.call (.answered (r.1.map .token)) r.2 (s.entry E A a q)
    | .issueWithAssertion q keys =>
      let r := issueSigned E (A.service a.call) a.server q keys (A.draws a.call) s.rows
      s.move a.call
        (match r.1 with
          | .error e => .answered (.error e)
          | .ok (record, envelope) => .signed q record envelope) r.2
        (if signable E q keys then s.entry E A a q else [])
    | .revoke kind subject =>
      let r := revoke (A.service a.call) a.server kind subject (A.draws a.call).nowS s.rows
      s.move a.call (.answered (r.1.map .revoked)) r.2
        (if A.domain.pool && a.server.executes then [.revoked kind subject] else [])
  | .signed q record envelope =>
    let r := attachEnvelope (A.service a.call) a.server q record envelope s.rows
    s.move a.call (.answered (r.1.map fun p => .assertion p.1 p.2)) r.2 []
  | .answered _ => s

end MembershipPool

/-! ## What a statement leaves -/

/-- A request that is refused writes nothing. -/
theorem issueRecord_of_error {D : RestrictedDomainService} {q : MembershipRequest} {e : String}
    (h : checkRequest D q = .error e) (server : Server) (draw : MembershipDraw)
    (t : Memberships fold) : issueRecord E D server q draw t = (.error e, t) := by
  unfold issueRecord
  rw [h]

/-- The statements of a request come to its row. -/
theorem foldlM_recordStatements (D : RestrictedDomainService) (q : MembershipRequest)
    (draw : MembershipDraw) (t : Memberships fold) :
    (recordStatements E D q draw).foldlM (fun s statement => statement s) t
      = t.record (grantedRow E D q draw t) := by
  show (t.record (grantedRow E D q draw t)).bind some = _
  exact Option.bind_fun_some _

/-- **What a request leaves**: its row, if it is written. -/
theorem snd_issueRecord (D : RestrictedDomainService) (server : Server) (q : MembershipRequest)
    (draw : MembershipDraw) (t : Memberships fold) :
    (issueRecord E D server q draw t).2
      = if writes E D server q draw t then (t.record (grantedRow E D q draw t)).getD t else t := by
  unfold writes
  cases hcheck : checkRequest D q with
  | error e =>
    rw [issueRecord_of_error E hcheck]
    rfl
  | ok u =>
    have hsnd : (issueRecord E D server q draw t).2
        = (Transaction.run server (recordStatements E D q draw) t).2 := by
      unfold issueRecord
      rw [hcheck]
    have hfold := foldlM_recordStatements E D q draw t
    rw [hsnd]
    cases hc : server.carries 2 with
    | false =>
      rw [Transaction.run_of_not_carried hc]
      rfl
    | true =>
      cases hrecord : t.record (grantedRow E D q draw t) with
      | none =>
        rw [Transaction.run_of_stuck server (hfold.trans hrecord)]
        rfl
      | some t' => exact Transaction.snd_run_of_carried hc (hfold.trans hrecord)

/-- **A request that is answered with a membership has written its row.** -/
theorem writes_of_issueRecord {D : RestrictedDomainService} {server : Server}
    {q : MembershipRequest} {draw : MembershipDraw} {t : Memberships fold}
    {record : IssuedMembership} (h : (issueRecord E D server q draw t).1 = .ok record) :
    writes E D server q draw t = true ∧ record = issuedMembership D q draw t := by
  unfold issueRecord at h
  cases hcheck : checkRequest D q with
  | error e =>
    rw [hcheck] at h
    exact absurd h (by simp)
  | ok u =>
    rw [hcheck] at h
    cases hrun : Transaction.run server (recordStatements E D q draw) t with
    | mk answer t' =>
      cases answer with
      | false =>
        rw [hrun] at h
        exact absurd h (by simp)
      | true =>
        rw [hrun] at h
        have hrecord := (foldlM_recordStatements E D q draw t).symm.trans
          (Transaction.foldlM_of_reached (Transaction.run_eq_true_iff.mp hrun).1)
        have hcarried : server.carries 2 = true := by
          by_contra hnot
          have hnone := @Transaction.run_of_not_carried _ server (recordStatements E D q draw)
            (Bool.eq_false_iff.mpr hnot) t
          rw [hrun] at hnone
          exact absurd (congrArg Prod.fst hnone) (by simp)
        unfold writes
        rw [hcheck, hcarried, hrecord]
        exact ⟨rfl, (Except.ok.inj h).symm⟩

/-- **What a request with an assertion leaves**: the same, if its keys are in
order. -/
theorem snd_issueSigned (D : RestrictedDomainService) (server : Server) (q : MembershipRequest)
    (keys : AssertionKeys) (draw : MembershipDraw) (t : Memberships fold) :
    (issueSigned E D server q keys draw t).2
      = if signable E q keys then (issueRecord E D server q draw t).2 else t := by
  unfold issueSigned signable
  cases isBlank keys.subjectKeyId with
  | true => rfl
  | false =>
    cases validateSigningInputs E keys.subjectPublicKey keys.signingKey
        (q.scopes.filter isPeerScope) with
    | error e => rfl
    | ok seed => rfl

/-- **One that gets to its last statement** has written its row, and signed
it. -/
theorem writes_of_issueSigned {D : RestrictedDomainService} {server : Server}
    {q : MembershipRequest} {keys : AssertionKeys} {draw : MembershipDraw} {t : Memberships fold}
    {record : IssuedMembership} {envelope : MembershipEnvelope}
    (h : (issueSigned E D server q keys draw t).1 = .ok (record, envelope)) :
    signable E q keys = true ∧ writes E D server q draw t = true
      ∧ record = issuedMembership D q draw t
      ∧ sign E (membershipInput D q keys record) keys.signingKey draw.assertionId = .ok envelope := by
  unfold issueSigned at h
  unfold signable
  cases hblank : isBlank keys.subjectKeyId with
  | true =>
    rw [hblank] at h
    exact absurd h (by simp)
  | false =>
    rw [hblank] at h
    cases hvalid : validateSigningInputs E keys.subjectPublicKey keys.signingKey
        (q.scopes.filter isPeerScope) with
    | error e =>
      rw [hvalid] at h
      exact absurd h (by simp)
    | ok seed =>
      rw [hvalid] at h
      cases hissue : (issueRecord E D server q draw t).1 with
      | error e =>
        simp only [hissue, Bool.false_eq_true, if_false] at h
        exact absurd h (by simp [Except.bind])
      | ok issued =>
        simp only [hissue, Bool.false_eq_true, if_false] at h
        cases hsign : sign E (membershipInput D q keys issued) keys.signingKey draw.assertionId with
        | error e =>
          rw [Except.bind, hsign] at h
          exact absurd h (by simp [Except.map])
        | ok signed =>
          rw [Except.bind, hsign] at h
          obtain ⟨rfl, rfl⟩ := Prod.mk.inj (Except.ok.inj h)
          obtain ⟨hwrites, hrecord⟩ := writes_of_issueRecord E hissue
          exact ⟨rfl, hwrites, hrecord, hsign⟩

/-- What is written is checked, and there is a table with the row. -/
theorem record_of_writes {D : RestrictedDomainService} {server : Server} {q : MembershipRequest}
    {draw : MembershipDraw} {t : Memberships fold} (h : writes E D server q draw t = true) :
    checkRequest D q = .ok () ∧ ∃ t', t.record (grantedRow E D q draw t) = some t' := by
  unfold writes at h
  rw [Bool.and_eq_true, Bool.and_eq_true] at h
  obtain ⟨⟨hcheck, -⟩, hrecord⟩ := h
  refine ⟨?_, Option.isSome_iff_exists.mp hrecord⟩
  cases hc : checkRequest D q with
  | error e =>
    rw [hc] at hcheck
    exact absurd hcheck (by simp [Except.isOk, Except.toBool])
  | ok u => rfl

/-! ## What one step can do -/

namespace MembershipPool

/-- Where a command is that has written its row. -/
inductive Written (i : ι) (t : Memberships fold) (q : MembershipRequest) : MembershipPhase → Prop
  | told : Written i t q (.answered (.ok (.token (A.draws i).token)))
  | failed (e : String) : Written i t q (.answered (.error e))
  | signed (keys : AssertionKeys) (envelope : MembershipEnvelope)
      (hcall : A.calls i = .issueWithAssertion q keys)
      (hsign : sign E (membershipInput (A.service i) q keys
          (issuedMembership (A.service i) q (A.draws i) t)) keys.signingKey
        (A.draws i).assertionId = .ok envelope) :
      Written i t q (.signed q (issuedMembership (A.service i) q (A.draws i) t) envelope)

/-- **What one step of a command does**: nothing, or it fails; or it writes
its row, or revokes one; or it writes its envelope. -/
inductive Moves (s : MembershipPool fold ι) (a : MembershipAction ι) (s' : MembershipPool fold ι) :
    Prop
  | stays (h : s' = s)
  | failed (e : String) (h : s' = s.move a.call (.answered (.error e)) s.rows [])
  | recorded (q : MembershipRequest) (rows' : Memberships fold) (phase : MembershipPhase)
      (hasked : s.phases a.call = .asked) (hrequest : (A.calls a.call).request E = some q)
      (hwrites : writes E (A.service a.call) a.server q (A.draws a.call) s.rows = true)
      (hrecord : s.rows.record (grantedRow E (A.service a.call) q (A.draws a.call) s.rows)
        = some rows')
      (hphase : Written E A a.call s.rows q phase)
      (h : s' = s.move a.call phase rows'
        [.issued a.call (grantOf (A.service a.call) q (A.draws a.call) s.rows)])
  | revoked (kind subject : String) (answer : Except String Bool)
      (hasked : s.phases a.call = .asked) (hcall : A.calls a.call = .revoke kind subject)
      (hexec : a.server.executes = true)
      (h : s' = s.move a.call (.answered (answer.map .revoked))
        (s.rows.revoke A.domain.domainId kind subject (A.draws a.call).nowS).2
        [.revoked kind subject])
  | attached (q : MembershipRequest) (record : IssuedMembership) (envelope : MembershipEnvelope)
      (answer : Except String Unit) (hsigned : s.phases a.call = .signed q record envelope)
      (h : s' = s.move a.call (.answered (answer.map fun _ => .assertion record.token envelope))
        (s.rows.attach A.domain.domainId q.kind q.subject record.generation envelope) [])

section Advance

variable {E A} {s : MembershipPool fold ι} {a : MembershipAction ι} {q : MembershipRequest}
  {server : Server}

/-- A request that writes its row leaves it, and an entry. -/
theorem moves_of_writes (hasked : s.phases a.call = .asked)
    (hrequest : (A.calls a.call).request E = some q)
    (hwrites : writes E (A.service a.call) a.server q (A.draws a.call) s.rows = true)
    {phase : MembershipPhase} (hphase : Written E A a.call s.rows q phase) :
    Moves E A s a (s.move a.call phase
      (issueRecord E (A.service a.call) a.server q (A.draws a.call) s.rows).2 (s.entry E A a q)) := by
  obtain ⟨-, rows', hrecord⟩ := record_of_writes E hwrites
  rw [snd_issueRecord, entry, if_pos hwrites, if_pos hwrites, hrecord]
  exact .recorded q rows' phase hasked hrequest hwrites hrecord hphase rfl

/-- One that fails before has left nothing. -/
theorem moves_of_not_writes
    (hwrites : ¬ writes E (A.service a.call) a.server q (A.draws a.call) s.rows = true)
    (e : String) :
    Moves E A s a (s.move a.call (.answered (.error e))
      (issueRecord E (A.service a.call) a.server q (A.draws a.call) s.rows).2 (s.entry E A a q)) := by
  rw [snd_issueRecord, entry, if_neg hwrites, if_neg hwrites]
  exact .failed e rfl

/-- **A request that writes its row is in the table behind its step.** -/
theorem rows_advance (hasked : s.phases a.call = .asked)
    (hrequest : (A.calls a.call).request E = some q)
    (hwrites : writes E (A.service a.call) a.server q (A.draws a.call) s.rows = true) :
    s.rows.record (grantedRow E (A.service a.call) q (A.draws a.call) s.rows)
      = some (s.advance E A a).rows := by
  obtain ⟨-, rows', hrecord⟩ := record_of_writes E hwrites
  have hissue := snd_issueRecord E (A.service a.call) a.server q (A.draws a.call) s.rows
  rw [if_pos hwrites, hrecord] at hissue
  have hadvance : (s.advance E A a).rows
      = (issueRecord E (A.service a.call) a.server q (A.draws a.call) s.rows).2 := by
    unfold advance
    rw [hasked]
    cases hcall : A.calls a.call with
    | issue q' =>
      rw [hcall] at hrequest
      obtain rfl := Option.some.inj hrequest
      rfl
    | issueWithAssertion q' keys =>
      rw [hcall] at hrequest
      have hkeys : signable E q' keys = true ∧ q' = q := by
        have hif : (if signable E q' keys then some q' else none) = some q := hrequest
        split at hif
        · next h => exact ⟨h, Option.some.inj hif⟩
        · exact absurd hif (by simp)
      obtain ⟨hkeys, rfl⟩ := hkeys
      have hsigned := snd_issueSigned E (A.service a.call) a.server q' keys (A.draws a.call) s.rows
      rw [if_pos hkeys] at hsigned
      exact hsigned
    | revoke kind subject =>
      rw [hcall] at hrequest
      exact absurd hrequest (by simp [MembershipCall.request])
  rw [hrecord, hadvance, hissue]
  rfl

/-- **The steps of a command are these.** -/
theorem advance_moves (s : MembershipPool fold ι) (a : MembershipAction ι) :
    Moves E A s a (s.advance E A a) := by
  unfold advance
  cases hphase : s.phases a.call with
  | answered answer => exact .stays rfl
  | signed q record envelope =>
    show Moves E A s a (s.move a.call (.answered ((attachEnvelope (A.service a.call) a.server q
      record envelope s.rows).1.map _)) _ _)
    unfold attachEnvelope
    cases hexec : a.server.executes with
    | false =>
      rw [Transaction.single_of_not_executed hexec]
      exact .failed "membership assertion persistence failed" rfl
    | true =>
      rw [Transaction.single_of_always, hexec]
      cases a.server.answers with
      | false =>
        exact .attached q record envelope (.error "membership assertion persistence failed") hphase
          rfl
      | true => exact .attached q record envelope (.ok ()) hphase rfl
  | asked =>
    cases hcall : A.calls a.call with
    | issue q =>
      have hrequest : (A.calls a.call).request E = some q := by
        rw [hcall]
        rfl
      show Moves E A s a (s.move a.call (.answered (((issueRecord E (A.service a.call) a.server q
        (A.draws a.call) s.rows).1.map IssuedMembership.token).map .token)) _ _)
      cases hissue : (issueRecord E (A.service a.call) a.server q (A.draws a.call) s.rows).1 with
      | ok record =>
        obtain ⟨hwrites, rfl⟩ := writes_of_issueRecord E hissue
        exact moves_of_writes hphase hrequest hwrites .told
      | error e =>
        by_cases hwrites : writes E (A.service a.call) a.server q (A.draws a.call) s.rows = true
        · exact moves_of_writes hphase hrequest hwrites (.failed e)
        · exact moves_of_not_writes hwrites e
    | issueWithAssertion q keys =>
      have hsnd := snd_issueSigned E (A.service a.call) a.server q keys (A.draws a.call) s.rows
      show Moves E A s a (s.move a.call _ (issueSigned E (A.service a.call) a.server q keys
        (A.draws a.call) s.rows).2 _)
      rw [hsnd]
      cases hsigned : (issueSigned E (A.service a.call) a.server q keys (A.draws a.call) s.rows).1 with
      | ok p =>
        obtain ⟨record, envelope⟩ := p
        obtain ⟨hkeys, hwrites, rfl, hsign⟩ := writes_of_issueSigned E hsigned
        have hrequest : (A.calls a.call).request E = some q := by
          rw [hcall]
          exact if_pos hkeys
        rw [if_pos hkeys, if_pos hkeys]
        exact moves_of_writes hphase hrequest hwrites (.signed keys envelope hcall hsign)
      | error e =>
        by_cases hkeys : signable E q keys = true
        · have hrequest : (A.calls a.call).request E = some q := by
            rw [hcall]
            exact if_pos hkeys
          rw [if_pos hkeys, if_pos hkeys]
          by_cases hwrites : writes E (A.service a.call) a.server q (A.draws a.call) s.rows = true
          · exact moves_of_writes hphase hrequest hwrites (.failed e)
          · exact moves_of_not_writes hwrites e
        · rw [if_neg hkeys, if_neg hkeys]
          exact .failed e rfl
    | revoke kind subject =>
      show Moves E A s a (s.move a.call _ (revoke (A.service a.call) a.server kind subject
        (A.draws a.call).nowS s.rows).2 _)
      unfold revoke
      have hpool : (A.service a.call).pool = A.domain.pool := rfl
      rw [hpool]
      cases A.domain.pool with
      | false => exact .failed "membership persistence unavailable" rfl
      | true =>
        simp only [Bool.not_true, Bool.false_eq_true, if_false, Bool.true_and]
        cases hexec : a.server.executes with
        | false =>
          rw [Transaction.single_of_not_executed hexec]
          exact .failed "membership persistence failed" rfl
        | true =>
          rw [Transaction.single_of_always, hexec]
          cases a.server.answers with
          | false =>
            exact .revoked kind subject (.error "membership persistence failed") hphase hcall hexec
              rfl
          | true => exact .revoked kind subject (.ok _) hphase hcall hexec rfl

end Advance

end MembershipPool

end RestrictedDomain
