import IicpDirectory.Foundations.Run
import IicpDirectory.Foundations.Transaction
import IicpDirectory.MySqlRepo
import IicpDirectory.Seed.Handlers

/-!
# Routes and their evidence

A probe that contradicts what the directory says of a node changes its row
and appends an event, in one transaction; any failure on the way undoes both.
Either both are there or neither (`applyProbeRouteState_spec`). What the call
answers is less: the transaction may be committed and its answer lost, and
then the route is changed, with its event, and the call says that it is not.

Over the runs the flag of a node is what its last event says
(`RouteDb.Agrees`), except where something other than a probe has written it
since: a removal, after which the node comes back unreachable, or the
restriction of its operator.
-/

/-- **The tables**: the nodes, the signed rows of `node_events`, and the head
of their chain. -/
structure RouteDb (fold : String → String) where
  repo : MySqlRepo fold
  nodeEvents : List EventRow
  head : ChainHead

namespace RouteDb

variable {fold : String → String}

/-- The tables as the schema creates them. -/
def empty (fold : String → String) : RouteDb fold := ⟨.empty fold, [], ⟨0, none⟩⟩

/-! ## One probe -/

/-- `background::confirmed_probe`: a failure is confirmed once. -/
def confirmedProbe (first second : Bool) : Bool := if first then true else second

/-- `append_signed_event_in_tx`: the head, and a row that follows it and is
signed; the row; the new head. -/
def appendSignedEventInTx (L : Libs) (signingKey : Option String) (ev : NewEvent) (draw : Draw) :
    List (RouteDb fold → Option (RouteDb fold)) :=
  [fun db => (signingKey.bind fun key => (rowAfter L key db.head ev draw).sig).map fun _ => db,
    fun db => signingKey.map fun key =>
      { db with nodeEvents := db.nodeEvents ++ [rowAfter L key db.head ev draw] },
    fun db => signingKey.map fun key =>
      { db with head := (rowAfter L key db.head ev draw).asHead }]

/-- `UPDATE nodes SET public_reachable = …, endpoint_verified_dead_at = …`. -/
def setRoute (nodeId : String) (passed : Bool) (nowMs : ℤ) (db : RouteDb fold) : RouteDb fold :=
  match db.repo.applyProbeRouteState nodeId passed nowMs with
  | some (_, repo) => { db with repo := repo }
  | none => db

/-- The statements of a transition. -/
def routeBody (L : Libs) (signingKey : Option String) (nodeId : String) (passed : Bool)
    (ev : NewEvent) (draw : Draw) : List (RouteDb fold → Option (RouteDb fold)) :=
  [some, fun db => some (db.setRoute nodeId passed draw.nowMs)]
    ++ appendSignedEventInTx L signingKey ev draw

/-- `MySqlRepo::apply_probe_route_state`. -/
def applyProbeRouteState (L : Libs) (signingKey : Option String) (server : Server) (draw : Draw)
    (db : RouteDb fold) (nodeId : String) (passed : Bool) : ProbeRouteTransition × RouteDb fold :=
  if !server.begins || server.fails 0 then (.unchanged, db)
  else match db.repo.find nodeId with
    | none => (.unchanged, db)
    | some row =>
      let transition := MySqlRepo.transitionOf row passed
      match MySql.routeEvent nodeId row.publicReachable row.endpointVerifiedDeadAtMs transition with
      | none => (.unchanged, db)
      | some ev =>
        let r := Transaction.run server (routeBody L signingKey nodeId passed ev draw) db
        (if r.1 then transition else .unchanged, r.2)

/-! ## The evidence -/

/-- The route of a node: whether it is reachable, and since when its endpoint
is dead. -/
def route (db : RouteDb fold) (nodeId : String) : Option (Bool × Option ℤ) :=
  (db.repo.find nodeId).map fun row => (row.publicReachable, row.endpointVerifiedDeadAtMs)

/-- The type of the event of a transition. -/
def eventType : ProbeRouteTransition → Option String
  | .restored => some "REACHABILITY_RESTORE"
  | .demoted => some "REACHABILITY_DEMOTE"
  | .unchanged => none

/-- **A transition with its evidence**: the route of the node changes as it
says, one event is appended that says so, and nothing else changes. -/
structure Evidenced (db db' : RouteDb fold) (nodeId : String) (t : ProbeRouteTransition) : Prop where
  changed : db'.route nodeId ≠ db.route nodeId
  reachable : (db'.route nodeId).map Prod.fst = some (t == .restored)
  alive : t = .restored → (db'.route nodeId).map Prod.snd = some none
  event : ∃ row, db'.nodeEvents = db.nodeEvents ++ [row] ∧ some row.eventType = eventType t
    ∧ row.nodeId = nodeId ∧ row.sig.isSome
  others : ∀ other, fold other ≠ fold nodeId → db'.repo.find other = db.repo.find other

theorem route_setRoute (db : RouteDb fold) {nodeId : String} {row : NodeRow}
    (hrow : db.repo.find nodeId = some row) (passed : Bool) (nowMs : ℤ) :
    (db.setRoute nodeId passed nowMs).repo.find nodeId
        = some (MySqlRepo.routeRow nowMs row (MySqlRepo.transitionOf row passed))
      ∧ ∀ other, fold other ≠ fold nodeId →
        (db.setRoute nodeId passed nowMs).repo.find other = db.repo.find other := by
  unfold setRoute
  cases hprobe : db.repo.applyProbeRouteState nodeId passed nowMs with
  | none =>
    unfold MySqlRepo.applyProbeRouteState at hprobe
    rw [hrow] at hprobe
    exact absurd hprobe (by simp)
  | some found =>
    obtain ⟨found, repo⟩ := found
    refine ⟨?_, fun other hne => ?_⟩
    · show repo.find nodeId = _
      rw [(MySqlRepo.find_applyProbeRouteState hprobe nodeId).2, if_pos rfl, hrow]
      rfl
    · show repo.find other = _
      rw [(MySqlRepo.find_applyProbeRouteState hprobe other).2, if_neg hne]

/-- What the statements of a transition leave. -/
theorem of_routeBody {L : Libs} {signingKey : Option String} {nodeId : String} {passed : Bool}
    {ev : NewEvent} {draw : Draw} {db db' : RouteDb fold}
    (h : (routeBody L signingKey nodeId passed ev draw).foldlM (fun s statement => statement s) db
      = some db') :
    ∃ row, row.newEvent = ev ∧ row.sig.isSome ∧ db'.nodeEvents = db.nodeEvents ++ [row]
      ∧ db'.repo = (db.setRoute nodeId passed draw.nowMs).repo := by
  have hevents : (db.setRoute nodeId passed draw.nowMs).nodeEvents = db.nodeEvents := by
    unfold setRoute
    split <;> rfl
  obtain ⟨signed, hsigned, hrest⟩ := Option.bind_eq_some_iff.mp h
  obtain ⟨inserted, hinserted, hrest⟩ := Option.bind_eq_some_iff.mp hrest
  obtain ⟨last, hlast, hend⟩ := Option.bind_eq_some_iff.mp hrest
  obtain rfl := Option.some.inj hend
  dsimp only at hsigned hinserted hlast
  obtain ⟨sig, hsig, rfl⟩ := Option.map_eq_some_iff.mp hsigned
  obtain ⟨key, rfl, hsome⟩ := Option.bind_eq_some_iff.mp hsig
  obtain rfl := Option.some.inj hinserted
  obtain rfl := Option.some.inj hlast
  refine ⟨rowAfter L key (db.setRoute nodeId passed draw.nowMs).head ev draw, rfl, ?_, ?_, rfl⟩
  · rw [hsome]
    rfl
  · rw [← hevents]

/-- **A transition that is committed is evidenced.** -/
theorem evidenced_of_routeBody {L : Libs} {signingKey : Option String} {nodeId : String}
    {passed : Bool} {ev : NewEvent} {draw : Draw} {db db' : RouteDb fold} {row : NodeRow}
    (hrow : db.repo.find nodeId = some row)
    (hev : MySql.routeEvent nodeId row.publicReachable row.endpointVerifiedDeadAtMs
      (MySqlRepo.transitionOf row passed) = some ev)
    (h : (routeBody L signingKey nodeId passed ev draw).foldlM (fun s statement => statement s) db
      = some db') :
    Evidenced db db' nodeId (MySqlRepo.transitionOf row passed) := by
  obtain ⟨appended, hnew, hsig, hevents, hrepo⟩ := of_routeBody h
  obtain ⟨hset, hothers⟩ := route_setRoute db hrow passed draw.nowMs
  rw [← hrepo] at hset hothers
  have hbefore : db.route nodeId = some (row.publicReachable, row.endpointVerifiedDeadAtMs) :=
    congrArg (Option.map _) hrow
  have hafter : db'.route nodeId = some
      ((MySqlRepo.routeRow draw.nowMs row (MySqlRepo.transitionOf row passed)).publicReachable,
        (MySqlRepo.routeRow draw.nowMs row
          (MySqlRepo.transitionOf row passed)).endpointVerifiedDeadAtMs) :=
    congrArg (Option.map _) hset
  have hnode : appended.nodeId = ev.nodeId := congrArg NewEvent.nodeId hnew
  have htype : appended.eventType = ev.eventType := congrArg NewEvent.eventType hnew
  cases ht : MySqlRepo.transitionOf row passed with
  | unchanged =>
    rw [ht] at hev
    exact absurd hev (by simp [MySql.routeEvent])
  | restored =>
    rw [ht] at hev hafter
    obtain rfl := Option.some.inj hev
    refine ⟨?_, ?_, fun _ => ?_, ⟨appended, hevents, congrArg some htype, hnode, hsig⟩, hothers⟩
    · rw [hafter, hbefore]
      intro hsame
      obtain ⟨hpublic, hdead⟩ := Prod.mk.inj (Option.some.inj hsame)
      -- the row said otherwise, or there was nothing to restore
      unfold MySqlRepo.transitionOf MySql.routeTransition at ht
      rw [← hpublic, ← hdead] at ht
      cases passed <;> simp [MySqlRepo.routeRow] at ht
    · rw [hafter]
      rfl
    · rw [hafter]
      rfl
  | demoted =>
    rw [ht] at hev hafter
    obtain rfl := Option.some.inj hev
    refine ⟨?_, ?_, fun h => absurd h (by decide),
      ⟨appended, hevents, congrArg some htype, hnode, hsig⟩, hothers⟩
    · rw [hafter, hbefore, (MySqlRepo.transitionOf_eq_demoted ht).2]
      intro hsame
      exact absurd (Prod.mk.inj (Option.some.inj hsame)).1 Bool.false_ne_true
    · rw [hafter]
      rfl

/-- **What a probe does**: nothing, or a transition with its evidence; which it
answers, unless the answer to the commit was lost. -/
theorem applyProbeRouteState_spec (L : Libs) (signingKey : Option String) (server : Server)
    (draw : Draw) (db : RouteDb fold) (nodeId : String) (passed : Bool) :
    let r := applyProbeRouteState L signingKey server draw db nodeId passed
    r.1 = .unchanged ∧ r.2 = db
      ∨ ∃ t, Evidenced db r.2 nodeId t ∧ (r.1 = t ∨ r.1 = .unchanged ∧ server.commit = .lost) := by
  intro r
  show (applyProbeRouteState L signingKey server draw db nodeId passed).1 = _ ∧ _ ∨ _
  unfold r applyProbeRouteState
  split
  · exact Or.inl ⟨rfl, rfl⟩
  · cases hrow : db.repo.find nodeId with
    | none => exact Or.inl ⟨rfl, rfl⟩
    | some row =>
      dsimp only
      split
      · exact Or.inl ⟨rfl, rfl⟩
      · next ev hev =>
        cases hreached : Transaction.reaches server (routeBody L signingKey nodeId passed ev draw)
            db with
        | none =>
          rw [Transaction.run_of_not_reached hreached]
          exact Or.inl ⟨rfl, rfl⟩
        | some db' =>
          have hevidenced := evidenced_of_routeBody hrow hev (Transaction.foldlM_of_reached hreached)
          rw [Transaction.run_of_reached hreached]
          cases server.commit with
          | done => exact Or.inr ⟨_, hevidenced, Or.inl rfl⟩
          | refused => exact Or.inl ⟨rfl, rfl⟩
          | lost => exact Or.inr ⟨_, hevidenced, Or.inr ⟨rfl, rfl⟩⟩

theorem Evidenced.ne_unchanged {db db' : RouteDb fold} {nodeId : String}
    {t : ProbeRouteTransition} (h : Evidenced db db' nodeId t) : t = .demoted ∨ t = .restored := by
  obtain ⟨row, _, htype, _⟩ := h.event
  cases t with
  | unchanged => exact absurd htype (by simp [eventType])
  | demoted => exact Or.inl rfl
  | restored => exact Or.inr rfl

/-- **The route changes just when the call says so**, unless the answer to its
commit is lost. -/
theorem changed_iff (L : Libs) (signingKey : Option String) {server : Server}
    (hcommit : server.commit ≠ .lost) (draw : Draw) (db : RouteDb fold) (nodeId : String)
    (passed : Bool) :
    (applyProbeRouteState L signingKey server draw db nodeId passed).2.route nodeId
        ≠ db.route nodeId
      ↔ (applyProbeRouteState L signingKey server draw db nodeId passed).1 = .demoted
        ∨ (applyProbeRouteState L signingKey server draw db nodeId passed).1 = .restored := by
  rcases applyProbeRouteState_spec L signingKey server draw db nodeId passed with
    ⟨hunchanged, hsame⟩ | ⟨t, hevidenced, hanswer | ⟨_, hlost⟩⟩
  · rw [hunchanged, hsame]
    simp
  · rw [hanswer]
    exact iff_of_true hevidenced.changed hevidenced.ne_unchanged
  · exact absurd hlost hcommit

/-! ## Runs -/

/-- What an event says of a route. -/
def reachableAfter (eventType : String) : Option Bool :=
  if eventType = "REACHABILITY_RESTORE" then some true
  else if eventType = "REACHABILITY_DEMOTE" then some false
  else none

/-- **What the last event says** of the route of a node. -/
def routeByLog (fold : String → String) (nodeId : String) (rows : List EventRow) : Option Bool :=
  rows.foldl (fun was row =>
    if fold row.nodeId = fold nodeId then (reachableAfter row.eventType).or was else was) none

theorem routeByLog_append (nodeId : String) (rows : List EventRow) (row : EventRow) :
    routeByLog fold nodeId (rows ++ [row])
      = if fold row.nodeId = fold nodeId then
          (reachableAfter row.eventType).or (routeByLog fold nodeId rows)
        else routeByLog fold nodeId rows :=
  List.foldl_append

/-- The row of a node whose operator is restricted. -/
def restrictedRow (nowMs : ℤ) (r : NodeRow) : NodeRow :=
  { r with
    available := false
    publicReachable := false
    status := "archived"
    dormantSinceMs := some (MySqlRepo.wholeSeconds nowMs)
    endpointVerifiedDeadAtMs := some (MySqlRepo.wholeSeconds nowMs) }

/-- `apply_mysql_dsr_restriction`, of the nodes of an operator. -/
def restrict (nodeIds : List String) (nowMs : ℤ) (repo : MySqlRepo fold) : MySqlRepo fold :=
  { repo with
    nodes := repo.nodes.updateWhere (fun r => nodeIds.any fun id => fold id == fold r.id)
      (restrictedRow nowMs) fun _ => rfl }

theorem find_restrict (nodeIds : List String) (nowMs : ℤ) (repo : MySqlRepo fold)
    (nodeId : String) :
    (restrict nodeIds nowMs repo).find nodeId
      = (repo.find nodeId).map fun r =>
          if nodeIds.any (fun id => fold id == fold nodeId) then restrictedRow nowMs r else r := by
  have hkey : ∀ r : NodeRow, fold (restrictedRow nowMs r).id = fold r.id := fun _ => rfl
  refine (Table.find_updateWhere repo.nodes _ (fold nodeId) hkey).trans ?_
  show (repo.find nodeId).map _ = _
  cases hrow : repo.find nodeId with
  | none => rfl
  | some row =>
    have hid : fold row.id = fold nodeId := MySqlRepo.fold_id_of_find hrow
    rw [Option.map_some, Option.map_some, hid]

/-- What happens to the routes: a probe, a registration, a heartbeat, a
removal or a restriction, and an event of another type. -/
inductive RouteAction
  | probe (nodeId : String) (first second : Bool) (draw : Draw)
  | register (p : PendingRegistration)
  | heartbeat (req : MySqlRepo.HeartbeatRequest) (nowMs : ℤ)
  | deregister (nodeId : String)
  | restrict (nodeIds : List String) (nowMs : ℤ)
  | append (key : String) (ev : NewEvent) (draw : Draw)

/-- The tables under a run; no step reads `elsewhere`, the nodes whose flag
something other than a probe has written since the last probe that did. -/
structure RouteState (fold : String → String) where
  db : RouteDb fold
  elsewhere : List String

/-- A directory that starts. -/
def RouteState.empty (fold : String → String) : RouteState fold := ⟨.empty fold, []⟩

/-- What an action does, if the database executes it. -/
def act (L : Libs) (s : RouteState fold) : RouteAction → RouteState fold
  | .probe _ _ _ _ => s
  | .register p => { s with db := { s.db with repo := s.db.repo.registered p } }
  | .heartbeat req nowMs =>
    match s.db.repo.heartbeatOnce req nowMs with
    | none => s
    | some (_, repo) => { s with db := { s.db with repo := repo } }
  | .deregister nodeId =>
    ⟨{ s.db with repo := (s.db.repo.deregister nodeId).2 }, nodeId :: s.elsewhere⟩
  | .restrict nodeIds nowMs =>
    ⟨{ s.db with repo := RouteDb.restrict nodeIds nowMs s.db.repo }, nodeIds ++ s.elsewhere⟩
  | .append key ev draw =>
    -- no other caller appends an event of these types
    if (reachableAfter ev.eventType).isSome then s
    else { s with db := { s.db with
      nodeEvents := s.db.nodeEvents ++ [rowAfter L key s.db.head ev draw]
      head := (rowAfter L key s.db.head ev draw).asHead } }

/-- **One step**, on a directory with or without a signing key. -/
def step (L : Libs) (signingKey : Option String) (s : RouteState fold) (i : Server × RouteAction) :
    RouteState fold :=
  match i.2 with
  | .probe nodeId first second draw =>
    let r := applyProbeRouteState L signingKey i.1 draw s.db nodeId (confirmedProbe first second)
    ⟨r.2,
      if r.2.nodeEvents.length = s.db.nodeEvents.length then s.elsewhere
      else s.elsewhere.filter fun id => fold id ≠ fold nodeId⟩
  | action => if i.1.executes then act L s action else s

/-- **The routes agree with the log**, unless something else has written them;
a node that has no row, and that nothing else has written, is not in the log;
and a route that is reachable is not dead. -/
structure Agrees (s : RouteState fold) : Prop where
  flag : ∀ nodeId reachable dead, (∀ id ∈ s.elsewhere, fold id ≠ fold nodeId) →
    s.db.route nodeId = some (reachable, dead) →
      reachable = (routeByLog fold nodeId s.db.nodeEvents).getD false
  unseen : ∀ nodeId, (∀ id ∈ s.elsewhere, fold id ≠ fold nodeId) → s.db.route nodeId = none →
    routeByLog fold nodeId s.db.nodeEvents = none
  alive : ∀ nodeId dead, s.db.route nodeId = some (true, dead) → dead = none

theorem agrees_empty : Agrees (RouteState.empty fold) where
  flag := fun _ _ _ _ h => absurd h (Option.some_ne_none _).symm
  unseen := fun _ _ _ => rfl
  alive := fun _ _ h => absurd h (Option.some_ne_none _).symm

/-- A step that leaves the routes and what the log says of them. -/
theorem agrees_of_route {s s' : RouteState fold} (h : Agrees s)
    (hroute : ∀ nodeId, s'.db.route nodeId = s.db.route nodeId)
    (hlog : ∀ nodeId, routeByLog fold nodeId s'.db.nodeEvents
      = routeByLog fold nodeId s.db.nodeEvents)
    (helsewhere : s'.elsewhere = s.elsewhere) : Agrees s' := by
  refine ⟨fun nodeId reachable dead hnot hr => ?_, fun nodeId hnot hr => ?_,
    fun nodeId dead hr => ?_⟩
  · rw [hlog]
    rw [helsewhere] at hnot
    exact h.flag nodeId reachable dead hnot ((hroute nodeId).symm.trans hr)
  · rw [hlog]
    rw [helsewhere] at hnot
    exact h.unseen nodeId hnot ((hroute nodeId).symm.trans hr)
  · exact h.alive nodeId dead ((hroute nodeId).symm.trans hr)

theorem route_congr (db : RouteDb fold) {a b : String} (h : fold a = fold b) :
    db.route a = db.route b := by
  unfold route
  rw [db.repo.find_congr h]

/-- A transition with its evidence is what the log then says. -/
theorem agrees_of_evidenced {s : RouteState fold} (h : Agrees s) {db' : RouteDb fold}
    {nodeId : String} {t : ProbeRouteTransition} (hevidenced : Evidenced s.db db' nodeId t) :
    Agrees ⟨db', s.elsewhere.filter fun id => fold id ≠ fold nodeId⟩ := by
  obtain ⟨row, hevents, htype, hnode, _⟩ := hevidenced.event
  have hafter : reachableAfter row.eventType = some (t == .restored) := by
    cases t with
    | unchanged => exact absurd htype (by simp [eventType])
    | demoted =>
      rw [Option.some.inj htype]
      decide
    | restored =>
      rw [Option.some.inj htype]
      decide
  -- another node is as it was, in the rows, in the log and to the others
  have hother : ∀ other, fold other ≠ fold nodeId → db'.route other = s.db.route other
      ∧ routeByLog fold other db'.nodeEvents = routeByLog fold other s.db.nodeEvents
      ∧ ((∀ id ∈ s.elsewhere.filter fun id => fold id ≠ fold nodeId, fold id ≠ fold other) →
        ∀ id ∈ s.elsewhere, fold id ≠ fold other) := by
    intro other hne
    refine ⟨congrArg (Option.map _) (hevidenced.others other hne), ?_, fun hnot id hid heq => ?_⟩
    · rw [hevents, routeByLog_append, hnode, if_neg (Ne.symm hne)]
    · refine hnot id (List.mem_filter.mpr ⟨hid, ?_⟩) heq
      rw [heq]
      exact decide_eq_true hne
  refine ⟨fun other reachable dead hnot hr => ?_, fun other hnot hr => ?_, fun other dead hr => ?_⟩
  · replace hr : db'.route other = some (reachable, dead) := hr
    show reachable = (routeByLog fold other db'.nodeEvents).getD false
    by_cases hid : fold other = fold nodeId
    · rw [hevents, routeByLog_append, hnode, if_pos hid.symm, hafter]
      have hflag := hevidenced.reachable
      rw [← route_congr db' hid, hr] at hflag
      exact Option.some.inj hflag
    · obtain ⟨hroute, hlog, hsub⟩ := hother other hid
      rw [hlog]
      exact h.flag other reachable dead (hsub hnot) (hroute.symm.trans hr)
  · replace hr : db'.route other = none := hr
    show routeByLog fold other db'.nodeEvents = none
    by_cases hid : fold other = fold nodeId
    · have hflag := hevidenced.reachable
      rw [← route_congr db' hid, hr] at hflag
      exact absurd hflag (by simp)
    · obtain ⟨hroute, hlog, hsub⟩ := hother other hid
      rw [hlog]
      exact h.unseen other (hsub hnot) (hroute.symm.trans hr)
  · replace hr : db'.route other = some (true, dead) := hr
    by_cases hid : fold other = fold nodeId
    · rw [route_congr db' hid] at hr
      have hflag := hevidenced.reachable
      rw [hr] at hflag
      have hrestored : t = .restored := by simpa using Option.some.inj hflag
      have halive := hevidenced.alive hrestored
      rw [hr] at halive
      exact Option.some.inj halive
    · exact h.alive other dead ((hother other hid).1.symm.trans hr)

theorem route_heartbeatOnce {repo repo' : MySqlRepo fold} {req : MySqlRepo.HeartbeatRequest}
    {nowMs : ℤ} {row : NodeRow} (h : repo.heartbeatOnce req nowMs = some (row, repo'))
    (db : RouteDb fold) (hdb : db.repo = repo) (nodeId : String) :
    route { db with repo := repo' } nodeId = db.route nodeId := by
  subst hdb
  unfold route
  show (repo'.find nodeId).map _ = _
  rw [(MySqlRepo.find_heartbeatOnce h nodeId).2]
  split
  · cases db.repo.find nodeId <;> rfl
  · rfl

/-- A registration leaves the route of a row that is there, and makes a row
that is not reachable. -/
theorem agrees_register {s : RouteState fold} (h : Agrees s) (p : PendingRegistration) :
    Agrees { s with db := { s.db with repo := s.db.repo.registered p } } := by
  have hroute : ∀ nodeId, route { s.db with repo := s.db.repo.registered p } nodeId
      = if fold nodeId = fold p.nodeId then some ((s.db.route nodeId).getD (false, none))
        else s.db.route nodeId := by
    intro nodeId
    unfold route
    show ((s.db.repo.registered p).find nodeId).map _ = _
    rw [MySqlRepo.find_registered]
    split
    · next hid =>
      rw [s.db.repo.find_congr hid]
      cases s.db.repo.find p.nodeId <;> rfl
    · rfl
  refine ⟨fun nodeId reachable dead hnot hr => ?_, fun nodeId hnot hr => ?_,
    fun nodeId dead hr => ?_⟩
  · replace hr := (hroute nodeId).symm.trans hr
    split at hr
    · cases hold : s.db.route nodeId with
      | none =>
        rw [hold] at hr
        show reachable = (routeByLog fold nodeId s.db.nodeEvents).getD false
        rw [h.unseen nodeId hnot hold]
        exact (Prod.mk.inj (Option.some.inj hr)).1.symm
      | some old =>
        rw [hold] at hr
        exact h.flag nodeId reachable dead hnot (hold.trans hr)
    · exact h.flag nodeId reachable dead hnot hr
  · replace hr := (hroute nodeId).symm.trans hr
    split at hr
    · exact absurd hr (by simp)
    · exact h.unseen nodeId hnot hr
  · replace hr := (hroute nodeId).symm.trans hr
    split at hr
    · cases hold : s.db.route nodeId with
      | none =>
        rw [hold] at hr
        exact absurd (Prod.mk.inj (Option.some.inj hr)).1 Bool.false_ne_true
      | some old =>
        rw [hold] at hr
        exact h.alive nodeId dead (hold.trans hr)
    · exact h.alive nodeId dead hr

/-- What writes rows elsewhere: every node it touches is noted, and left
without a row or not reachable. -/
theorem agrees_of_elsewhere {s : RouteState fold} (h : Agrees s) {repo : MySqlRepo fold}
    (nodeIds : List String)
    (htouched : ∀ nodeId, (∃ id ∈ nodeIds, fold id = fold nodeId) → ∀ dead,
      route { s.db with repo := repo } nodeId ≠ some (true, dead))
    (hothers : ∀ nodeId, (∀ id ∈ nodeIds, fold id ≠ fold nodeId) →
      route { s.db with repo := repo } nodeId = s.db.route nodeId) :
    Agrees ⟨{ s.db with repo := repo }, nodeIds ++ s.elsewhere⟩ := by
  have hsplit : ∀ nodeId, (∀ id ∈ nodeIds ++ s.elsewhere, fold id ≠ fold nodeId) →
      (∀ id ∈ nodeIds, fold id ≠ fold nodeId) ∧ ∀ id ∈ s.elsewhere, fold id ≠ fold nodeId :=
    fun nodeId hnot => ⟨fun id hid => hnot id (List.mem_append_left _ hid),
      fun id hid => hnot id (List.mem_append_right _ hid)⟩
  refine ⟨fun nodeId reachable dead hnot hr => ?_, fun nodeId hnot hr => ?_,
    fun nodeId dead hr => ?_⟩
  · obtain ⟨hnew, hold⟩ := hsplit nodeId hnot
    exact h.flag nodeId reachable dead hold ((hothers nodeId hnew).symm.trans hr)
  · obtain ⟨hnew, hold⟩ := hsplit nodeId hnot
    exact h.unseen nodeId hold ((hothers nodeId hnew).symm.trans hr)
  · by_cases hid : ∃ id ∈ nodeIds, fold id = fold nodeId
    · exact absurd hr (htouched nodeId hid dead)
    · have hnew : ∀ id ∈ nodeIds, fold id ≠ fold nodeId := fun id hmem heq => hid ⟨id, hmem, heq⟩
      exact h.alive nodeId dead ((hothers nodeId hnew).symm.trans hr)

theorem agrees_deregister {s : RouteState fold} (h : Agrees s) (nodeId : String) :
    Agrees ⟨{ s.db with repo := (s.db.repo.deregister nodeId).2 }, nodeId :: s.elsewhere⟩ := by
  have hroute : ∀ other, route { s.db with repo := (s.db.repo.deregister nodeId).2 } other
      = if fold other = fold nodeId then none else s.db.route other := by
    intro other
    show ((s.db.repo.deregister nodeId).2.find other).map _ = _
    rw [MySqlRepo.find_deregister]
    split <;> rfl
  refine agrees_of_elsewhere h [nodeId] ?_ ?_
  · rintro other ⟨id, hid, hsame⟩ dead
    obtain rfl := List.mem_singleton.mp hid
    rw [hroute, if_pos hsame.symm]
    exact (Option.some_ne_none _).symm
  · intro other hne
    rw [hroute, if_neg (Ne.symm (hne nodeId List.mem_cons_self))]

theorem agrees_restrict {s : RouteState fold} (h : Agrees s) (nodeIds : List String) (nowMs : ℤ) :
    Agrees ⟨{ s.db with repo := restrict nodeIds nowMs s.db.repo }, nodeIds ++ s.elsewhere⟩ := by
  have hroute : ∀ nodeId, route { s.db with repo := restrict nodeIds nowMs s.db.repo } nodeId
      = if nodeIds.any (fun id => fold id == fold nodeId) then
          (s.db.route nodeId).map fun _ => (false, some (MySqlRepo.wholeSeconds nowMs))
        else s.db.route nodeId := by
    intro nodeId
    show ((restrict nodeIds nowMs s.db.repo).find nodeId).map _ = _
    rw [find_restrict]
    unfold route
    cases s.db.repo.find nodeId with
    | none => split <;> rfl
    | some row =>
      rw [Option.map_some, Option.map_some]
      split <;> rfl
  refine agrees_of_elsewhere h nodeIds ?_ ?_
  · rintro nodeId ⟨id, hid, hsame⟩ dead
    have hany : nodeIds.any (fun id => fold id == fold nodeId) = true :=
      List.any_eq_true.mpr ⟨id, hid, by simpa using hsame⟩
    rw [hroute, if_pos hany]
    cases s.db.route nodeId <;> simp
  · intro nodeId hne
    have hnone : ¬ nodeIds.any (fun id => fold id == fold nodeId) = true := by
      simpa using fun id hid => hne id hid
    rw [hroute, if_neg hnone]

/-- An event of another type says nothing of a route. -/
theorem agrees_append {s : RouteState fold} (h : Agrees s) {row : EventRow}
    (hother : reachableAfter row.eventType = none) (head : ChainHead) :
    Agrees { s with db := { s.db with
      nodeEvents := s.db.nodeEvents ++ [row]
      head := head } } := by
  refine agrees_of_route h (fun _ => rfl) (fun nodeId => ?_) rfl
  rw [routeByLog_append, hother]
  split <;> rfl

/-- **Every step keeps the routes and the log in agreement.** -/
theorem agrees_step (L : Libs) (signingKey : Option String) (s : RouteState fold)
    (i : Server × RouteAction) (h : Agrees s) : Agrees (step L signingKey s i) := by
  obtain ⟨server, action⟩ := i
  have hact : Agrees (act L s action) := by
    cases action with
    | probe nodeId first second draw => exact h
    | register p => exact agrees_register h p
    | heartbeat req nowMs =>
      unfold act
      dsimp only
      split
      · exact h
      · next hbeat => exact agrees_of_route h (route_heartbeatOnce hbeat s.db rfl) (fun _ => rfl) rfl
    | deregister nodeId => exact agrees_deregister h nodeId
    | restrict nodeIds nowMs => exact agrees_restrict h nodeIds nowMs
    | append key ev draw =>
      unfold act
      dsimp only
      split
      · exact h
      · next hnone => exact agrees_append h (Option.not_isSome_iff_eq_none.mp hnone) _
  have helse : Agrees (if server.executes then act L s action else s) := by
    split
    · exact hact
    · exact h
  cases action with
  | probe nodeId first second draw =>
    rcases applyProbeRouteState_spec L signingKey server draw s.db nodeId
      (confirmedProbe first second) with ⟨_, hsame⟩ | ⟨t, hevidenced, _⟩
    · show Agrees ⟨_, if _ then _ else _⟩
      rw [hsame, if_pos rfl]
      exact h
    · obtain ⟨row, hevents, _⟩ := hevidenced.event
      show Agrees ⟨_, if _ then _ else _⟩
      rw [if_neg (by rw [hevents]; simp)]
      exact agrees_of_evidenced h hevidenced
  | register p => exact helse
  | heartbeat req nowMs => exact helse
  | deregister nodeId => exact helse
  | restrict nodeIds nowMs => exact helse
  | append key ev draw => exact helse

/-- **Routes and evidence.** A probe leaves everything as it was, or makes a
transition with its evidence in one commit; the route changes just when the
call says so, or when the answer to its commit is lost; and over every run
the routes agree with the log. -/
theorem routes_evidenced (fold : String → String) (L : Libs) (signingKey : Option String) :
    (∀ (server : Server) (draw : Draw) (db : RouteDb fold) (nodeId : String) (passed : Bool),
      let r := applyProbeRouteState L signingKey server draw db nodeId passed
      (r.1 = .unchanged ∧ r.2 = db
        ∨ ∃ t, Evidenced db r.2 nodeId t ∧ (r.1 = t ∨ r.1 = .unchanged ∧ server.commit = .lost))
      ∧ (r.2.route nodeId ≠ db.route nodeId ↔ (r.1 = .demoted ∨ r.1 = .restored)
        ∨ server.commit = .lost ∧ ∃ t, Evidenced db r.2 nodeId t))
      ∧ ∀ steps, Agrees (Run.after (step L signingKey) (RouteState.empty fold) steps) := by
  refine ⟨fun server draw db nodeId passed => ?_, fun steps =>
    Run.invariant (agrees_step L signingKey) agrees_empty steps⟩
  intro r
  have hspec := applyProbeRouteState_spec L signingKey server draw db nodeId passed
  refine ⟨hspec, fun hchanged => ?_, fun hsaid => ?_⟩
  · rcases hspec with ⟨_, hsame⟩ | ⟨t, hevidenced, hanswer | ⟨_, hlost⟩⟩
    · exact absurd (congrArg (route · nodeId) hsame) hchanged
    · exact Or.inl (hanswer ▸ hevidenced.ne_unchanged)
    · exact Or.inr ⟨hlost, t, hevidenced⟩
  · rcases hspec with ⟨hunchanged, hsame⟩ | ⟨t, hevidenced, _⟩
    · rcases hsaid with hsaid | ⟨_, t, hevidenced⟩
      · rw [show r.1 = .unchanged from hunchanged] at hsaid
        exact absurd hsaid (by simp)
      · exact hevidenced.changed
    · exact hevidenced.changed

/-- A node has registered and waits for its first probe. -/
def unprobed : RouteDb Sample.lowercase :=
  { RouteDb.empty Sample.lowercase with
    repo := (MySqlRepo.empty Sample.lowercase).registered
      (Sample.registration "n1" "https://n1.test") }

/-- The probe of that node, which passes. -/
def firstProbe (server : Server) : ProbeRouteTransition × RouteDb Sample.lowercase :=
  applyProbeRouteState Sample.libs (some Sample.secretKeyHex) server ⟨"evt-1", 1000⟩ unprobed "n1"
    true

set_option maxRecDepth 8000 in
/-- **A change that the call denies**: the commit is persisted and its answer
lost. -/
theorem denied_of_lost_commit :
    (firstProbe ⟨true, fun _ => false, .lost⟩).1 = .unchanged
      ∧ unprobed.route "n1" = some (false, none)
      ∧ (firstProbe ⟨true, fun _ => false, .lost⟩).2.route "n1" = some (true, none) := by
  decide

end RouteDb
