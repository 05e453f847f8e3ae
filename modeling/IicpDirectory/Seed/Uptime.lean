import IicpDirectory.Seed.Liveness

/-!
# The uptime a log tells

How long a node was up is read off the log: an `EVICT` ends a time it was
up, a `REACTIVATE` begins the next. For that the two must take turns, an
`EVICT` first, and the last of them must say the status the node has.

Of the operations that change a status some write the event in their own
transaction, one writes it in a later call, and some write none. A node that
is dormant or archived and registers again is active without an event, and
so is an archived node that is heard of. An `UPDATE` that fails is logged as
if it had not, and a heartbeat that comes between the `UPDATE` and the event
is logged before it. In the runs where none of this happens the log tells
the truth (`uptime_alternates`).
-/

open Liveness

namespace Uptime

variable {fold : String → String}

/-- The evictions and reactivations of a node, in the order of the log. -/
def uptimeEvents (fold : String → String) (nodeId : String) (log : List NewEvent) : List String :=
  (log.filter (fun ev => fold ev.nodeId == fold nodeId
    && (ev.eventType == "EVICT" || ev.eventType == "REACTIVATE"))).map NewEvent.eventType

/-- **They take turns**, an eviction first. -/
def Alternate (types : List String) : Prop :=
  ∀ i type, types[i]? = some type → type = if i % 2 = 0 then "EVICT" else "REACTIVATE"

theorem alternate_nil : Alternate [] := by
  intro i type h
  exact absurd h (by simp)

theorem alternate_snoc {types : List String} (h : Alternate types) {type : String}
    (htype : type = if types.length % 2 = 0 then "EVICT" else "REACTIVATE") :
    Alternate (types ++ [type]) := by
  intro i t ht
  by_cases hi : i < types.length
  · rw [List.getElem?_append_left hi] at ht
    exact h i t ht
  · rw [List.getElem?_append_right (not_lt.mp hi)] at ht
    obtain ⟨hlt, rfl⟩ := List.getElem?_eq_some_iff.mp ht
    rw [List.length_singleton] at hlt
    have hlen : i = types.length := by omega
    rw [List.getElem_singleton, hlen, htype]

/-- The last of them is a reactivation, or there is none, when their number is
even. -/
theorem last_iff {types : List String} (h : Alternate types) :
    (types.getLast? = none ∨ types.getLast? = some "REACTIVATE") ↔ types.length % 2 = 0 := by
  rcases List.eq_nil_or_concat types with rfl | ⟨earlier, last, rfl⟩
  · exact ⟨fun _ => rfl, fun _ => Or.inl rfl⟩
  · have hlast := h earlier.length last (by simp)
    rw [List.concat_eq_append, List.getLast?_append_cons, List.getLast?_singleton,
      List.length_append, List.length_singleton]
    by_cases hparity : earlier.length % 2 = 0
    · rw [if_pos hparity] at hlast
      subst hlast
      constructor
      · rintro (hnone | hsome)
        · exact absurd hnone (by simp)
        · exact absurd (Option.some.inj hsome) (by decide)
      · intro hsucc
        omega
    · rw [if_neg hparity] at hlast
      exact ⟨fun _ => by omega, fun _ => Or.inr (congrArg some hlast)⟩

/-! ## A node and its log -/

/-- **A node and its log agree.** Its status, if it is there, the events of
its uptime, and whether one is due: it was made dormant, and its eviction is
not logged. -/
structure Agrees (status : Option String) (types : List String) (due : Prop) : Prop where
  alternate : Alternate types
  absent : status = none → types = [] ∧ ¬ due
  listed : ∀ st, status = some st → (st = "active" ↔ types.length % 2 = 0 ∧ ¬ due)
  even_of_due : due → types.length % 2 = 0

variable {status : Option String} {types : List String} {due : Prop}

theorem agrees_empty (h : ¬ due) : Agrees none [] due where
  alternate := alternate_nil
  absent := fun _ => ⟨rfl, h⟩
  listed := fun _ hst => absurd hst (by simp)
  even_of_due := fun hdue => absurd hdue h

/-- A node registers, or is active and stays so. -/
theorem Agrees.activated (h : Agrees status types due)
    (hstatus : ∀ st, status = some st → st = "active") : Agrees (some "active") types due := by
  cases hs : status with
  | some st =>
    obtain rfl := hstatus st hs
    rwa [hs] at h
  | none =>
    obtain ⟨rfl, hdue⟩ := h.absent hs
    exact ⟨alternate_nil, fun hn => absurd hn (by simp), fun st hst =>
      ⟨fun _ => ⟨rfl, hdue⟩, fun _ => (Option.some.inj hst).symm⟩, fun hd => absurd hd hdue⟩

/-- A dormant node is heard of. -/
theorem Agrees.reactivated (h : Agrees (some "dormant") types due) (hdue : ¬ due) :
    Agrees (some "active") (types ++ ["REACTIVATE"]) due := by
  have hodd : ¬ types.length % 2 = 0 := fun heven =>
    absurd ((h.listed "dormant" rfl).mpr ⟨heven, hdue⟩) (by decide)
  refine ⟨alternate_snoc h.alternate (if_neg hodd).symm, fun hn => absurd hn (by simp),
    fun st hst => ?_, fun hd => absurd hd hdue⟩
  obtain rfl := Option.some.inj hst
  rw [List.length_append, List.length_singleton]
  exact ⟨fun _ => ⟨by omega, hdue⟩, fun _ => rfl⟩

/-- An active node is made dormant. -/
theorem Agrees.demoted (h : Agrees (some "active") types due) {due' : Prop} (hdue : due') :
    Agrees (some "dormant") types due' := by
  have heven := ((h.listed "active" rfl).mp rfl).1
  refine ⟨h.alternate, fun hn => absurd hn (by simp), fun st hst => ?_, fun _ => heven⟩
  obtain rfl := Option.some.inj hst
  exact ⟨fun he => absurd he (by decide), fun hand => absurd hdue hand.2⟩

/-- Its eviction is logged. -/
theorem Agrees.evicted (h : Agrees status types due) (hdue : due) {due' : Prop}
    (hdue' : ¬ due') : Agrees status (types ++ ["EVICT"]) due' := by
  have heven := h.even_of_due hdue
  refine ⟨alternate_snoc h.alternate (if_pos heven).symm, fun hn => absurd hdue (h.absent hn).2,
    fun st hst => ?_, fun hd => absurd hd hdue'⟩
  rw [List.length_append, List.length_singleton, h.listed st hst]
  exact ⟨fun hand => absurd hdue hand.2, fun hand => absurd heven (by omega)⟩

/-- A dormant node is archived. -/
theorem Agrees.archived (h : Agrees (some "dormant") types due) :
    Agrees (some "archived") types due := by
  refine ⟨h.alternate, fun hn => absurd hn (by simp), fun st hst => ?_, h.even_of_due⟩
  obtain rfl := Option.some.inj hst
  have hdormant := h.listed "dormant" rfl
  exact ⟨fun he => absurd he (by decide),
    fun hand => absurd (hdormant.mpr hand) (by decide)⟩

/-! ## The invariant -/

/-- The events of the log. -/
def logged (s : State fold) : List NewEvent := s.log.map EventRow.newEvent

/-- An eviction of the node is due: the sweep made it dormant, and has not
logged it. -/
def Due (s : State fold) (nodeId : String) : Prop :=
  ∃ id ∈ s.sweep.outstanding, fold id = fold nodeId

/-- **The condition on a step**: what registers is new or active; what is
heard of is active, or dormant and its eviction logged; the `UPDATE` of a
sweep is executed, and its events are appended. -/
def Steady (s : State fold) : Action → Prop
  | .register p _ => ∀ row, s.repo.find p.nodeId = some row → row.status = "active"
  | .heartbeat req _ _ _ => ∀ row, s.repo.find req.nodeId = some row →
      row.status = "active" ∨ row.status = "dormant" ∧ ¬ Due s req.nodeId
  | .update _ executed => executed = true
  | .logEvict _ draw => draw.isSome = true
  | _ => True

/-- **The invariant**: every node and its log agree; a sweep selects a node
once, and what it has selected is active. -/
structure Inv (s : State fold) : Prop where
  agrees : ∀ nodeId, Agrees ((s.repo.find nodeId).map NodeRow.status)
    (uptimeEvents fold nodeId (logged s)) (Due s nodeId)
  once : (s.sweep.ids.map fold).Nodup
  active : ∀ ids, s.sweep = .selected ids → ∀ id ∈ ids,
    (s.repo.find id).map NodeRow.status = some "active"

/-- The events of a step follow those of the log. -/
theorem logged_step (L : Libs) (key : String) (s : State fold) (a : Action) :
    logged (step L key s a) = logged s ++ (events s a).map Prod.fst :=
  Reputation.log_foldl_appended L key s.log (events s a)

theorem uptimeEvents_append (fold : String → String) (nodeId : String)
    (earlier later : List NewEvent) :
    uptimeEvents fold nodeId (earlier ++ later)
      = uptimeEvents fold nodeId earlier ++ uptimeEvents fold nodeId later := by
  unfold uptimeEvents
  rw [List.filter_append, List.map_append]

/-- Events of other types say nothing of the uptime. -/
theorem uptimeEvents_of_other {nodeId : String} {evs : List NewEvent}
    (h : ∀ ev ∈ evs, ev.eventType ≠ "EVICT" ∧ ev.eventType ≠ "REACTIVATE") :
    uptimeEvents fold nodeId evs = [] := by
  have hnone : evs.filter (fun ev => fold ev.nodeId == fold nodeId
      && (ev.eventType == "EVICT" || ev.eventType == "REACTIVATE")) = [] := by
    refine List.filter_eq_nil_iff.mpr fun ev hev => ?_
    obtain ⟨hevict, hreactivate⟩ := h ev hev
    simp [hevict, hreactivate]
  unfold uptimeEvents
  rw [hnone]
  rfl

/-- An eviction or a reactivation says it of its node. -/
theorem uptimeEvents_singleton {ev : NewEvent}
    (h : ev.eventType = "EVICT" ∨ ev.eventType = "REACTIVATE") (nodeId : String) :
    uptimeEvents fold nodeId [ev] = if fold nodeId = fold ev.nodeId then [ev.eventType] else [] := by
  have htype : (ev.eventType == "EVICT" || ev.eventType == "REACTIVATE") = true := by
    simpa using h
  unfold uptimeEvents
  by_cases hfold : fold nodeId = fold ev.nodeId
  · rw [if_pos hfold, List.filter_cons_of_pos (by rw [htype, hfold]; simp)]
    rfl
  · have hne : fold ev.nodeId ≠ fold nodeId := fun he => hfold he.symm
    rw [if_neg hfold, List.filter_cons_of_neg (by simp [hne])]
    rfl

/-- The step of an action, told by what it writes and what its events say of
a node. -/
theorem agrees_step {L : Libs} {key : String} {s : State fold} {a : Action} {nodeId : String}
    {evs : List String} (hevs : uptimeEvents fold nodeId ((events s a).map Prod.fst) = evs)
    (h : Agrees (((write s a).repo.find nodeId).map NodeRow.status)
      (uptimeEvents fold nodeId (logged s) ++ evs) (Due (write s a) nodeId)) :
    Agrees (((step L key s a).repo.find nodeId).map NodeRow.status)
      (uptimeEvents fold nodeId (logged (step L key s a))) (Due (step L key s a) nodeId) := by
  rw [logged_step, uptimeEvents_append, hevs]
  exact h

/-- A step that neither changes the status of a node nor says anything of
it. -/
theorem agrees_quiet {L : Libs} {key : String} {s : State fold} (h : Inv s) {a : Action}
    {nodeId : String}
    (hstatus : ((write s a).repo.find nodeId).map NodeRow.status
      = (s.repo.find nodeId).map NodeRow.status)
    (hevs : uptimeEvents fold nodeId ((events s a).map Prod.fst) = [])
    (hdue : Due (write s a) nodeId ↔ Due s nodeId) :
    Agrees (((step L key s a).repo.find nodeId).map NodeRow.status)
      (uptimeEvents fold nodeId (logged (step L key s a))) (Due (step L key s a) nodeId) := by
  refine agrees_step hevs ?_
  rw [hstatus, List.append_nil, propext hdue]
  exact h.agrees nodeId

/-- A step that does nothing. -/
theorem inv_of_write_eq {L : Libs} {key : String} {s : State fold} (h : Inv s) {a : Action}
    (hwrite : write s a = s) (hevents : events s a = []) : Inv (step L key s a) := by
  refine ⟨fun nodeId => agrees_quiet h (by rw [hwrite]) (by rw [hevents]; rfl) (by rw [hwrite]),
    ?_, ?_⟩
  · show ((write s a).sweep.ids.map fold).Nodup
    rw [hwrite]
    exact h.once
  · show ∀ ids, (write s a).sweep = .selected ids → ∀ id ∈ ids,
      ((write s a).repo.find id).map NodeRow.status = some "active"
    rw [hwrite]
    exact h.active

/-! ## The steps -/

variable {L : Libs} {key : String} {s : State fold}

/-- A status is found under every name of a node. -/
theorem status_congr (s : State fold) {a b : String} (h : fold a = fold b) :
    (s.repo.find a).map NodeRow.status = (s.repo.find b).map NodeRow.status := by
  rw [s.repo.find_congr h]

theorem inv_register (h : Inv s) (p : PendingRegistration) (draw : Option Draw)
    (ha : Steady s (.register p draw)) : Inv (step L key s (.register p draw)) := by
  have hstatus : ∀ nodeId, ((write s (.register p draw)).repo.find nodeId).map NodeRow.status
      = if fold nodeId = fold p.nodeId then some "active"
        else (s.repo.find nodeId).map NodeRow.status := by
    intro nodeId
    rw [find_register]
    split
    · cases s.repo.find nodeId <;> rfl
    · rfl
  have hnone : ∀ nodeId, uptimeEvents fold nodeId ((events s (.register p draw)).map Prod.fst)
      = [] := by
    intro nodeId
    refine uptimeEvents_of_other fun ev hev => ?_
    cases draw with
    | none => exact absurd hev List.not_mem_nil
    | some d =>
      obtain rfl := List.mem_singleton.mp hev
      exact ⟨show "REGISTER" ≠ "EVICT" by decide,
        show "REGISTER" ≠ "REACTIVATE" by decide⟩
  refine ⟨fun nodeId => agrees_step (hnone nodeId) ?_, h.once, fun ids hids id hid => ?_⟩
  · have hagrees := h.agrees nodeId
    rw [List.append_nil, hstatus]
    split
    · rename_i hfold
      refine hagrees.activated fun st hst => ?_
      rw [status_congr s hfold] at hst
      obtain ⟨row, hrow, rfl⟩ := Option.map_eq_some_iff.mp hst
      exact ha row hrow
    · exact hagrees
  · have hactive := h.active ids hids id hid
    refine (hstatus id).trans ?_
    split
    · rfl
    · exact hactive

/-- The event a heartbeat logs in its transaction says that the node is up, if
it is the node's and the node was dormant. -/
theorem uptimeEvents_reactivation (row : NodeRow) (req : MySqlRepo.HeartbeatRequest) (nowMs : ℤ)
    (nodeId : String) :
    uptimeEvents fold nodeId (MySqlRepo.reactivation row req nowMs).toList
      = if fold nodeId = fold req.nodeId ∧ row.status = "dormant" then ["REACTIVATE"] else [] := by
  unfold MySqlRepo.reactivation
  by_cases hdormant : row.status = "dormant"
  · rw [if_pos hdormant, Option.toList_some, uptimeEvents_singleton (Or.inr rfl)]
    simp only [hdormant, and_true]
    rfl
  · rw [if_neg hdormant, if_neg (fun hand => hdormant hand.2)]
    rfl

/-- What a heartbeat says of the uptime of a node. -/
theorem uptimeEvents_heartbeat (s : State fold) (req : MySqlRepo.HeartbeatRequest) (nowMs : ℤ)
    (reactivated : Draw) (lateDraw : Option Draw) (nodeId : String) :
    uptimeEvents fold nodeId
        ((events s (.heartbeat req nowMs reactivated lateDraw)).map Prod.fst)
      = if fold nodeId = fold req.nodeId
            ∧ (s.repo.find nodeId).map NodeRow.status = some "dormant" then ["REACTIVATE"]
        else [] := by
  unfold events Reputation.effect
  dsimp only
  cases hbeat : s.repo.heartbeatOnce req nowMs with
  | none =>
    have hgone : s.repo.find req.nodeId = none := Option.map_eq_none_iff.mp hbeat
    rw [if_neg]
    · rfl
    · rintro ⟨hfold, hdormant⟩
      rw [s.repo.find_congr hfold, hgone] at hdormant
      exact absurd hdormant (by simp)
  | some found =>
    obtain ⟨row, repo'⟩ := found
    have hrow := (MySqlRepo.find_heartbeatOnce hbeat nodeId).1
    have hreport : uptimeEvents fold nodeId
        ((lateDraw.bind fun d => (MySqlRepo.reputationUpdate row req nowMs).map
          fun ev => (ev, d)).toList.map Prod.fst) = [] := by
      refine uptimeEvents_of_other fun ev hev => ?_
      cases lateDraw with
      | none => exact absurd hev List.not_mem_nil
      | some d =>
        unfold MySqlRepo.reputationUpdate at hev
        split at hev
        · obtain rfl := List.mem_singleton.mp hev
          exact ⟨show "REPUTATION_UPDATE" ≠ "EVICT" by decide,
            show "REPUTATION_UPDATE" ≠ "REACTIVATE" by decide⟩
        · exact absurd hev List.not_mem_nil
    have hmap : ((MySqlRepo.reactivation row req nowMs).map
        fun ev => (ev, reactivated)).toList.map Prod.fst
          = (MySqlRepo.reactivation row req nowMs).toList := by
      cases MySqlRepo.reactivation row req nowMs <;> rfl
    dsimp only
    rw [List.map_append, uptimeEvents_append, hreport, List.append_nil, hmap,
      uptimeEvents_reactivation]
    by_cases hfold : fold nodeId = fold req.nodeId
    · simp only [s.repo.find_congr hfold, hrow, Option.map_some, Option.some.injEq]
    · rw [if_neg (fun hand => hfold hand.1), if_neg (fun hand => hfold hand.1)]

theorem inv_heartbeat (h : Inv s) (req : MySqlRepo.HeartbeatRequest) (nowMs : ℤ)
    (reactivated : Draw) (lateDraw : Option Draw)
    (ha : Steady s (.heartbeat req nowMs reactivated lateDraw)) :
    Inv (step L key s (.heartbeat req nowMs reactivated lateDraw)) := by
  have hfind := find_heartbeat s req nowMs reactivated lateDraw
  refine ⟨fun nodeId => agrees_step (uptimeEvents_heartbeat s req nowMs reactivated lateDraw
    nodeId) ?_, h.once, fun ids hids id hid => ?_⟩
  · have hagrees := h.agrees nodeId
    by_cases hfold : fold nodeId = fold req.nodeId
    · rw [hfind, if_pos hfold]
      cases hrow : s.repo.find nodeId with
      | none =>
        rw [if_neg (fun hand => absurd hand.2 (by simp)), List.append_nil]
        rwa [hrow] at hagrees
      | some row =>
        rw [hrow, Option.map_some] at hagrees
        show Agrees (some "active") _ _
        rcases ha row ((s.repo.find_congr hfold).symm.trans hrow) with hactive | ⟨hdormant, hdue⟩
        · rw [if_neg, List.append_nil]
          · rwa [hactive] at hagrees
          · rintro ⟨_, hd⟩
            rw [Option.map_some, hactive] at hd
            exact absurd (Option.some.inj hd) (by decide)
        · rw [if_pos ⟨hfold, by rw [Option.map_some, hdormant]⟩]
          rw [hdormant] at hagrees
          refine hagrees.reactivated ?_
          rintro ⟨id, hid, hname⟩
          exact hdue ⟨id, hid, hname.trans hfold⟩
    · rw [hfind, if_neg hfold, if_neg (fun hand => hfold hand.1), List.append_nil]
      exact hagrees
  · have hactive := h.active ids hids id hid
    show ((write s (.heartbeat req nowMs reactivated lateDraw)).repo.find id).map _ = _
    rw [hfind]
    split
    · obtain ⟨row, hrow, _⟩ := Option.map_eq_some_iff.mp hactive
      rw [hrow]
      rfl
    · exact hactive

theorem inv_select (h : Inv s) (nowMs : ℤ) (answered : Bool) :
    Inv (step L key s (.select nowMs answered)) := by
  rcases write_select s nowMs answered with hwrite | ⟨hidle, sweep, hwrite, hnone, honce, hstale⟩
  · exact inv_of_write_eq h hwrite rfl
  · have hdue : ∀ nodeId, Due (write s (.select nowMs answered)) nodeId ↔ Due s nodeId := by
      intro nodeId
      unfold Due
      rw [hwrite, hidle]
      show (∃ id ∈ sweep.outstanding, _) ↔ ∃ id ∈ ([] : List String), _
      rw [hnone]
    refine ⟨fun nodeId => agrees_quiet h (by rw [hwrite]) rfl (hdue nodeId), ?_, ?_⟩
    · show ((write s (.select nowMs answered)).sweep.ids.map fold).Nodup
      rw [hwrite]
      exact honce
    · show ∀ ids, (write s (.select nowMs answered)).sweep = .selected ids → ∀ id ∈ ids,
        ((write s (.select nowMs answered)).repo.find id).map NodeRow.status = some "active"
      rw [hwrite]
      rintro ids rfl id hid
      obtain ⟨row, hrow, hactive⟩ := hstale id hid
      unfold MySqlRepo.stale at hactive
      rw [Bool.and_eq_true, beq_iff_eq] at hactive
      show (s.repo.find id).map NodeRow.status = some "active"
      rw [hrow, Option.map_some, hactive.1]

/-- Once a sweep logs, its events are due for the nodes it has in hand. -/
theorem due_iff_of_logging {s : State fold} {ids : List String}
    (hsweep : s.sweep = Sweep.logging ids) (nodeId : String) :
    Due s nodeId ↔ ∃ id ∈ ids, fold id = fold nodeId := by
  unfold Due
  rw [hsweep, Sweep.outstanding_logging]

/-- The invariant behind a step that leaves a sweep logging: nothing is
selected any more. -/
theorem inv_of_logging {a : Action} {ids : List String}
    (hsweep : (write s a).sweep = Sweep.logging ids) (honce : (ids.map fold).Nodup)
    (hagrees : ∀ nodeId, Agrees (((step L key s a).repo.find nodeId).map NodeRow.status)
      (uptimeEvents fold nodeId (logged (step L key s a))) (Due (step L key s a) nodeId)) :
    Inv (step L key s a) := by
  refine ⟨hagrees, ?_, fun later hlater => ?_⟩
  · show ((write s a).sweep.ids.map fold).Nodup
    rwa [hsweep, Sweep.ids_logging]
  · replace hlater : (write s a).sweep = .selected later := hlater
    rw [hsweep] at hlater
    cases ids <;> exact absurd hlater (by simp [Sweep.logging])

theorem inv_update (h : Inv s) (nowMs : ℤ) (executed : Bool)
    (ha : Steady s (.update nowMs executed)) : Inv (step L key s (.update nowMs executed)) := by
  obtain rfl : executed = true := ha
  rcases write_update s nowMs true with hkept | ⟨ids, hsweep, hwrite⟩
  · exact inv_of_write_eq h hkept rfl
  · rw [if_pos rfl] at hwrite
    have hnot : ∀ nodeId, ¬ Due s nodeId := by
      rintro nodeId ⟨id, hid, _⟩
      rw [hsweep] at hid
      exact absurd hid List.not_mem_nil
    have hlogging : (write s (.update nowMs true)).sweep = Sweep.logging ids := by rw [hwrite]
    have hstatus : ∀ nodeId, ((write s (.update nowMs true)).repo.find nodeId).map NodeRow.status
        = if ids.any (fun id => fold id == fold nodeId) then
            (s.repo.find nodeId).map (fun _ => "dormant")
          else (s.repo.find nodeId).map NodeRow.status := by
      intro nodeId
      rw [hwrite]
      show ((s.repo.markDormant ids nowMs).find nodeId).map NodeRow.status = _
      rw [MySqlRepo.find_markDormant, Option.map_map]
      split
      · rfl
      · rfl
    have honce := h.once
    rw [hsweep] at honce
    refine inv_of_logging hlogging honce fun nodeId => ?_
    by_cases hin : ∃ id ∈ ids, fold id = fold nodeId
    · have hany : ids.any (fun id => fold id == fold nodeId) = true := by simpa using hin
      obtain ⟨id, hid, hname⟩ := hin
      have hactive := h.active ids hsweep id hid
      rw [status_congr s hname] at hactive
      have hagrees := h.agrees nodeId
      rw [hactive] at hagrees
      refine agrees_step (show uptimeEvents fold nodeId
        ((events s (.update nowMs true)).map Prod.fst) = [] from rfl) ?_
      rw [hstatus, if_pos hany]
      obtain ⟨row, hrow, _⟩ := Option.map_eq_some_iff.mp hactive
      rw [hrow, List.append_nil]
      exact hagrees.demoted ((due_iff_of_logging hlogging nodeId).mpr ⟨id, hid, hname⟩)
    · have hany : ¬ ids.any (fun id => fold id == fold nodeId) = true := by simpa using hin
      refine agrees_quiet h ?_ rfl ?_
      · rw [hstatus, if_neg hany]
      · rw [due_iff_of_logging hlogging]
        exact iff_of_false hin (hnot nodeId)

theorem inv_logEvict (h : Inv s) (nowMs : ℤ) (draw : Option Draw)
    (ha : Steady s (.logEvict nowMs draw)) : Inv (step L key s (.logEvict nowMs draw)) := by
  obtain ⟨d, rfl⟩ := Option.isSome_iff_exists.mp ha
  rcases write_logEvict s nowMs (some d) with ⟨hkept, hnone⟩ | ⟨first, rest, hsweep, hwrite, hevents⟩
  · exact inv_of_write_eq h hkept hnone
  · have hevs : ∀ nodeId, uptimeEvents fold nodeId
        ((events s (.logEvict nowMs (some d))).map Prod.fst)
          = if fold nodeId = fold first then ["EVICT"] else [] := by
      intro nodeId
      rw [hevents]
      exact uptimeEvents_singleton (Or.inl rfl) nodeId
    have honce : (fold first :: rest.map fold).Nodup := by
      have honce := h.once
      rwa [hsweep] at honce
    have hlogging : (write s (.logEvict nowMs (some d))).sweep = Sweep.logging rest := by
      rw [hwrite]
    have hbefore : ∀ nodeId, Due s nodeId
        ↔ fold first = fold nodeId ∨ ∃ id ∈ rest, fold id = fold nodeId := by
      intro nodeId
      unfold Due
      rw [hsweep]
      exact List.exists_mem_cons_iff _ _ _
    refine inv_of_logging hlogging (List.nodup_cons.mp honce).2 fun nodeId => ?_
    by_cases hfold : fold nodeId = fold first
    · have hlogged : ¬ Due (write s (.logEvict nowMs (some d))) nodeId := by
        rw [due_iff_of_logging hlogging]
        rintro ⟨id, hid, hname⟩
        -- the sweep has it in hand once
        exact (List.nodup_cons.mp honce).1 (List.mem_map.mpr ⟨id, hid, hname.trans hfold⟩)
      refine agrees_step ((hevs nodeId).trans (if_pos hfold)) ?_
      have hagrees := (h.agrees nodeId).evicted ((hbefore nodeId).mpr (Or.inl hfold.symm)) hlogged
      rwa [show (write s (.logEvict nowMs (some d))).repo = s.repo by rw [hwrite]]
    · refine agrees_quiet h (by rw [hwrite]) ((hevs nodeId).trans (if_neg hfold)) ?_
      rw [due_iff_of_logging hlogging, hbefore]
      exact (or_iff_right (fun he => hfold he.symm)).symm

theorem inv_archive (h : Inv s) (nowMs : ℤ) (days : ℕ) :
    Inv (step L key s (.archive nowMs days)) := by
  have hfind : ∀ nodeId, (write s (.archive nowMs days)).repo.find nodeId = _ :=
    fun nodeId => MySqlRepo.find_archiveDormant s.repo nowMs days nodeId
  have hevs : ∀ nodeId, uptimeEvents fold nodeId
      ((events s (.archive nowMs days)).map Prod.fst) = [] := fun _ => rfl
  -- an active row is not archived
  have hactive : ∀ row : NodeRow, row.status = "active" →
      MySqlRepo.longDormant nowMs days row = false := by
    intro row hrow
    unfold MySqlRepo.longDormant
    rw [hrow]
    exact Bool.false_and _
  refine ⟨fun nodeId => agrees_step (hevs nodeId) ?_, h.once, fun ids hids id hid => ?_⟩
  · have hagrees := h.agrees nodeId
    rw [hfind, List.append_nil]
    cases hrow : s.repo.find nodeId with
    | none => rwa [hrow] at hagrees
    | some row =>
      rw [hrow, Option.map_some] at hagrees
      rw [Option.map_some, Option.map_some]
      split
      · rename_i hlong
        unfold MySqlRepo.longDormant at hlong
        rw [Bool.and_eq_true, beq_iff_eq] at hlong
        rw [hlong.1] at hagrees
        exact hagrees.archived
      · exact hagrees
  · obtain ⟨row, hrow, hstatus⟩ := Option.map_eq_some_iff.mp (h.active ids hids id hid)
    show ((write s (.archive nowMs days)).repo.find id).map NodeRow.status = some "active"
    rw [hfind, hrow, Option.map_some, hactive row hstatus]
    exact congrArg some hstatus

/-- **Every step that meets the condition keeps the invariant.** -/
theorem inv_step (L : Libs) (key : String) (s : State fold) (a : Action) (h : Inv s)
    (ha : Steady s a) : Inv (step L key s a) := by
  cases a with
  | register p draw => exact inv_register h p draw ha
  | heartbeat req nowMs reactivated lateDraw =>
    exact inv_heartbeat h req nowMs reactivated lateDraw ha
  | select nowMs answered => exact inv_select h nowMs answered
  | update nowMs executed => exact inv_update h nowMs executed ha
  | logEvict nowMs draw => exact inv_logEvict h nowMs draw ha
  | archive nowMs days => exact inv_archive h nowMs days

theorem inv_empty : Inv (State.empty fold) where
  agrees := by
    intro nodeId
    refine agrees_empty ?_
    rintro ⟨id, hid, _⟩
    exact absurd hid List.not_mem_nil
  once := List.nodup_nil
  active := fun _ hids => absurd hids (by simp [State.empty])

/-- **The log tells the truth of a node**: its evictions and reactivations take
turns, an eviction first, and – unless an eviction is due – it is active
exactly if the last of them is a reactivation, or there is none. -/
def Truthful (s : State fold) (nodeId : String) : Prop :=
  Alternate (uptimeEvents fold nodeId (logged s))
    ∧ (¬ Due s nodeId → ∀ row, s.repo.find nodeId = some row →
        (row.status = "active"
          ↔ (uptimeEvents fold nodeId (logged s)).getLast? = none
            ∨ (uptimeEvents fold nodeId (logged s)).getLast? = some "REACTIVATE"))

/-- **The log tells the truth** in the runs in which no dormant or archived
node registers, none is heard of that is archived or whose eviction is due,
every `UPDATE` of a sweep is executed, and every eviction appended. -/
theorem uptime_alternates (L : Libs) (key : String) (fold : String → String)
    (actions : List Action) (h : Run.Along (step L key) Steady (State.empty fold) actions)
    (nodeId : String) :
    Truthful (Run.after (step L key) (State.empty fold) actions) nodeId := by
  have hinv := Run.invariant_along (inv_step L key) inv_empty h
  have hagrees := hinv.agrees nodeId
  refine ⟨hagrees.alternate, fun hdue row hrow => ?_⟩
  have hlisted := hagrees.listed row.status (by rw [hrow, Option.map_some])
  rw [last_iff hagrees.alternate, hlisted]
  exact and_iff_left hdue

end Uptime

namespace Sample

/-- The node of the sweep registers again when it was evicted. -/
def registeredAfterwards : List Action :=
  sweepBegins ++ [.update 201000 true, .logEvict 201000 (some ⟨"evt-3", 201000⟩),
    .register (registration "n1" "https://n1.test") (some ⟨"evt-4", 202000⟩)]

end Sample

namespace Uptime

/-- The node that is heard of afterwards is active, and the last event says
so. -/
theorem uptime_alternates_sample :
    Truthful (Run.after (step Sample.libs Sample.secretKeyHex)
      (State.empty Sample.lowercase) Sample.heardAfterwards) "n1" := by
  refine uptime_alternates Sample.libs Sample.secretKeyHex Sample.lowercase Sample.heardAfterwards
    ?_ "n1"
  -- the statuses before its registration and its two heartbeats
  have hnew : (State.empty Sample.lowercase).repo.find "n1" = none := rfl
  have hactive : ((Run.after (step Sample.libs Sample.secretKeyHex) (State.empty Sample.lowercase)
      (Sample.sweepBegins.take 1)).repo.find "n1").map NodeRow.status = some "active" := by
    decide
  have hdormant : ((Run.after (step Sample.libs Sample.secretKeyHex)
      (State.empty Sample.lowercase) (Sample.heardAfterwards.take 5)).repo.find "n1").map
        NodeRow.status = some "dormant" := by
    decide
  refine ⟨fun row hrow => absurd (hnew.symm.trans hrow) (by simp), fun row hrow => Or.inl ?_,
    trivial, rfl, rfl, fun row hrow => Or.inr ⟨?_, ?_⟩, trivial⟩
  · exact Option.some.inj (((congrArg (Option.map NodeRow.status) hrow).symm).trans hactive)
  · exact Option.some.inj (((congrArg (Option.map NodeRow.status) hrow).symm).trans hdormant)
  · rintro ⟨id, hid, _⟩
    exact absurd hid List.not_mem_nil

/-- **A node that registers again is active, and the log says it is not.** -/
theorem registered_node_evicted :
    ¬ Truthful (Run.after (step Sample.libs Sample.secretKeyHex)
      (State.empty Sample.lowercase) Sample.registeredAfterwards) "n1" := by
  rintro ⟨_, h⟩
  have hdue : ¬ Due (Run.after (step Sample.libs Sample.secretKeyHex)
      (State.empty Sample.lowercase) Sample.registeredAfterwards) "n1" := by
    rintro ⟨id, hid, _⟩
    exact absurd hid List.not_mem_nil
  have hlast : (uptimeEvents Sample.lowercase "n1" (logged (Run.after
      (step Sample.libs Sample.secretKeyHex) (State.empty Sample.lowercase)
      Sample.registeredAfterwards))).getLast? = some "EVICT" := by
    decide
  have hlisted := (h hdue _ rfl).mp (by decide)
  rw [hlast] at hlisted
  rcases hlisted with hnone | hsome
  · exact absurd hnone (by simp)
  · exact absurd (Option.some.inj hsome) (by decide)

end Uptime
