import IicpDirectory.Foundations.KeepNewest
import IicpDirectory.Health
import IicpDirectory.MySqlStore
import IicpDirectory.Replica.Verify

/-!
# Health observations, in any order

Two replicas may apply the HEALTH events of a log in different orders. The
store keeps the newest observation of every evaluator about every node, so
they should end with the same observations, and `federated_mesh_health`
with the same figures.

A tie breaks either half. Of two equally new observations of one evaluator
about one node the store keeps the first to arrive. Of two equally fresh
observations of a node by different evaluators the aggregate takes the one
listed last. `converges_iff` says that nothing else does – over MySQL, that
the collation of the keys may also keep the spelling that arrived first.
-/

namespace Replica

open Federation Health

/-! ## What events leave in the store -/

/-- The observation a HEALTH event carries, if it is complete. -/
def observationOf (L : Libs) (ev : FederatedEvent) : Option HealthObservation :=
  ev.nodeId.bind fun nodeId =>
    (ev.payload.getStr "evaluator_did").bind fun evaluator =>
      ((ev.payload.get "score").bind Json.asF64).map fun score =>
        ⟨nodeId, evaluator, score, healthEvaluatedAtMs L ev.payload⟩

/-- What a replica is after it applied events. -/
def applied (L : Libs) {σ : Type} [NodeRepository σ] (start : σ) (events : List FederatedEvent) :
    σ :=
  events.foldl (fun repo ev => (applyEvent L repo ev).2) start

/-- **A HEALTH event stores its observation.** -/
theorem snd_applyEvent_health (L : Libs) {σ : Type} [NodeRepository σ] (repo : σ)
    {ev : FederatedEvent} (h : ev.eventType = "HEALTH") :
    (applyEvent L repo ev).2
      = match observationOf L ev with
        | none => repo
        | some o => (NodeRepository.upsertHealthObservation repo o.nodeId o.evaluatorDid o.score
            o.evaluatedAtMs).2 := by
  have hdispatch : applyEvent L repo ev = applyHealth L repo ev := by
    unfold applyEvent
    rw [h, if_neg (by decide), if_neg (by decide), if_pos rfl]
  rw [hdispatch]
  unfold applyHealth observationOf
  cases ev.nodeId with
  | none => rfl
  | some nodeId =>
    dsimp only [Option.bind_some]
    cases ev.payload.getStr "evaluator_did" with
    | none => rfl
    | some evaluator =>
      dsimp only [Option.bind_some]
      cases (ev.payload.get "score").bind Json.asF64 <;> rfl

/-- What an observation is filed under. -/
abbrev observationKey (fold : String → String) (o : HealthObservation) : String × String :=
  (fold o.nodeId, fold o.evaluatorDid)

/-- The key, as it is spelled. -/
def spelling (o : HealthObservation) : String × String := (o.nodeId, o.evaluatorDid)

theorem observationKey_refreshed (fold : String → String) (new old : HealthObservation) :
    observationKey fold (MySqlStore.refreshed new old) = observationKey fold old := by
  unfold observationKey
  rw [(MySqlStore.key_refreshed new old).1, (MySqlStore.key_refreshed new old).2]

/-- The store keeps the newest observation under each key. -/
def observations (fold : String → String) (taken : List HealthObservation) :
    Table (observationKey fold) :=
  KeepNewest.collected (observationKey_refreshed fold) taken

theorem refreshed_lawful : KeepNewest.Lawful spelling (fun o => o.evaluatedAtMs)
    MySqlStore.refreshed where
  tag_merge new old := by
    unfold spelling
    rw [(MySqlStore.key_refreshed new old).1, (MySqlStore.key_refreshed new old).2]
  stale new old h := if_neg (not_lt.mpr h)
  fresh new old h htag := by
    obtain ⟨hnode, hevaluator⟩ := Prod.mk.inj htag
    show (if _ then _ else _) = _
    rw [if_pos h, ← hnode, ← hevaluator]
  time_fresh new old h := by
    show HealthObservation.evaluatedAtMs (if _ then _ else _) = _
    rw [if_pos h]

/-- The store in memory, as the list it is. -/
theorem snd_upsertObservation (o : HealthObservation) {rows : List HealthObservation}
    (hnodup : (rows.map (observationKey id)).Nodup) :
    (InMemoryRepo.upsertObservation o rows).2
      = if observationKey id o ∈ rows.map (observationKey id) then
          rows.map (fun r => if observationKey id r = observationKey id o then
            MySqlStore.refreshed o r else r)
        else rows ++ [o] := by
  induction rows with
  | nil => simp [InMemoryRepo.upsertObservation]
  | cons x xs ih =>
    rw [List.map_cons, List.nodup_cons] at hnodup
    rw [List.map_cons, List.map_cons]
    unfold InMemoryRepo.upsertObservation
    by_cases hx : observationKey id x = observationKey id o
    · have hin : observationKey id o ∈ observationKey id x :: xs.map (observationKey id) :=
        List.mem_cons.mpr (Or.inl hx.symm)
      -- no other row has the key
      have hrest : xs.map (fun r => if observationKey id r = observationKey id o then
          MySqlStore.refreshed o r else r) = xs := by
        refine (List.map_congr_left fun r hr => ?_).trans (List.map_id _)
        exact if_neg fun he => hnodup.1 (List.mem_map.mpr ⟨r, hr, he.trans hx.symm⟩)
      rw [if_pos (show x.nodeId = o.nodeId ∧ x.evaluatorDid = o.evaluatorDid from
        Prod.mk.inj hx), if_pos hin, if_pos hx, hrest]
      unfold MySqlStore.refreshed
      by_cases hle : o.evaluatedAtMs ≤ x.evaluatedAtMs
      · rw [if_pos hle, if_neg (not_lt.mpr hle)]
      · rw [if_neg hle, if_pos (not_le.mp hle)]
    · have hin : observationKey id o ∈ observationKey id x :: xs.map (observationKey id)
          ↔ observationKey id o ∈ xs.map (observationKey id) := by
        rw [List.mem_cons]
        exact or_iff_right fun he => hx he.symm
      rw [if_neg (show ¬ (x.nodeId = o.nodeId ∧ x.evaluatorDid = o.evaluatorDid) from
        fun h => hx (Prod.ext h.1 h.2)), if_neg hx]
      show x :: (InMemoryRepo.upsertObservation o xs).2 = _
      rw [ih hnodup.2]
      by_cases hrest : observationKey id o ∈ xs.map (observationKey id)
      · rw [if_pos hrest, if_pos (hin.mpr hrest)]
      · rw [if_neg hrest, if_neg fun h => hrest (hin.mp h)]
        rfl

/-- The store in memory, as a table. -/
theorem upsertObservation_eq (o : HealthObservation) (t : Table (observationKey id)) :
    (InMemoryRepo.upsertObservation o t.rows).2
      = (t.upsert o (MySqlStore.refreshed o) (observationKey_refreshed id o)).rows := by
  rw [snd_upsertObservation o t.keys_nodup]
  unfold Table.upsert
  by_cases hin : observationKey id o ∈ t.rows.map (observationKey id)
  · rw [if_pos hin, dif_pos hin]
    rfl
  · rw [if_neg hin, dif_neg hin]

/-- **In memory**, the observations after HEALTH events. -/
theorem healthObs_applied (L : Libs) (events : List FederatedEvent)
    (hhealth : ∀ ev ∈ events, ev.eventType = "HEALTH") :
    (applied L InMemoryRepo.empty events).healthObs
      = (observations id (events.filterMap (observationOf L))).rows := by
  have hrun : ∀ (start : InMemoryRepo) (t : Table (observationKey id)), start.healthObs = t.rows →
      (applied L start events).healthObs
        = ((events.filterMap (observationOf L)).foldl (fun t o =>
            t.upsert o (MySqlStore.refreshed o) (observationKey_refreshed id o)) t).rows := by
    induction events with
    | nil => exact fun _ _ h => h
    | cons ev rest ih =>
      intro start t hstart
      have hrest := ih fun ev' hev' => hhealth ev' (List.mem_cons_of_mem _ hev')
      have hstep := snd_applyEvent_health L start (hhealth ev (List.mem_cons_self ..))
      show (applied L (applyEvent L start ev).2 rest).healthObs = _
      rw [hstep]
      cases hev : observationOf L ev with
      | none =>
        rw [List.filterMap_cons_none hev]
        exact hrest start t hstart
      | some o =>
        rw [List.filterMap_cons_some hev, List.foldl_cons]
        refine hrest _ _ ?_
        show (InMemoryRepo.upsertObservation o start.healthObs).2 = _
        rw [hstart, upsertObservation_eq]
  exact hrun .empty (.empty _) rfl

/-- The observation of an event, where the columns take it. -/
def fittingObservationOf (L : Libs) (ev : FederatedEvent) : Option HealthObservation :=
  (observationOf L ev).filter MySqlStore.fitsObservation

/-- **Over MySQL**, the observations after HEALTH events, where the server
answers. -/
theorem healthObservations_applied (L : Libs) (fold : String → String) (hashed : Bool) (nowMs : ℤ)
    (tombstone : String) (events : List FederatedEvent)
    (hhealth : ∀ ev ∈ events, ev.eventType = "HEALTH") :
    (@applied L _ (MySqlStore.repository hashed .willing nowMs tombstone) (MySqlStore.empty fold)
        events).healthObservations
      = observations fold (events.filterMap (fittingObservationOf L)) := by
  let _ : NodeRepository (MySqlStore fold) :=
    MySqlStore.repository hashed .willing nowMs tombstone
  have hrun : ∀ (start : MySqlStore fold),
      (applied L start events).healthObservations
        = (events.filterMap (fittingObservationOf L)).foldl (fun t o =>
            t.upsert o (MySqlStore.refreshed o) (observationKey_refreshed fold o))
              start.healthObservations := by
    induction events with
    | nil => exact fun _ => rfl
    | cons ev rest ih =>
      intro start
      have hrest := ih fun ev' hev' => hhealth ev' (List.mem_cons_of_mem _ hev')
      have hstep := snd_applyEvent_health L start (hhealth ev (List.mem_cons_self ..))
      show (applied L (applyEvent L start ev).2 rest).healthObservations = _
      rw [hstep]
      cases hev : observationOf L ev with
      | none =>
        have hnone : fittingObservationOf L ev = none := by
          rw [fittingObservationOf, hev]
          rfl
        rw [List.filterMap_cons_none hnone]
        exact hrest start
      | some o =>
        have hfit : fittingObservationOf L ev
            = if MySqlStore.fitsObservation o then some o else none := by
          rw [fittingObservationOf, hev]
          rfl
        have hupsert : (start.upsertHealthObservation .willing o.nodeId o.evaluatorDid o.score
              o.evaluatedAtMs).2
            = if MySqlStore.fitsObservation o then
                { start with
                  healthObservations := start.healthObservations.upsert o (MySqlStore.refreshed o)
                    (observationKey_refreshed fold o) }
              else start := by
          refine (Transaction.snd_single _ _ _).trans ?_
          show (if _ then ((if MySqlStore.fitsObservation o then _ else none :
            Option (Bool × MySqlStore fold)).map Prod.snd).getD start else start) = _
          cases MySqlStore.fitsObservation o <;> rfl
        show (applied L (start.upsertHealthObservation .willing o.nodeId o.evaluatorDid o.score
          o.evaluatedAtMs).2 rest).healthObservations = _
        rw [hrest, hupsert]
        cases hfits : MySqlStore.fitsObservation o with
        | true =>
          rw [hfits, if_pos rfl] at hfit
          rw [List.filterMap_cons_some hfit, List.foldl_cons, if_pos rfl]
        | false =>
          rw [hfits, if_neg Bool.false_ne_true] at hfit
          rw [List.filterMap_cons_none hfit, if_neg Bool.false_ne_true]
  exact hrun _

/-! ## Ties -/

section Ties

variable (fold : String → String) (taken : List HealthObservation)

/-- No observation under the same key is newer. -/
def Stands (o : HealthObservation) : Prop :=
  o ∈ taken ∧ ∀ x ∈ taken, observationKey fold x = observationKey fold o →
    x.evaluatedAtMs ≤ o.evaluatedAtMs

instance : DecidablePred (Stands fold taken) := fun o =>
  inferInstanceAs (Decidable (o ∈ taken ∧ ∀ x ∈ taken, observationKey fold x = observationKey fold o →
    x.evaluatedAtMs ≤ o.evaluatedAtMs))

/-- **Nothing is in conflict**: keys the tables do not tell apart are spelled
alike, and of each key there is one newest observation. -/
structure Unconflicted : Prop where
  spelled : ∀ a ∈ taken, ∀ b ∈ taken, observationKey fold a = observationKey fold b →
    spelling a = spelling b
  newest : ∀ a b, Stands fold taken a → Stands fold taken b →
    observationKey fold a = observationKey fold b → a = b

/-- The newest observation of each key. -/
def latest : List HealthObservation := (taken.filter (fun o => Stands fold taken o)).dedup

variable {fold taken}

theorem mem_latest {o : HealthObservation} : o ∈ latest fold taken ↔ Stands fold taken o := by
  unfold latest
  rw [List.mem_dedup, List.mem_filter, decide_eq_true_iff]
  exact and_iff_right_of_imp fun h => h.1

theorem newest_under_iff (o : HealthObservation) (k : String × String) :
    KeepNewest.Newest (fun o => o.evaluatedAtMs)
        (KeepNewest.under (observationKey fold) k taken) o
      ↔ Stands fold taken o ∧ observationKey fold o = k := by
  unfold KeepNewest.Newest Stands
  simp only [KeepNewest.mem_under]
  constructor
  · rintro ⟨⟨hmem, rfl⟩, hmax⟩
    exact ⟨⟨hmem, fun x hx hk => hmax x ⟨hx, hk⟩⟩, rfl⟩
  · rintro ⟨⟨hmem, hmax⟩, rfl⟩
    exact ⟨⟨hmem, rfl⟩, fun x hx => hmax x hx.1 hx.2⟩

theorem unconflicted_iff :
    (∀ k, KeepNewest.Agree spelling (fun o => o.evaluatedAtMs)
        (KeepNewest.under (observationKey fold) k taken))
      ↔ Unconflicted fold taken := by
  constructor
  · intro h
    refine ⟨fun a ha b hb hk => ?_, fun a b ha hb hk => ?_⟩
    · exact (h (observationKey fold b)).tags a (KeepNewest.mem_under.mpr ⟨ha, hk⟩) b
        (KeepNewest.mem_under.mpr ⟨hb, rfl⟩)
    · exact (h (observationKey fold b)).newest a b ((newest_under_iff a _).mpr ⟨ha, hk⟩)
        ((newest_under_iff b _).mpr ⟨hb, rfl⟩)
  · intro h k
    refine ⟨fun a ha b hb => ?_, fun a b ha hb => ?_⟩
    · obtain ⟨hamem, hak⟩ := KeepNewest.mem_under.mp ha
      obtain ⟨hbmem, hbk⟩ := KeepNewest.mem_under.mp hb
      exact h.spelled a hamem b hbmem (hak.trans hbk.symm)
    · obtain ⟨hastands, hak⟩ := (newest_under_iff a k).mp ha
      obtain ⟨hbstands, hbk⟩ := (newest_under_iff b k).mp hb
      exact h.newest a b hastands hbstands (hak.trans hbk.symm)

theorem nodup_rows (first : List HealthObservation) : (observations fold first).rows.Nodup :=
  (observations fold first).keys_nodup.of_map _

/-- Without conflict the store holds the newest of each key, whatever the
order. -/
theorem rows_perm_latest (h : Unconflicted fold taken) {first : List HealthObservation}
    (hfirst : first.Perm taken) : (observations fold first).rows.Perm (latest fold taken) := by
  have hnodup : (latest fold taken).Nodup := List.nodup_dedup _
  refine (List.perm_ext_iff_of_nodup (nodup_rows first) hnodup).mpr fun o => ?_
  have hagree : ∀ k, KeepNewest.Agree spelling (fun o => o.evaluatedAtMs)
      (KeepNewest.under (observationKey fold) k first) := fun k =>
    KeepNewest.agree_perm (hfirst.symm.filter _) (unconflicted_iff.mpr h k)
  rw [mem_latest]
  refine (KeepNewest.mem_rows_iff_newest (observationKey_refreshed fold) refreshed_lawful hagree
    o).trans ?_
  have hunder : (KeepNewest.under (observationKey fold) (observationKey fold o) first).Perm
      (KeepNewest.under (observationKey fold) (observationKey fold o) taken) := hfirst.filter _
  exact (KeepNewest.newest_perm hunder o).trans
    ((newest_under_iff o _).trans (and_iff_left rfl))

theorem oneEach_rows (first : List HealthObservation) : OneEach (observations fold first).rows := by
  have hkeys := (observations fold first).keys_nodup
  have hfold : (observations fold first).rows.map (observationKey fold)
      = ((observations fold first).rows.map (fun o => (o.nodeId, o.evaluatorDid))).map
        (fun p => (fold p.1, fold p.2)) := by
    rw [List.map_map]
    rfl
  rw [hfold] at hkeys
  exact hkeys.of_map _

/-! ## Which of the freshest -/

variable (obs : List HealthObservation)

/-- An observation of a node than which none is fresher. -/
def FreshestOf (n : String) (o : HealthObservation) : Prop :=
  o ∈ groupOf n obs ∧ ∀ x ∈ groupOf n obs, x.evaluatedAtMs ≤ o.evaluatedAtMs

/-- A choice of a freshest observation of each node. -/
def Picks (newest : String → HealthObservation) : Prop :=
  ∀ o ∈ obs, FreshestOf obs o.nodeId (newest o.nodeId)

/-- **The ties are hidden**: whichever of the freshest observations count,
the figures are the same. -/
def TiesHidden : Prop :=
  ∀ newest newest', Picks obs newest → Picks obs newest' →
    figuresWith .inserted newest obs = figuresWith .inserted newest' obs

/-- **The ties agree**: where the freshest observation of a node counts,
because there are too few evaluators or no majority, all that are freshest
have the same score, to three decimals. -/
def TiesAgree : Prop :=
  ∀ n a b, FreshestOf obs n a → FreshestOf obs n b →
    evaluators (groupOf n obs) < healthQuorum ∨ majority .inserted (groupOf n obs) = none →
    round3 a.score = round3 b.score

variable {obs}

theorem tiesHidden_of_agree (h : TiesAgree obs) : TiesHidden obs := by
  intro newest newest' hpicks hpicks'
  unfold figuresWith
  congr 2
  refine List.map_congr_left fun n hn => ?_
  obtain ⟨o, ho, rfl⟩ := mem_nodes.mp ((MapOrder.inserted.groups_perm _).mem_iff.mp hn)
  have hround := h o.nodeId _ _ (hpicks o ho) (hpicks' o ho)
  unfold resolveWith
  by_cases hfew : evaluators (groupOf o.nodeId obs) < healthQuorum
  · rw [if_pos hfew, if_pos hfew, hround (Or.inl hfew)]
  · rw [if_neg hfew, if_neg hfew]
    cases hmajority : majority .inserted (groupOf o.nodeId obs) with
    | some scores => rfl
    | none =>
      dsimp only
      rw [hround (Or.inr hmajority)]

theorem freshestOf_perm {first second : List HealthObservation} (hperm : first.Perm second)
    (n : String) (o : HealthObservation) : FreshestOf first n o ↔ FreshestOf second n o := by
  have hgroup : (groupOf n first).Perm (groupOf n second) := hperm.filter _
  unfold FreshestOf
  rw [hgroup.mem_iff]
  exact and_congr_right fun _ => forall_congr' fun x => by rw [hgroup.mem_iff]

/-- However the observations are listed, there is a choice of the freshest of
each node among them. -/
theorem exists_newest {obs listed : List HealthObservation} (hperm : listed.Perm obs) :
    ∃ newest, Picks obs newest
      ∧ ∀ o ∈ listed, freshest (groupOf o.nodeId listed) = some (newest o.nodeId) := by
  obtain ⟨newest, hnewest⟩ : ∃ newest : String → HealthObservation,
      ∀ o ∈ listed, freshest (groupOf o.nodeId listed) = some (newest o.nodeId) := by
    refine ⟨fun n => (freshest (groupOf n listed)).getD ⟨n, n, 0, 0⟩, fun o ho => ?_⟩
    obtain ⟨b, hb⟩ := freshest_isSome (List.ne_nil_of_mem (mem_groupOf.mpr ⟨ho, rfl⟩))
    dsimp only
    rw [hb, Option.getD_some]
  refine ⟨newest, fun o ho => ?_, hnewest⟩
  exact (freshestOf_perm hperm _ _).mp (freshest_spec (hnewest o (hperm.mem_iff.mpr ho)))

/-- However the observations are listed, the figures are those of some
choice. -/
theorem exists_picks (order : MapOrder) {listed : List HealthObservation}
    (hone : OneEach listed) (hperm : listed.Perm obs) :
    ∃ newest, Picks obs newest
      ∧ federatedMeshHealth order listed = figuresWith .inserted newest obs := by
  obtain ⟨newest, hpicks, hnewest⟩ := exists_newest hperm
  refine ⟨newest, hpicks, ?_⟩
  rw [federatedMeshHealth_eq order hnewest]
  exact figuresWith_perm order .inserted newest hperm hone

/-- **Every choice is made by some order**: that in which the chosen arrive
last. -/
theorem exists_order (h : Unconflicted fold taken) {newest : String → HealthObservation}
    (hpicks : Picks (latest fold taken) newest) :
    ∃ arrived : List HealthObservation, arrived.Perm taken ∧ ∀ order,
      federatedMeshHealth order (observations fold arrived).rows
        = figuresWith .inserted newest (latest fold taken) := by
  obtain ⟨chosen, hchosen⟩ : ∃ chosen : HealthObservation → Bool, ∀ o, chosen o = true
      ↔ observationKey fold o = observationKey fold (newest o.nodeId) :=
    ⟨fun o => decide (observationKey fold o = observationKey fold (newest o.nodeId)),
      fun _ => decide_eq_true_iff⟩
  have harrived : (taken.filter (fun o => !chosen o) ++ taken.filter chosen).Perm taken :=
    List.perm_append_comm.trans (List.filter_append_perm chosen taken)
  refine ⟨_, harrived, fun order => ?_⟩
  -- being chosen is a matter of the key
  have hkey : ∀ a ∈ taken, ∀ b ∈ taken, observationKey fold a = observationKey fold b →
      chosen a = chosen b := by
    intro a ha b hb hab
    have hnode := (Prod.mk.inj (h.spelled a ha b hb hab)).1
    rw [Bool.eq_iff_iff, hchosen, hchosen, hab, hnode]
  have hrows : (observations fold (taken.filter (fun o => !chosen o) ++ taken.filter chosen)).rows
      = (observations fold (taken.filter (fun o => !chosen o))).rows
        ++ (observations fold (taken.filter chosen)).rows := by
    refine KeepNewest.rows_collected_append (observationKey_refreshed fold) _ _ fun a ha b hb hab => ?_
    obtain ⟨hamem, hnot⟩ := List.mem_filter.mp ha
    obtain ⟨hbmem, hyes⟩ := List.mem_filter.mp hb
    rw [hkey a hamem b hbmem hab, hyes] at hnot
    exact absurd hnot (by decide)
  have hlatest := rows_perm_latest h harrived
  have hone : OneEach (observations fold
      (taken.filter (fun o => !chosen o) ++ taken.filter chosen)).rows := oneEach_rows _
  have hnodup : (observations fold
      (taken.filter (fun o => !chosen o) ++ taken.filter chosen)).rows.Nodup := nodup_rows _
  rw [hrows] at hlatest hone hnodup ⊢
  -- a row of either part is chosen exactly if it is in the second
  have hpart : ∀ part : List HealthObservation, part ⊆ taken →
      ∀ o ∈ (observations fold part).rows, o ∈ latest fold taken →
        ∃ a ∈ part, chosen a = chosen o := by
    intro part hsub o ho hmem
    have hin := (KeepNewest.mem_keys_iff (observationKey_refreshed fold) part
      (observationKey fold o)).mp (List.mem_map_of_mem ho)
    obtain ⟨a, ha, hao⟩ := List.mem_map.mp hin
    exact ⟨a, ha, hkey a (hsub ha) o (mem_latest.mp hmem).1 hao⟩
  have hfirst : ∀ o ∈ (observations fold (taken.filter (fun o => !chosen o))).rows,
      chosen o = false := by
    intro o ho
    obtain ⟨a, ha, hao⟩ := hpart _ (fun _ hx => List.mem_of_mem_filter hx) o ho
      (hlatest.mem_iff.mp (List.mem_append_left _ ho))
    rw [← hao]
    exact Bool.not_eq_true' _ ▸ (List.mem_filter.mp ha).2
  have hsecond : ∀ o ∈ (observations fold (taken.filter chosen)).rows, chosen o = true := by
    intro o ho
    obtain ⟨a, ha, hao⟩ := hpart _ (fun _ hx => List.mem_of_mem_filter hx) o ho
      (hlatest.mem_iff.mp (List.mem_append_right _ ho))
    rw [← hao]
    exact (List.mem_filter.mp ha).2
  refine (@federatedMeshHealth_eq order _ newest fun o ho => ?_).trans
    (figuresWith_perm order .inserted newest hlatest hone)
  obtain ⟨hmem, hmax⟩ := hpicks o (hlatest.mem_iff.mp ho)
  obtain ⟨hnewest, hnode⟩ := mem_groupOf.mp hmem
  -- the node's row in the second part is the one that was chosen
  have hlast : groupOf o.nodeId (observations fold (taken.filter chosen)).rows
      = [newest o.nodeId] := by
    refine List.eq_singleton_of_nodup ((List.nodup_append.mp hnodup).2.1.filter _) ?_ ?_
    · intro x hx
      obtain ⟨hxrow, hxnode⟩ := mem_groupOf.mp hx
      have hxkey := (hchosen x).mp (hsecond x hxrow)
      rw [hxnode] at hxkey
      exact h.newest x _ (mem_latest.mp (hlatest.mem_iff.mp (List.mem_append_right _ hxrow)))
        (mem_latest.mp hnewest) hxkey
    · refine mem_groupOf.mpr ⟨?_, hnode⟩
      rcases List.mem_append.mp (hlatest.mem_iff.mpr hnewest) with hin | hin
      · have hnot := hfirst _ hin
        rw [← Bool.not_eq_true, hchosen, hnode] at hnot
        exact absurd rfl hnot
      · exact hin
  unfold groupOf at hlast ⊢
  rw [List.filter_append, hlast]
  refine freshest_of_last fun x hx => hmax x ?_
  obtain ⟨hxrow, hxnode⟩ := mem_groupOf.mp hx
  exact mem_groupOf.mpr ⟨hlatest.mem_iff.mp (List.mem_append_left _ hxrow), hxnode⟩

end Ties

/-! ## Convergence -/

/-- **HEALTH events converge**: in whatever two orders they are applied from
a start, and however what is stored is listed and the maps iterated, the
observations are the same and so are the figures. -/
def Converges (L : Libs) {σ : Type} [NodeRepository σ] (start : σ)
    (lists : σ → List HealthObservation → Prop) (events : List FederatedEvent) : Prop :=
  ∀ first second : List FederatedEvent, first.Perm events → second.Perm events →
    ∀ (order order' : MapOrder) (obs obs' : List HealthObservation),
      lists (applied L start first) obs → lists (applied L start second) obs' →
        (∀ o, o ∈ obs ↔ o ∈ obs')
          ∧ federatedMeshHealth order obs = federatedMeshHealth order' obs'

/-- In memory the observations are listed as they are kept. -/
def listsInMemory (repo : InMemoryRepo) (obs : List HealthObservation) : Prop :=
  obs = repo.healthObs

/-- A table is listed in any order: the query names none. -/
def listsMySql {fold : String → String} (s : MySqlStore fold) (obs : List HealthObservation) :
    Prop :=
  obs.Perm s.healthObservations.rows

section Converges

variable {L : Libs} {σ : Type} [NodeRepository σ] {start : σ}
  {lists : σ → List HealthObservation → Prop} {fold : String → String}
  {take : FederatedEvent → Option HealthObservation} {events : List FederatedEvent}

/-- **When events converge**, in a repository that keeps the newest
observations the events carry and lists them all, in the order they came
in or in others as well. -/
theorem converges_of_table
    (hsome : ∀ first : List FederatedEvent, first.Perm events →
      lists (applied L start first) (observations fold (first.filterMap take)).rows)
    (hall : ∀ first : List FederatedEvent, first.Perm events → ∀ obs,
      lists (applied L start first) obs →
        obs.Perm (observations fold (first.filterMap take)).rows) :
    Converges L start lists events
      ↔ Unconflicted fold (events.filterMap take)
        ∧ TiesHidden (latest fold (events.filterMap take)) := by
  constructor
  · intro hconverges
    have hunconflicted : Unconflicted fold (events.filterMap take) := by
      rw [← unconflicted_iff]
      refine (KeepNewest.rows_perm_iff (observationKey_refreshed fold) refreshed_lawful _).mp ?_
      intro first second hfirst hsecond
      obtain ⟨events₁, hevents₁, rfl⟩ := List.exists_perm_filterMap take hfirst
      obtain ⟨events₂, hevents₂, rfl⟩ := List.exists_perm_filterMap take hsecond
      exact (hconverges events₁ events₂ hevents₁ hevents₂ .inserted .inserted _ _
        (hsome events₁ hevents₁) (hsome events₂ hevents₂)).1
    refine ⟨hunconflicted, fun newest newest' hpicks hpicks' => ?_⟩
    obtain ⟨first, hfirst, hfigures⟩ := exists_order hunconflicted hpicks
    obtain ⟨second, hsecond, hfigures'⟩ := exists_order hunconflicted hpicks'
    obtain ⟨events₁, hevents₁, rfl⟩ := List.exists_perm_filterMap take hfirst
    obtain ⟨events₂, hevents₂, rfl⟩ := List.exists_perm_filterMap take hsecond
    rw [← hfigures .inserted, ← hfigures' .inserted]
    exact (hconverges events₁ events₂ hevents₁ hevents₂ .inserted .inserted _ _
      (hsome events₁ hevents₁) (hsome events₂ hevents₂)).2
  · rintro ⟨hunconflicted, hhidden⟩ first second hfirst hsecond order order' obs obs' hobs hobs'
    have hrows : ∀ part : List FederatedEvent, part.Perm events → ∀ listed,
        lists (applied L start part) listed →
          listed.Perm (latest fold (events.filterMap take)) ∧ OneEach listed := by
      intro part hpart listed hlisted
      have hperm := hall part hpart listed hlisted
      exact ⟨hperm.trans (rows_perm_latest hunconflicted (hpart.filterMap take)),
        (hperm.map _).nodup_iff.mpr (oneEach_rows _)⟩
    obtain ⟨hperm, hone⟩ := hrows first hfirst obs hobs
    obtain ⟨hperm', hone'⟩ := hrows second hsecond obs' hobs'
    obtain ⟨newest, hpicks, hfigures⟩ := exists_picks order hone hperm
    obtain ⟨newest', hpicks', hfigures'⟩ := exists_picks order' hone' hperm'
    refine ⟨fun o => (hperm.trans hperm'.symm).mem_iff, ?_⟩
    rw [hfigures, hfigures']
    exact hhidden newest newest' hpicks hpicks'

end Converges

/-- **When HEALTH events converge**, in both repositories: nothing is in
conflict, and the ties are hidden, as they are where they agree. -/
theorem converges_iff (L : Libs) {events : List FederatedEvent}
    (hhealth : ∀ ev ∈ events, ev.eventType = "HEALTH") :
    (Converges L InMemoryRepo.empty listsInMemory events
        ↔ Unconflicted id (events.filterMap (observationOf L))
          ∧ TiesHidden (latest id (events.filterMap (observationOf L))))
      ∧ (∀ (fold : String → String) (hashed : Bool) (nowMs : ℤ) (tombstone : String),
        @Converges L _ (MySqlStore.repository hashed .willing nowMs tombstone)
            (MySqlStore.empty fold) listsMySql events
          ↔ Unconflicted fold (events.filterMap (fittingObservationOf L))
            ∧ TiesHidden (latest fold (events.filterMap (fittingObservationOf L))))
      ∧ ∀ obs, TiesAgree obs → TiesHidden obs := by
  have hpart : ∀ first : List FederatedEvent, first.Perm events →
      ∀ ev ∈ first, ev.eventType = "HEALTH" :=
    fun first hfirst ev hev => hhealth ev (hfirst.mem_iff.mp hev)
  refine ⟨converges_of_table (fun first hfirst => ?_) (fun first hfirst obs hobs => ?_),
    fun fold hashed nowMs tombstone => ?_, fun obs => tiesHidden_of_agree⟩
  · exact (healthObs_applied L first (hpart first hfirst)).symm
  · rw [show obs = (applied L InMemoryRepo.empty first).healthObs from hobs,
      healthObs_applied L first (hpart first hfirst)]
  · let _ : NodeRepository (MySqlStore fold) :=
      MySqlStore.repository hashed .willing nowMs tombstone
    have hrows : ∀ first : List FederatedEvent, first.Perm events →
        (applied L (MySqlStore.empty fold) first).healthObservations
          = observations fold (first.filterMap (fittingObservationOf L)) := fun first hfirst =>
      healthObservations_applied L fold hashed nowMs tombstone first (hpart first hfirst)
    refine converges_of_table (fun first hfirst => ?_) (fun first hfirst obs hobs => ?_)
    · show List.Perm _ (applied L (MySqlStore.empty fold) first).healthObservations.rows
      rw [hrows first hfirst]
    · rw [← hrows first hfirst]
      exact hobs

end Replica

namespace Sample

open Replica Federation

/-- An evaluator's report on a node. -/
def healthEvent (nodeId evaluator : String) (score : ℚ) (evaluatedAtMs : ℕ) : FederatedEvent where
  eventId := "evt-h"
  eventType := "HEALTH"
  serviceId := none
  seq := 1
  tsMs := 1000
  nodeId := some nodeId
  payload := .object [("evaluator_did", .string evaluator), ("score", .number (.float score)),
    ("evaluated_at_ms", .number (.posInt evaluatedAtMs))]
  prevHash := none
  sig := none
  signerDid := none

/-- Two evaluators report, one after the other. -/
def reports : List FederatedEvent :=
  [healthEvent "n1" "e1" (9 / 10) 1000, healthEvent "n1" "e2" (1 / 10) 2000]

/-- One evaluator reports twice for one time. -/
def contradiction : List FederatedEvent :=
  [healthEvent "n1" "e1" (9 / 10) 1000, healthEvent "n1" "e1" (1 / 10) 1000]

/-- Two evaluators report for one time. -/
def tie : List FederatedEvent :=
  [healthEvent "n1" "e1" (9 / 10) 1000, healthEvent "n1" "e2" (1 / 10) 1000]

end Sample

namespace Replica

open Federation Health

theorem converges_sample : Converges Sample.libs InMemoryRepo.empty listsInMemory Sample.reports := by
  obtain ⟨hiff, _, hties⟩ := @converges_iff Sample.libs Sample.reports (by decide)
  have htaken : Sample.reports.filterMap (observationOf Sample.libs)
      = [⟨"n1", "e1", 9 / 10, 1000⟩, ⟨"n1", "e2", 1 / 10, 2000⟩] := by decide +kernel
  rw [hiff, htaken]
  refine ⟨⟨by decide, fun a b ha hb hk => ?_⟩, hties _ fun n a b ha hb _ => ?_⟩
  · have hone : ∀ a ∈ [(⟨"n1", "e1", 9 / 10, 1000⟩ : HealthObservation), ⟨"n1", "e2", 1 / 10, 2000⟩],
        ∀ b ∈ [(⟨"n1", "e1", 9 / 10, 1000⟩ : HealthObservation), ⟨"n1", "e2", 1 / 10, 2000⟩],
          observationKey id a = observationKey id b → a = b := by decide +kernel
    exact hone a ha.1 b hb.1 hk
  · have htimes : ∀ a ∈ [(⟨"n1", "e1", 9 / 10, 1000⟩ : HealthObservation), ⟨"n1", "e2", 1 / 10, 2000⟩],
        ∀ b ∈ [(⟨"n1", "e1", 9 / 10, 1000⟩ : HealthObservation), ⟨"n1", "e2", 1 / 10, 2000⟩],
          a.evaluatedAtMs = b.evaluatedAtMs → a = b := by decide +kernel
    have hsame : a = b := htimes a (mem_latest.mp (mem_groupOf.mp ha.1).1).1 b
      (mem_latest.mp (mem_groupOf.mp hb.1).1).1 (le_antisymm (hb.2 a ha.1) (ha.2 b hb.1))
    rw [hsame]

/-- **Ties break convergence**: with two reports of one evaluator for one
time the stored score depends on the order; with reports of two evaluators
for one time the figures do, in memory by the order of arrival and over
MySQL by that in which the rows are listed. -/
theorem ties_diverge :
    ¬ Converges Sample.libs InMemoryRepo.empty listsInMemory Sample.contradiction
      ∧ ¬ Converges Sample.libs InMemoryRepo.empty listsInMemory Sample.tie
      ∧ ¬ @Converges Sample.libs _ (MySqlStore.repository true .willing 1000 "tombstone")
        (MySqlStore.empty id) listsMySql Sample.tie := by
  refine ⟨fun h => ?_, fun h => ?_, fun h => ?_⟩
  · have hsame := (h Sample.contradiction Sample.contradiction.reverse (.refl _)
      (List.reverse_perm _) .inserted .inserted _ _ rfl rfl).1 ⟨"n1", "e1", 9 / 10, 1000⟩
    exact absurd hsame (by decide +kernel)
  · have hsame := (h Sample.tie Sample.tie.reverse (.refl _) (List.reverse_perm _) .inserted
      .inserted _ _ rfl rfl).2
    exact absurd hsame (by decide +kernel)
  · have hsame := (h Sample.tie Sample.tie.reverse (.refl _) (List.reverse_perm _) .inserted
      .inserted _ _ (.refl _) (.refl _)).2
    exact absurd hsame (by decide +kernel)

end Replica
