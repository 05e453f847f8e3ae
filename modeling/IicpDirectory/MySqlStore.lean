import IicpDirectory.Foundations.Transaction
import IicpDirectory.MySqlRepo
import IicpDirectory.Replica.Verify

/-!
# The production repository behind the trait

`MySqlRepo` has the node tables and what the seed does to them. Here are the
other tables the trait reaches – the health observations, the replicas, the
log with its head – and the operations of `db.rs` on them, statement by
statement, under a `Server` that may fail any of them. A registration is a
transaction of many statements; everything else a replica does is a single
one.

A replica row is unique by its identity and by its DID. An upsert that
meets a row under either key changes that row, under its identity first;
this is how a DID gets another identity.
-/

/-- Ninety days, in milliseconds. -/
def ninetyDaysMs : ℤ := 90 * 86400 * 1000

/-- A row of `replicas`. -/
structure ReplicaRow where
  replicaId : String
  did : String
  endpoint : String
  trustTier : String
  status : String
  replicaTokenHash : String
  expiresAtMs : ℤ
  deriving DecidableEq

namespace ReplicaRow

/-- The columns are wide enough. -/
def fits (r : ReplicaRow) : Bool :=
  decide (r.replicaId.length ≤ 36) && decide (r.did.length ≤ 253)
    && decide (r.endpoint.length ≤ 255) && decide (r.trustTier.length ≤ 16)

/-- What an upsert writes over a row that is there: not its DID, not its
token hash. -/
def renewed (r new : ReplicaRow) : ReplicaRow :=
  { r with
    replicaId := new.replicaId
    endpoint := new.endpoint
    trustTier := "low"
    status := "active"
    expiresAtMs := new.expiresAtMs }

end ReplicaRow

/-- **The table of the replicas**: no two rows have the same identity or the
same DID. -/
structure ReplicaTable (fold : String → String) where
  rows : List ReplicaRow
  distinct : rows.Pairwise
    (fun a b => fold a.replicaId ≠ fold b.replicaId ∧ fold a.did ≠ fold b.did)

namespace ReplicaTable

variable {fold : String → String}

/-- The table without rows. -/
def empty (fold : String → String) : ReplicaTable fold := ⟨[], List.Pairwise.nil⟩

/-- The row of an identity. -/
def find (t : ReplicaTable fold) (replicaId : String) : Option ReplicaRow :=
  t.rows.find? (fun r => fold r.replicaId == fold replicaId)

/-- The row of a DID. -/
def findDid (t : ReplicaTable fold) (did : String) : Option ReplicaRow :=
  t.rows.find? (fun r => fold r.did == fold did)

/-- `UPDATE … WHERE replica_id = ?`; the keys themselves are not written. -/
def update (t : ReplicaTable fold) (replicaId : String) (f : ReplicaRow → ReplicaRow)
    (hf : ∀ r, (f r).replicaId = r.replicaId ∧ (f r).did = r.did) : ReplicaTable fold where
  rows := t.rows.map (fun r => if fold r.replicaId = fold replicaId then f r else r)
  distinct := by
    have hkeys : ∀ r, (if fold r.replicaId = fold replicaId then f r else r).replicaId = r.replicaId
        ∧ (if fold r.replicaId = fold replicaId then f r else r).did = r.did := by
      intro r
      split
      · exact hf r
      · exact ⟨rfl, rfl⟩
    rw [List.pairwise_map]
    refine t.distinct.imp (fun {a b} hab => ?_)
    rw [(hkeys a).1, (hkeys a).2, (hkeys b).1, (hkeys b).2]
    exact hab

/-- **An update changes the row of its identity**, and no other. -/
theorem find_update (t : ReplicaTable fold) (replicaId other : String)
    {f : ReplicaRow → ReplicaRow} (hf : ∀ r, (f r).replicaId = r.replicaId ∧ (f r).did = r.did) :
    (t.update replicaId f hf).find other
      = if fold other = fold replicaId then (t.find replicaId).map f else t.find other := by
  have hid : ∀ r, (if fold r.replicaId = fold replicaId then f r else r).replicaId
      = r.replicaId := by
    intro r
    split
    · exact (hf r).1
    · rfl
  have hmap : (t.update replicaId f hf).find other
      = (t.find other).map (fun r => if fold r.replicaId = fold replicaId then f r else r) := by
    show (t.rows.map _).find? _ = _
    rw [List.find?_map]
    unfold find
    congr 2
    funext r
    show (fold (if _ then _ else _ : ReplicaRow).replicaId == fold other) = _
    rw [hid]
  rw [hmap]
  cases hfind : t.find other with
  | none =>
    split
    · rename_i hsame
      have hnone : t.find replicaId = none := by
        unfold find at hfind ⊢
        rwa [← hsame]
      rw [hnone]
      rfl
    · rfl
  | some r =>
    have hr : fold r.replicaId = fold other := by simpa using List.find?_some hfind
    split
    · rename_i hsame
      have hsome : t.find replicaId = some r := by
        unfold find at hfind ⊢
        rwa [← hsame]
      rw [hsome, Option.map_some, Option.map_some, if_pos (hr.trans hsame)]
    · rename_i hne
      rw [Option.map_some, if_neg (fun he => hne (hr.symm.trans he))]

/-- The row an upsert meets: the one with its identity, if there is one, else
the one with its DID. -/
def meets (t : ReplicaTable fold) (new r : ReplicaRow) : Bool :=
  if t.rows.any (fun x => fold x.replicaId == fold new.replicaId) then
    fold r.replicaId == fold new.replicaId
  else fold r.did == fold new.did

/-- No two rows of an upserted table have the same keys. -/
theorem distinct_renewed (t : ReplicaTable fold) (new : ReplicaRow) :
    (t.rows.map (fun r => if t.meets new r then r.renewed new else r)).Pairwise
      (fun a b => fold a.replicaId ≠ fold b.replicaId ∧ fold a.did ≠ fold b.did) := by
  rw [List.pairwise_map]
  refine t.distinct.imp_of_mem (fun {a b} ha hb hab => ?_)
  have hdid : ∀ r : ReplicaRow, (if t.meets new r then r.renewed new else r).did = r.did := by
    intro r
    split <;> rfl
  rw [hdid, hdid]
  refine ⟨?_, hab.2⟩
  by_cases hid : t.rows.any (fun x => fold x.replicaId == fold new.replicaId)
  · -- the identity stays what it was, to the collation
    have hsame : ∀ r : ReplicaRow,
        fold (if t.meets new r then r.renewed new else r).replicaId = fold r.replicaId := by
      intro r
      split
      · rename_i hm
        rw [meets, if_pos hid, beq_iff_eq] at hm
        exact hm.symm
      · rfl
    rw [hsame, hsame]
    exact hab.1
  · -- the new identity is no row's, and only one row has the DID
    have hnew : ∀ r ∈ t.rows, fold r.replicaId ≠ fold new.replicaId := by
      intro r hr he
      exact hid (List.any_eq_true.mpr ⟨r, hr, beq_iff_eq.mpr he⟩)
    have hmeets : ∀ r : ReplicaRow, t.meets new r = (fold r.did == fold new.did) := by
      intro r
      rw [meets, if_neg hid]
    rw [hmeets, hmeets]
    by_cases hda : fold a.did = fold new.did
    · have hdb : fold b.did ≠ fold new.did := fun he => hab.2 (hda.trans he.symm)
      simp only [beq_iff_eq, hda, hdb, if_true, if_false]
      exact fun he => hnew b hb he.symm
    · by_cases hdb : fold b.did = fold new.did
      · simp only [beq_iff_eq, hda, hdb, if_true, if_false]
        exact fun he => hnew a ha he
      · simp only [beq_iff_eq, hda, hdb, if_false]
        exact hab.1

/-- `INSERT … ON DUPLICATE KEY UPDATE`. -/
def upsert (t : ReplicaTable fold) (new : ReplicaRow) : ReplicaTable fold :=
  if h : t.rows.any (t.meets new) = true then
    ⟨t.rows.map (fun r => if t.meets new r then r.renewed new else r), t.distinct_renewed new⟩
  else
    { rows := t.rows ++ [new]
      distinct := by
        rw [List.pairwise_append]
        refine ⟨t.distinct, List.pairwise_singleton _ _, ?_⟩
        intro a ha b hb
        obtain rfl := List.mem_singleton.mp hb
        have hnone : ∀ r ∈ t.rows, t.meets b r = false := by
          intro r hr
          rw [← Bool.not_eq_true]
          exact fun hm => h (List.any_eq_true.mpr ⟨r, hr, hm⟩)
        have hid : t.rows.any (fun x => fold x.replicaId == fold b.replicaId) = false := by
          by_contra hany
          rw [Bool.not_eq_false] at hany
          obtain ⟨x, hx, he⟩ := List.any_eq_true.mp hany
          have := hnone x hx
          rw [meets, if_pos hany, he] at this
          exact absurd this (by simp)
        have hda := hnone a ha
        rw [meets, hid, if_neg Bool.false_ne_true, beq_eq_false_iff_ne] at hda
        have hida := List.any_eq_false.mp hid a ha
        exact ⟨fun he => hida (beq_iff_eq.mpr he), hda⟩ }

/-- Two rows of a table differ in both keys. -/
theorem ne_keys {t : ReplicaTable fold} {a b : ReplicaRow} (ha : a ∈ t.rows) (hb : b ∈ t.rows)
    (h : a ≠ b) : fold a.replicaId ≠ fold b.replicaId ∧ fold a.did ≠ fold b.did :=
  have : Std.Symm (fun a b : ReplicaRow =>
      fold a.replicaId ≠ fold b.replicaId ∧ fold a.did ≠ fold b.did) :=
    ⟨fun _ _ h => ⟨h.1.symm, h.2.symm⟩⟩
  t.distinct.forall ha hb h

/-- A row is found by its identity. -/
theorem find_of_mem {t : ReplicaTable fold} {r : ReplicaRow} (hr : r ∈ t.rows) {replicaId : String}
    (hid : fold r.replicaId = fold replicaId) : t.find replicaId = some r := by
  cases hfind : t.find replicaId with
  | none =>
    have := List.find?_eq_none.mp hfind r hr
    exact absurd (beq_iff_eq.mpr hid) this
  | some x =>
    have hx : x ∈ t.rows := List.mem_of_find?_eq_some hfind
    have hxid : fold x.replicaId = fold replicaId := by simpa using List.find?_some hfind
    by_contra hne
    have hxr : x ≠ r := fun he => hne (congrArg some he)
    exact (ne_keys hx hr hxr).1 (hxid.trans hid.symm)

/-- A row is found by its DID. -/
theorem findDid_of_mem {t : ReplicaTable fold} {r : ReplicaRow} (hr : r ∈ t.rows) {did : String}
    (hdid : fold r.did = fold did) : t.findDid did = some r := by
  cases hfind : t.findDid did with
  | none =>
    have := List.find?_eq_none.mp hfind r hr
    exact absurd (beq_iff_eq.mpr hdid) this
  | some x =>
    have hx : x ∈ t.rows := List.mem_of_find?_eq_some hfind
    have hxdid : fold x.did = fold did := by simpa using List.find?_some hfind
    by_contra hne
    have hxr : x ≠ r := fun he => hne (congrArg some he)
    exact (ne_keys hx hr hxr).2 (hxdid.trans hdid.symm)

theorem of_find {t : ReplicaTable fold} {replicaId : String} {r : ReplicaRow}
    (h : t.find replicaId = some r) : r ∈ t.rows ∧ fold r.replicaId = fold replicaId :=
  ⟨List.mem_of_find?_eq_some h, by simpa using List.find?_some h⟩

theorem of_findDid {t : ReplicaTable fold} {did : String} {r : ReplicaRow}
    (h : t.findDid did = some r) : r ∈ t.rows ∧ fold r.did = fold did :=
  ⟨List.mem_of_find?_eq_some h, by simpa using List.find?_some h⟩

/-- An identity is at most the DID's own. -/
def Owned (t : ReplicaTable fold) (replicaId did : String) : Prop :=
  ∀ r ∈ t.rows, fold r.replicaId = fold replicaId → fold r.did = fold did

/-- **An upsert under an identity of its own changes the row of its DID**, or
adds one. -/
theorem mem_upsert_iff {t : ReplicaTable fold} {new : ReplicaRow}
    (hown : t.Owned new.replicaId new.did) (r : ReplicaRow) :
    r ∈ (t.upsert new).rows
      ↔ r = ((t.findDid new.did).map (fun old => old.renewed new)).getD new
        ∨ (r ∈ t.rows ∧ fold r.did ≠ fold new.did) := by
  have hmeets : ∀ x ∈ t.rows, t.meets new x = (fold x.did == fold new.did) := by
    intro x hx
    unfold meets
    split
    · rename_i hany
      obtain ⟨y, hy, hyid⟩ := List.any_eq_true.mp hany
      have hyid : fold y.replicaId = fold new.replicaId := beq_iff_eq.mp hyid
      by_cases hdid : fold x.did = fold new.did
      · -- the row of the identity is the row of the DID
        have hxy : some x = some y :=
          (findDid_of_mem hx hdid).symm.trans (findDid_of_mem hy (hown y hy hyid))
        rw [Option.some.inj hxy, beq_iff_eq.mpr hyid, beq_iff_eq.mpr (hown y hy hyid)]
      · rw [beq_eq_false_iff_ne.mpr hdid, beq_eq_false_iff_ne.mpr fun he => hdid (hown x hx he)]
    · rfl
  unfold upsert
  split
  · rename_i hany
    obtain ⟨y, hy, hym⟩ := List.any_eq_true.mp hany
    rw [hmeets y hy] at hym
    have hfind := findDid_of_mem hy (beq_iff_eq.mp hym)
    rw [hfind, Option.map_some, Option.getD_some]
    show r ∈ t.rows.map _ ↔ _
    rw [List.mem_map]
    constructor
    · rintro ⟨x, hx, rfl⟩
      rw [hmeets x hx]
      by_cases hdid : fold x.did = fold new.did
      · rw [if_pos (beq_iff_eq.mpr hdid)]
        have hxy := Option.some.inj ((findDid_of_mem hx hdid).symm.trans hfind)
        rw [hxy]
        exact Or.inl rfl
      · rw [if_neg (fun he => hdid (beq_iff_eq.mp he))]
        exact Or.inr ⟨hx, hdid⟩
    · rintro (rfl | ⟨hr, hdid⟩)
      · exact ⟨y, hy, by rw [hmeets y hy, hym, if_pos rfl]⟩
      · exact ⟨r, hr, by rw [hmeets r hr, if_neg (fun he => hdid (beq_iff_eq.mp he))]⟩
  · rename_i hany
    have hnone : ∀ x ∈ t.rows, fold x.did ≠ fold new.did := by
      intro x hx he
      exact hany (List.any_eq_true.mpr ⟨x, hx, by rw [hmeets x hx]; exact beq_iff_eq.mpr he⟩)
    have hfind : t.findDid new.did = none :=
      List.find?_eq_none.mpr fun x hx he => hnone x hx (beq_iff_eq.mp he)
    rw [hfind, Option.map_none, Option.getD_none]
    show r ∈ t.rows ++ [new] ↔ _
    rw [List.mem_append, List.mem_singleton]
    exact ⟨fun h => h.elim (fun hr => Or.inr ⟨hr, hnone r hr⟩) Or.inl,
      fun h => h.elim Or.inr (fun hr => Or.inl hr.1)⟩

/-- Which rows an update leaves. -/
theorem mem_update_iff {t : ReplicaTable fold} {replicaId : String} {f : ReplicaRow → ReplicaRow}
    {hf : ∀ r, (f r).replicaId = r.replicaId ∧ (f r).did = r.did} {r : ReplicaRow} :
    r ∈ (t.update replicaId f hf).rows
      ↔ (∃ old, t.find replicaId = some old ∧ r = f old)
        ∨ (r ∈ t.rows ∧ fold r.replicaId ≠ fold replicaId) := by
  show r ∈ t.rows.map _ ↔ _
  rw [List.mem_map]
  constructor
  · rintro ⟨x, hx, rfl⟩
    by_cases hid : fold x.replicaId = fold replicaId
    · rw [if_pos hid]
      exact Or.inl ⟨x, find_of_mem hx hid, rfl⟩
    · rw [if_neg hid]
      exact Or.inr ⟨hx, hid⟩
  · rintro (⟨old, hold, rfl⟩ | ⟨hr, hid⟩)
    · obtain ⟨hmem, hid⟩ := of_find hold
      exact ⟨old, hmem, if_pos hid⟩
    · exact ⟨r, hr, if_neg hid⟩

/-- An update of no row leaves the table. -/
theorem update_of_not_found {t : ReplicaTable fold} {replicaId : String}
    (h : t.find replicaId = none) (f : ReplicaRow → ReplicaRow)
    (hf : ∀ r, (f r).replicaId = r.replicaId ∧ (f r).did = r.did) : t.update replicaId f hf = t := by
  have hrows : t.rows.map (fun r => if fold r.replicaId = fold replicaId then f r else r)
      = t.rows := by
    refine (List.map_congr_left fun r hr => ?_).trans (List.map_id _)
    exact if_neg fun he => List.find?_eq_none.mp h r hr (beq_iff_eq.mpr he)
  unfold update
  congr 1

end ReplicaTable

/-- **The tables of the production repository.** -/
structure MySqlStore (fold : String → String) where
  nodes : MySqlRepo fold
  healthObservations : Table (fun o : HealthObservation => (fold o.nodeId, fold o.evaluatorDid))
  replicas : ReplicaTable fold
  nodeEvents : List EventRow
  head : ChainHead

namespace MySqlStore

variable {fold : String → String}

/-- The tables as the schema creates them. -/
def empty (fold : String → String) : MySqlStore fold where
  nodes := .empty fold
  healthObservations := .empty _
  replicas := .empty fold
  nodeEvents := []
  head := ⟨0, none⟩

/-- The store with other node rows. -/
def withNodes (s : MySqlStore fold) (rows : Table (fun r : NodeRow => fold r.id)) :
    MySqlStore fold :=
  { s with
    nodes := { s.nodes with
      nodes := rows } }

@[simp] theorem withNodes_withNodes (s : MySqlStore fold)
    (a b : Table (fun r : NodeRow => fold r.id)) : (s.withNodes a).withNodes b = s.withNodes b :=
  rfl

@[simp] theorem nodes_withNodes (s : MySqlStore fold) (a : Table (fun r : NodeRow => fold r.id)) :
    (s.withNodes a).nodes.nodes = a := rfl

/-! ## Registration -/

/-- The row with other intents. -/
def setIntents (intents : List String) (r : NodeRow) : NodeRow := { r with intents := intents }

/-- `upsert_node`: the row, with the capabilities it had. -/
def upsertNode (rec : NodeRecord) (s : MySqlStore fold) : Option (MySqlStore fold) :=
  rec.node.reputationModel.map (fun model =>
    s.withNodes (s.nodes.nodes.upsert (setIntents [] (MySqlRepo.newRow rec model))
      (fun old => setIntents old.intents (MySqlRepo.mergeRow rec old)) (fun _ => rfl)))

/-- A statement on the capabilities of a node. -/
def changeIntents (nodeId : String) (f : List String → List String) (s : MySqlStore fold) :
    MySqlStore fold :=
  s.withNodes (s.nodes.nodes.update (fold nodeId) (fun r => setIntents (f r.intents) r)
    (fun _ => rfl))

/-- The statements of `registration_store::persist`: the node, its
capabilities and its windows, of each the old ones out and the new ones
in. -/
def persistBody (rec : NodeRecord) : List (MySqlStore fold → Option (MySqlStore fold)) :=
  [upsertNode rec, fun s => some (changeIntents rec.node.nodeId (fun _ => []) s)]
    ++ (MySqlRepo.intentsOf rec).map
      (fun intent s => some (changeIntents rec.node.nodeId (· ++ [intent]) s))
    ++ [some] ++ rec.availability.map (fun _ => some)

/-- `MySqlRepo::register`: the tokens are hashed first, which may fail
too. -/
def register (hashed : Bool) (server : Server) (rec : NodeRecord) (s : MySqlStore fold) :
    Bool × MySqlStore fold :=
  if hashed then Transaction.run server (persistBody rec) s else (false, s)

/-- The intents inserted one by one are those of the record. -/
theorem foldlM_insertIntents (t : Table (fun r : NodeRow => fold r.id)) (row : NodeRow)
    {merge : NodeRow → NodeRow} (hmerge : ∀ r, fold (merge r).id = fold r.id)
    (intents before : List String) (s : MySqlStore fold) :
    (intents.map (fun intent (s : MySqlStore fold) =>
        some (changeIntents row.id (· ++ [intent]) s))).foldlM (fun s statement => statement s)
          (s.withNodes (t.upsert (setIntents before row) (fun r => setIntents before (merge r))
            hmerge))
      = some (s.withNodes (t.upsert (setIntents (before ++ intents) row)
          (fun r => setIntents (before ++ intents) (merge r)) hmerge)) := by
  induction intents generalizing before with
  | nil => rw [List.append_nil]; rfl
  | cons intent rest ih =>
    have hinsert : changeIntents row.id (· ++ [intent])
          (s.withNodes (t.upsert (setIntents before row) (fun r => setIntents before (merge r))
            hmerge))
        = s.withNodes (t.upsert (setIntents (before ++ [intent]) row)
            (fun r => setIntents (before ++ [intent]) (merge r)) hmerge) :=
      congrArg s.withNodes (@Table.update_upsert _ _ _ _ t (setIntents before row)
        (fun r => setIntents before (merge r)) (fun r => setIntents (r.intents ++ [intent]) r)
        hmerge (fun _ => rfl))
    rw [List.map_cons, List.foldlM_cons]
    show (some (changeIntents row.id (· ++ [intent]) _)).bind _ = _
    rw [Option.bind_some, hinsert, ih, List.append_assoc]
    rfl

/-- **The transaction is a registration**: under a server that fails none of
its statements it gets to its commit with the tables `MySqlRepo.register`
makes, or not at all. -/
theorem reaches_persistBody {server : Server} (hbegins : server.begins = true)
    (hfails : ∀ n, server.fails n = false) (rec : NodeRecord) (s : MySqlStore fold) :
    Transaction.reaches server (persistBody rec) s
      = (s.nodes.register rec).toOption.map (fun nodes => { s with nodes := nodes }) := by
  have hwindows : ∀ (windows : List AvailabilityWindow) (t : MySqlStore fold),
      (windows.map (fun _ => (some : MySqlStore fold → Option (MySqlStore fold)))).foldlM
        (fun s statement => statement s) t = some t := by
    intro windows t
    induction windows with
    | nil => rfl
    | cons _ rest ih => exact ih
  rw [Transaction.reaches, if_pos hbegins, Transaction.execute_eq,
    if_pos (List.all_eq_true.mpr fun n _ => by rw [hfails]; rfl)]
  unfold MySqlRepo.register
  cases hmodel : rec.node.reputationModel with
  | none =>
    have hrefused : upsertNode rec s = none := by
      unfold upsertNode
      rw [hmodel]
      rfl
    show (upsertNode rec s).bind _ = _
    rw [hrefused]
    rfl
  | some model =>
    have hupsert : upsertNode rec s
        = some (s.withNodes (s.nodes.nodes.upsert (setIntents [] (MySqlRepo.newRow rec model))
            (fun old => setIntents old.intents (MySqlRepo.mergeRow rec old)) (fun _ => rfl))) := by
      unfold upsertNode
      rw [hmodel]
      rfl
    have hclear : changeIntents rec.node.nodeId (fun _ => [])
          (s.withNodes (s.nodes.nodes.upsert (setIntents [] (MySqlRepo.newRow rec model))
            (fun old => setIntents old.intents (MySqlRepo.mergeRow rec old)) (fun _ => rfl)))
        = s.withNodes (s.nodes.nodes.upsert (setIntents [] (MySqlRepo.newRow rec model))
            (fun old => setIntents [] (MySqlRepo.mergeRow rec old)) (fun _ => rfl)) :=
      congrArg s.withNodes (@Table.update_upsert _ _ _ _ s.nodes.nodes
        (setIntents [] (MySqlRepo.newRow rec model))
        (fun old => setIntents old.intents (MySqlRepo.mergeRow rec old)) (setIntents [])
        (fun _ => rfl) (fun _ => rfl))
    have hinsert := foldlM_insertIntents s.nodes.nodes (MySqlRepo.newRow rec model)
      (fun r => (rfl : fold (MySqlRepo.mergeRow rec r).id = fold r.id)) (MySqlRepo.intentsOf rec)
      [] s
    unfold persistBody
    rw [List.foldlM_append, List.foldlM_append, List.foldlM_append, List.foldlM_cons, hupsert]
    show ((((some (changeIntents rec.node.nodeId (fun _ => []) _)).bind _).bind _).bind _) = _
    rw [hclear, Option.bind_some]
    refine (congrArg (fun o => (Option.bind o some).bind _) hinsert).trans ?_
    exact hwindows rec.availability _

/-! ## Single statements -/

/-- `MySqlRepo::deregister`. -/
def deregister (server : Server) (nodeId : String) : MySqlStore fold → Bool × MySqlStore fold :=
  Transaction.single server (fun s =>
    some ((s.nodes.deregister nodeId).1, { s with nodes := (s.nodes.deregister nodeId).2 }))

/-- The newer of two observations, the stored one if neither is. -/
def refreshed (new old : HealthObservation) : HealthObservation :=
  if old.evaluatedAtMs < new.evaluatedAtMs then
    { old with score := new.score, evaluatedAtMs := new.evaluatedAtMs }
  else old

theorem key_refreshed (new old : HealthObservation) :
    (refreshed new old).nodeId = old.nodeId
      ∧ (refreshed new old).evaluatorDid = old.evaluatorDid := by
  unfold refreshed
  split <;> exact ⟨rfl, rfl⟩

/-- An observation the columns take: the time is unsigned. -/
def fitsObservation (o : HealthObservation) : Bool :=
  decide (o.nodeId.length ≤ 36) && decide (o.evaluatorDid.length ≤ 255)
    && decide (0 ≤ o.evaluatedAtMs)

/-- `MySqlRepo::upsert_health_observation`. The rows counted are the rows
found, so a stale observation counts too. -/
def upsertHealthObservation (server : Server) (nodeId evaluatorDid : String) (score : ℚ)
    (evaluatedAtMs : ℤ) : MySqlStore fold → Bool × MySqlStore fold :=
  let o : HealthObservation := ⟨nodeId, evaluatorDid, score, evaluatedAtMs⟩
  Transaction.single server (fun s =>
    if fitsObservation o then
      some (true, { s with
        healthObservations := s.healthObservations.upsert o (refreshed o)
          (fun r => by rw [(key_refreshed o r).1, (key_refreshed o r).2]) })
    else none)

/-- An `UPDATE` of one node. -/
def updateNode (server : Server) (nodeId : String) (f : NodeRow → NodeRow)
    (hf : ∀ r, (f r).id = r.id) : MySqlStore fold → Bool × MySqlStore fold :=
  Transaction.single server (fun s =>
    some ((s.nodes.find nodeId).isSome,
      s.withNodes (s.nodes.nodes.update (fold nodeId) f (fun r => congrArg fold (hf r)))))

/-- `MySqlRepo::set_reputation_score`. -/
def setReputationScore (server : Server) (nodeId : String) (score : ℚ) :
    MySqlStore fold → Bool × MySqlStore fold :=
  updateNode server nodeId (fun r => { r with reputationScore := max 0 (min score 1) })
    (fun _ => rfl)

/-- `MySqlRepo::set_credit_balance`. -/
def setCreditBalance (server : Server) (nodeId : String) (balance : ℚ) :
    MySqlStore fold → Bool × MySqlStore fold :=
  updateNode server nodeId (fun r => { r with creditBalance := round4 balance }) (fun _ => rfl)

/-- `MySqlRepo::upsert_replica`. -/
def upsertReplica (server : Server) (nowMs : ℤ) (replicaId did endpoint trustTier : String) :
    MySqlStore fold → Bool × MySqlStore fold :=
  let new : ReplicaRow :=
    ⟨replicaId, did, endpoint, trustTier, "active", "",
      MySqlRepo.wholeSeconds nowMs + ninetyDaysMs⟩
  Transaction.single server (fun s =>
    if new.fits then some (true, { s with replicas := s.replicas.upsert new }) else none)

/-- What the retirement of a replica writes: its token hash makes way for
that of a value no one knows. -/
def retired (nowMs : ℤ) (tombstone : String) (r : ReplicaRow) : ReplicaRow :=
  { r with
    status := "decommissioned"
    expiresAtMs := MySqlRepo.wholeSeconds nowMs
    replicaTokenHash := tombstone }

/-- `MySqlRepo::decommission_replica`. -/
def decommissionReplica (server : Server) (nowMs : ℤ) (tombstone replicaId : String) :
    MySqlStore fold → Bool × MySqlStore fold :=
  Transaction.single server (fun s =>
    some ((s.replicas.find replicaId).isSome,
      { s with
        replicas := s.replicas.update replicaId (retired nowMs tombstone)
          (fun _ => ⟨rfl, rfl⟩) }))

/-- **The trait, over the tables**, for one call: what the server makes of
it, whether the tokens could be hashed, the time and the value drawn. -/
@[reducible] def repository (hashed : Bool) (server : Server) (nowMs : ℤ) (tombstone : String) :
    NodeRepository (MySqlStore fold) where
  register s rec :=
    match s.register hashed server rec with
    | (true, s') => .ok s'
    | (false, _) => .error .persistence
  deregister s nodeId := s.deregister server nodeId
  upsertHealthObservation s nodeId evaluatorDid score evaluatedAtMs :=
    s.upsertHealthObservation server nodeId evaluatorDid score evaluatedAtMs
  setReputationScore s nodeId score := s.setReputationScore server nodeId score
  setCreditBalance s nodeId balance := s.setCreditBalance server nodeId balance
  upsertReplica s replicaId did endpoint trustTier :=
    s.upsertReplica server nowMs replicaId did endpoint trustTier
  decommissionReplica s replicaId := s.decommissionReplica server nowMs tombstone replicaId

end MySqlStore

/-! ## What a refused event leaves -/

/-- **A registration seen to fail left nothing**: its tokens could not be
hashed, or its transaction was rolled back. -/
theorem MySqlStore.snd_register_of_refused {fold : String → String} {hashed : Bool}
    {server : Server} {rec : NodeRecord} {s : MySqlStore fold} (hcommit : server.commit ≠ .lost)
    (h : (s.register hashed server rec).1 = false) : (s.register hashed server rec).2 = s := by
  unfold MySqlStore.register at h ⊢
  split
  · rename_i hhashed
    rw [if_pos hhashed] at h
    exact Transaction.snd_run_of_refused hcommit h
  · rfl

namespace Replica

/-- The high-water mark is where it was or at the event, and never behind
where it was. -/
theorem highWater_bounds (L : Libs) {σ : Type} [NodeRepository σ] (repo : σ) (ev : FederatedEvent)
    (key : Option String) (last : ℤ) (expected : Option String) :
    ((verifyAndApply L repo ev key last expected).1.2 = last
        ∨ (verifyAndApply L repo ev key last expected).1.2 = ev.seq)
      ∧ last ≤ (verifyAndApply L repo ev key last expected).1.2 := by
  rw [highWater_verifyAndApply]
  split
  · rename_i h
    exact ⟨Or.inr rfl, le_of_lt h.2⟩
  · exact ⟨Or.inl rfl, le_refl last⟩

/-- A replayed event leaves the repository alone, refused or not. -/
theorem snd_verifyAndApply_of_replayed (L : Libs) {σ : Type} [NodeRepository σ] (repo : σ)
    {ev : FederatedEvent} (key : Option String) {last : ℤ} (expected : Option String)
    (h : ev.seq ≤ last) : (verifyAndApply L repo ev key last expected).2 = repo := by
  cases hbad : badServiceId ev with
  | false => rw [verifyAndApply_of_replayed L hbad h]
  | true =>
    have hrefused : refusal L repo ev key last expected = some "invalid service_id" := by
      rw [refusal, hbad, if_pos rfl]
    rw [verifyAndApply_of_refusal L hrefused]

/-- **A rejection leaves no trace.** Whatever repository is behind the
trait, an event that is rejected leaves it and the high-water mark as they
were, one that is replayed leaves the repository as it was, and the mark
moves to the event or nowhere, never back. The trait's one operation that
can be refused is the registration, and over the tables a registration that
is seen to fail has left nothing – where the server does not persist a
commit that it answers with an error. -/
theorem rejection_leaves_no_trace (L : Libs) :
    (∀ {σ : Type} [NodeRepository σ] (repo : σ) (ev : FederatedEvent) (key : Option String)
        (last : ℤ) (expected : Option String),
      (∀ reason, (verifyAndApply L repo ev key last expected).1.1 = .rejected reason →
          verifyAndApply L repo ev key last expected = ((.rejected reason, last), repo))
        ∧ (ev.seq ≤ last → (verifyAndApply L repo ev key last expected).2 = repo)
        ∧ ((verifyAndApply L repo ev key last expected).1.2 = last
          ∨ (verifyAndApply L repo ev key last expected).1.2 = ev.seq)
        ∧ last ≤ (verifyAndApply L repo ev key last expected).1.2)
      ∧ ∀ {fold : String → String} (s : MySqlStore fold) (rec : NodeRecord) (hashed : Bool)
          (server : Server), server.commit ≠ .lost → (s.register hashed server rec).1 = false →
            (s.register hashed server rec).2 = s := by
  refine ⟨fun {σ} _ repo ev key last expected => ⟨fun reason h => ?_,
    snd_verifyAndApply_of_replayed L repo key expected,
    highWater_bounds L repo ev key last expected⟩,
    fun _ _ _ _ hcommit => MySqlStore.snd_register_of_refused hcommit⟩
  cases hr : refusal L repo ev key last expected with
  | none =>
    have hacc := (verifyAndApply_accepted_iff L).mpr hr
    rw [h] at hacc
    exact absurd hacc Bool.false_ne_true
  | some text =>
    have he := verifyAndApply_of_refusal L hr
    rw [he] at h
    obtain rfl : text = reason := by simpa using h
    exact he

end Replica
