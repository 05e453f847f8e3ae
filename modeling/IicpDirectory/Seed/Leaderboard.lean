import IicpDirectory.Foundations.Ranking
import IicpDirectory.Seed.OperatorTables

/-!
# The leaderboard of the founders

The board has two parts. The first lists the operators that have an ordinal,
the lowest first and a hundred of them at most, under their display names. The
second lists those that have none yet and serve a node, in the order they were
first seen in, with the ordinal that each can expect: it counts on from the
number of those in the first part.

The two parts are two queries, and what is in the tables can change in
between. The status of an identity is asked for by neither.

So the ordinals that are listed are a ranking of those in the table
(`ordinal_listFounders`), and the projected ones are beyond them exactly if
none of them exceeds their number (`beyond_foundersBoard_iff`).
-/

/-! ## What the repository is asked for -/

/-- `FounderEntry`. -/
structure FounderEntry where
  displayName : Option String
  ordinal : ℤ
  tier : Option String
  badge : Option String
  deriving DecidableEq

/-- `PendingFounderEntry`. -/
structure PendingFounderEntry where
  displayName : Option String
  firstSeenMs : ℤ
  deriving DecidableEq

namespace OperatorRow

/-- What the board shows of an operator that has an ordinal; it is less than
`2 ^ 63`. -/
def founderEntry (r : OperatorRow) : Option FounderEntry :=
  r.ordinal.map fun ordinal => ⟨r.displayName, ordinal, r.tier, r.badge⟩

/-- And of one that has none. -/
def pendingEntry (r : OperatorRow) : PendingFounderEntry := ⟨r.displayName, r.firstSeenMs⟩

end OperatorRow

namespace Operators

variable {fold : String → String}

/-- The ordinals in the table. -/
def ordinals (t : Operators fold) : List ℤ := t.rows.filterMap OperatorRow.ordinal

/-- `list_founders`: the lowest ordinals first. -/
def listFounders (t : Operators fold) (limit : ℕ) : List FounderEntry :=
  ((t.rows.filterMap OperatorRow.founderEntry).insertionSort fun f f' =>
    f.ordinal ≤ f'.ordinal).take limit

/-- The operators without an ordinal that meet a condition, as they were first
seen. -/
def pendingFounders (t : Operators fold) (served : String → Bool) (limit : ℕ) :
    List PendingFounderEntry :=
  (((t.rows.filter fun r => r.ordinal.isNone && served r.operatorPubkey).map
    OperatorRow.pendingEntry).insertionSort fun p p' => p.firstSeenMs ≤ p'.firstSeenMs).take limit

/-- **The ordinals that are listed are a ranking of those in the table.** -/
theorem ordinal_listFounders (t : Operators fold) (limit : ℕ) :
    (t.listFounders limit).map FounderEntry.ordinal = Ranking.lowest limit t.ordinals := by
  have hordinals : (t.rows.filterMap OperatorRow.founderEntry).map FounderEntry.ordinal
      = t.ordinals := by
    unfold ordinals
    rw [List.map_filterMap]
    refine congrArg (fun f => t.rows.filterMap f) (funext fun r => ?_)
    unfold OperatorRow.founderEntry
    rw [Option.map_map]
    exact Option.map_id'
  unfold listFounders Ranking.lowest
  rw [List.map_take, ← hordinals]
  refine congrArg (List.take limit) ?_
  exact List.map_insertionSort _ _ FounderEntry.ordinal _ fun _ _ _ _ => Iff.rfl

end Operators

/-- `InMemoryRepo::list_pending_founders`: who serves a node is asked first,
and nobody is asked whether it can be reached. -/
def OperatorMemory.listPendingFounders (m : OperatorMemory) (limit : ℕ) :
    List PendingFounderEntry :=
  let served := (m.repo.records.filter fun r => r.node.available && r.node.operatorVerified).filterMap
    fun r => r.node.operatorPubkey
  m.operators.pendingFounders served.contains limit

namespace OperatorTables

variable {fold : String → String}

/-- A node of the operator is verified and can be reached, and is available or
was heard of within a day. -/
def serves (db : OperatorTables fold) (nowMs : ℤ) (operatorPubkey : String) : Bool :=
  db.bindings.rows.any fun b => boundTo fold operatorPubkey b && b.operatorVerified
    && (db.repo.find b.nodeId).any fun n => n.publicReachable
      && (n.status == "active" && n.available
        || n.lastSeenMs.any fun seen => MySqlRepo.wholeSeconds nowMs - 86400000 ≤ seen)

/-- `MySqlRepo::list_founders`: what cannot be read is empty. -/
def listFounders (server : Server) (db : OperatorTables fold) (limit : ℕ) : List FounderEntry :=
  if server.answersRead 0 then db.operators.listFounders limit else []

/-- `MySqlRepo::list_pending_founders`. -/
def listPendingFounders (t : Turn) (db : OperatorTables fold) (limit : ℕ) :
    List PendingFounderEntry :=
  if t.server.answersRead 0 then db.operators.pendingFounders (db.serves t.nowMs) limit else []

end OperatorTables

/-! ## The board -/

/-- An operator of the first part. -/
structure LockedEntry where
  place : ℕ
  founder : FounderEntry

/-- And one of the second. -/
structure ProvisionalEntry where
  displayName : Option String
  projectedOrdinal : ℕ
  daysRemaining : ℤ

/-- **The board.** -/
structure Leaderboard where
  entries : List LockedEntry
  pending : List ProvisionalEntry

/-- `LOCKIN_MIN_AGE_MS`. -/
def lockinMinAgeMs : ℤ := 30 * 24 * 60 * 60 * 1000

/-- The days of the clock that are left, rounded up. -/
def daysRemaining (nowMs firstSeenMs : ℤ) : ℤ :=
  let elapsed := max (nowMs - firstSeenMs) 0
  let remainingMs := max (lockinMinAgeMs - elapsed) 0
  (remainingMs + 86400000 - 1) / 86400000

/-- The board of the founders. -/
def foundersBoard (founders : List FounderEntry) (pending : List PendingFounderEntry) (nowMs : ℤ) :
    Leaderboard where
  entries := founders.mapIdx fun i f => ⟨i + 1, f⟩
  pending := pending.mapIdx fun i p =>
    ⟨p.displayName, founders.length + i + 1, daysRemaining nowMs p.firstSeenMs⟩

namespace LockedEntry

/-- As it is answered. -/
def json (e : LockedEntry) : Json :=
  .object
    [("place", Json.ofInt e.place), ("display_name", Json.ofOptionStr e.founder.displayName),
     ("ordinal", Json.ofInt e.founder.ordinal), ("tier", Json.ofOptionStr e.founder.tier),
     ("badge", Json.ofOptionStr e.founder.badge)]

end LockedEntry

namespace ProvisionalEntry

/-- As it is answered. -/
def json (p : ProvisionalEntry) : Json :=
  .object
    [("display_name", Json.ofOptionStr p.displayName),
     ("projected_ordinal", Json.ofInt p.projectedOrdinal),
     ("days_remaining", Json.ofInt p.daysRemaining), ("provisional", .bool true)]

end ProvisionalEntry

namespace Leaderboard

/-- As it is answered. -/
def json (b : Leaderboard) : Json :=
  .object
    [("board_id", .string "founders"), ("title", .string "Founding Cohort"),
     ("count", Json.ofInt b.entries.length), ("entries", .array (b.entries.map LockedEntry.json)),
     ("pending", .array (b.pending.map ProvisionalEntry.json))]

/-- **Recognition is not duplicated**: no ordinal is listed twice, and those
that are projected are beyond those that are listed. -/
structure Sound (b : Leaderboard) : Prop where
  once : (b.entries.map fun e => e.founder.ordinal).Nodup
  beyond : ∀ e ∈ b.entries, ∀ p ∈ b.pending, e.founder.ordinal < p.projectedOrdinal

end Leaderboard

/-- `GET /v1/leaderboards/{board_id}`, of what the repository lists. -/
def leaderboard (boardId : String) (founders : List FounderEntry)
    (pending : List PendingFounderEntry) (nowMs : ℤ) : ℕ × Json :=
  if boardId ≠ "founders" then
    DirectoryEvidence.errJson 404 "IICP-E050" "unknown or not-yet-computed leaderboard"
  else (200, (foundersBoard founders pending nowMs).json)

section foundersBoard

variable (founders : List FounderEntry) (pending : List PendingFounderEntry) (nowMs : ℤ)

theorem ordinal_foundersBoard :
    ((foundersBoard founders pending nowMs).entries.map fun e => e.founder.ordinal)
      = founders.map FounderEntry.ordinal := by
  refine List.ext_getElem? fun i => ?_
  unfold foundersBoard
  dsimp only
  rw [List.getElem?_map, List.getElem?_mapIdx, List.getElem?_map, Option.map_map]
  rfl

/-- **The projected ordinals are beyond those that are listed** exactly if
nobody is pending, or no ordinal exceeds the number of those listed. -/
theorem beyond_foundersBoard_iff :
    (∀ e ∈ (foundersBoard founders pending nowMs).entries,
        ∀ p ∈ (foundersBoard founders pending nowMs).pending,
          e.founder.ordinal < p.projectedOrdinal)
      ↔ pending = [] ∨ ∀ ordinal ∈ founders.map FounderEntry.ordinal, ordinal ≤ founders.length := by
  have hentries : ∀ n : ℤ, (∀ e ∈ (foundersBoard founders pending nowMs).entries,
      e.founder.ordinal < n) ↔ ∀ ordinal ∈ founders.map FounderEntry.ordinal, ordinal < n := by
    intro n
    rw [← ordinal_foundersBoard founders pending nowMs, List.forall_mem_map]
  constructor
  · intro h
    cases pending with
    | nil => exact Or.inl rfl
    | cons first rest =>
      -- the first that is projected is the next one
      have hfirst : ⟨first.displayName, founders.length + 0 + 1,
          daysRemaining nowMs first.firstSeenMs⟩
            ∈ (foundersBoard founders (first :: rest) nowMs).pending :=
        List.mem_mapIdx.mpr ⟨0, Nat.succ_pos _, rfl⟩
      have hnext := (hentries (founders.length + 1 : ℕ)).mp fun e he => h e he _ hfirst
      refine Or.inr fun ordinal hordinal => ?_
      have hlt := hnext ordinal hordinal
      push_cast at hlt
      omega
  · rintro (rfl | hall) e he p hp
    · exact absurd hp List.not_mem_nil
    · obtain ⟨i, hi, rfl⟩ := List.mem_mapIdx.mp hp
      refine (hentries _).mpr (fun ordinal hordinal => ?_) e he
      have hle := hall ordinal hordinal
      push_cast
      omega

end foundersBoard
