import IicpDirectory.Baseline
import IicpDirectory.Foundations.Run

/-!
# Writes that are acknowledged, and their readers

Two writers answer their callers whatever the database makes of their
statement: `observe_address` answers nothing and `submit_conformance` the
identity it drew. Against the baseline schema neither statement is ever
executed. The one leaves out the time of the observation, the other the
component, the times, the results, the issuer and the signature, and none of
these columns has a default. The reader of addresses sorts by a column its
table has not, and so finds nothing either.

A run upholds what its callers were told when after each call the addresses
and the badges acknowledged so far are found again, and no call was
acknowledged whose row the schema refuses. That is so for the runs that call
neither writer, and for no other (`upholds_iff`).
-/

open Schema

/-- A row as it is stored. -/
abbrev StoredRow := List (String × Value)

/-- What is stored of nodes, of their addresses and of badges. -/
structure SurfaceDb where
  nodeIds : List String
  nodeAddressHistory : List StoredRow
  conformanceBadges : List StoredRow

/-- A badge as it is listed. -/
structure ConformanceBadge where
  badgeId : String
  tier : String
  status : String
  subjectDid : Option String
  suiteVersion : String
  passedAt : Option ℤ
  expiresAt : Option ℤ
  testResultsUrl : Option String

namespace StoredRow

/-- A column of a row read as a text that is there. -/
def text (row : StoredRow) (name : String) : Option String :=
  match row.lookup name with
  | some (.text s) => some s
  | _ => none

/-- A column read as a text or nothing: any other value cannot be read. -/
def optionalText (row : StoredRow) (name : String) : Option (Option String) :=
  match row.lookup name with
  | some (.text s) => some (some s)
  | some .null => some none
  | _ => none

/-- A column read as a time or nothing. -/
def optionalMoment (row : StoredRow) (name : String) : Option (Option ℤ) :=
  match row.lookup name with
  | some (.moment ms) => some (some ms)
  | some .null => some none
  | _ => none

/-- A badge read from its row. -/
def badge (row : StoredRow) : Option ConformanceBadge := do
  let badgeId ← row.text "badge_id"
  let tier ← row.text "tier"
  let status ← row.text "status"
  let subjectDid ← row.optionalText "subject_did"
  let suiteVersion ← row.text "suite_version"
  let passedAt ← row.optionalMoment "passed_at"
  let expiresAt ← row.optionalMoment "expires_at"
  let testResultsUrl ← row.optionalText "test_results_url"
  return { badgeId, tier, status, subjectDid, suiteVersion, passedAt, expiresAt, testResultsUrl }

end StoredRow

/-- `ORDER BY created_at DESC`; rows without a time come last. -/
def newestFirst (rows : List StoredRow) : List StoredRow :=
  rows.mergeSort fun a b =>
    match a.optionalMoment "created_at", b.optionalMoment "created_at" with
    | some (some t), some (some u) => decide (u ≤ t)
    | some (some _), _ => true
    | _, some (some _) => false
    | _, _ => true

namespace SurfaceDb

/-- The row of `INSERT INTO node_address_history`. -/
def addressRow (db : SurfaceDb) (nodeId ip requestType : String) : Option StoredRow :=
  Baseline.nodeAddressHistory.row (db.nodeAddressHistory.length + 1)
    [("node_id", .text nodeId), ("ip_address", .text ip), ("request_type", .text requestType)]

/-- `MySqlRepo::observe_address`. The address belongs to a node there is. -/
def observeAddress (db : SurfaceDb) (nodeId ip requestType : String) : SurfaceDb :=
  match db.addressRow nodeId ip requestType with
  | some row =>
    if nodeId ∈ db.nodeIds then { db with nodeAddressHistory := db.nodeAddressHistory ++ [row] }
    else db
  | none => db

/-- `MySqlRepo::get_observed_ip`. -/
def getObservedIp (db : SurfaceDb) (nodeId : String) : Option String :=
  (Baseline.nodeAddressHistory.select ["ip_address", "node_id", "created_at"]
      (db.nodeAddressHistory.filter fun row => row.text "node_id" == some nodeId)).bind fun rows =>
    (newestFirst rows).head?.bind fun row => row.text "ip_address"

/-- The row of `INSERT INTO conformance_badges`. -/
def badgeRow (badgeId tier : String) (subjectDid : Option String) : Option StoredRow :=
  Baseline.conformanceBadges.row 0
    [("badge_id", .text badgeId), ("tier", .text tier),
      ("subject_did", subjectDid.elim .null .text), ("suite_version", .text ""),
      ("status", .text "pending")]

/-- `MySqlRepo::submit_conformance`, with the identity it draws. No two
badges have one identity. -/
def submitConformance (db : SurfaceDb) (badgeId tier : String) (subjectDid : Option String) :
    String × SurfaceDb :=
  (badgeId,
    match badgeRow badgeId tier subjectDid with
    | some row =>
      if db.conformanceBadges.any fun r => r.text "badge_id" == some badgeId then db
      else { db with conformanceBadges := db.conformanceBadges ++ [row] }
    | none => db)

/-- `MySqlRepo::list_badges`: nothing at all, if one row cannot be read. -/
def listBadges (db : SurfaceDb) (tier : Option String) : List ConformanceBadge :=
  let rows := match tier with
    | some t => db.conformanceBadges.filter fun row => row.text "tier" == some t
    | none => db.conformanceBadges
  ((Baseline.conformanceBadges.select ["badge_id", "tier", "status", "subject_did",
      "suite_version", "passed_at", "expires_at", "test_results_url", "created_at"] rows).bind
    fun rows => (newestFirst rows).mapM StoredRow.badge).getD []

/-- `MySqlRepo::get_badge`. -/
def getBadge (db : SurfaceDb) (tier : String) : Option ConformanceBadge :=
  (db.listBadges (some tier)).head?

/-! ## The statements against the schema -/

/-- **No address is ever stored**: the statement leaves out the time of the
observation. -/
theorem addressRow_eq_none (db : SurfaceDb) (nodeId ip requestType : String) :
    db.addressRow nodeId ip requestType = none :=
  Table.row_eq_none_of_missing (c := .required "observed_at" .moment)
    (by simp [Baseline.nodeAddressHistory]) (by decide) rfl _

/-- **No badge is ever stored**: the statement leaves out, of six columns, the
component that was tested. -/
theorem badgeRow_eq_none (badgeId tier : String) (subjectDid : Option String) :
    badgeRow badgeId tier subjectDid = none :=
  Table.row_eq_none_of_missing (c := .required "subject_component" (.text 16))
    (by simp [Baseline.conformanceBadges]) (by decide) rfl _
theorem submitConformance_eq (db : SurfaceDb) (badgeId tier : String)
    (subjectDid : Option String) :
    db.submitConformance badgeId tier subjectDid = (badgeId, db) := by
  unfold submitConformance
  rw [badgeRow_eq_none]

/-- **No address is ever found**: its table has no such time to sort by. -/
theorem getObservedIp_eq_none (db : SurfaceDb) (nodeId : String) :
    db.getObservedIp nodeId = none := by
  unfold getObservedIp
  have hunknown : ¬ Baseline.nodeAddressHistory.Has "created_at" := by decide
  rw [Table.select_eq_none_of_unknown (by simp) hunknown]
  rfl

/-- Without badges none is listed. -/
theorem listBadges_eq_nil {db : SurfaceDb} (h : db.conformanceBadges = []) (tier : Option String) :
    db.listBadges tier = [] := by
  cases tier with
  | none =>
    simp only [listBadges, h, Table.select]
    split <;> simp [newestFirst]
  | some t =>
    simp only [listBadges, h, List.filter_nil, Table.select]
    split <;> simp [newestFirst]

end SurfaceDb

/-! ## Runs -/

/-- A call on the store. Badges are removed by hand. -/
inductive SurfaceCall
  | register (nodeId : String)
  | deregister (nodeId : String)
  | observeAddress (nodeId ip requestType : String)
  | submitConformance (badgeId tier : String) (subjectDid : Option String)
  | removeBadge (badgeId : String)

/-- What callers were told: the addresses of nodes, the latest first, and the
identities of badges with their tiers. -/
structure Told where
  addresses : List (String × String)
  badges : List (String × String)

namespace SurfaceCall

/-- The call is of one of the two writers. -/
def Writes : SurfaceCall → Prop
  | .observeAddress .. => True
  | .submitConformance .. => True
  | _ => False

/-- One call. The addresses of a node go with it. -/
def step (db : SurfaceDb) : SurfaceCall → SurfaceDb
  | .register nodeId => { db with nodeIds := nodeId :: db.nodeIds.filter (· ≠ nodeId) }
  | .deregister nodeId =>
    { db with
      nodeIds := db.nodeIds.filter (· ≠ nodeId)
      nodeAddressHistory := db.nodeAddressHistory.filter fun row =>
        row.text "node_id" != some nodeId }
  | .observeAddress nodeId ip requestType => db.observeAddress nodeId ip requestType
  | .submitConformance badgeId tier subjectDid =>
    (db.submitConformance badgeId tier subjectDid).2
  | .removeBadge badgeId =>
    { db with
      conformanceBadges := db.conformanceBadges.filter fun row =>
        row.text "badge_id" != some badgeId }

/-- What has been told after the call. -/
def tell (db : SurfaceDb) (told : Told) : SurfaceCall → Told
  | .register _ => told
  | .deregister nodeId =>
    { told with addresses := told.addresses.filter fun e => e.1 ≠ nodeId }
  | .observeAddress nodeId ip _ =>
    if nodeId ∈ db.nodeIds then { told with addresses := (nodeId, ip) :: told.addresses }
    else told
  | .submitConformance badgeId tier subjectDid =>
    { told with
      badges := ((db.submitConformance badgeId tier subjectDid).1, tier) :: told.badges }
  | .removeBadge badgeId => { told with badges := told.badges.filter fun e => e.1 ≠ badgeId }

/-- The schema accepts the row the call writes, if it writes one. -/
def Accepted (db : SurfaceDb) : SurfaceCall → Prop
  | .observeAddress nodeId ip requestType => (db.addressRow nodeId ip requestType).isSome
  | .submitConformance badgeId tier subjectDid =>
    (SurfaceDb.badgeRow badgeId tier subjectDid).isSome
  | _ => True

theorem not_accepted_of_writes {db : SurfaceDb} {call : SurfaceCall} (h : call.Writes) :
    ¬ call.Accepted db := by
  cases call with
  | observeAddress nodeId ip requestType =>
    show ¬ (db.addressRow nodeId ip requestType).isSome
    rw [SurfaceDb.addressRow_eq_none]
    exact Bool.false_ne_true
  | submitConformance badgeId tier subjectDid =>
    show ¬ (SurfaceDb.badgeRow badgeId tier subjectDid).isSome
    rw [SurfaceDb.badgeRow_eq_none]
    exact Bool.false_ne_true
  | _ => exact absurd h id

end SurfaceCall

namespace Told

/-- Nothing was told. -/
def nothing : Told := ⟨[], []⟩

/-- What was told is found again: of each node the latest address, and each
badge under its tier. -/
structure Readable (told : Told) (db : SurfaceDb) : Prop where
  addresses : ∀ nodeId ip, told.addresses.lookup nodeId = some ip →
    db.getObservedIp nodeId = some ip
  badges : ∀ e ∈ told.badges, ∃ b ∈ db.listBadges (some e.2), b.badgeId = e.1

theorem readable_nothing (db : SurfaceDb) : nothing.Readable db :=
  ⟨fun _ _ h => absurd h (by simp [nothing]), fun _ h => absurd h List.not_mem_nil⟩

end Told

/-- **A run upholds what its callers are told.** -/
def Upholds : SurfaceDb → Told → List SurfaceCall → Prop
  | db, told, [] => told.Readable db
  | db, told, call :: rest =>
    told.Readable db ∧ call.Accepted db ∧ Upholds (call.step db) (call.tell db told) rest

theorem not_writes_of_upholds {db : SurfaceDb} {told : Told} {calls : List SurfaceCall}
    (h : Upholds db told calls) : ∀ call ∈ calls, ¬ call.Writes := by
  induction calls generalizing db told with
  | nil => exact fun _ hmem => absurd hmem List.not_mem_nil
  | cons call rest ih =>
    obtain ⟨_, haccepted, hrest⟩ := h
    intro c hmem
    rcases List.mem_cons.mp hmem with rfl | hmem
    · exact fun hwrites => SurfaceCall.not_accepted_of_writes hwrites haccepted
    · exact ih hrest c hmem

/-- A call of neither writer tells nobody anything. -/
theorem tell_nothing {db : SurfaceDb} {call : SurfaceCall} (h : ¬ call.Writes) :
    call.tell db Told.nothing = Told.nothing := by
  cases call with
  | observeAddress nodeId ip requestType => exact absurd trivial h
  | submitConformance badgeId tier subjectDid => exact absurd trivial h
  | _ => rfl

/-- **What callers are told is upheld exactly where nobody writes.** -/
theorem upholds_iff (db : SurfaceDb) (calls : List SurfaceCall) :
    Upholds db Told.nothing calls ↔ ∀ call ∈ calls, ¬ call.Writes := by
  refine ⟨not_writes_of_upholds, fun h => ?_⟩
  induction calls generalizing db with
  | nil => exact Told.readable_nothing db
  | cons call rest ih =>
    have hcall := h call List.mem_cons_self
    refine ⟨Told.readable_nothing db, ?_, ?_⟩
    · cases call with
      | observeAddress nodeId ip requestType => exact absurd trivial hcall
      | submitConformance badgeId tier subjectDid => exact absurd trivial hcall
      | _ => trivial
    · rw [tell_nothing hcall]
      exact ih _ fun c hc => h c (List.mem_cons_of_mem call hc)

/-- **A write is lost at once**: neither the address of a node there is, nor a
badge that was not listed before, is found after the call that told of it. -/
theorem not_readable_of_writes {db : SurfaceDb} {told : Told} :
    (∀ nodeId ip requestType, nodeId ∈ db.nodeIds →
        ¬ ((SurfaceCall.observeAddress nodeId ip requestType).tell db told).Readable
          ((SurfaceCall.observeAddress nodeId ip requestType).step db))
      ∧ ∀ badgeId tier subjectDid, (∀ b ∈ db.listBadges (some tier), b.badgeId ≠ badgeId) →
        ¬ ((SurfaceCall.submitConformance badgeId tier subjectDid).tell db told).Readable
          ((SurfaceCall.submitConformance badgeId tier subjectDid).step db) := by
  constructor
  · intro nodeId ip requestType hnode h
    have htold : (SurfaceCall.observeAddress nodeId ip requestType).tell db told
        = { told with addresses := (nodeId, ip) :: told.addresses } := if_pos hnode
    have hread := h.addresses nodeId ip (by rw [htold]; exact List.lookup_cons_self)
    rw [SurfaceDb.getObservedIp_eq_none] at hread
    exact Option.some_ne_none ip hread.symm
  · intro badgeId tier subjectDid hnew h
    obtain ⟨b, hb, hid⟩ := h.badges (badgeId, tier) List.mem_cons_self
    have hstep : (SurfaceCall.submitConformance badgeId tier subjectDid).step db = db :=
      congrArg Prod.snd (SurfaceDb.submitConformance_eq db badgeId tier subjectDid)
    rw [hstep] at hb
    exact hnew b hb hid

/-- **A registered node's address is forgotten, and a badge with it**: what the
two callers were told is not found. -/
theorem address_and_badge_forgotten :
    (Run.after SurfaceCall.step ⟨[], [], []⟩
        [.register "n1", .observeAddress "n1" "203.0.113.7" "register"]).getObservedIp "n1" = none
      ∧ (SurfaceDb.submitConformance ⟨["n1"], [], []⟩ "b1" "gold" (some "did:web:n1.test")).1 = "b1"
      ∧ SurfaceDb.listBadges (SurfaceDb.submitConformance ⟨["n1"], [], []⟩ "b1" "gold"
          (some "did:web:n1.test")).2 (some "gold") = []
      ∧ ¬ ∀ calls, Upholds ⟨[], [], []⟩ Told.nothing calls := by
  refine ⟨SurfaceDb.getObservedIp_eq_none _ _, rfl, ?_, fun h => ?_⟩
  · rw [SurfaceDb.submitConformance_eq]
    exact SurfaceDb.listBadges_eq_nil rfl _
  · exact not_writes_of_upholds (h [.register "n1", .observeAddress "n1" "203.0.113.7" "register"])
      (.observeAddress "n1" "203.0.113.7" "register") (by simp) trivial
