import IicpDirectory.Evidence
import IicpDirectory.Foundations.Handles
import IicpDirectory.MySqlRepo

/-!
# Operators

An operator is a key, and a row that says what the directory knows of whoever
has it: the public handle, the standing, what was accepted, and whether the
identity is still active. The row is made by the first registration that
carries a delegation of the key and outlives the identity: a rotation leaves
it as evidence, with a successor under another key, and so does a revocation.

The rows are one table, under its key. In memory a key is itself; in the
tables it is what the collation makes of it. What the operations do to the
table is written down once here for both: each is an update under one key or
an insertion, and the repositories differ in when they do which.

Two readings of the table carry what is proved of it: the status under a key
(`Operators.status`) and the handle an active operator holds
(`Operators.held`).
-/

/-! ## Handles -/

/-- `char::is_whitespace`: the property `White_Space` of Unicode. -/
def isWhitespace (c : Char) : Bool :=
  let n := c.toNat
  (9 ≤ n && n ≤ 13) || n == 0x20 || n == 0x85 || n == 0xA0 || n == 0x1680
    || (0x2000 ≤ n && n ≤ 0x200A) || n == 0x2028 || n == 0x2029 || n == 0x202F || n == 0x205F
    || n == 0x3000

/-- `str::trim`. -/
def trimChars (text : List Char) : List Char :=
  ((text.dropWhile isWhitespace).reverse.dropWhile isWhitespace).reverse

/-- The characters of a handle in lower case, and each run of white space as
one blank. -/
def foldChars (lower : Char → List Char) : Bool → List Char → List Char
  | _, [] => []
  | lastWasSpace, c :: rest =>
    if isWhitespace c then
      if lastWasSpace then foldChars lower true rest else ' ' :: foldChars lower true rest
    else lower c ++ foldChars lower false rest

/-- `normalize_operator_display_name`, with what `char::to_lowercase` makes of
a character. -/
def normalizeOperatorDisplayName (lower : Char → List Char) (displayName : String) :
    Option String :=
  let folded := foldChars lower false (trimChars displayName.toList)
  if folded.isEmpty then none else some (String.ofList folded)

/-- **What the operations on operators rely on**: the lower case of a
character, `LOWER(TRIM(REGEXP_REPLACE(…, '[[:space:]]+', ' ')))` in the
database, SHA-256, and the Base64 of a key. -/
structure OperatorLibs where
  lower : Char → List Char
  sqlNormalize : String → String
  sha256 : Bytes → Bytes
  base64Decode : String → Option Bytes

/-! ## The rows -/

/-- `identity_status`. -/
inductive IdentityStatus
  | active
  | rotated
  | revoked
  | restricted
  deriving DecidableEq

/-- A row of `operators`. The last five are columns of the tables and stay
empty in memory. -/
structure OperatorRow where
  operatorPubkey : String
  displayName : Option String
  attestedCreatedAt : Option String
  integrityHash : Option String
  firstSeenMs : ℤ
  ordinal : Option ℤ := none
  tier : Option String := none
  badge : Option String := none
  identityStatus : IdentityStatus := .active
  rotationEpoch : Option ℕ := none
  termsVersion : Option String := none
  termsAcceptedAt : Option String := none
  dpaVersion : Option String := none
  dpaAcceptedAt : Option String := none
  acceptanceMethod : Option String := none
  acceptanceNonceSha256 : Option String := none
  provenance : Option String := none
  successorOperatorPubkeySha256 : Option String := none
  identityRevokedAtMs : Option ℤ := none
  identityReasonClass : Option String := none

namespace OperatorRow

/-- The identity is active. -/
def isActive (r : OperatorRow) : Bool := r.identityStatus == .active

theorem isActive_iff {r : OperatorRow} : r.isActive = true ↔ r.identityStatus = .active := beq_iff_eq

/-- **The handle an operator holds**: the normal form of its display name,
while its identity is active. -/
def holds (lower : Char → List Char) (r : OperatorRow) : Option (Option String) :=
  if r.isActive then r.displayName.map (normalizeOperatorDisplayName lower) else none

theorem holds_of_not_active {lower : Char → List Char} {r : OperatorRow}
    (h : r.identityStatus ≠ .active) : r.holds lower = none := by
  unfold holds
  rw [if_neg fun hactive => h (isActive_iff.mp hactive)]

/-- Another display name. -/
def named (name : String) (r : OperatorRow) : OperatorRow := { r with displayName := some name }

/-- The epoch of a rotation: the next one, or the one asked for if that is
later. -/
def nextEpoch (prior requested : Option ℕ) : ℕ :=
  max (min (prior.getD 0 + 1) (2 ^ 32 - 1)) (requested.getD 0)

/-- A rotated identity. -/
def rotated (epoch : ℕ) (r : OperatorRow) : OperatorRow :=
  { r with
    identityStatus := .rotated
    rotationEpoch := some epoch }

/-- A revoked identity. -/
def revoked (r : OperatorRow) : OperatorRow := { r with identityStatus := .revoked }

/-- The governance documents, accepted. -/
def accepted (termsVersion dpaVersion nonceSha256 acceptedAt : String) (r : OperatorRow) :
    OperatorRow :=
  { r with
    termsVersion := some termsVersion
    termsAcceptedAt := some acceptedAt
    dpaVersion := some dpaVersion
    dpaAcceptedAt := some acceptedAt
    acceptanceMethod := some "operator_key_challenge"
    acceptanceNonceSha256 := some nonceSha256 }

/-- `clear_in_memory_operator_subject`: nothing is left of the person. -/
def cleared (r : OperatorRow) : OperatorRow :=
  { r with
    displayName := none
    attestedCreatedAt := none
    integrityHash := none
    tier := none
    badge := none
    termsVersion := none
    termsAcceptedAt := none
    dpaVersion := none
    dpaAcceptedAt := none
    acceptanceMethod := none
    acceptanceNonceSha256 := none }

/-- The row under another key, restricted. -/
def anonymized (anonymous : String) (r : OperatorRow) : OperatorRow :=
  { r with
    operatorPubkey := anonymous
    identityStatus := .restricted }

end OperatorRow

/-! ## The table -/

/-- **The operators**, under a collation. -/
abbrev Operators (fold : String → String) := Table (fun r : OperatorRow => fold r.operatorPubkey)

namespace Operators

variable {fold : String → String}

/-- The row of an operator. -/
def row (t : Operators fold) (operatorPubkey : String) : Option OperatorRow :=
  t.find (fold operatorPubkey)

/-- `operator_identity_active`. -/
def identityActive (t : Operators fold) (operatorPubkey : String) : Option Bool :=
  (t.row operatorPubkey).map OperatorRow.isActive

/-- `InMemoryRepo::operator_display_name_claimed_by_other`. -/
def claimedByOther (lower : Char → List Char) (t : Operators id) (operatorPubkey normalized : String) :
    Bool :=
  t.rows.any fun r => r.operatorPubkey != operatorPubkey && r.isActive
    && r.displayName.bind (normalizeOperatorDisplayName lower) == some normalized

/-- `MySqlRepo::operator_display_name_claimed_by_other`. -/
def sqlClaimedByOther (sqlNormalize : String → String) (t : Operators fold)
    (operatorPubkey normalized : String) : Bool :=
  t.rows.any fun r => fold r.operatorPubkey != fold operatorPubkey && r.isActive
    && r.displayName.any fun name => fold (sqlNormalize name) == fold normalized

/-- `UPDATE operators SET … WHERE operator_pubkey = ?`, of anything but the
key. -/
def set (t : Operators fold) (operatorPubkey : String) (f : OperatorRow → OperatorRow)
    (hf : ∀ r, (f r).operatorPubkey = r.operatorPubkey) : Operators fold :=
  t.update (fold operatorPubkey) f fun r => congrArg fold (hf r)

/-- `INSERT INTO operators`: a key that is there keeps its row. -/
def insertNew (t : Operators fold) (r : OperatorRow) : Operators fold := t.upsert r id fun _ => rfl

/-- `HashMap::insert`: a key that is there loses its row. -/
def put (t : Operators fold) (r : OperatorRow) : Operators fold :=
  Operators.insertNew (t.delete (fold r.operatorPubkey)) r

/-- Another display name, whatever the status. -/
def rename (t : Operators fold) (operatorPubkey name : String) : Operators fold :=
  t.set operatorPubkey (OperatorRow.named name) fun _ => rfl

/-- The row of an operator that is seen for the first time. -/
def firstRow (operatorPubkey : String) (displayName attestedCreatedAt integrityHash : Option String)
    (nowMs : ℤ) : OperatorRow :=
  ⟨operatorPubkey, displayName, attestedCreatedAt, integrityHash, nowMs, none, none, none, .active,
    none, none, none, none, none, none, none, none, none, none, none⟩

/-! ### What is found in it -/

/-- The status under a key of the table. -/
def status (t : Operators fold) (key : String) : Option IdentityStatus :=
  (t.find key).map OperatorRow.identityStatus

/-- **The handle held under a key of the table.** -/
def held (lower : Char → List Char) (t : Operators fold) (key : String) : Option (Option String) :=
  (t.find key).bind (OperatorRow.holds lower)

theorem find_set (t : Operators fold) (operatorPubkey : String) {f : OperatorRow → OperatorRow}
    (hf : ∀ r, (f r).operatorPubkey = r.operatorPubkey) (key : String) :
    (t.set operatorPubkey f hf).find key
      = if key = fold operatorPubkey then (t.find key).map f else t.find key :=
  t.find_update (fold operatorPubkey) key fun r => congrArg fold (hf r)

theorem find_insertNew (t : Operators fold) (r : OperatorRow) (key : String) :
    (t.insertNew r).find key
      = if key = fold r.operatorPubkey then some ((t.row r.operatorPubkey).getD r)
        else t.find key := by
  have hfind : (t.insertNew r).find key = _ := t.find_upsert r (fun _ => rfl) key
  rw [hfind, Option.map_id']
  rfl

/-- Where there is a row an insertion does nothing. -/
theorem insertNew_of_isSome {t : Operators fold} {r : OperatorRow}
    (h : (t.row r.operatorPubkey).isSome = true) : t.insertNew r = t := by
  obtain ⟨old, hold⟩ := Option.isSome_iff_exists.mp h
  exact Table.upsert_eq_self (fun _ => rfl) hold rfl

theorem find_put (t : Operators fold) (r : OperatorRow) (key : String) :
    (t.put r).find key = if key = fold r.operatorPubkey then some r else t.find key := by
  unfold put
  rw [find_insertNew]
  unfold row
  rw [Table.find_delete, if_pos rfl, Table.find_delete]
  split <;> rfl

/-- **An update of a row that holds nothing, or the same**, leaves the
handles. -/
theorem held_set (lower : Char → List Char) (t : Operators fold) (operatorPubkey : String)
    {f : OperatorRow → OperatorRow} (hf : ∀ r, (f r).operatorPubkey = r.operatorPubkey) :
    (t.set operatorPubkey f hf).held lower
      = Function.update (t.held lower) (fold operatorPubkey)
        ((t.row operatorPubkey).bind fun r => (f r).holds lower) := by
  funext key
  unfold held
  rw [find_set]
  by_cases hkey : key = fold operatorPubkey
  · rw [if_pos hkey, hkey, Function.update_self, Option.bind_map]
    rfl
  · rw [if_neg hkey, Function.update_of_ne hkey]

theorem held_insertNew (lower : Char → List Char) (t : Operators fold) (r : OperatorRow) :
    (t.insertNew r).held lower
      = Function.update (t.held lower) (fold r.operatorPubkey)
        (((t.row r.operatorPubkey).getD r).holds lower) := by
  funext key
  unfold held
  rw [find_insertNew]
  by_cases hkey : key = fold r.operatorPubkey
  · rw [if_pos hkey, hkey, Function.update_self]
    rfl
  · rw [if_neg hkey, Function.update_of_ne hkey]

theorem held_put (lower : Char → List Char) (t : Operators fold) (r : OperatorRow) :
    (t.put r).held lower = Function.update (t.held lower) (fold r.operatorPubkey) (r.holds lower) := by
  funext key
  unfold held
  rw [find_put]
  by_cases hkey : key = fold r.operatorPubkey
  · rw [if_pos hkey, hkey, Function.update_self]
    rfl
  · rw [if_neg hkey, Function.update_of_ne hkey]

theorem held_delete (lower : Char → List Char) (t : Operators fold) (key : String) :
    held lower (t.delete key) = Function.update (t.held lower) key none := by
  funext other
  unfold held
  rw [Table.find_delete]
  by_cases hkey : other = key
  · rw [if_pos hkey, hkey, Function.update_self]
    rfl
  · rw [if_neg hkey, Function.update_of_ne hkey]

/-! ### An identity that is active -/

/-- Why an operator is not let in. -/
inductive NotActive
  | unknown
  | inactive

/-- The row of an operator whose identity is active. -/
def activeRow (t : Operators fold) (operatorPubkey : String) : Except NotActive OperatorRow :=
  match t.row operatorPubkey with
  | none => .error .unknown
  | some r => if r.isActive then .ok r else .error .inactive

theorem activeRow_eq_ok {t : Operators fold} {operatorPubkey : String} {r : OperatorRow}
    (h : t.activeRow operatorPubkey = .ok r) :
    t.row operatorPubkey = some r ∧ r.isActive = true := by
  unfold activeRow at h
  split at h
  · exact absurd h (by simp)
  · split at h
    · next hrow hactive =>
      obtain rfl := Except.ok.inj h
      exact ⟨hrow, hactive⟩
    · exact absurd h (by simp)

theorem any_isActive_of_error {t : Operators fold} {operatorPubkey : String} {e : NotActive}
    (h : t.activeRow operatorPubkey = .error e) :
    (t.row operatorPubkey).any OperatorRow.isActive = false := by
  unfold activeRow at h
  cases hrow : t.row operatorPubkey with
  | none => rfl
  | some r =>
    rw [hrow] at h
    cases hactive : r.isActive with
    | false => exact hactive
    | true => exact absurd h (by simp [hactive])

/-- **The identity is retired**: there is a row, and it is not active. -/
def Retired (t : Operators fold) (operatorPubkey : String) : Prop :=
  ∃ r, t.row operatorPubkey = some r ∧ r.identityStatus ≠ .active

theorem activeRow_of_retired {t : Operators fold} {operatorPubkey : String}
    (h : t.Retired operatorPubkey) : t.activeRow operatorPubkey = .error .inactive := by
  obtain ⟨r, hrow, hstatus⟩ := h
  unfold activeRow
  rw [hrow]
  exact if_neg fun hactive => hstatus (OperatorRow.isActive_iff.mp hactive)

theorem not_retired_of_activeRow {t : Operators fold} {operatorPubkey : String} {r : OperatorRow}
    (h : t.activeRow operatorPubkey = .ok r) : ¬ t.Retired operatorPubkey := fun hretired => by
  rw [activeRow_of_retired hretired] at h
  exact absurd h (by simp)

end Operators

/-! ## The calls -/

/-- `OperatorLifecycleError`. -/
inductive OperatorLifecycleError
  | unknown
  | inactive
  | successorExists
  | invalid
  | storage
  deriving DecidableEq

/-- `OperatorSelfServiceError`. -/
inductive OperatorSelfServiceError
  | unknown
  | inactive
  | duplicateTrackingId
  | storage
  deriving DecidableEq

namespace Operators.NotActive

/-- As the lifecycle operations say it. -/
def lifecycle : NotActive → OperatorLifecycleError
  | .unknown => .unknown
  | .inactive => .inactive

/-- As the operations of self-service say it. -/
def selfService : NotActive → OperatorSelfServiceError
  | .unknown => .unknown
  | .inactive => .inactive

end Operators.NotActive

/-- `OperatorLifecycleResult`. -/
structure OperatorLifecycleResult where
  linkedNodes : ℕ
  rotationEpoch : Option ℕ
  revokedAtUnix : Option ℤ
  deriving DecidableEq

/-- What a data subject may ask for. -/
inductive DsrAction
  | export
  | restrict
  | anonymize
  deriving DecidableEq

/-- What it is told was done, and to how many nodes. -/
structure DsrReceipt where
  action : DsrAction
  trackingId : String
  nodes : ℕ
  deriving DecidableEq

/-- **A registration under a delegation** that binds the node to an
operator. -/
structure OperatorRegistration where
  pending : PendingRegistration
  operatorPubkey : String
  displayName : Option String
  attestedCreatedAt : Option String
  integrityHash : Option String
  delegated : pending.operatorPubkey = some operatorPubkey

namespace OperatorRegistration

/-- The row it makes of an operator that is seen for the first time. -/
def firstRow (r : OperatorRegistration) (nowMs : ℤ) : OperatorRow :=
  Operators.firstRow r.operatorPubkey r.displayName r.attestedCreatedAt r.integrityHash nowMs

/-- The handle it asks for, as it is compared: a blank one is none. -/
def handle (lower : Char → List Char) (r : OperatorRegistration) : Option String :=
  r.displayName.bind (normalizeOperatorDisplayName lower)

end OperatorRegistration

/-- **A request about an operator**, once its signature was checked. -/
inductive OperatorCall
  | register (r : OperatorRegistration)
  | rename (operatorPubkey displayName : String)
  | rotate (old new : String) (requestedEpoch : Option ℕ) (reasonClass : String)
  | revoke (operatorPubkey reasonClass : String)
  | accept (operatorPubkey termsVersion dpaVersion nonceSha256 : String)
  | dsr (operatorPubkey : String) (action : DsrAction) (trackingId : String)

/-- The operator it is about. -/
def OperatorCall.operatorPubkey : OperatorCall → String
  | .register r => r.operatorPubkey
  | .rename operatorPubkey _ => operatorPubkey
  | .rotate old _ _ _ => old
  | .revoke operatorPubkey _ => operatorPubkey
  | .accept operatorPubkey _ _ _ => operatorPubkey
  | .dsr operatorPubkey _ _ => operatorPubkey

/-- What it is answered. -/
inductive OperatorAnswer
  | created
  | rejected (status : ℕ) (code message : String)
  | renamed (done : Bool)
  | lifecycle (result : Except OperatorLifecycleError OperatorLifecycleResult)
  | accepted (result : Except OperatorSelfServiceError String)
  | dsr (result : Except OperatorSelfServiceError DsrReceipt)

namespace OperatorAnswer

/-- The answer is an error. -/
def failed : OperatorAnswer → Bool
  | .created => false
  | .rejected _ _ _ => true
  | .renamed done => !done
  | .lifecycle result => result.toOption.isNone
  | .accepted result => result.toOption.isNone
  | .dsr result => result.toOption.isNone

/-- To a registration whose operator is retired. -/
def inactiveIdentity : OperatorAnswer :=
  .rejected 422 "validation_error" "operator delegation references an inactive identity"

/-- To one whose handle another operator has. -/
def handleClaimed : OperatorAnswer :=
  .rejected 422 "validation_error"
    "operator_display_name is already claimed by another verified operator (IICP-E051)"

/-- To one that could not be stored. -/
def persistenceFailed : OperatorAnswer :=
  .rejected 500 "server_error" "registration persistence failed"

end OperatorAnswer
