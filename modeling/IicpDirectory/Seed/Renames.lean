import IicpDirectory.OperatorMemory
import IicpDirectory.OperatorSignatures
import IicpDirectory.Seed.ReplicaHandlers

/-!
# Renames that are signed

An operator that wants another display name signs it, with the time. The
handler checks the fields, that the clock is near the time, and the signature;
what it remembers of a request it has carried out is the name. So a request
that someone has captured is good for as long as the clock is near, and it
replaces whatever name is there by then.

The requests may come any number of times and in any order, and anything may
happen to the operators in between. In memory the look at the operator and the
change of its row are one section; in the tables they are two statements.

What is asked of a run (`Unreplayed`) is so exactly of the runs whose steps
carry out nothing twice and nothing older than what they replace, and no
request of a time that is `2 ^ 63` seconds past (`renames_unreplayed_iff`).
-/

/-! ## The handler -/

/-- `RenameRequest`. -/
structure RenameRequest where
  operatorPub : String
  displayName : String
  ts : Int64
  sig : String
  deriving DecidableEq

/-- `char::is_control`: the category `Cc` of Unicode. -/
def isControl (c : Char) : Bool :=
  c.toNat < 0x20 || (0x7F ≤ c.toNat && c.toNat ≤ 0x9F)

/-- `RENAME_TS_WINDOW`. -/
def renameTsWindow : Int64 := 300

namespace RenameRequest

variable (L : Libs) (base64Decode : String → Option Bytes)

/-- **What `operator_rename` refuses** before it asks the repository. -/
def refusal (now : UInt64) (r : RenameRequest) : Option Refusal :=
  if decide (64 < Admission.byteLength r.operatorPub)
      || decide (128 < Admission.byteLength r.sig) then
    some ⟨422, "validation_error", "operator_pub or sig too long"⟩
  else if r.displayName.length == 0 || decide (64 < r.displayName.length) then
    some ⟨422, "validation_error", "display_name must be 1..=64 characters"⟩
  else if r.displayName.toList.any isControl then
    some ⟨422, "validation_error", "display_name contains control characters"⟩
  else if !withinWindow renameTsWindow now r.ts then
    some ⟨401, "IICP-E041", "stale or future-dated rename request"⟩
  else
    match Delegation.verifyRename L base64Decode r.operatorPub r.displayName r.ts r.sig with
    | .ok => none
    | .malformed => some ⟨401, "IICP-E042", "malformed operator key or signature"⟩
    | .badSignature => some ⟨401, "IICP-E043", "operator signature verification failed"⟩

/-- What `operator_rename` answers, with what the repository says. -/
def answer (now : UInt64) (r : RenameRequest) (renamed : Bool) : Except Refusal String :=
  match r.refusal L base64Decode now with
  | some refusal => .error refusal
  | none =>
    if renamed then .ok r.displayName
    else .error ⟨404, "IICP-E044",
      "unknown operator (register a node with this operator delegation first)"⟩

/-- What is signed. -/
def signed (r : RenameRequest) : String × String × Int64 := (r.operatorPub, r.displayName, r.ts)

variable {L base64Decode} {now : UInt64} {r : RenameRequest}

/-- **A request that is not refused** is in the window, and signed. -/
theorem of_refusal (h : r.refusal L base64Decode now = none) :
    withinWindow renameTsWindow now r.ts = true
      ∧ Delegation.verifyRename L base64Decode r.operatorPub r.displayName r.ts r.sig = .ok := by
  unfold refusal at h
  split at h
  · exact absurd h (by simp)
  split at h
  · exact absurd h (by simp)
  split at h
  · exact absurd h (by simp)
  split at h
  · exact absurd h (by simp)
  next hwindow =>
    split at h
    · next hok => exact ⟨by simpa using hwindow, hok⟩
    · exact absurd h (by simp)
    · exact absurd h (by simp)

end RenameRequest

/-! ## What is carried out -/

section Renaming

variable (L : Libs) (base64Decode : String → Option Bytes)

/-- **A request that was let through**, and the time it was. -/
structure AdmittedRename where
  request : RenameRequest
  now : UInt64
  admitted : request.refusal L base64Decode now = none

/-- A request that was carried out, and the one whose name it replaced. -/
structure RenameEffect where
  rename : AdmittedRename L base64Decode
  replaced : Option (AdmittedRename L base64Decode)

/-- **The operators, and what came of the requests**: those that found their
operator active and are still to be written, the one each name is from, and
those that were carried out, the last one first. -/
structure Renaming (fold : String → String) where
  operators : Operators fold
  found : ℕ → Option (AdmittedRename L base64Decode) := fun _ => none
  nameFrom : String → Option (AdmittedRename L base64Decode) := fun _ => none
  effects : List (RenameEffect L base64Decode) := []

variable {L base64Decode} {fold : String → String}

/-- **No request is replayed**: what is carried out is so once, within 300
seconds of its time, and replaces nothing newer. -/
structure Unreplayed (effects : List (RenameEffect L base64Decode)) : Prop where
  once : effects.Pairwise fun e e' => e.rename.request.signed ≠ e'.rename.request.signed
  timely : ∀ e ∈ effects, |(e.rename.now.toNat : ℤ) - e.rename.request.ts.toInt| ≤ 300
  ordered : ∀ e ∈ effects, ∀ r ∈ e.replaced, r.request.ts.toInt ≤ e.rename.request.ts.toInt

namespace Renaming

/-- A request is carried out. -/
def carryOut (s : Renaming L base64Decode fold) (r : AdmittedRename L base64Decode) :
    Renaming L base64Decode fold :=
  { s with
    operators := s.operators.rename r.request.operatorPub r.request.displayName
    nameFrom := Function.update s.nameFrom (fold r.request.operatorPub) (some r)
    effects := ⟨r, s.nameFrom (fold r.request.operatorPub)⟩ :: s.effects }

theorem effects_carryOut (s : Renaming L base64Decode fold) (r : AdmittedRename L base64Decode) :
    (s.carryOut r).effects = ⟨r, s.nameFrom (fold r.request.operatorPub)⟩ :: s.effects := rfl

/-- The operators become anything else. A name that changes is from no request
then. -/
def elsewhere (s : Renaming L base64Decode fold) (operators : Operators fold) :
    Renaming L base64Decode fold :=
  { s with
    operators := operators
    nameFrom := fun key =>
      if (operators.find key).map OperatorRow.displayName
          = (s.operators.find key).map OperatorRow.displayName then s.nameFrom key
      else none }

/-- **A request is new**: it was not carried out before, its time is not
`2 ^ 63` seconds past, and it is no older than the one the name is from. -/
structure IsNew (s : Renaming L base64Decode fold) (r : AdmittedRename L base64Decode) : Prop where
  unseen : ∀ e ∈ s.effects, e.rename.request.signed ≠ r.request.signed
  past : (r.now.toNat : ℤ) - r.request.ts.toInt < 2 ^ 63
  newest : ∀ was ∈ s.nameFrom (fold r.request.operatorPub),
    was.request.ts.toInt ≤ r.request.ts.toInt

/-- **To carry out a request keeps the runs without replays** exactly if it is
new. -/
theorem unreplayed_carryOut {s : Renaming L base64Decode fold} {r : AdmittedRename L base64Decode}
    (h : Unreplayed s.effects) : Unreplayed (s.carryOut r).effects ↔ s.IsNew r := by
  have hwindow : |(r.now.toNat : ℤ) - r.request.ts.toInt| ≤ 300
      ↔ (r.now.toNat : ℤ) - r.request.ts.toInt < 2 ^ 63 :=
    @abs_sub_le_iff_of_withinWindow renameTsWindow (by decide) (by decide) _ _
      (RenameRequest.of_refusal r.admitted).1
  rw [effects_carryOut]
  constructor
  · intro hnext
    have honce := (List.pairwise_cons.mp hnext.once).1
    have htimely := (List.forall_mem_cons.mp hnext.timely).1
    exact
      { unseen := fun e he heq => honce e he heq.symm
        past := hwindow.mp htimely
        newest := (List.forall_mem_cons.mp hnext.ordered).1 }
  · intro hnew
    exact
      { once := List.pairwise_cons.mpr ⟨fun e he heq => hnew.unseen e he heq.symm, h.once⟩
        timely := List.forall_mem_cons.mpr ⟨hwindow.mpr hnew.past, h.timely⟩
        ordered := List.forall_mem_cons.mpr ⟨hnew.newest, h.ordered⟩ }

/-- **A step that carries out one request or none**, and leaves the record
alone otherwise. -/
theorem unreplayed_of_effects {s s' : Renaming L base64Decode fold}
    {carried : Option (AdmittedRename L base64Decode)}
    (hstep : s'.effects = carried.elim s.effects fun r => (s.carryOut r).effects)
    (h : Unreplayed s.effects) : Unreplayed s'.effects ↔ ∀ r ∈ carried, s.IsNew r := by
  rw [hstep]
  cases carried with
  | none => exact iff_of_true h fun _ hr => absurd hr (by simp)
  | some r =>
    rw [Option.elim_some, unreplayed_carryOut h]
    exact ⟨fun hnew _ hr => Option.some.inj hr ▸ hnew, fun hall => hall r rfl⟩

end Renaming
end Renaming

/-! ## In memory -/

/-- What happens in memory: a request is delivered, at a time, or the
operators change otherwise. -/
inductive MemoryRenameAction
  | deliver (now : UInt64) (request : RenameRequest)
  | elsewhere (operators : Operators id)

/-- **The look and the change are one section.** -/
theorem Operators.renameOperator_eq (t : Operators id) (operatorPubkey displayName : String) :
    t.renameOperator operatorPubkey displayName
      = if t.identityActive operatorPubkey = some true then
          (true, t.rename operatorPubkey displayName)
        else (false, t) := by
  unfold renameOperator identityActive activeRow
  cases t.row operatorPubkey with
  | none => rfl
  | some r => cases hactive : r.isActive <;> simp [hactive]

namespace MemoryRenameAction

variable (L : Libs) (base64Decode : String → Option Bytes)

/-- The step an action is. -/
def step (s : Renaming L base64Decode id) : MemoryRenameAction → Renaming L base64Decode id
  | .deliver now request =>
    if h : request.refusal L base64Decode now = none then
      let r := s.operators.renameOperator request.operatorPub request.displayName
      if r.1 then { s.carryOut ⟨request, now, h⟩ with operators := r.2 } else s
    else s
  | .elsewhere operators => s.elsewhere operators

/-- **The request a step carries out**: one that is let through, of an active
operator. -/
def carries (s : Renaming L base64Decode id) :
    MemoryRenameAction → Option (AdmittedRename L base64Decode)
  | .deliver now request =>
    if h : request.refusal L base64Decode now = none then
      if s.operators.identityActive request.operatorPub = some true then some ⟨request, now, h⟩
      else none
    else none
  | .elsewhere _ => none

theorem effects_step (s : Renaming L base64Decode id) (action : MemoryRenameAction) :
    (step L base64Decode s action).effects
      = (carries L base64Decode s action).elim s.effects fun r => (s.carryOut r).effects := by
  cases action with
  | deliver now request =>
    unfold step carries
    dsimp only
    split
    · rw [Operators.renameOperator_eq]
      by_cases hactive : s.operators.identityActive request.operatorPub = some true
      · rw [if_pos hactive, if_pos hactive]
        rfl
      · rw [if_neg hactive, if_neg hactive]
        rfl
    · rfl
  | elsewhere operators => rfl

theorem unreplayed_step (s : Renaming L base64Decode id) (action : MemoryRenameAction)
    (h : Unreplayed s.effects) :
    Unreplayed (step L base64Decode s action).effects
      ↔ ∀ r ∈ carries L base64Decode s action, s.IsNew r :=
  Renaming.unreplayed_of_effects (effects_step L base64Decode s action) h

end MemoryRenameAction

/-! ## In the tables -/

/-- What happens in the tables: a request is delivered, at a time, and its
operator is looked up, where that can be read; its name is written, where that
is executed; or the operators change otherwise. -/
inductive TablesRenameAction (fold : String → String)
  | deliver (call : ℕ) (now : UInt64) (request : RenameRequest) (reads : Bool)
  | write (call : ℕ) (executes : Bool)
  | elsewhere (operators : Operators fold)

namespace TablesRenameAction

variable (L : Libs) (base64Decode : String → Option Bytes) {fold : String → String}

/-- The step an action is. -/
def step (s : Renaming L base64Decode fold) :
    TablesRenameAction fold → Renaming L base64Decode fold
  | .deliver call now request reads =>
    if h : request.refusal L base64Decode now = none then
      if reads && s.operators.identityActive request.operatorPub == some true then
        { s with found := Function.update s.found call (some ⟨request, now, h⟩) }
      else s
    else s
  | .write call executes =>
    match s.found call with
    | none => s
    | some r =>
      let answered := { s with found := Function.update s.found call none }
      -- an `UPDATE` of a row that is gone by now changes nothing
      if executes && (s.operators.row r.request.operatorPub).isSome then answered.carryOut r
      else answered
  | .elsewhere operators => s.elsewhere operators

/-- **The request a step carries out**: one whose operator was found, if its
row is still there. -/
def carries (s : Renaming L base64Decode fold) :
    TablesRenameAction fold → Option (AdmittedRename L base64Decode)
  | .write call executes =>
    (s.found call).filter fun r => executes && (s.operators.row r.request.operatorPub).isSome
  | _ => none

theorem effects_step (s : Renaming L base64Decode fold) (action : TablesRenameAction fold) :
    (step L base64Decode s action).effects
      = (carries L base64Decode s action).elim s.effects fun r => (s.carryOut r).effects := by
  cases action with
  | deliver call now request reads =>
    show (step L base64Decode s (.deliver call now request reads)).effects = s.effects
    unfold step
    dsimp only
    split
    · split
      · rfl
      · rfl
    · rfl
  | write call executes =>
    unfold step carries
    dsimp only
    cases s.found call with
    | none => rfl
    | some r =>
      dsimp only
      rw [Option.filter_some]
      split
      · rfl
      · rfl
  | elsewhere operators => rfl

theorem unreplayed_step (s : Renaming L base64Decode fold) (action : TablesRenameAction fold)
    (h : Unreplayed s.effects) :
    Unreplayed (step L base64Decode s action).effects
      ↔ ∀ r ∈ carries L base64Decode s action, s.IsNew r :=
  Renaming.unreplayed_of_effects (effects_step L base64Decode s action) h

end TablesRenameAction

/-- **Where renames are not replayed.** In either repository, and over every
run, what is carried out is so once, within 300 seconds of its time, and
replaces nothing newer, exactly where that is so at the start and each request
that a step carries out is new. -/
theorem renames_unreplayed_iff (L : Libs) (base64Decode : String → Option Bytes) :
    (∀ (s : Renaming L base64Decode id) (actions : List MemoryRenameAction),
      (∀ n, Unreplayed
          (Run.after (MemoryRenameAction.step L base64Decode) s (actions.take n)).effects)
        ↔ Unreplayed s.effects
          ∧ Run.Along (MemoryRenameAction.step L base64Decode)
              (fun s action => ∀ r ∈ action.carries L base64Decode s, s.IsNew r) s actions)
      ∧ ∀ (fold : String → String) (s : Renaming L base64Decode fold)
          (actions : List (TablesRenameAction fold)),
        (∀ n, Unreplayed
            (Run.after (TablesRenameAction.step L base64Decode) s (actions.take n)).effects)
          ↔ Unreplayed s.effects
            ∧ Run.Along (TablesRenameAction.step L base64Decode)
                (fun s action => ∀ r ∈ action.carries L base64Decode s, s.IsNew r) s actions := by
  constructor
  · intro s actions
    exact Run.always_iff (MemoryRenameAction.unreplayed_step L base64Decode) s actions
  · intro fold s actions
    exact Run.always_iff (TablesRenameAction.unreplayed_step L base64Decode) s actions

namespace Sample

/-- The key of an operator, in Base64. -/
def renamePub : String := "6kpsY+KcUgq+9VB7Ey7F+ZVHdq6+vnuSQh7qaRRG0iw="

/-- Its requests: two names, one second apart, and one of a time `2 ^ 63`
seconds before the first. -/
def firstRename : RenameRequest where
  operatorPub := renamePub
  displayName := "Ada"
  ts := 1785240000
  sig := "D4BxyehwnZ9ZFOASsS18Co4iSYOZebM/OATEBANAwlUGLb4vnSZ5vAz6+XqFY21/28hw1HccIo8GDFX1O2mvAQ=="

def secondRename : RenameRequest where
  operatorPub := renamePub
  displayName := "Grace"
  ts := 1785240001
  sig := "b2mWkWESpfDivdwIC5RQ+G+dtk8+4eKrf+hHiXB7puZupNaW83B3LGwFu10/fDJAv+84USrPuXyHcSIesc9/Aw=="

def pastRename : RenameRequest where
  operatorPub := renamePub
  displayName := "Ada"
  ts := 1785240000 - 9223372036854775808
  sig := "qse/kK9Fph0kqttEbNfCEQOrnvu2sbEjOpGZUpGTpdJKVDvwEFdVkFbUHRoUNWIoykEQyLioMrWCR9fk+l+GBA=="

/-- What the texts stand for. -/
def renameTexts : List (String × Bytes) :=
  [(renamePub, bytes 32 0xea4a6c63e29c520abef5507b132ec5f9954776aebebe7b92421eea691446d22c),
   (firstRename.sig, bytes 64 0x0f8071c9e8709d9f5914e012b12d7c0a8e2249839979b33f3804c4040340c255062dbe2f9d2679bc0cfaf97a85636d7fdbc870d4771c228f060c55f53b69af01),
   (secondRename.sig, bytes 64 0x6f6996916112a5f0e2bddc080b9450f86f9db64f3ee1e2ab7fe84789707ba6e66ea4d696f370772c6c05bb5d3f7c3240bfef38512acfb97c8771221eb1cf7f03),
   (pastRename.sig, bytes 64 0xaac7bf90af45a61d24aadb446cd7c21103ab9efbb6b1b1233a9199529193a5d24a543bf01057559056d41d1a14356228ca4110c8b8a832b58247d7e4fa5f8604)]

/-- Base64, of them. -/
def renameBase64 (text : String) : Option Bytes := renameTexts.lookup text

/-- The messages the key has signed. -/
def renameLibs : Libs :=
  { libs with
    verify := fun key message sig =>
      [firstRename, secondRename, pastRename].any fun r =>
        renameBase64 r.operatorPub == some key && renameBase64 r.sig == some sig
          && Delegation.canonicalRenameBytes libs r.displayName r.operatorPub r.ts == message }

/-- Its operator, and nothing carried out yet. -/
def unnamed : Renaming renameLibs renameBase64 id where
  operators := Operators.insertNew (.empty _) (Operators.firstRow renamePub none none none 0)

/-- The first request is captured, and delivered again after the second. -/
def replayed : List MemoryRenameAction :=
  [.deliver 1785240000 firstRename, .deliver 1785240001 secondRename,
   .deliver 1785240002 firstRename]

/-- The same in the tables. -/
def replayedInTables : List (TablesRenameAction id) :=
  [.deliver 0 1785240000 firstRename true, .write 0 true,
   .deliver 1 1785240001 secondRename true, .write 1 true,
   .deliver 2 1785240002 firstRename true, .write 2 true]

end Sample

/-- **A captured rename undoes the next.** In either repository a request that
is delivered again is carried out again, and puts the older name back; and one
of a time `2 ^ 63` seconds past is carried out. -/
theorem rename_replayed :
    (¬ Unreplayed (Run.after (MemoryRenameAction.step Sample.renameLibs Sample.renameBase64)
          Sample.unnamed Sample.replayed).effects
        ∧ ¬ Unreplayed
          (Run.after (TablesRenameAction.step Sample.renameLibs Sample.renameBase64)
            Sample.unnamed Sample.replayedInTables).effects)
      ∧ (Run.after (MemoryRenameAction.step Sample.renameLibs Sample.renameBase64)
            Sample.unnamed [.deliver 1785240000 Sample.pastRename]).effects.map
          (fun e => (e.rename.request.displayName,
            (e.rename.now.toNat : ℤ) - e.rename.request.ts.toInt)) = [("Ada", 2 ^ 63)] := by
  refine ⟨⟨fun h => absurd h.once ?_, fun h => absurd h.once ?_⟩, ?_⟩
  · decide +kernel
  · decide +kernel
  · decide +kernel
