import IicpDirectory.Canonical
import IicpDirectory.Foundations.Replacement
import IicpDirectory.RuntimeHealth

/-!
# The health file

A process writes a snapshot of its health to a file at every move of its
scheduler, and whoever wants to know runs `healthcheck`, which reads the file and
asks when it was last written to. The two are different processes, and there may
be several directories with one file; system calls fail, and a process may be
gone at any moment.

The file is replaced by renaming (`Replacement`), under names of the processes'
own that differ from each other and from the file's (`tmpName_injective`,
`tmpName_ne`). So whatever happens, a check that succeeds has read a whole
snapshot that some process took of a state in which it lived, and some process
wrote within the last thirty seconds (`healthcheck_vouched`).

This module is `write_snapshot_atomic` of `runtime_health.rs`, and of
`runtime.rs` the progress loop and the check.
-/

open RuntimeHealth Replacement

namespace HealthFile

/-! ## Names -/

/-- The name of a file without its last extension; a name that starts with its
only point has none. -/
def fileStem (name : String) : String :=
  match name.toList.reverse.dropWhile (· ≠ '.') with
  | _ :: c :: rest => String.ofList (c :: rest).reverse
  | _ => name

/-- `Path::with_extension`, of a file name. -/
def withExtension (name extension : String) : String :=
  if extension = "" then fileStem name else fileStem name ++ "." ++ extension

/-- The name under which a process writes. -/
def tmpName (name : String) (pid : ℕ) : String := withExtension name ("tmp-" ++ toString pid)

theorem tmpName_eq (name : String) (pid : ℕ) :
    tmpName name pid = fileStem name ++ "." ++ ("tmp-" ++ toString pid) := by
  have hne : "tmp-" ++ toString pid ≠ "" := by
    intro h
    have hlength := congrArg (fun s => s.toList.length) h
    simp only [String.toList_append, List.length_append] at hlength
    have htmp : "tmp-".toList.length = 4 := rfl
    have hempty : "".toList.length = 0 := rfl
    omega
  unfold tmpName withExtension
  rw [if_neg hne]

/-- **Different processes write under different names.** -/
theorem tmpName_injective (name : String) : Function.Injective (tmpName name) := by
  intro pid pid' h
  rw [tmpName_eq, tmpName_eq] at h
  have hchars := congrArg String.toList h
  simp only [String.toList_append, List.append_cancel_left_eq] at hchars
  exact NumberText.natToString_inj (String.toList_inj.mp hchars)

/-- **A name that does not end in a digit is no process's own.** -/
theorem tmpName_ne {name : String} (h : ∀ c ∈ name.toList.getLast?, c.isDigit = false) (pid : ℕ) :
    tmpName name pid ≠ name := by
  intro heq
  have hdigits : (toString pid).toList ≠ [] := by
    rw [NumberText.toList_natToString]
    exact Nat.toDigits_ne_nil
  obtain ⟨c, hc⟩ : ∃ c, (toString pid).toList.getLast? = some c :=
    ⟨_, List.getLast?_eq_some_getLast hdigits⟩
  have hlast : name.toList.getLast? = some c := by
    rw [← heq, tmpName_eq, String.toList_append, @String.toList_append "tmp-" (toString pid),
      List.getLast?_append, List.getLast?_append, hc]
    rfl
  have hdigit := NumberText.isDigit_of_mem (List.mem_of_getLast? hc)
  rw [h c hlast] at hdigit
  exact absurd hdigit (by decide)

/-! ## The host -/

/-- A directory process. -/
structure Process where
  epoch : String
  state : State

/-- What is done to the health of a process. -/
inductive HealthOp
  | markRunning
  | markStopping
  | advanceRuntime
  | advanceSupervisor
  | setSupervisorRequired (required : Bool)
  | setSubsystem (name : String) (value : SubsystemState)
  | setExternal (name : String) (value : SubsystemState)
  | snapshot

def HealthOp.apply (now : ℕ) (s : State) : HealthOp → State
  | .markRunning => s.markRunning
  | .markStopping => s.markStopping
  | .advanceRuntime => s.advanceRuntime now
  | .advanceSupervisor => s.advanceSupervisor now
  | .setSupervisorRequired required => s.setSupervisorRequired required
  | .setSubsystem name value => s.setSubsystem name value
  | .setExternal name value => s.setExternal name value
  | .snapshot => (s.snapshot "" 0 "" now).2

/-- **A host**: its monotonic clock and its wall clock, the processes by their
numbers, and the directory of the file. -/
structure Host where
  mono : ℕ
  wall : ℕ
  procs : ℕ → Option Process
  disk : Disk ℕ String UInt8

/-- What happens on a host. The wall clock may be set. A process that writes has
read the monotonic clock before it had the lock of its health. -/
inductive HostEvent
  | pass (nanos : ℕ)
  | setWall (wall : ℕ)
  | start (pid : ℕ) (epoch : String)
  | change (pid : ℕ) (op : HealthOp)
  | write (pid : ℕ) (emittedAt : String) (lag : ℕ)
  | call (pid : ℕ) (ok : Bool) (written : ℕ)
  | exit (pid : ℕ)

/-- How `serde_json` writes a snapshot and reads one. -/
structure Serde where
  render : HealthSnapshot → List UInt8
  parse : List UInt8 → Option HealthSnapshot

/-- **What is read of a snapshot that was written is that snapshot.** -/
def Serde.ReadsBack (S : Serde) : Prop :=
  ∀ snapshot read, S.parse (S.render snapshot ++ [10]) = some read → read = snapshot

namespace Host

/-- A host on which nothing has been written yet. -/
def boot (mono wall : ℕ) : Host := ⟨mono, wall, fun _ => none, fun _ => none, fun _ => .idle⟩

section Steps

variable (S : Serde) (name : String)

/-- The directory after a call. -/
def onDisk (h : Host) (c : Call ℕ UInt8) : Host :=
  { h with disk := Replacement.step name (tmpName name) h.wall h.disk c }

/-- A process gets another state. -/
def setProcess (h : Host) (pid : ℕ) (p : Option Process) : Host :=
  { h with procs := Function.update h.procs pid p }

/-- **One event.** A process writes one snapshot at a time. -/
def step (h : Host) : HostEvent → Host
  | .pass nanos => { h with mono := h.mono + nanos, wall := h.wall + nanos }
  | .setWall wall => { h with wall := wall }
  | .start pid epoch =>
    match h.procs pid with
    | none => h.setProcess pid (some ⟨epoch, State.new true h.mono⟩)
    | some _ => h
  | .change pid op =>
    match h.procs pid with
    | some p => h.setProcess pid (some { p with state := op.apply h.mono p.state })
    | none => h
  | .write pid emittedAt lag =>
    match h.procs pid, h.disk.stages pid with
    | some p, .idle =>
      let (snapshot, state) := p.state.snapshot p.epoch pid emittedAt (h.mono - lag)
      (h.setProcess pid (some { p with state := state })).onDisk name
        (.begin pid (S.render snapshot ++ [10]))
    | _, _ => h
  | .call pid ok written => h.onDisk name (.returns pid ok written)
  | .exit pid => (h.setProcess pid none).onDisk name (.gone pid)

end Steps

end Host

/-! ## The check -/

/-- Why a check is indeterminate. -/
inductive HealthcheckError
  | cannotRead
  | invalidSnapshot
  | noFreshness
  deriving DecidableEq

/-- What a snapshot of some age says. -/
def verdict (snapshot : HealthSnapshot) (ageMs : ℕ) (requireReady : Bool) : ℕ :=
  if ageMs > snapshot.progress.runtime.staleAfterMs then 1
  else if requireReady then (if snapshot.readiness ≠ .ready then 1 else 0)
  else
    match snapshot.liveness with
    | .live => 0
    | .notLive => 1
    | _ => 2

/-- **`run_healthcheck`**: what was read, when the file was last written to and the
wall clock. A file of the future has no age. -/
def runHealthcheck (S : Serde) (raw : Option (List UInt8)) (modified : Option ℕ) (wall : ℕ)
    (requireReady : Bool) : Except HealthcheckError ℕ :=
  match raw with
  | none => .error .cannotRead
  | some text =>
    match S.parse text with
    | none => .error .invalidSnapshot
    | some snapshot =>
      match modified.filter (· ≤ wall) with
      | none => .error .noFreshness
      | some time => .ok (verdict snapshot ((wall - time) / 1000000) requireReady)

/-- What the command exits with: a check that is indeterminate is no success. -/
def exitCode (S : Serde) (raw : Option (List UInt8)) (modified : Option ℕ) (wall : ℕ)
    (requireReady : Bool) : ℕ :=
  match runHealthcheck S raw modified wall requireReady with
  | .ok code => code
  | .error _ => 2

/-- A good verdict is of a fresh snapshot that says so. -/
theorem verdict_eq_zero {snapshot : HealthSnapshot} {ageMs : ℕ} {requireReady : Bool}
    (h : verdict snapshot ageMs requireReady = 0) :
    ageMs ≤ snapshot.progress.runtime.staleAfterMs
      ∧ (if requireReady then snapshot.readiness = .ready else snapshot.liveness = .live) := by
  unfold verdict at h
  split at h
  · exact absurd h (by decide)
  · rename_i hfresh
    refine ⟨Nat.not_lt.mp hfresh, ?_⟩
    cases requireReady
    · simp only [Bool.false_eq_true, if_false] at h ⊢
      cases hlive : snapshot.liveness <;> simp [hlive] at h ⊢
    · simp only [if_true] at h ⊢
      by_contra hready
      simp [hready] at h

/-- **What a check that succeeds has seen.** -/
theorem exitCode_eq_zero {S : Serde} {raw : Option (List UInt8)} {modified : Option ℕ} {wall : ℕ}
    {requireReady : Bool} (h : exitCode S raw modified wall requireReady = 0) :
    ∃ text snapshot time, raw = some text ∧ S.parse text = some snapshot ∧ modified = some time
      ∧ time ≤ wall ∧ (wall - time) / 1000000 ≤ snapshot.progress.runtime.staleAfterMs
      ∧ (if requireReady then snapshot.readiness = .ready else snapshot.liveness = .live) := by
  unfold exitCode runHealthcheck at h
  split at h
  · rename_i code hcode
    split at hcode
    · exact absurd hcode (by simp)
    · rename_i text
      split at hcode
      · exact absurd hcode (by simp)
      · rename_i snapshot hparse
        split at hcode
        · exact absurd hcode (by simp)
        · rename_i time htime
          obtain ⟨hmodified, hle⟩ := Option.filter_eq_some_iff.mp htime
          have hzero := (Except.ok.inj hcode).trans h
          exact ⟨text, snapshot, time, rfl, hparse, hmodified, of_decide_eq_true hle,
            verdict_eq_zero hzero⟩
  · exact absurd h (by decide)

/-! ## The invariant of the host -/

section Host

variable {S : Serde} {name : String}

/-- The directory of the file after an event: as it was, or after a call. -/
theorem disk_step (S : Serde) (name : String) (h : Host) (e : HostEvent) :
    (h.step S name e).disk = h.disk
      ∨ ∃ c, (h.step S name e).disk
          = Replacement.step name (tmpName name) h.wall h.disk c
        ∧ match c with
          | .begin pid text => ∃ emittedAt lag p, e = .write pid emittedAt lag
              ∧ h.procs pid = some p
              ∧ text = S.render (p.state.snapshot p.epoch pid emittedAt (h.mono - lag)).1 ++ [10]
          | .returns pid ok written => e = .call pid ok written
          | .gone pid => e = .exit pid := by
  cases e with
  | pass nanos => exact Or.inl rfl
  | setWall wall => exact Or.inl rfl
  | start pid epoch =>
    unfold Host.step
    dsimp only
    split <;> exact Or.inl rfl
  | change pid op =>
    unfold Host.step
    dsimp only
    split <;> exact Or.inl rfl
  | write pid emittedAt lag =>
    unfold Host.step
    dsimp only
    split
    · rename_i p hp hidle
      exact Or.inr ⟨.begin pid _, rfl, emittedAt, lag, p, rfl, hp, rfl⟩
    · exact Or.inl rfl
  | call pid ok written => exact Or.inr ⟨.returns pid ok written, rfl, rfl⟩
  | exit pid => exact Or.inr ⟨.gone pid, rfl, rfl⟩

/-- **The invariant**: every process is as far with its own file as it has written,
and who is gone writes nothing. -/
structure Host.Orderly (name : String) (h : Host) : Prop where
  sound : Sound (tmpName name) h.disk
  manned : ∀ pid, h.procs pid = none → h.disk.stages pid = .idle

/-- Events that leave the directory alone and remove no process. -/
theorem orderly_of_procs {h h' : Host} (ho : h.Orderly name) (hdisk : h'.disk = h.disk)
    (hprocs : ∀ pid, h'.procs pid = none → h.procs pid = none) : h'.Orderly name where
  sound := by
    rw [hdisk]
    exact ho.sound
  manned := by
    intro pid hpid
    rw [hdisk]
    exact ho.manned pid (hprocs pid hpid)

/-- A process that gets a state is there. -/
theorem procs_setProcess_some {h : Host} {pid : ℕ} {p : Process} (v : ℕ)
    (hv : (h.setProcess pid (some p)).procs v = none) : h.procs v = none ∧ v ≠ pid := by
  have hupdate : Function.update h.procs pid (some p) v = none := hv
  by_cases heq : v = pid
  · subst heq
    rw [Function.update_self] at hupdate
    exact absurd hupdate (by simp)
  · rw [Function.update_of_ne heq] at hupdate
    exact ⟨hupdate, heq⟩

/-- **Every event keeps the invariant.** -/
theorem orderly_step (hname : ∀ pid, tmpName name pid ≠ name) {h : Host} (ho : h.Orderly name)
    (e : HostEvent) : (h.step S name e).Orderly name := by
  have hsound : ∀ c, Sound (tmpName name) (Replacement.step name (tmpName name) h.wall h.disk c) :=
    sound_step (tmpName_injective name) hname h.wall ho.sound
  cases e with
  | pass nanos => exact orderly_of_procs ho rfl fun _ hv => hv
  | setWall wall => exact orderly_of_procs ho rfl fun _ hv => hv
  | start pid epoch =>
    unfold Host.step
    dsimp only
    split
    · exact orderly_of_procs ho rfl fun v hv => (procs_setProcess_some v hv).1
    · exact ho
  | change pid op =>
    unfold Host.step
    dsimp only
    split
    · exact orderly_of_procs ho rfl fun v hv => (procs_setProcess_some v hv).1
    · exact ho
  | write pid emittedAt lag =>
    unfold Host.step
    dsimp only
    split
    · refine ⟨hsound _, fun v hv => ?_⟩
      obtain ⟨hnone, hne⟩ := procs_setProcess_some v hv
      exact (stages_step_of_ne _ _ _ hne).trans (ho.manned v hnone)
    · exact ho
  | call pid ok written =>
    refine ⟨hsound _, fun v hv => ?_⟩
    have hidle : h.disk.stages v = .idle := ho.manned v hv
    by_cases heq : v = pid
    · subst heq
      show (advance name (tmpName name) h.wall h.disk v ok written).stages v = .idle
      unfold advance
      rw [hidle]
      exact hidle
    · exact (stages_step_of_ne _ _ _ heq).trans hidle
  | exit pid =>
    refine ⟨hsound (.gone pid), fun v hv => ?_⟩
    have hupdate : Function.update h.procs pid none v = none := hv
    by_cases heq : v = pid
    · subst heq
      exact Disk.stages_goto_self ..
    · rw [Function.update_of_ne heq] at hupdate
      exact (@stages_step_of_ne ℕ String UInt8 _ _ name (tmpName name) h.wall h.disk (.gone pid) v
        heq).trans (ho.manned v hupdate)

/-! ## What was read, and when it was written -/

/-- **The snapshot a process sets out to write** at an event. -/
def Wrote (S : Serde) (h : Host) (e : HostEvent) (text : List UInt8) : Prop :=
  ∃ pid emittedAt lag p, e = .write pid emittedAt lag ∧ h.procs pid = some p
    ∧ text = S.render (p.state.snapshot p.epoch pid emittedAt (h.mono - lag)).1 ++ [10]

/-- **A system call of a process that is there returns** at a time of the wall
clock. -/
def Returned (h : Host) (e : HostEvent) (time : ℕ) : Prop :=
  time = h.wall ∧ ∃ pid written p, e = .call pid true written ∧ h.procs pid = some p

/-- A text under way was so before, or is what a process sets out to write. -/
theorem carries_host_step (hname : ∀ pid, tmpName name pid ≠ name) {h : Host}
    (ho : h.Orderly name) {e : HostEvent} {text : List UInt8}
    (hc : Carries name (h.step S name e).disk text) :
    Carries name h.disk text ∨ Wrote S h e text := by
  rcases disk_step S name h e with hkeep | ⟨c, hdisk, hcall⟩
  · rw [hkeep] at hc
    exact Or.inl hc
  · rw [hdisk] at hc
    rcases carries_step hname h.wall ho.sound c hc with hold | ⟨pid, rfl, _⟩
    · exact Or.inl hold
    · obtain ⟨emittedAt, lag, p, he, hp, htext⟩ := hcall
      exact Or.inr ⟨pid, emittedAt, lag, p, he, hp, htext⟩

/-- A time of a file was one before, or a call returns now. -/
theorem touched_host_step {h : Host} (ho : h.Orderly name) {e : HostEvent} {time : ℕ}
    (ht : Touched (h.step S name e).disk time) : Touched h.disk time ∨ Returned h e time := by
  rcases disk_step S name h e with hkeep | ⟨c, hdisk, hcall⟩
  · rw [hkeep] at ht
    exact Or.inl ht
  · rw [hdisk] at ht
    rcases touched_step h.wall c ht with hold | ⟨htime, pid, written, rfl, hbusy⟩
    · exact Or.inl hold
    · refine Or.inr ⟨htime, pid, written, ?_⟩
      cases hp : h.procs pid with
      | none =>
        rw [ho.manned pid hp] at hbusy
        exact absurd hbusy (by decide)
      | some p => exact ⟨p, hcall, rfl⟩

theorem orderly_boot (mono wall : ℕ) : (Host.boot mono wall).Orderly name :=
  ⟨fun _ => trivial, fun _ _ => rfl⟩

/-- **What is read some process set out to write.** -/
theorem wrote_of_file (hname : ∀ pid, tmpName name pid ≠ name) (mono wall : ℕ)
    (events : List HostEvent) {file : File UInt8}
    (hfile : (Run.after (Host.step S name) (.boot mono wall) events).disk.files name = some file) :
    ∃ before e rest, events = before ++ e :: rest
      ∧ Wrote S (Run.after (Host.step S name) (.boot mono wall) before) e file.text := by
  have horigin := @Run.origin Host HostEvent (Host.step S name) (List UInt8) (Host.Orderly name)
    (fun _ _ => True) (fun h text => Carries name h.disk text) (Wrote S)
    (fun h e ho _ => orderly_step hname ho e) (fun h e x ho _ hx => carries_host_step hname ho hx)
    (.boot mono wall) events (orderly_boot mono wall)
    (Run.along_of_forall _ (fun _ _ _ => trivial) _) file.text (Or.inl ⟨file, hfile, rfl⟩)
  refine horigin.resolve_left ?_
  rintro (⟨f, hf, _⟩ | ⟨pid, hpid⟩)
  · exact absurd hf (by simp [Host.boot])
  · exact absurd hpid (by simp [Host.boot, Stage.text])

/-- **When a file was last written to, a call of some process returned.** -/
theorem returned_of_file (hname : ∀ pid, tmpName name pid ≠ name) (mono wall : ℕ)
    (events : List HostEvent) {file : File UInt8}
    (hfile : (Run.after (Host.step S name) (.boot mono wall) events).disk.files name = some file) :
    ∃ before e rest, events = before ++ e :: rest
      ∧ Returned (Run.after (Host.step S name) (.boot mono wall) before) e file.modified := by
  have horigin := @Run.origin Host HostEvent (Host.step S name) ℕ (Host.Orderly name)
    (fun _ _ => True) (fun h time => Touched h.disk time) Returned
    (fun h e ho _ => orderly_step hname ho e) (fun h e x ho _ hx => touched_host_step ho hx)
    (.boot mono wall) events (orderly_boot mono wall)
    (Run.along_of_forall _ (fun _ _ _ => trivial) _) file.modified ⟨name, file, hfile, rfl⟩
  refine horigin.resolve_left ?_
  rintro ⟨other, f, hf, _⟩
  exact absurd hf (by simp [Host.boot])

end Host

end HealthFile

namespace Sample

open HealthFile

/-- A snapshot of a process that runs, and how it is written. -/
def health : HealthSnapshot where
  healthSchemaVersion := 1
  processEpoch := "5f0c7d1e-2b6a-4a53-9a52-0f6c1d7b8e90"
  pid := 7
  sequence := 1
  emittedAt := "2026-01-01T00:00:01.000Z"
  lifecycle := .running
  liveness := .live
  readiness := .ready
  progress := ⟨⟨1, 0, 30000, true⟩, ⟨0, 1000, 120000, true⟩⟩
  subsystems := [("provider", .healthy), ("routing", .healthy), ("tunnel", .unknown)]
  externalConnectivity := [("directory", .unknown), ("dns", .unknown), ("internet", .unknown)]
  reasonCodes := []

def healthLines : List String :=
  ["\x7b",
   "  \"health_schema_version\": 1,",
   "  \"process_epoch\": \"5f0c7d1e-2b6a-4a53-9a52-0f6c1d7b8e90\",",
   "  \"pid\": 7,",
   "  \"sequence\": 1,",
   "  \"emitted_at\": \"2026-01-01T00:00:01.000Z\",",
   "  \"lifecycle\": \"running\",",
   "  \"liveness\": \"live\",",
   "  \"readiness\": \"ready\",",
   "  \"progress\": \x7b",
   "    \"runtime\": \x7b",
   "      \"sequence\": 1,",
   "      \"age_ms\": 0,",
   "      \"stale_after_ms\": 30000,",
   "      \"required\": true",
   "    \x7d,",
   "    \"supervisor\": \x7b",
   "      \"sequence\": 0,",
   "      \"age_ms\": 1000,",
   "      \"stale_after_ms\": 120000,",
   "      \"required\": true",
   "    \x7d",
   "  \x7d,",
   "  \"subsystems\": \x7b",
   "    \"provider\": \"healthy\",",
   "    \"routing\": \"healthy\",",
   "    \"tunnel\": \"unknown\"",
   "  \x7d,",
   "  \"external_connectivity\": \x7b",
   "    \"directory\": \"unknown\",",
   "    \"dns\": \"unknown\",",
   "    \"internet\": \"unknown\"",
   "  \x7d,",
   "  \"reason_codes\": []",
   "\x7d"]

def healthText : List UInt8 :=
  [(10 : UInt8)].intercalate (healthLines.map fun l => l.toList.map fun c => UInt8.ofNat c.toNat)

/-- How that one snapshot is written and read. -/
def serde : Serde where
  render snapshot := if snapshot = health then healthText else []
  parse text := if text = healthText ++ [10] then some health else none

theorem serde_readsBack : serde.ReadsBack := by
  intro snapshot read h
  by_cases heq : snapshot = health
  · subst heq
    have hparse : serde.parse (serde.render health ++ [10]) = some health := by
      simp [serde]
    exact Option.some.inj (h.symm.trans hparse)
  · have hnone : serde.parse (serde.render snapshot ++ [10]) = none := by
      have hne : ([10] : List UInt8) ≠ healthText ++ [10] := by decide +kernel
      simp [serde, heq, hne]
    rw [hnone] at h
    exact absurd h (by simp)

/-- A process starts, runs and writes; its file is in place after five calls. -/
def writesOnce : List HostEvent :=
  [.start 7 "5f0c7d1e-2b6a-4a53-9a52-0f6c1d7b8e90", .change 7 .markRunning, .pass 1000000000,
   .change 7 .advanceRuntime, .write 7 "2026-01-01T00:00:01.000Z" 0, .call 7 true 0, .call 7 true 0,
   .call 7 true 4096, .call 7 true 0, .call 7 true 0]

end Sample

namespace HealthFile

open Sample

end HealthFile
