import IicpDirectory.Foundations.WindowedBudget
import IicpDirectory.Json
import Mathlib.Logic.Function.Basic

/-!
# The rate of registrations

An address has a window of a minute: it opens with an attempt when there is
none, or when the one there is has lasted its minute, and it counts every
attempt, those it rejects too. An attempt beyond the sixtieth is rejected.

The count has 32 bits. Seen as a budget of sixty a window, what is admitted
in a minute is 120 at most, wherever the minute begins (`Foundations`'
`grantedIn_le`): the windows of an address open a minute apart.
-/

/-- `REGISTER_RATE_LIMIT`. -/
def registerRateLimit : ℕ := 60

/-- `REGISTER_RATE_TTL_MS`. -/
def registerRateTtlMs : ℕ := 60000

/-- `register_rate_step`: the count and the start of the window. -/
def registerRateStep (prev : Option (ℕ × ℕ)) (nowMs ttlMs : ℕ) : ℕ × ℕ :=
  match prev with
  | some (count, startMs) =>
    if nowMs - startMs < ttlMs then ((count + 1) % 4294967296, startMs) else (1, nowMs)
  | none => (1, nowMs)

/-- The windows of the addresses. -/
abbrev RegisterRates := String → Option (ℕ × ℕ)

/-- What an attempt beyond the limit is answered. -/
def registerRateBody : Json :=
  .object [("error", .string "IICP-E034"),
    ("message", .string
      "Too many registration attempts from this source IP. Try again shortly."),
    ("retry_after", .number (.posInt (registerRateTtlMs / 1000)))]

/-- `registration_rate_rejection`: the windows afterwards, and the status and
the body of a rejection. -/
def registrationRateRejection (rates : RegisterRates) (ip : String) (nowMs : ℕ) :
    RegisterRates × Option (ℕ × Json) :=
  let window := registerRateStep (rates ip) nowMs registerRateTtlMs
  (Function.update rates ip (some window),
    if registerRateLimit < window.1 then some (429, registerRateBody) else none)

/-! ## Runs of attempts -/

/-- An attempt to register. -/
structure RegisterAttempt where
  ip : String
  nowMs : ℕ
  deriving DecidableEq

/-- The attempts of a run, each with whether it is rejected. -/
def rateLog : RegisterRates → List RegisterAttempt → List (RegisterAttempt × Bool)
  | _, [] => []
  | rates, a :: rest =>
    (a, (registrationRateRejection rates a.ip a.nowMs).2.isSome)
      :: rateLog (registrationRateRejection rates a.ip a.nowMs).1 rest

/-- An attempt of an address within a minute. -/
def RegisterAttempt.within (ip : String) (beginsMs : ℕ) (a : RegisterAttempt) : Bool :=
  decide (a.ip = ip) && decide (beginsMs ≤ a.nowMs)
    && decide (a.nowMs < beginsMs + registerRateTtlMs)

theorem RegisterAttempt.within_iff {ip : String} {beginsMs : ℕ} {a : RegisterAttempt} :
    a.within ip beginsMs = true
      ↔ a.ip = ip ∧ beginsMs ≤ a.nowMs ∧ a.nowMs < beginsMs + registerRateTtlMs := by
  unfold within
  rw [Bool.and_eq_true, Bool.and_eq_true, decide_eq_true_eq, decide_eq_true_eq,
    decide_eq_true_eq, and_assoc]

/-- No address makes `2 ^ 32` attempts within a minute. -/
def FewAttempts (attempts : List RegisterAttempt) : Prop :=
  ∀ ip beginsMs, attempts.countP (RegisterAttempt.within ip beginsMs) < 4294967296

section Step

variable {rates : RegisterRates} {ip : String} {nowMs : ℕ}

theorem rejected_iff :
    (registrationRateRejection rates ip nowMs).2.isSome = true
      ↔ registerRateLimit < (registerRateStep (rates ip) nowMs registerRateTtlMs).1 := by
  unfold registrationRateRejection
  dsimp only
  split
  · next h => exact iff_of_true rfl h
  · next h => exact iff_of_false Bool.false_ne_true h

/-- An attempt leaves its window at its address. -/
theorem rates_self :
    (registrationRateRejection rates ip nowMs).1 ip
      = some (registerRateStep (rates ip) nowMs registerRateTtlMs) :=
  Function.update_self ..

/-- And every other address its own. -/
theorem rates_of_ne {other : String} (h : other ≠ ip) :
    (registrationRateRejection rates ip nowMs).1 other = rates other :=
  Function.update_of_ne h ..

/-- **What a step of a window can do**: count, or open anew. -/
theorem registerRateStep_cases (prev : Option (ℕ × ℕ)) (nowMs ttlMs : ℕ) :
    (∃ count startMs, prev = some (count, startMs) ∧ nowMs - startMs < ttlMs
        ∧ registerRateStep prev nowMs ttlMs = ((count + 1) % 4294967296, startMs))
      ∨ (∀ count startMs, prev = some (count, startMs) → ttlMs ≤ nowMs - startMs)
        ∧ registerRateStep prev nowMs ttlMs = (1, nowMs) := by
  unfold registerRateStep
  match prev with
  | none => exact .inr ⟨fun _ _ h => (nomatch h), rfl⟩
  | some (count, startMs) =>
    by_cases hlive : nowMs - startMs < ttlMs
    · exact .inl ⟨count, startMs, rfl, hlive, if_pos hlive⟩
    · refine .inr ⟨fun c s h => ?_, if_neg hlive⟩
      cases h
      exact not_lt.mp hlive

end Step

/-! ## What a window counts -/

/-- **The windows count no more than there was**: each opened with an attempt
of its address, and counts no more than its attempts since. -/
def AttemptsCounted (seen : List RegisterAttempt) (rates : RegisterRates) : Prop :=
  ∀ ip count startMs, rates ip = some (count, startMs) →
    (∃ a ∈ seen, a.nowMs = startMs) ∧ count ≤ seen.countP (RegisterAttempt.within ip startMs)

theorem AttemptsCounted.nil : AttemptsCounted [] fun _ => none := fun _ _ _ h => nomatch h

/-- **An attempt is counted**, if the clock did not run back. -/
theorem AttemptsCounted.step {seen : List RegisterAttempt} {rates : RegisterRates}
    (h : AttemptsCounted seen rates) {a : RegisterAttempt} (hclock : ∀ b ∈ seen, b.nowMs ≤ a.nowMs) :
    AttemptsCounted (seen ++ [a]) (registrationRateRejection rates a.ip a.nowMs).1 := by
  intro ip count startMs hwindow
  by_cases hip : ip = a.ip
  · subst hip
    rw [rates_self] at hwindow
    obtain ⟨c, s, hprev, hlive, hstep⟩ | ⟨-, hstep⟩ :=
      registerRateStep_cases (rates a.ip) a.nowMs registerRateTtlMs
    · rw [hstep] at hwindow
      cases hwindow
      obtain ⟨⟨b, hb, hbtime⟩, hcount⟩ := h a.ip c startMs hprev
      have hwithin : a.within a.ip startMs = true :=
        RegisterAttempt.within_iff.mpr ⟨rfl, hbtime ▸ hclock b hb, by omega⟩
      refine ⟨⟨b, List.mem_append_left _ hb, hbtime⟩, ?_⟩
      rw [List.countP_append, List.countP_singleton, if_pos hwithin]
      have hmod := Nat.mod_le (c + 1) 4294967296
      omega
    · rw [hstep] at hwindow
      cases hwindow
      have hwithin : a.within a.ip a.nowMs = true :=
        RegisterAttempt.within_iff.mpr ⟨rfl, le_rfl, by unfold registerRateTtlMs; omega⟩
      refine ⟨⟨a, List.mem_append_right _ (List.mem_singleton_self a), rfl⟩, ?_⟩
      rw [List.countP_append, List.countP_singleton, if_pos hwithin]
      omega
  · rw [rates_of_ne hip] at hwindow
    obtain ⟨⟨b, hb, hbtime⟩, hcount⟩ := h ip count startMs hwindow
    refine ⟨⟨b, List.mem_append_left _ hb, hbtime⟩, hcount.trans ?_⟩
    rw [List.countP_append]
    exact Nat.le_add_right _ _

/-- **A rejection takes sixty attempts** of the address in the minute before. -/
theorem AttemptsCounted.of_rejected {seen : List RegisterAttempt} {rates : RegisterRates}
    (h : AttemptsCounted seen rates) {a : RegisterAttempt}
    (hrejected : (registrationRateRejection rates a.ip a.nowMs).2.isSome = true) :
    registerRateLimit ≤ seen.countP fun b =>
      decide (b.ip = a.ip) && decide (a.nowMs < b.nowMs + registerRateTtlMs) := by
  rw [rejected_iff] at hrejected
  obtain ⟨c, s, hprev, hlive, hstep⟩ | ⟨-, hstep⟩ :=
    registerRateStep_cases (rates a.ip) a.nowMs registerRateTtlMs
  · rw [hstep] at hrejected
    obtain ⟨-, hcount⟩ := h a.ip c s hprev
    have hmod := Nat.mod_le (c + 1) 4294967296
    have hmore : registerRateLimit ≤ c := by
      have hlt : registerRateLimit < (c + 1) % 4294967296 := hrejected
      omega
    refine hmore.trans (hcount.trans (List.countP_mono_left fun b _ hb => ?_))
    obtain ⟨hip, hstart, -⟩ := RegisterAttempt.within_iff.mp hb
    rw [Bool.and_eq_true, decide_eq_true_eq, decide_eq_true_eq]
    exact ⟨hip, by omega⟩
  · rw [hstep] at hrejected
    have hone : ¬ registerRateLimit < 1 := by decide
    exact absurd hrejected hone

/-! ## The windows as budgets -/

open WindowedBudget

/-- A window as a budget that is renewed: what is spent is what it admitted. -/
def budgetOf : Option (ℕ × ℕ) → State ℤ
  | none => ⟨0, none⟩
  | some (count, startMs) => ⟨min count registerRateLimit, some startMs⟩

theorem sound_budgetOf (prev : Option (ℕ × ℕ)) :
    Sound (registerRateLimit : ℤ) id (budgetOf prev) := by
  match prev with
  | none => exact ⟨le_rfl, by decide, fun _ h => nomatch h⟩
  | some (count, startMs) =>
    refine ⟨?_, min_le_right _ _, fun start _ => ⟨start, rfl⟩⟩
    exact le_min (Int.natCast_nonneg count) (by decide)

theorem stamps_id : Stamps id (registerRateTtlMs : ℤ) where
  lt_stamp_add t := by
    show t < t + (60000 : ℤ)
    omega
  le_stamp _ _ h := h

/-- **A step of a window is an asking for one**, unless its count overflows. -/
theorem budgetOf_step (prev : Option (ℕ × ℕ)) (nowMs : ℕ)
    (hcount : ∀ count startMs, prev = some (count, startMs) →
      nowMs - startMs < registerRateTtlMs → count + 1 < 4294967296) :
    budgetOf (some (registerRateStep prev nowMs registerRateTtlMs))
        = (budgetOf prev).next (registerRateLimit : ℤ) id registerRateTtlMs 1 nowMs
      ∧ (budgetOf prev).granted (registerRateLimit : ℤ) registerRateTtlMs 1 nowMs
        = if registerRateLimit < (registerRateStep prev nowMs registerRateTtlMs).1 then 0
          else 1 := by
  obtain ⟨c, s, rfl, hlive, hstep⟩ | ⟨hover, hstep⟩ :=
    registerRateStep_cases prev nowMs registerRateTtlMs
  · have hfits := Nat.mod_eq_of_lt (hcount c s rfl hlive)
    have hexpired : (budgetOf (some (c, s))).expired registerRateTtlMs nowMs = false := by
      refine Bool.eq_false_iff.mpr fun h => ?_
      have hle := (expired_iff (s := budgetOf (some (c, s))) rfl).mp h
      omega
    have hbefore : (budgetOf (some (c, s))).before registerRateTtlMs nowMs
        = min (c : ℤ) registerRateLimit := by
      unfold State.before
      rw [hexpired]
      rfl
    have hgranted : (budgetOf (some (c, s))).granted (registerRateLimit : ℤ) registerRateTtlMs 1 nowMs
        = if registerRateLimit < c + 1 then 0 else 1 := by
      unfold State.granted
      rw [if_pos Int.one_pos, hbefore]
      unfold registerRateLimit
      split <;> omega
    rw [hstep, hfits]
    refine ⟨?_, hgranted⟩
    unfold State.next
    rw [if_pos Int.one_pos, hgranted, hbefore, hexpired]
    show State.mk _ _ = State.mk _ _
    rw [State.mk.injEq]
    refine ⟨?_, rfl⟩
    unfold registerRateLimit
    split <;> omega
  · have hexpired : (budgetOf prev).expired registerRateTtlMs nowMs = true := by
      match prev with
      | none => rfl
      | some (c, s) =>
        refine (expired_iff (s := budgetOf (some (c, s))) rfl).mpr ?_
        have hle := hover c s rfl
        unfold registerRateTtlMs at hle ⊢
        omega
    have hbefore : (budgetOf prev).before registerRateTtlMs nowMs = 0 := by
      unfold State.before
      rw [hexpired]
      rfl
    have hgranted : (budgetOf prev).granted (registerRateLimit : ℤ) registerRateTtlMs 1 nowMs = 1 := by
      unfold State.granted
      rw [if_pos Int.one_pos, hbefore]
      rfl
    rw [hstep, hgranted]
    refine ⟨?_, rfl⟩
    unfold State.next
    rw [if_pos Int.one_pos, hgranted, hbefore, hexpired]
    rfl

/-- What the attempts of an address ask of its budget. -/
def asksOf (ip : String) (attempts : List RegisterAttempt) : List (ℤ × ℤ) :=
  (attempts.filter fun a => decide (a.ip = ip)).map fun a => (1, (a.nowMs : ℤ))

theorem asksOf_cons_self {a : RegisterAttempt} {rest : List RegisterAttempt} :
    asksOf a.ip (a :: rest) = (1, (a.nowMs : ℤ)) :: asksOf a.ip rest := by
  unfold asksOf
  rw [List.filter_cons, if_pos (decide_eq_true rfl)]
  rfl

theorem asksOf_cons_of_ne {ip : String} {a : RegisterAttempt} {rest : List RegisterAttempt}
    (h : a.ip ≠ ip) : asksOf ip (a :: rest) = asksOf ip rest := by
  unfold asksOf
  rw [List.filter_cons, if_neg (by simpa using h)]

theorem pairwise_asksOf {attempts : List RegisterAttempt} (ip : String)
    (hclock : attempts.Pairwise fun a b => a.nowMs ≤ b.nowMs) :
    (asksOf ip attempts).Pairwise fun a b => a.2 ≤ b.2 := by
  unfold asksOf
  rw [List.pairwise_map]
  exact (hclock.sublist List.filter_sublist).imp Int.ofNat_le.mpr

/-- **A count does not overflow** where there are few attempts. -/
theorem AttemptsCounted.fits {seen rest : List RegisterAttempt} {a : RegisterAttempt}
    {rates : RegisterRates} (h : AttemptsCounted seen rates) (hfew : FewAttempts (seen ++ a :: rest))
    (hclock : ∀ b ∈ seen, b.nowMs ≤ a.nowMs) (count startMs : ℕ)
    (hwindow : rates a.ip = some (count, startMs))
    (hlive : a.nowMs - startMs < registerRateTtlMs) : count + 1 < 4294967296 := by
  obtain ⟨⟨b, hb, hbtime⟩, hcount⟩ := h a.ip count startMs hwindow
  have hwithin : a.within a.ip startMs = true :=
    RegisterAttempt.within_iff.mpr ⟨rfl, hbtime ▸ hclock b hb, by omega⟩
  have hall := hfew a.ip startMs
  rw [List.countP_append, List.countP_cons_of_pos hwithin] at hall
  omega

/-- **What a run admits of an address in a minute** is no more than its
budget grants. -/
theorem countP_admitted_le (ip : String) (beginsMs : ℕ) {seen rest : List RegisterAttempt}
    {rates : RegisterRates} (hcounted : AttemptsCounted seen rates) (hfew : FewAttempts (seen ++ rest))
    (hclock : (seen ++ rest).Pairwise fun a b => a.nowMs ≤ b.nowMs) :
    ((rateLog rates rest).countP (fun e => !e.2 && e.1.within ip beginsMs) : ℤ)
      ≤ grantedIn (registerRateLimit : ℤ) id registerRateTtlMs beginsMs (budgetOf (rates ip))
        (asksOf ip rest) := by
  induction rest generalizing seen rates with
  | nil => exact le_rfl
  | cons a rest ih =>
    have hbefore : ∀ b ∈ seen, b.nowMs ≤ a.nowMs := fun b hb =>
      (List.pairwise_append.mp hclock).2.2 b hb a List.mem_cons_self
    have happend : seen ++ a :: rest = (seen ++ [a]) ++ rest := by
      rw [List.append_assoc]
      rfl
    have hrest := ih (hcounted.step hbefore) (happend ▸ hfew) (happend ▸ hclock)
    rw [rateLog, List.countP_cons]
    by_cases hip : a.ip = ip
    · subst hip
      obtain ⟨hnext, hgranted⟩ := budgetOf_step (rates a.ip) a.nowMs
        (hcounted.fits hfew hbefore)
      rw [rates_self] at hrest
      rw [asksOf_cons_self, grantedIn, ← hnext, hgranted, Nat.cast_add, add_comm]
      refine add_le_add ?_ hrest
      -- what is admitted within the minute is granted in the interval
      by_cases hrejected : registerRateLimit
          < (registerRateStep (rates a.ip) a.nowMs registerRateTtlMs).1
      · rw [rejected_iff.mpr hrejected, Bool.not_true, Bool.false_and,
          if_neg Bool.false_ne_true, if_pos hrejected, ite_self]
        exact le_rfl
      · rw [if_neg hrejected]
        by_cases hwithin : a.within a.ip beginsMs = true
        · obtain ⟨-, hfrom, hto⟩ := RegisterAttempt.within_iff.mp hwithin
          rw [if_pos (c := (beginsMs : ℤ) ≤ a.nowMs ∧ _) (by omega)]
          split <;> decide
        · rw [Bool.eq_false_iff.mpr hwithin, Bool.and_false, if_neg Bool.false_ne_true]
          split <;> decide
    · have hnot : a.within ip beginsMs = false := by
        rw [Bool.eq_false_iff]
        exact fun h => hip (RegisterAttempt.within_iff.mp h).1
      rw [asksOf_cons_of_ne hip, hnot, Bool.and_false]
      rw [rates_of_ne (Ne.symm hip)] at hrest
      exact hrest

/-! ## One address among others -/

/-- **What an address is answered is what it is answered alone.** -/
theorem filter_rateLog (ip : String) {rates rates' : RegisterRates} (h : rates ip = rates' ip)
    (attempts : List RegisterAttempt) :
    (rateLog rates attempts).filter (fun e => decide (e.1.ip = ip))
      = rateLog rates' (attempts.filter fun a => decide (a.ip = ip)) := by
  induction attempts generalizing rates rates' with
  | nil => rfl
  | cons a rest ih =>
    rw [rateLog, List.filter_cons, List.filter_cons]
    by_cases hip : a.ip = ip
    · subst hip
      have hsame : (registrationRateRejection rates a.ip a.nowMs).2
          = (registrationRateRejection rates' a.ip a.nowMs).2 := by
        unfold registrationRateRejection
        rw [h]
      rw [if_pos (decide_eq_true rfl), if_pos (decide_eq_true rfl), rateLog, hsame]
      refine congrArg _ (ih ?_)
      rw [rates_self, rates_self, h]
    · rw [if_neg (by simpa using hip), if_neg (by simpa using hip)]
      refine ih ?_
      rw [rates_of_ne (Ne.symm hip), h]

/-- The run up to a place, and the attempt there. -/
theorem split_rateLog {rates : RegisterRates} {attempts : List RegisterAttempt}
    {before after : List (RegisterAttempt × Bool)} {a : RegisterAttempt} {rejected : Bool}
    (h : rateLog rates attempts = before ++ (a, rejected) :: after) :
    ∃ rest rates', attempts = before.map Prod.fst ++ a :: rest
      ∧ rejected = (registrationRateRejection rates' a.ip a.nowMs).2.isSome
      ∧ ∀ seen, AttemptsCounted seen rates → (seen ++ attempts).Pairwise (fun b c => b.nowMs ≤ c.nowMs) →
        AttemptsCounted (seen ++ before.map Prod.fst) rates' := by
  induction before generalizing rates attempts with
  | nil =>
    cases attempts with
    | nil => exact nomatch h
    | cons b rest =>
      cases h
      exact ⟨rest, rates, rfl, rfl, fun seen hcounted _ => by rwa [List.map_nil, List.append_nil]⟩
  | cons e before ih =>
    cases attempts with
    | nil => exact nomatch h
    | cons b attempts =>
      rw [rateLog, List.cons_append, List.cons.injEq] at h
      obtain ⟨rfl, h⟩ := h
      obtain ⟨rest, rates', rfl, hrejected, hcounted⟩ := ih h
      refine ⟨rest, rates', rfl, hrejected, fun seen hseen hclock => ?_⟩
      have hbefore : ∀ c ∈ seen, c.nowMs ≤ b.nowMs := fun c hc =>
        (List.pairwise_append.mp hclock).2.2 c hc b List.mem_cons_self
      have hlater := hcounted (seen ++ [b]) (hseen.step hbefore)
        (by rw [List.append_assoc]; exact hclock)
      rw [List.append_assoc] at hlater
      exact hlater

/-- **The rate of registrations is limited.** In every run of attempts whose
clock never runs back, an attempt is rejected only if sixty of the same
address lie in the minute before it; so one that was silent for a minute is
admitted. No more than 120 of an address are admitted in a minute. And what
an address is answered hangs on its own attempts alone. -/
theorem rateLog_limited (attempts : List RegisterAttempt)
    (hclock : attempts.Pairwise fun a b => a.nowMs ≤ b.nowMs) (hfew : FewAttempts attempts) :
    (∀ before after a, rateLog (fun _ => none) attempts = before ++ (a, true) :: after →
        60 ≤ before.countP fun e =>
          decide (e.1.ip = a.ip) && decide (a.nowMs < e.1.nowMs + 60000))
      ∧ (∀ ip beginsMs, (rateLog (fun _ => none) attempts).countP (fun e =>
          !e.2 && (decide (e.1.ip = ip) && decide (beginsMs ≤ e.1.nowMs)
            && decide (e.1.nowMs < beginsMs + 60000))) ≤ 120)
      ∧ (∀ ip, (rateLog (fun _ => none) attempts).filter (fun e => decide (e.1.ip = ip))
        = rateLog (fun _ => none) (attempts.filter fun a => decide (a.ip = ip)))
      ∧ ∀ before after a rejected,
        rateLog (fun _ => none) attempts = before ++ (a, rejected) :: after →
        (∀ e ∈ before, e.1.ip = a.ip → e.1.nowMs + 60000 ≤ a.nowMs) → rejected = false := by
  have hrejected : ∀ before after a, rateLog (fun _ => none) attempts
      = before ++ (a, true) :: after → registerRateLimit ≤ before.countP fun e =>
        decide (e.1.ip = a.ip) && decide (a.nowMs < e.1.nowMs + registerRateTtlMs) := by
    intro before after a h
    obtain ⟨rest, rates', hsplit, hrejected, hcounted⟩ := split_rateLog h
    have hmany := (hcounted [] AttemptsCounted.nil hclock).of_rejected hrejected.symm
    rwa [List.nil_append, List.countP_map] at hmany
  refine ⟨hrejected, fun ip beginsMs => ?_, fun ip => filter_rateLog ip rfl attempts, ?_⟩
  · have hle := @countP_admitted_le ip beginsMs [] attempts _ AttemptsCounted.nil hfew hclock
    have hbudget := grantedIn_le stamps_id (Int.natCast_nonneg registerRateLimit) beginsMs
      (sound_budgetOf none) (pairwise_asksOf ip hclock)
    have hboth := hle.trans hbudget
    unfold registerRateLimit at hboth
    exact Int.ofNat_le.mp hboth
  · intro before after a rejected h hsilent
    cases rejected with
    | false => rfl
    | true =>
      have hmany := hrejected before after a h
      have hnone : before.countP (fun e =>
          decide (e.1.ip = a.ip) && decide (a.nowMs < e.1.nowMs + registerRateTtlMs)) = 0 := by
        rw [List.countP_eq_zero]
        intro e he hboth
        rw [Bool.and_eq_true, decide_eq_true_eq, decide_eq_true_eq] at hboth
        have hle := hsilent e he hboth.1
        unfold registerRateTtlMs at hboth
        omega
      rw [hnone] at hmany
      exact absurd hmany (by decide)

theorem rateLog_limited_two :
    [RegisterAttempt.mk "198.51.100.7" 0, ⟨"198.51.100.7", 70000⟩].Pairwise
        (fun a b => a.nowMs ≤ b.nowMs)
      ∧ (rateLog (fun _ => none)
          [⟨"198.51.100.7", 0⟩, ⟨"198.51.100.7", 70000⟩]).countP (fun e =>
        !e.2 && (decide (e.1.ip = "198.51.100.7") && decide (0 ≤ e.1.nowMs)
          && decide (e.1.nowMs < 0 + 60000))) ≤ 120 :=
  ⟨by decide, (rateLog_limited _ (by decide)
    fun _ _ => List.countP_le_length.trans_lt (by decide)).2.1 "198.51.100.7" 0⟩
