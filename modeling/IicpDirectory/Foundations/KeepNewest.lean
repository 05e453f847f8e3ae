import IicpDirectory.Foundations.Keyed
import IicpDirectory.Foundations.Table
import Mathlib.Data.List.Induction
import Mathlib.Data.List.Perm.Basic
import Mathlib.Order.Lattice

/-!
# Registers that keep the newest report

Reports arrive in some order. A register takes the first one and then only
those that are newer than what it holds; the tag it was first filed under
stays. What it holds in the end should not depend on the order of arrival.
`standing_perm_iff` says when it does not: all reports carry one tag, and
there is only one newest.

A table of such registers, one for each key, is read key by key: what it
holds under a key is what the reports under that key leave in one register.
-/

/-! ## Lists -/

/-- An order of what a function keeps of a list comes from an order of the
list. -/
theorem List.exists_perm_filterMap {α β : Type*} (f : α → Option β) {l : List α} {m : List β}
    (h : m.Perm (l.filterMap f)) : ∃ l' : List α, l'.Perm l ∧ l'.filterMap f = m := by
  induction m generalizing l with
  | nil => exact ⟨l, .refl l, h.nil_eq.symm⟩
  | cons b m ih =>
    obtain ⟨a, ha, hab⟩ := List.mem_filterMap.mp (h.mem_iff.mp (List.mem_cons_self ..))
    obtain ⟨before, after, rfl⟩ := List.append_of_mem ha
    have hmiddle : (before ++ a :: after).Perm (a :: (before ++ after)) := List.perm_middle
    have hrest : m.Perm ((before ++ after).filterMap f) := by
      have hcons := h.trans (hmiddle.filterMap f)
      rw [List.filterMap_cons_some hab] at hcons
      exact hcons.cons_inv
    obtain ⟨l', hperm, hl'⟩ := ih hrest
    exact ⟨a :: l', (hperm.cons a).trans hmiddle.symm, by rw [List.filterMap_cons_some hab, hl']⟩

/-- A list without repetition whose members are all one. -/
theorem List.eq_singleton_of_nodup {α : Type*} {l : List α} {a : α} (hnodup : l.Nodup)
    (hall : ∀ x ∈ l, x = a) (hmem : a ∈ l) : l = [a] := by
  refine List.perm_singleton.mp ((List.perm_ext_iff_of_nodup hnodup (List.nodup_singleton a)).mpr ?_)
  intro x
  rw [List.mem_singleton]
  exact ⟨hall x, fun hx => hx ▸ hmem⟩

namespace KeepNewest

variable {R G T K : Type*} [LinearOrder T]

/-- **What merging a report into the one that is held does**: an older one
changes nothing, a newer one replaces everything but the tag. -/
structure Lawful (tag : R → G) (time : R → T) (merge : R → R → R) : Prop where
  tag_merge : ∀ new old, tag (merge new old) = tag old
  stale : ∀ new old, time new ≤ time old → merge new old = old
  fresh : ∀ new old, time old < time new → tag new = tag old → merge new old = new
  time_fresh : ∀ new old, time old < time new → time (merge new old) = time new

/-- A report is no older than any of a list it is in. -/
def Newest (time : R → T) (reports : List R) (r : R) : Prop :=
  r ∈ reports ∧ ∀ x ∈ reports, time x ≤ time r

/-- **The reports agree**: on the tag, and on which one is the newest. -/
structure Agree (tag : R → G) (time : R → T) (reports : List R) : Prop where
  tags : ∀ a ∈ reports, ∀ b ∈ reports, tag a = tag b
  newest : ∀ a b, Newest time reports a → Newest time reports b → a = b

/-! ## One register -/

section Register

variable (merge : R → R → R)

/-- What a register that holds a report holds after others. -/
def settle (first : R) (rest : List R) : R := rest.foldl (fun old new => merge new old) first

/-- A register takes a report. -/
def absorb (held : Option R) (new : R) : Option R := some ((held.map (merge new)).getD new)

/-- What an empty register holds after reports. -/
def standing (reports : List R) : Option R := reports.foldl (absorb merge) none

theorem foldl_absorb_some (first : R) (rest : List R) :
    rest.foldl (absorb merge) (some first) = some (settle merge first rest) := by
  induction rest generalizing first with
  | nil => rfl
  | cons r rest ih => exact ih (merge r first)

theorem standing_cons (first : R) (rest : List R) :
    standing merge (first :: rest) = some (settle merge first rest) :=
  foldl_absorb_some merge first rest

theorem standing_isSome_iff (reports : List R) :
    (standing merge reports).isSome = true ↔ reports ≠ [] := by
  cases reports with
  | nil => simp [standing]
  | cons first rest => simp [standing_cons]

end Register

variable {tag : R → G} {time : R → T} {merge : R → R → R}

theorem tag_settle (h : Lawful tag time merge) (first : R) (rest : List R) :
    tag (settle merge first rest) = tag first := by
  induction rest generalizing first with
  | nil => rfl
  | cons r rest ih => exact (ih (merge r first)).trans (h.tag_merge r first)

/-- A report that is not older than those after it stays. -/
theorem settle_of_stale (h : Lawful tag time merge) {first : R} {rest : List R}
    (hstale : ∀ x ∈ rest, time x ≤ time first) : settle merge first rest = first := by
  induction rest with
  | nil => rfl
  | cons r rest ih =>
    show settle merge (merge r first) rest = first
    rw [h.stale r first (hstale r (List.mem_cons_self ..))]
    exact ih fun x hx => hstale x (List.mem_cons_of_mem r hx)

theorem le_time_merge (h : Lawful tag time merge) (new old : R) :
    time old ≤ time (merge new old) ∧ time new ≤ time (merge new old) := by
  rcases le_or_gt (time new) (time old) with hle | hlt
  · rw [h.stale new old hle]
    exact ⟨le_rfl, hle⟩
  · rw [h.time_fresh new old hlt]
    exact ⟨hlt.le, le_rfl⟩

/-- What a register holds is not older than anything it was given. -/
theorem le_time_settle (h : Lawful tag time merge) (first : R) (rest : List R) :
    ∀ x ∈ first :: rest, time x ≤ time (settle merge first rest) := by
  induction rest generalizing first with
  | nil =>
    intro x hx
    rw [List.mem_singleton.mp hx]
    rfl
  | cons r rest ih =>
    have hmerged := ih (merge r first)
    obtain ⟨hold, hnew⟩ := le_time_merge h r first
    have hhead := hmerged (merge r first) (List.mem_cons_self ..)
    intro x hx
    rcases List.mem_cons.mp hx with rfl | hx
    · exact hold.trans hhead
    · rcases List.mem_cons.mp hx with rfl | hx
      · exact hnew.trans hhead
      · exact hmerged x (List.mem_cons_of_mem _ hx)

/-- Where all tags are the same, a register holds one of the reports. -/
theorem settle_mem (h : Lawful tag time merge) {first : R} {rest : List R}
    (htags : ∀ x ∈ rest, tag x = tag first) : settle merge first rest ∈ first :: rest := by
  induction rest generalizing first with
  | nil => exact List.mem_singleton.mpr rfl
  | cons r rest ih =>
    have hmem : settle merge (merge r first) rest ∈ merge r first :: rest := ih fun x hx =>
      (htags x (List.mem_cons_of_mem r hx)).trans (h.tag_merge r first).symm
    rcases List.mem_cons.mp hmem with heq | hrest
    · show settle merge (merge r first) rest ∈ _
      rw [heq]
      rcases le_or_gt (time r) (time first) with hle | hlt
      · rw [h.stale r first hle]
        exact List.mem_cons_self ..
      · rw [h.fresh r first hlt (htags r (List.mem_cons_self ..))]
        exact List.mem_cons_of_mem _ (List.mem_cons_self ..)
    · exact List.mem_cons_of_mem _ (List.mem_cons_of_mem _ hrest)

/-- **Where the reports agree, the register holds the newest**, whatever
their order. -/
theorem standing_eq_some_iff (h : Lawful tag time merge) {reports : List R}
    (hagree : Agree tag time reports) (r : R) :
    standing merge reports = some r ↔ Newest time reports r := by
  cases reports with
  | nil => simp [standing, Newest]
  | cons first rest =>
    have hnewest : Newest time (first :: rest) (settle merge first rest) :=
      ⟨settle_mem h fun x hx =>
          hagree.tags x (List.mem_cons_of_mem _ hx) first (List.mem_cons_self ..),
        le_time_settle h first rest⟩
    rw [standing_cons]
    constructor
    · intro heq
      rw [← Option.some.inj heq]
      exact hnewest
    · intro hr
      rw [hagree.newest _ _ hnewest hr]

theorem newest_perm {first second : List R} (hperm : first.Perm second) (r : R) :
    Newest time first r ↔ Newest time second r := by
  unfold Newest
  rw [hperm.mem_iff]
  exact and_congr_right fun _ => forall_congr' fun x => by rw [hperm.mem_iff]

theorem agree_perm {first second : List R} (hperm : first.Perm second)
    (hagree : Agree tag time first) : Agree tag time second where
  tags a ha b hb := hagree.tags a (hperm.mem_iff.mpr ha) b (hperm.mem_iff.mpr hb)
  newest a b ha hb := hagree.newest a b ((newest_perm hperm a).mpr ha) ((newest_perm hperm b).mpr hb)

/-- Any of the reports may arrive first. -/
theorem exists_perm_cons {reports : List R} {r : R} (hr : r ∈ reports) :
    ∃ rest, (r :: rest).Perm reports := by
  obtain ⟨before, after, rfl⟩ := List.append_of_mem hr
  exact ⟨before ++ after, List.perm_middle.symm⟩

/-- **When the order of arrival does not matter.** The first report to
arrive gives the register its tag, and the first of the newest what it
says. -/
theorem standing_perm_iff (h : Lawful tag time merge) (reports : List R) :
    (∀ first second : List R, first.Perm reports → second.Perm reports →
        standing merge first = standing merge second)
      ↔ Agree tag time reports := by
  constructor
  · intro hsame
    constructor
    · intro a ha b hb
      obtain ⟨as, has⟩ := exists_perm_cons ha
      obtain ⟨bs, hbs⟩ := exists_perm_cons hb
      have heq := hsame _ _ has hbs
      rw [standing_cons, standing_cons] at heq
      rw [← tag_settle h a as, ← tag_settle h b bs, Option.some.inj heq]
    · intro a b ha hb
      obtain ⟨as, has⟩ := exists_perm_cons ha.1
      obtain ⟨bs, hbs⟩ := exists_perm_cons hb.1
      have heq := hsame _ _ has hbs
      have hfirst : settle merge a as = a := settle_of_stale h fun x hx =>
        ha.2 x (has.mem_iff.mp (List.mem_cons_of_mem _ hx))
      have hsecond : settle merge b bs = b := settle_of_stale h fun x hx =>
        hb.2 x (hbs.mem_iff.mp (List.mem_cons_of_mem _ hx))
      rw [standing_cons, standing_cons, hfirst, hsecond] at heq
      exact Option.some.inj heq
  · intro hagree first second hfirst hsecond
    refine Option.ext fun r => ?_
    rw [standing_eq_some_iff h (agree_perm hfirst.symm hagree),
      standing_eq_some_iff h (agree_perm hsecond.symm hagree), newest_perm hfirst,
      newest_perm hsecond]

/-! ## A table of registers -/

section Collected

variable [DecidableEq K] {key : R → K} (hkey : ∀ new old, key (merge new old) = key old)

/-- The table after reports. -/
def collected (reports : List R) : Table key :=
  reports.foldl (fun t r => t.upsert r (merge r) (hkey r)) (.empty key)

/-- The reports under a key. -/
def under (key : R → K) (k : K) (reports : List R) : List R :=
  reports.filter (fun r => key r = k)

theorem mem_under {k : K} {reports : List R} {r : R} :
    r ∈ under key k reports ↔ r ∈ reports ∧ key r = k := by
  unfold under
  rw [List.mem_filter, decide_eq_true_iff]

/-- **The table, read at one key.** -/
theorem find_collected (reports : List R) (k : K) :
    (collected hkey reports).find k = standing merge (under key k reports) := by
  refine Keyed.view_foldl (S := Table key) Table.find (fun r k => decide (key r = k))
    (fun _ => absorb merge) (fun t r k => ?_) (Table.empty key) reports k
  rw [Table.find_upsert]
  by_cases hk : k = key r
  · simp [hk, absorb]
  · rw [if_neg hk, if_neg (by simpa using fun he => hk (Eq.symm he))]

theorem mem_rows_iff (reports : List R) (r : R) :
    r ∈ (collected hkey reports).rows ↔ standing merge (under key (key r) reports) = some r := by
  rw [← find_collected hkey, Table.find_eq_some_iff]
  exact (and_iff_left rfl).symm

theorem mem_keys_iff (reports : List R) (k : K) :
    k ∈ (collected hkey reports).rows.map key ↔ k ∈ reports.map key := by
  rw [← Table.find_isSome_iff, find_collected hkey, standing_isSome_iff, ne_eq,
    List.eq_nil_iff_forall_not_mem, List.mem_map]
  push Not
  exact exists_congr fun r => mem_under

/-- **When a table does not depend on the order of arrival.** -/
theorem rows_perm_iff (h : Lawful tag time merge) (reports : List R) :
    (∀ first second : List R, first.Perm reports → second.Perm reports →
        ∀ r, r ∈ (collected hkey first).rows ↔ r ∈ (collected hkey second).rows)
      ↔ ∀ k, Agree tag time (under key k reports) := by
  constructor
  · intro hsame k
    rw [← standing_perm_iff h]
    intro first second hfirst hsecond
    -- the reports under the key in either order, before all others
    have hrest : ∀ part : List R, part.Perm (under key k reports) →
        (part ++ reports.filter (fun r => !decide (key r = k))).Perm reports :=
      fun part hpart => (hpart.append_right _).trans (List.filter_append_perm _ _)
    have hview : ∀ part : List R, part.Perm (under key k reports) →
        under key k (part ++ reports.filter (fun r => !decide (key r = k))) = part := by
      intro part hpart
      unfold under
      rw [List.filter_append, List.filter_filter, List.filter_eq_self.mpr, List.filter_eq_nil_iff.mpr,
        List.append_nil]
      · intro r _
        simp
      · intro r hr
        exact decide_eq_true (mem_under.mp (hpart.mem_iff.mp hr)).2
    refine Option.ext fun r => ?_
    have hrows := hsame _ _ (hrest first hfirst) (hrest second hsecond) r
    by_cases hk : key r = k
    · rw [mem_rows_iff, mem_rows_iff, hk, hview first hfirst, hview second hsecond] at hrows
      exact hrows
    · -- what the register holds has the key
      have hnot : ∀ part : List R, part.Perm (under key k reports) →
          standing merge part ≠ some r := by
        intro part hpart heq
        rw [← hview part hpart, ← find_collected hkey] at heq
        exact hk (Table.key_of_find heq)
      exact iff_of_false (hnot first hfirst) (hnot second hsecond)
  · intro hagree first second hfirst hsecond r
    rw [mem_rows_iff, mem_rows_iff]
    have hstanding := (standing_perm_iff h (under key (key r) reports)).mpr (hagree (key r))
    rw [hstanding (under key (key r) first) (under key (key r) second) (hfirst.filter _)
      (hsecond.filter _)]

/-- Where the reports agree, the rows are the newest of each key. -/
theorem mem_rows_iff_newest (h : Lawful tag time merge) {reports : List R}
    (hagree : ∀ k, Agree tag time (under key k reports)) (r : R) :
    r ∈ (collected hkey reports).rows ↔ Newest time (under key (key r) reports) r := by
  rw [mem_rows_iff, standing_eq_some_iff h (hagree (key r))]

/-- Reports under other keys than those before them leave rows after
theirs. -/
theorem rows_collected_append (first second : List R)
    (hdisjoint : ∀ a ∈ first, ∀ b ∈ second, key a ≠ key b) :
    (collected hkey (first ++ second)).rows
      = (collected hkey first).rows ++ (collected hkey second).rows := by
  induction second using List.reverseRecOn with
  | nil => simp [collected, Table.empty]
  | append_singleton second b ih =>
    have hih := ih fun a ha b hb => hdisjoint a ha b (List.mem_append_left _ hb)
    have hb : key b ∉ (collected hkey first).rows.map key := by
      rw [mem_keys_iff, List.mem_map]
      rintro ⟨a, ha, he⟩
      exact hdisjoint a ha b (List.mem_append_right _ (List.mem_singleton.mpr rfl)) he
    have hlast : ∀ reports : List R, collected hkey (reports ++ [b])
        = (collected hkey reports).upsert b (merge b) (hkey b) := fun reports => by
      unfold collected
      rw [List.foldl_append]
      rfl
    rw [← List.append_assoc, hlast, hlast]
    exact Table.rows_upsert_append hih b (hkey b) hb

end Collected

end KeepNewest
