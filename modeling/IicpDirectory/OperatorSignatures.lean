import IicpDirectory.Admission
import IicpDirectory.Canonical
import Mathlib.Algebra.Order.Group.Unbundled.Int

/-!
# What an operator signs

An operator signs three kinds of messages with its key: the delegation of a
node, a rename, and the requests it makes of the directory for itself. Each is
a canonical JSON object, the last behind a line of its own. The signature and
the key come in Base64, and a signature is one of the message the directory
puts together from the request (`Delegation.verifySigned`).

A rename and a request for oneself name a time, in 64 bits with a sign, and the
clock must be close to it. The difference is taken in 64 bits, and so is its
absolute value: it can wrap, and the absolute value of the least number is that
number. What is let in is near the time, or more than `2 ^ 63` seconds past it
(`abs_sub_le_iff_of_withinWindow`).

No two statements have the same bytes, of whichever kind they are
(`SignedStatement.bytes_injective`): what is signed for one purpose is signed
for no other.
-/

/-! ## Windows of time -/

/-- `(now as i64 - ts).abs() <= window`. -/
def withinWindow (window : Int64) (now : UInt64) (ts : Int64) : Bool :=
  !decide (window < (now.toInt64 - ts).abs)

/-- A cast to a signed number wraps. -/
theorem toInt_toInt64 (now : UInt64) : now.toInt64.toInt = (now.toNat : ℤ).bmod (2 ^ 64) := by
  show now.toBitVec.toInt = _
  rw [BitVec.toInt_eq_toNat_bmod]
  rfl

/-- **The absolute value is that of the integer**, but for the least number. -/
theorem Int64.abs_le_iff {x w : Int64} (hw : 0 ≤ w.toInt) :
    x.abs ≤ w ↔ x.toInt = -2 ^ 63 ∨ |x.toInt| ≤ w.toInt := by
  rw [Int64.le_iff_toInt_le]
  by_cases hmin : x = Int64.minValue
  · subst hmin
    have habs : Int64.minValue.abs.toInt = -2 ^ 63 := by decide
    rw [habs]
    exact iff_of_true (by omega) (.inl (by decide))
  · have hne : x.toInt ≠ -2 ^ 63 := fun h => hmin (Int64.toInt_inj.mp (h.trans (by decide)))
    have hbits : x.toBitVec ≠ BitVec.intMin 64 := fun h => hmin (Int64.toBitVec_inj.mp h)
    have habs : x.abs.toInt = |x.toInt| :=
      (BitVec.toInt_abs_eq_natAbs_of_ne_intMin hbits).trans (Int.abs_eq_natAbs _).symm
    rw [habs, or_iff_right hne]

/-- What wraps into a small number is small, or past the half. -/
theorem abs_le_iff_of_bmod {d w : ℤ} (hw : w < 2 ^ 62) (hlower : -2 ^ 63 < d)
    (hupper : d < 2 ^ 64 + 2 ^ 63) (h : d.bmod (2 ^ 64) = -2 ^ 63 ∨ |d.bmod (2 ^ 64)| ≤ w) :
    |d| ≤ w ↔ d < 2 ^ 63 := by
  rw [abs_le] at h ⊢
  rw [Int.bmod_def] at h
  norm_num at h hw hlower hupper ⊢
  split at h <;> omega

/-- **What the window lets in is within it**, if it is not past the half. -/
theorem abs_sub_le_iff_of_withinWindow {window : Int64} (hnonneg : 0 ≤ window.toInt)
    (hsmall : window.toInt < 2 ^ 62) {now : UInt64} {ts : Int64}
    (h : withinWindow window now ts = true) :
    |(now.toNat : ℤ) - ts.toInt| ≤ window.toInt ↔ (now.toNat : ℤ) - ts.toInt < 2 ^ 63 := by
  unfold withinWindow at h
  rw [Bool.not_eq_true', decide_eq_false_iff_not, Int64.not_lt, Int64.abs_le_iff hnonneg,
    Int64.toInt_sub, toInt_toInt64, Int.bmod_sub_bmod] at h
  have hnow := now.toNat_lt
  have hlower := ts.le_toInt
  have hupper := ts.toInt_lt
  exact abs_le_iff_of_bmod hsmall (by omega) (by omega) h

/-! ## Texts and integers -/

/-- An integer is determined by the number it is written as. -/
theorem Json.ofInt_injective : Function.Injective Json.ofInt := by
  intro i j h
  unfold Json.ofInt at h
  split at h
  · split at h
    · have hnat := JsonNumber.posInt.inj (Json.number.inj h)
      omega
    · exact absurd h (by simp)
  · split at h
    · exact absurd h (by simp)
    · exact JsonNumber.negInt.inj (Json.number.inj h)

/-! ## Signatures -/

namespace Delegation

/-- What is found of a signature. -/
inductive SignatureVerdict
  | ok
  | malformed
  | badSignature
  deriving DecidableEq

variable (L : Libs) (base64Decode : String → Option Bytes)

/-- **A signature under the key of an operator**, both in Base64. -/
def verifySigned (operatorPub sig : String) (message : Bytes) : SignatureVerdict :=
  match (base64Decode operatorPub).filter (fun raw => raw.length == 32),
      (base64Decode sig).filter (fun raw => raw.length == 64) with
  | some key, some signature =>
    if L.verify key message signature then .ok else .badSignature
  | _, _ => .malformed

/-- **It verifies under the key that is decoded.** -/
theorem verifySigned_eq_ok {operatorPub sig : String} {message : Bytes}
    (h : verifySigned L base64Decode operatorPub sig message = .ok) :
    ∃ key signature, base64Decode operatorPub = some key ∧ key.length = 32
      ∧ base64Decode sig = some signature ∧ signature.length = 64
      ∧ L.verify key message signature = true := by
  unfold verifySigned at h
  split at h
  · next key signature hkey hsig =>
    obtain ⟨hkey, hkeyLength⟩ := Option.filter_eq_some_iff.mp hkey
    obtain ⟨hsig, hsigLength⟩ := Option.filter_eq_some_iff.mp hsig
    split at h
    · next hverify =>
      exact ⟨key, signature, hkey, beq_iff_eq.mp hkeyLength, hsig, beq_iff_eq.mp hsigLength,
        hverify⟩
    · exact absurd h (by decide)
  · exact absurd h (by decide)

/-- `canonical_bytes`. -/
def canonicalBytes (nodeId operatorPub : String) (notAfter : ℕ) : Bytes :=
  utf8 (Federation.canonicalJson L (.object
    [("node_id", .string nodeId), ("not_after", .number (.posInt notAfter)),
     ("operator_pub", .string operatorPub)]))

/-- `canonical_rename_bytes`. -/
def canonicalRenameBytes (displayName operatorPub : String) (ts : Int64) : Bytes :=
  utf8 (Federation.canonicalJson L (.object
    [("display_name", .string displayName), ("operator_pub", .string operatorPub),
     ("ts", Json.ofInt ts.toInt)]))

/-- `verify_rename`. -/
def verifyRename (operatorPub displayName : String) (ts : Int64) (sig : String) :
    SignatureVerdict :=
  verifySigned L base64Decode operatorPub sig (canonicalRenameBytes L displayName operatorPub ts)

/-- `canonical_self_service_bytes`, of a map that is listed. -/
def canonicalSelfServiceBytes (action : String) (fields : List (String × Json)) : Bytes :=
  utf8 ("iicp:operator:self-service:v1\n" ++ Federation.canonicalJson L (.object
    (("action", .string action) :: fields.filter fun e =>
      !(["sig", "new_key_sig", "_operator", "action"].contains e.1))))

/-- `verify_self_service`. -/
def verifySelfService (operatorPub sig action : String) (fields : List (String × Json)) :
    SignatureVerdict :=
  verifySigned L base64Decode operatorPub sig (canonicalSelfServiceBytes L action fields)

end Delegation

/-- **A delegation that is accepted is signed.** -/
theorem Admission.verifySigned_of_verifyDelegation {L : Libs}
    {base64Decode : String → Option Bytes} {d : OperatorDelegation} {claimedNodeId : String}
    {now : ℕ}
    (h : verifyDelegation L base64Decode d claimedNodeId now = true) :
    Delegation.verifySigned L base64Decode d.operatorPub d.sig
      (Delegation.canonicalBytes L d.nodeId d.operatorPub d.notAfter) = .ok := by
  unfold verifyDelegation at h
  rw [Bool.and_eq_true] at h
  have hdecoded := h.2
  unfold Delegation.verifySigned
  split at hdecoded
  · next key sig hkey hsig =>
    rw [Bool.and_eq_true, Bool.and_eq_true] at hdecoded
    obtain ⟨⟨hkeyLength, hsigLength⟩, hverify⟩ := hdecoded
    rw [hkey, hsig, Option.filter_some, Option.filter_some, if_pos hkeyLength, if_pos hsigLength]
    exact if_pos hverify
  · exact absurd hdecoded Bool.false_ne_true

/-! ## What a signature is of -/

/-- Members of an object, some of which are left out. -/
def presentMembers (entries : List (String × Option Json)) : List (String × Json) :=
  entries.filterMap fun e => e.2.map fun v => (e.1, v)

theorem mem_presentMembers {entries : List (String × Option Json)} {name : String} {v : Json} :
    (name, v) ∈ presentMembers entries ↔ (name, some v) ∈ entries := by
  unfold presentMembers
  rw [List.mem_filterMap]
  constructor
  · rintro ⟨⟨name', o⟩, he, hv⟩
    obtain ⟨w, rfl, hw⟩ := Option.map_eq_some_iff.mp hv
    obtain ⟨rfl, rfl⟩ := Prod.mk.inj hw
    exact he
  · intro he
    exact ⟨_, he, rfl⟩

/-- A name that the rest does not have is that of the first member. -/
theorem mem_cons_iff_of_notMem {name : String} {v o : Option Json}
    {rest : List (String × Option Json)} (h : name ∉ rest.map Prod.fst) :
    (name, v) ∈ (name, o) :: rest ↔ v = o := by
  rw [List.mem_cons, Prod.mk.injEq, and_iff_right rfl, or_iff_left]
  intro hmem
  have hname : (name, v).1 ∈ rest.map Prod.fst := List.mem_map_of_mem hmem
  exact h hname

/-- **What is there says what was left out**, of members with given names. -/
theorem eq_of_mem_iff {entries entries' : List (String × Option Json)}
    (hnames : entries.map Prod.fst = entries'.map Prod.fst) (hnodup : (entries.map Prod.fst).Nodup)
    (h : ∀ name v, (name, some v) ∈ entries ↔ (name, some v) ∈ entries') : entries = entries' := by
  induction entries generalizing entries' with
  | nil => exact (List.map_eq_nil_iff.mp hnames.symm).symm
  | cons e rest ih =>
    cases entries' with
    | nil => exact absurd hnames (by simp)
    | cons e' rest' =>
      obtain ⟨name, o⟩ := e
      obtain ⟨name', o'⟩ := e'
      obtain ⟨hname, hrest⟩ := List.cons.inj hnames
      obtain rfl : name = name' := hname
      obtain ⟨hnotMem, hnodup⟩ := List.nodup_cons.mp hnodup
      have hnotMem' : name ∉ rest'.map Prod.fst := hrest ▸ hnotMem
      have ho : o = o' := Option.ext fun v => by
        have hv := h name v
        rw [mem_cons_iff_of_notMem hnotMem, mem_cons_iff_of_notMem hnotMem'] at hv
        exact ⟨fun h => (hv.mp h.symm).symm, fun h => (hv.mpr h.symm).symm⟩
      subst ho
      refine congrArg _ (ih hrest hnodup fun other v => ?_)
      by_cases hother : other = name
      · subst hother
        have hfst : ∀ {l : List (String × Option Json)}, other ∉ l.map Prod.fst
            → (other, some v) ∉ l := fun hl hmem => hl (List.mem_map_of_mem (f := Prod.fst) hmem)
        exact iff_of_false (hfst hnotMem) (hfst hnotMem')
      · have hv := h other v
        have hne : (other, some v) ≠ (name, o) := fun heq => hother (Prod.mk.inj heq).1
        rwa [List.mem_cons, List.mem_cons, or_iff_right hne, or_iff_right hne] at hv

/-- **The fields that a request for oneself is signed with**: three, and those
of the others that are there. An epoch may be there and be `null`. -/
structure SelfServiceFields where
  operatorPub : String
  nonce : String
  ts : Int64
  confirm : Option Bool := none
  dpaVersion : Option String := none
  newOperatorPub : Option String := none
  reasonClass : Option String := none
  rotationEpoch : Option (Option UInt32) := none
  termsVersion : Option String := none
  trackingId : Option String := none
  deriving DecidableEq

namespace SelfServiceFields

/-- An epoch, or `null`. -/
def epochJson : Option UInt32 → Json
  | none => .null
  | some epoch => .number (.posInt epoch.toNat)

/-- The fields by their names. -/
def entries (f : SelfServiceFields) : List (String × Option Json) :=
  [("confirm", f.confirm.map .bool), ("dpa_version", f.dpaVersion.map .string),
   ("new_operator_pub", f.newOperatorPub.map .string), ("nonce", some (.string f.nonce)),
   ("operator_pub", some (.string f.operatorPub)), ("reason_class", f.reasonClass.map .string),
   ("rotation_epoch", f.rotationEpoch.map epochJson),
   ("terms_version", f.termsVersion.map .string), ("tracking_id", f.trackingId.map .string),
   ("ts", some (Json.ofInt f.ts.toInt))]

/-- The members of the object. -/
def members (f : SelfServiceFields) : List (String × Json) := presentMembers f.entries

/-- The names of the fields. -/
def names : List String :=
  ["confirm", "dpa_version", "new_operator_pub", "nonce", "operator_pub", "reason_class",
    "rotation_epoch", "terms_version", "tracking_id", "ts"]

theorem map_fst_entries (f : SelfServiceFields) : f.entries.map Prod.fst = names := rfl

theorem mem_members {f : SelfServiceFields} {name : String} {v : Json} :
    (name, v) ∈ f.members ↔ (name, some v) ∈ f.entries := mem_presentMembers

theorem name_mem_of_mem_members {f : SelfServiceFields} {e : String × Json} (h : e ∈ f.members) :
    e.1 ∈ names := by
  have hname : (e.1, some e.2).1 ∈ f.entries.map Prod.fst := List.mem_map_of_mem (mem_members.mp h)
  exact hname

/-- A name stands for one value. -/
theorem eq_of_mem_entries {f : SelfServiceFields} {name : String} {o o' : Option Json}
    (h : (name, o) ∈ f.entries) (h' : (name, o') ∈ f.entries) : o = o' := by
  have hnodup : (f.entries.map Prod.fst).Nodup := by
    rw [map_fst_entries]
    decide
  exact (Prod.mk.inj (List.inj_on_of_nodup_map hnodup h h' rfl)).2

theorem epochJson_injective : Function.Injective epochJson := by
  intro a b h
  cases a with
  | none =>
    cases b with
    | none => rfl
    | some b => exact absurd h (by simp [epochJson])
  | some a =>
    cases b with
    | none => exact absurd h (by simp [epochJson])
    | some b =>
      have hnat := JsonNumber.posInt.inj (Json.number.inj h)
      rw [UInt32.toNat_inj.mp hnat]

theorem string_injective : Function.Injective Json.string := fun _ _ => Json.string.inj

/-- **The entries determine the fields.** -/
theorem entries_injective : Function.Injective entries := by
  intro f g h
  obtain ⟨operatorPub, nonce, ts, confirm, dpa, newPub, reason, epoch, terms, tracking⟩ := f
  obtain ⟨operatorPub', nonce', ts', confirm', dpa', newPub', reason', epoch', terms',
    tracking'⟩ := g
  simp only [entries, List.cons.injEq, Prod.mk.injEq, true_and, and_true, Option.some.injEq,
    Json.string.injEq] at h
  obtain ⟨hconfirm, hdpa, hnewPub, rfl, rfl, hreason, hepoch, hterms, htracking, hts⟩ := h
  obtain rfl := Option.map_injective (fun _ _ => Json.bool.inj) hconfirm
  obtain rfl := Option.map_injective string_injective hdpa
  obtain rfl := Option.map_injective string_injective hnewPub
  obtain rfl := Option.map_injective string_injective hreason
  obtain rfl := Option.map_injective epochJson_injective hepoch
  obtain rfl := Option.map_injective string_injective hterms
  obtain rfl := Option.map_injective string_injective htracking
  obtain rfl := Int64.toInt_inj.mp (Json.ofInt_injective hts)
  rfl

/-- **The members determine the fields.** -/
theorem eq_of_members {f g : SelfServiceFields} (h : ∀ e, e ∈ f.members ↔ e ∈ g.members) :
    f = g := by
  refine entries_injective (eq_of_mem_iff (f.map_fst_entries.trans g.map_fst_entries.symm) ?_ ?_)
  · rw [map_fst_entries]
    decide
  · intro name v
    rw [← mem_members, ← mem_members, h]

end SelfServiceFields

/-- **What an operator signs.** -/
inductive SignedStatement
  | delegation (nodeId operatorPub : String) (notAfter : UInt64)
  | rename (displayName operatorPub : String) (ts : Int64)
  | selfService (action : String) (fields : SelfServiceFields)

namespace SignedStatement

variable (L : Libs)

/-- The bytes that are signed. -/
def bytes : SignedStatement → Bytes
  | .delegation nodeId operatorPub notAfter =>
    Delegation.canonicalBytes L nodeId operatorPub notAfter.toNat
  | .rename displayName operatorPub ts =>
    Delegation.canonicalRenameBytes L displayName operatorPub ts
  | .selfService action fields => Delegation.canonicalSelfServiceBytes L action fields.members

/-- What is written before the object. -/
def heading : SignedStatement → String
  | .delegation _ _ _ => ""
  | .rename _ _ _ => ""
  | .selfService _ _ => "iicp:operator:self-service:v1\n"

/-- The members of the object. -/
def members : SignedStatement → List (String × Json)
  | .delegation nodeId operatorPub notAfter =>
    [("node_id", .string nodeId), ("not_after", .number (.posInt notAfter.toNat)),
     ("operator_pub", .string operatorPub)]
  | .rename displayName operatorPub ts =>
    [("display_name", .string displayName), ("operator_pub", .string operatorPub),
     ("ts", Json.ofInt ts.toInt)]
  | .selfService action fields => ("action", .string action) :: fields.members

/-- No field is one of those that are not signed. -/
theorem bytes_eq (st : SignedStatement) :
    st.bytes L = utf8 (st.heading ++ Federation.canonicalJson L (.object st.members)) := by
  cases st with
  | delegation nodeId operatorPub notAfter =>
    rw [heading, String.empty_append]
    rfl
  | rename displayName operatorPub ts =>
    rw [heading, String.empty_append]
    rfl
  | selfService action fields =>
    have hfilter : fields.members.filter (fun e =>
        !(["sig", "new_key_sig", "_operator", "action"].contains e.1)) = fields.members := by
      refine List.filter_eq_self.mpr fun e he => ?_
      have hnames : ∀ name ∈ SelfServiceFields.names,
          (!(["sig", "new_key_sig", "_operator", "action"].contains name)) = true := by decide
      exact hnames e.1 (SelfServiceFields.name_mem_of_mem_members he)
    show Delegation.canonicalSelfServiceBytes L action fields.members = _
    unfold Delegation.canonicalSelfServiceBytes
    rw [hfilter]
    rfl

/-- The values of the members are plain. -/
def Plain (v : Json) : Prop := v.Proper ∧ v.sortKeys = v

theorem plain_string (text : String) : Plain (.string text) := ⟨trivial, rfl⟩

theorem plain_ofInt (ts : Int64) : Plain (Json.ofInt ts.toInt) := by
  have hlower := ts.le_toInt
  have hupper := ts.toInt_lt
  unfold Json.ofInt
  split
  · refine ⟨?_, rfl⟩
    show ts.toInt.toNat < 2 ^ 64
    omega
  · refine ⟨?_, rfl⟩
    show -2 ^ 63 ≤ ts.toInt ∧ ts.toInt < 0
    omega

theorem plain_members (st : SignedStatement) : ∀ e ∈ st.members, Plain e.2 := by
  cases st with
  | delegation nodeId operatorPub notAfter =>
    have hnotAfter : Plain (.number (.posInt notAfter.toNat)) := ⟨notAfter.toNat_lt, rfl⟩
    simp [members, plain_string, hnotAfter]
  | rename displayName operatorPub ts => simp [members, plain_string, plain_ofInt]
  | selfService action fields =>
    have hmap : ∀ {α : Type} {f : α → Json} {o : Option α}, (∀ a, Plain (f a)) →
        ∀ v ∈ o.map f, Plain v := by
      intro α f o hf v hv
      obtain ⟨a, _, rfl⟩ := Option.mem_map.mp hv
      exact hf a
    have hone : ∀ {w : Json}, Plain w → ∀ v ∈ some w, Plain v := by
      intro w hw v hv
      exact Option.some.inj hv ▸ hw
    have hepoch : ∀ epoch, Plain (SelfServiceFields.epochJson epoch) := by
      intro epoch
      cases epoch with
      | none => exact ⟨trivial, rfl⟩
      | some epoch => exact ⟨lt_trans epoch.toNat_lt (by norm_num), rfl⟩
    have hfields : ∀ e ∈ fields.entries, ∀ v ∈ e.2, Plain v := by
      simp only [SelfServiceFields.entries, List.forall_mem_cons]
      exact ⟨hmap fun _ => ⟨trivial, rfl⟩, hmap plain_string, hmap plain_string,
        hone (plain_string _), hone (plain_string _), hmap plain_string, hmap hepoch,
        hmap plain_string, hmap plain_string, hone (plain_ofInt _),
        fun _ h => absurd h List.not_mem_nil⟩
    refine List.forall_mem_cons.mpr ⟨plain_string action, fun e he => ?_⟩
    exact hfields _ (SelfServiceFields.mem_members.mp he) _ rfl

variable {L}

/-- **Objects with one text have the same members**, if their values are plain. -/
theorem mem_iff_of_canonicalJson_eq (hL : L.PrintsNumbers) {entries entries' : List (String × Json)}
    (h : Federation.canonicalJson L (.object entries)
      = Federation.canonicalJson L (.object entries'))
    (hplain : ∀ e ∈ entries, Plain e.2) (hplain' : ∀ e ∈ entries', Plain e.2) (e : String × Json) :
    e ∈ entries ↔ e ∈ entries' := by
  have hsorted : ∀ {l : List (String × Json)}, (∀ e ∈ l, Plain e.2) →
      (Json.object l).sortKeys = .object (Json.sortMembers l) := by
    intro l hl
    rw [Json.sortKeys_object]
    refine congrArg Json.object ((List.map_congr_left fun e he => ?_).trans (List.map_id _))
    rw [(hl e (Json.mem_sortMembers.mp he)).2]
    rfl
  have hsame : (Json.object entries).sortKeys = (Json.object entries').sortKeys :=
    Federation.sortKeys_of_canonicalJson_eq hL
      ((Json.proper_object _).mpr fun e he => (hplain e he).1)
      ((Json.proper_object _).mpr fun e he => (hplain' e he).1) h
  rw [hsorted hplain, hsorted hplain'] at hsame
  rw [← Json.mem_sortMembers, Json.object.inj hsame, Json.mem_sortMembers]

/-- The first character is that of the heading, or the bracket. -/
theorem head?_text (st : SignedStatement) :
    (st.heading ++ Federation.canonicalJson L (.object st.members)).toList.head?
      = st.heading.toList.head?.or (some (Char.ofNat 123)) := by
  rw [String.toList_append, Federation.toList_canonicalJson_object, List.head?_append]
  rfl

/-- No heading begins with a bracket. -/
theorem heading_eq_of_head? {st st' : SignedStatement}
    (h : st.heading.toList.head?.or (some (Char.ofNat 123))
      = st'.heading.toList.head?.or (some (Char.ofNat 123))) : st.heading = st'.heading := by
  have hne : "".toList.head?.or (some (Char.ofNat 123))
      ≠ "iicp:operator:self-service:v1\n".toList.head?.or (some (Char.ofNat 123)) := by decide
  cases st <;> cases st' <;> first
    | rfl
    | exact absurd h hne
    | exact absurd h.symm hne

/-- **The bytes tell the heading and the members.** -/
theorem parts_of_bytes (hL : L.PrintsNumbers) {st st' : SignedStatement}
    (h : st.bytes L = st'.bytes L) :
    st.heading = st'.heading ∧ ∀ e, e ∈ st.members ↔ e ∈ st'.members := by
  rw [bytes_eq, bytes_eq] at h
  have htext := utf8_injective h
  have hhead := congrArg List.head? (congrArg String.toList htext)
  rw [head?_text, head?_text] at hhead
  have hheading := heading_eq_of_head? hhead
  rw [hheading] at htext
  exact ⟨hheading, mem_iff_of_canonicalJson_eq hL ((String.append_right_inj _).mp htext)
    st.plain_members st'.plain_members⟩

/-- **The bytes determine the statement.** -/
theorem bytes_injective (hL : L.PrintsNumbers) : Function.Injective (bytes L) := by
  intro st st' h
  obtain ⟨hheading, hmem⟩ := parts_of_bytes hL h
  have hne : "" ≠ "iicp:operator:self-service:v1\n" := by decide
  cases st with
  | delegation nodeId operatorPub notAfter =>
    cases st' with
    | delegation nodeId' operatorPub' notAfter' =>
      have hnotAfter := hmem ("not_after", .number (.posInt notAfter.toNat))
      have hnodeId := hmem ("node_id", .string nodeId)
      have hoperatorPub := hmem ("operator_pub", .string operatorPub)
      simp [members] at hnotAfter hnodeId hoperatorPub
      rw [hnodeId, hoperatorPub, UInt64.toNat_inj.mp hnotAfter]
    | rename displayName operatorPub' ts =>
      exact absurd ((hmem ("node_id", .string nodeId)).mp (by simp [members])) (by simp [members])
    | selfService action fields => exact absurd hheading hne
  | rename displayName operatorPub ts =>
    cases st' with
    | delegation nodeId operatorPub' notAfter =>
      exact absurd ((hmem ("node_id", .string nodeId)).mpr (by simp [members])) (by simp [members])
    | rename displayName' operatorPub' ts' =>
      have hts := hmem ("ts", Json.ofInt ts.toInt)
      have hdisplayName := hmem ("display_name", .string displayName)
      have hoperatorPub := hmem ("operator_pub", .string operatorPub)
      simp [members] at hts hdisplayName hoperatorPub
      rw [hdisplayName, hoperatorPub, Int64.toInt_inj.mp (Json.ofInt_injective hts)]
    | selfService action fields => exact absurd hheading hne
  | selfService action fields =>
    cases st' with
    | delegation nodeId operatorPub notAfter => exact absurd hheading.symm hne
    | rename displayName operatorPub ts => exact absurd hheading.symm hne
    | selfService action' fields' =>
      have hnotField : ∀ (f : SelfServiceFields) (v : Json), ("action", v) ∉ f.members := by
        intro f v hv
        have hname : "action" ∈ SelfServiceFields.names :=
          SelfServiceFields.name_mem_of_mem_members hv
        exact absurd hname (by decide)
      have haction : ("action", Json.string action) ∈ (selfService action' fields').members :=
        (hmem _).mp List.mem_cons_self
      obtain heq | hfield := List.mem_cons.mp haction
      · obtain rfl := Json.string.inj (Prod.mk.inj heq).2
        have hfields : ∀ e, e ∈ fields.members ↔ e ∈ fields'.members := by
          intro e
          have he := hmem e
          unfold members at he
          rw [List.mem_cons, List.mem_cons] at he
          by_cases hfirst : e = ("action", Json.string action)
          · subst hfirst
            exact iff_of_false (hnotField fields _) (hnotField fields' _)
          · rwa [or_iff_right hfirst, or_iff_right hfirst] at he
        rw [SelfServiceFields.eq_of_members hfields]
      · exact absurd hfield (hnotField fields' _)

end SignedStatement
