import IicpDirectory.Replica.Payloads
import IicpDirectory.Seed.DataSubjects

/-!
# What is left of a payload that is redacted

Before an export shows the payload of an event or a manifest, the tokens in it
are blotted out and the keys of operators and nodes are replaced by digests. The
redaction walks from object to object, through members and through the items of
an array that is a member. Where the walk does not come, nothing is blotted out:
an array that is an item of an array, or the value itself if it is one. And of a
key only a text is replaced.

`redaction_complete_iff` says of which values the redaction is what it should
be: nothing that is special is left, the rest is as it was, and a second
redaction changes nothing.
-/

open Federation

namespace Json

mutual

/-- **Every object in a value has every key once**, as maps have. -/
def KeysOnce : Json → Prop
  | .array items => KeysOnceItems items
  | .object entries => (entries.map Prod.fst).Nodup ∧ KeysOnceMembers entries
  | _ => True

/-- The same, item by item. -/
def KeysOnceItems : List Json → Prop
  | [] => True
  | v :: rest => KeysOnce v ∧ KeysOnceItems rest

/-- The same, member by member. -/
def KeysOnceMembers : List (String × Json) → Prop
  | [] => True
  | (_, v) :: rest => KeysOnce v ∧ KeysOnceMembers rest

end

theorem keysOnce_array (items : List Json) :
    (array items).KeysOnce ↔ ∀ v ∈ items, v.KeysOnce := by
  show KeysOnceItems items ↔ _
  induction items with
  | nil => simp [KeysOnceItems]
  | cons v rest ih => rw [KeysOnceItems, ih, List.forall_mem_cons]

theorem keysOnce_object (entries : List (String × Json)) :
    (object entries).KeysOnce
      ↔ (entries.map Prod.fst).Nodup ∧ ∀ e ∈ entries, e.2.KeysOnce := by
  have hmembers : KeysOnceMembers entries ↔ ∀ e ∈ entries, e.2.KeysOnce := by
    induction entries with
    | nil => simp [KeysOnceMembers]
    | cons e rest ih => rw [KeysOnceMembers, ih, List.forall_mem_cons]
  exact and_congr_right fun _ => hmembers

theorem getStr_eq_some_iff {v : Json} {key s : String} :
    v.getStr key = some s ↔ v.get key = some (.string s) := by
  unfold getStr
  constructor
  · intro h
    obtain ⟨w, hw, hs⟩ := Option.bind_eq_some_iff.mp h
    cases w with
    | string t =>
      obtain rfl := Option.some.inj hs
      exact hw
    | _ => exact absurd hs (by simp [asStr])
  · intro h
    rw [h]
    rfl

end Json

namespace Dsr

variable (L : OperatorLibs)

/-! ## What the redaction does to a member -/

/-- What is written in place of a value. -/
def redacted : Json := .string "[redacted]"

/-- What is done to a value that is not special: to an array, item by item. -/
def redactNested : Json → Json
  | .array items => .array (items.map (redactDsrPayload L))
  | v => redactDsrPayload L v

/-- What is done to a key: a text is replaced. -/
def redactKey : Json → Json
  | .string _ => redacted
  | v => v

/-- What is done to a member. -/
def redactValue (key : String) (v : Json) : Json :=
  if key ∈ secretKeys then redacted
  else if key ∈ publicKeys then redactKey v
  else redactNested L v

variable {L}

theorem redactItems_eq (items : List Json) :
    redactItems L items = items.map (redactDsrPayload L) := by
  induction items with
  | nil => rfl
  | cons v rest ih => rw [redactItems, ih, List.map_cons]

theorem redactMembers_eq (entries : List (String × Json)) :
    redactMembers L entries = entries.map fun e => (e.1, redactValue L e.1 e.2) := by
  induction entries with
  | nil => rfl
  | cons e rest ih =>
    obtain ⟨key, v⟩ := e
    rw [List.map_cons, ← ih]
    cases v with
    | string raw =>
      rw [redactMembers]
      refine congrArg (· :: _) (congrArg (Prod.mk key) ?_)
      show _ = redactValue L key (.string raw)
      unfold redactValue
      by_cases hsecret : key ∈ secretKeys
      · rw [if_pos hsecret, if_pos (List.mem_append_left _ hsecret)]
        rfl
      · by_cases hpublic : key ∈ publicKeys
        · rw [if_neg hsecret, if_pos hpublic, if_pos (List.mem_append_right _ hpublic)]
          rfl
        · rw [if_neg hsecret, if_neg hpublic,
            if_neg fun h => (List.mem_append.mp h).elim hsecret hpublic]
          rfl
    | array items => rw [redactMembers, redactItems_eq]; rfl
    | null => rfl
    | bool b => rfl
    | number n => rfl
    | object entries => rfl

/-! ## The digests -/

/-- Where the digest of a key is shown. -/
def digestName (key : String) : String :=
  if key = "operator_pubkey" then "operator_fingerprint" else key ++ "_sha256"

variable (L) in
/-- The digest of a key. -/
def digestText (key raw : String) : String :=
  if key = "operator_pubkey" then operatorFingerprint L raw else Hex.encode (L.sha256 (utf8 raw))

variable (L) in
/-- What an object shows of its keys under a name. -/
def shownAt (v : Json) (name : String) : Option Json :=
  (publicKeys.find? fun key => digestName key == name).bind fun key =>
    (v.getStr key).map fun raw => .string (digestText L key raw)

/-- A name is that of one key. -/
theorem digestName_inj : ∀ key ∈ publicKeys, ∀ key' ∈ publicKeys,
    digestName key = digestName key' → key = key' := by
  decide

/-- The names of digests are not special. -/
theorem digestName_notMem : ∀ key ∈ publicKeys, digestName key ∉ secretKeys ++ publicKeys := by
  decide

theorem secretKeys_disjoint : ∀ key ∈ publicKeys, key ∉ secretKeys := by
  decide

theorem find?_digestName {key : String} (h : key ∈ publicKeys) :
    publicKeys.find? (fun key' => digestName key' == digestName key) = some key := by
  have hall : ∀ key ∈ publicKeys,
      publicKeys.find? (fun key' => digestName key' == digestName key) = some key := by decide
  exact hall key h

theorem shownAt_eq_some_iff {v : Json} {name : String} {d : Json} :
    shownAt L v name = some d ↔ ∃ key ∈ publicKeys, ∃ raw, v.getStr key = some raw
      ∧ name = digestName key ∧ d = .string (digestText L key raw) := by
  unfold shownAt
  constructor
  · intro h
    obtain ⟨key, hkey, hraw⟩ := Option.bind_eq_some_iff.mp h
    obtain ⟨raw, hget, rfl⟩ := Option.map_eq_some_iff.mp hraw
    have hname : digestName key = name := by simpa using List.find?_some hkey
    exact ⟨key, List.mem_of_find?_eq_some hkey, raw, hget, hname.symm, rfl⟩
  · rintro ⟨key, hkey, raw, hget, rfl, rfl⟩
    rw [find?_digestName hkey, Option.bind_some, hget]
    rfl

theorem shownAt_digestName {key : String} (h : key ∈ publicKeys) (v : Json) :
    shownAt L v (digestName key)
      = (v.getStr key).map fun raw => .string (digestText L key raw) := by
  unfold shownAt
  rw [find?_digestName h, Option.bind_some]

/-- The digest of a member is one of its name. -/
theorem mem_digests_iff {entries : List (String × Json)} {e : String × Json} :
    e ∈ digests L entries ↔ ∃ key ∈ publicKeys, ∃ raw, (key, .string raw) ∈ entries
      ∧ e = (digestName key, .string (digestText L key raw)) := by
  unfold digests
  rw [List.mem_filterMap]
  constructor
  · rintro ⟨⟨key, v⟩, hmem, hdigest⟩
    cases v with
    | string raw =>
      dsimp only at hdigest
      split at hdigest
      · next hkey =>
        refine ⟨key, by rw [hkey]; decide, raw, hmem, ?_⟩
        unfold digestName digestText
        rw [if_pos hkey, if_pos hkey]
        exact (Option.some.inj hdigest).symm
      · next hkey =>
        split at hdigest
        · next hpublic =>
          refine ⟨key, hpublic, raw, hmem, ?_⟩
          unfold digestName digestText
          rw [if_neg hkey, if_neg hkey]
          exact (Option.some.inj hdigest).symm
        · exact absurd hdigest (by simp)
    | _ => exact absurd hdigest (by simp)
  · rintro ⟨key, hpublic, raw, hmem, rfl⟩
    refine ⟨(key, .string raw), hmem, ?_⟩
    unfold digestName digestText
    by_cases hkey : key = "operator_pubkey"
    · simp only [hkey, if_true]
    · simp only [hkey, if_false, hpublic, if_true]

/-- An object with every key once has every digest once. -/
theorem digests_keys_nodup {entries : List (String × Json)}
    (hkeys : (entries.map Prod.fst).Nodup) : ((digests L entries).map Prod.fst).Nodup := by
  have hpairs : entries.Pairwise fun e e' => e.1 ≠ e'.1 := List.pairwise_map.mp hkeys
  have hdigest : ∀ (e d : String × Json), d ∈ digests L [e] →
      e.1 ∈ publicKeys ∧ d.1 = digestName e.1 := by
    intro e d hd
    obtain ⟨key, hkey, raw, hmem, rfl⟩ := mem_digests_iff.mp hd
    obtain rfl := List.mem_singleton.mp hmem
    exact ⟨hkey, rfl⟩
  refine List.pairwise_map.mpr (List.pairwise_filterMap.mpr (hpairs.imp fun hne d hd d' hd' => ?_))
  obtain ⟨hkey, hname⟩ := hdigest _ d (List.mem_filterMap.mpr ⟨_, List.mem_singleton_self _, hd⟩)
  obtain ⟨hkey', hname'⟩ :=
    hdigest _ d' (List.mem_filterMap.mpr ⟨_, List.mem_singleton_self _, hd'⟩)
  rw [hname, hname']
  exact fun heq => hne (digestName_inj _ hkey _ hkey' heq)

/-- A member that is inserted is under its key, and the rest as it was. -/
theorem get_insertMember (entries : List (String × Json)) (e : String × Json) (name : String) :
    (Json.object (insertMember entries e)).get name
      = if e.1 = name then some e.2 else (Json.object entries).get name := by
  unfold insertMember
  by_cases hthere : (entries.any fun other => other.1 == e.1) = true
  · rw [if_pos hthere]
    have hmap : (entries.map fun other => if other.1 == e.1 then e else other)
        = entries.map fun other => (other.1, if other.1 == e.1 then e.2 else other.2) := by
      refine List.map_congr_left fun other _ => ?_
      by_cases hother : other.1 = e.1
      · simp [hother]
      · simp [hother]
    rw [hmap, Json.get_object_map]
    by_cases hname : e.1 = name
    · obtain ⟨other, hmem, hother⟩ := List.any_eq_true.mp hthere
      have hsome : ((Json.object entries).get name).isSome = true := by
        rw [Json.get_object, Option.isSome_map, List.find?_isSome]
        exact ⟨other, hmem, by rw [← hname]; exact hother⟩
      obtain ⟨v, hv⟩ := Option.isSome_iff_exists.mp hsome
      rw [hv, if_pos hname, hname]
      simp
    · rw [if_neg hname]
      have hother : ∀ v : Json, (if (name == e.1) = true then e.2 else v) = v := fun v =>
        if_neg (by simpa using Ne.symm hname)
      simp only [hother, Option.map_id']
  · rw [if_neg hthere]
    by_cases hname : e.1 = name
    · have hnone : (Json.object entries).get name = none := by
        rw [Json.get_object, Option.map_eq_none_iff, List.find?_eq_none]
        intro other hmem hother
        exact hthere (List.any_eq_true.mpr ⟨other, hmem, by rw [hname]; exact hother⟩)
      rw [if_pos hname, Json.get_object, List.find?_append]
      rw [Json.get_object, Option.map_eq_none_iff] at hnone
      rw [hnone, Option.none_or, List.find?_singleton, if_pos (by simpa using hname)]
      rfl
    · rw [if_neg hname, Json.get_object, Json.get_object, List.find?_append, List.find?_singleton,
        if_neg (by simpa using hname), Option.or_none]

/-- Members that are inserted, each under a key of its own. -/
theorem get_foldl_insertMember {members : List (String × Json)}
    (hkeys : (members.map Prod.fst).Nodup) (entries : List (String × Json)) (name : String) :
    (Json.object (members.foldl insertMember entries)).get name
      = ((Json.object members).get name).or ((Json.object entries).get name) := by
  induction members generalizing entries with
  | nil => rfl
  | cons e rest ih =>
    obtain ⟨hnotMem, hrest⟩ := List.nodup_cons.mp hkeys
    rw [List.foldl_cons, ih hrest, get_insertMember]
    by_cases hname : e.1 = name
    · have hnone : (Json.object rest).get name = none := by
        rw [Json.get_object, Option.map_eq_none_iff, List.find?_eq_none]
        intro other hmem hother
        refine hnotMem ?_
        rw [hname, ← eq_of_beq hother]
        exact List.mem_map_of_mem hmem
      rw [hnone, if_pos hname, Option.none_or, Json.get_object,
        List.find?_cons_of_pos (by simpa using hname)]
      rfl
    · have hcons : (Json.object (e :: rest)).get name = (Json.object rest).get name := by
        rw [Json.get_object, List.find?_cons_of_neg (by simpa using hname), Json.get_object]
      rw [if_neg hname, hcons]

/-- **What an object has under a name when it is redacted**: a digest that is
shown there, or what is made of what it had. -/
theorem get_redact {entries : List (String × Json)} (hkeys : (entries.map Prod.fst).Nodup)
    (name : String) :
    (redactDsrPayload L (.object entries)).get name
      = (shownAt L (.object entries) name).or
        (((Json.object entries).get name).map (redactValue L name)) := by
  have hshown : (Json.object (digests L entries)).get name = shownAt L (.object entries) name := by
    refine Option.ext fun d => ?_
    rw [Json.get_object_eq_some_iff (digests_keys_nodup hkeys), mem_digests_iff,
      shownAt_eq_some_iff]
    refine exists_congr fun key => and_congr_right fun _ => exists_congr fun raw => ?_
    have hraw : (key, Json.string raw) ∈ entries ↔ (Json.object entries).getStr key = some raw := by
      rw [← Json.get_object_eq_some_iff hkeys, Json.getStr_eq_some_iff]
    rw [hraw, Prod.mk.injEq]
  show (Json.object ((digests L entries).foldl insertMember (redactMembers L entries))).get name = _
  rw [get_foldl_insertMember (digests_keys_nodup hkeys), hshown, redactMembers_eq,
    Json.get_object_map]

/-! ## What a redaction should be -/

/-- The keys whose values are not to be seen. -/
def specialKeys : List String := secretKeys ++ publicKeys

mutual

/-- **Nothing special is left** in a value: whatever is under a special key is
redacted. -/
def Clean : Json → Prop
  | .array items => CleanItems items
  | .object entries => CleanMembers entries
  | _ => True

/-- The same, item by item. -/
def CleanItems : List Json → Prop
  | [] => True
  | v :: rest => Clean v ∧ CleanItems rest

/-- The same, member by member. -/
def CleanMembers : List (String × Json) → Prop
  | [] => True
  | (key, v) :: rest => ((key ∈ specialKeys → v = redacted) ∧ Clean v) ∧ CleanMembers rest

end

mutual

/-- **The rest is as it was**: every member is there, with the value it had if
its key is not special, and there is no other but digests. -/
def Kept : Json → Json → Prop
  | .array items, w => ∃ items', w = .array items' ∧ KeptItems items items'
  | .object entries, w => (∃ entries', w = .object entries') ∧ KeptMembers entries w
      ∧ ∀ name, (w.get name).isSome = true → ((Json.object entries).get name).isSome = true
        ∨ name ∈ publicKeys.map digestName
  | v, w => w = v

/-- The same, item by item. -/
def KeptItems : List Json → List Json → Prop
  | [], ws => ws = []
  | v :: rest, ws => ∃ w ws', ws = w :: ws' ∧ Kept v w ∧ KeptItems rest ws'

/-- The same, member by member. -/
def KeptMembers : List (String × Json) → Json → Prop
  | [], _ => True
  | (key, v) :: rest, other =>
    (∃ w, other.get key = some w ∧ (key ∉ specialKeys → Kept v w)) ∧ KeptMembers rest other

end

/-- **What a redaction should be**, of a value. -/
structure Completes (redact : Json → Json) (v : Json) : Prop where
  clean : Clean (redact v)
  kept : Kept v (redact v)
  again : (redact (redact v)).SameUpToKeyOrder (redact v)

theorem clean_array (items : List Json) : Clean (.array items) ↔ ∀ v ∈ items, Clean v := by
  show CleanItems items ↔ _
  induction items with
  | nil => simp [CleanItems]
  | cons v rest ih => rw [CleanItems, ih, List.forall_mem_cons]

theorem clean_object (entries : List (String × Json)) : Clean (.object entries)
    ↔ ∀ e ∈ entries, (e.1 ∈ specialKeys → e.2 = redacted) ∧ Clean e.2 := by
  show CleanMembers entries ↔ _
  induction entries with
  | nil => simp [CleanMembers]
  | cons e rest ih => rw [CleanMembers, ih, List.forall_mem_cons]

theorem keptItems_map (f : Json → Json) (items : List Json) :
    KeptItems items (items.map f) ↔ ∀ v ∈ items, Kept v (f v) := by
  induction items with
  | nil => simp [KeptItems]
  | cons v rest ih =>
    rw [List.forall_mem_cons, ← ih, KeptItems, List.map_cons]
    constructor
    · rintro ⟨w, ws, heq, hkept, hrest⟩
      obtain ⟨rfl, rfl⟩ := List.cons.inj heq
      exact ⟨hkept, hrest⟩
    · rintro ⟨hkept, hrest⟩
      exact ⟨f v, rest.map f, rfl, hkept, hrest⟩

theorem keptMembers_iff (entries : List (String × Json)) (other : Json) :
    KeptMembers entries other
      ↔ ∀ e ∈ entries, ∃ w, other.get e.1 = some w ∧ (e.1 ∉ specialKeys → Kept e.2 w) := by
  induction entries with
  | nil => simp [KeptMembers]
  | cons e rest ih => rw [KeptMembers, ih, List.forall_mem_cons]

theorem kept_array (f : Json → Json) (items : List Json) :
    Kept (.array items) (.array (items.map f)) ↔ ∀ v ∈ items, Kept v (f v) := by
  rw [← keptItems_map, Kept]
  constructor
  · rintro ⟨items', heq, hkept⟩
    obtain rfl := Json.array.inj heq
    exact hkept
  · exact fun h => ⟨_, rfl, h⟩

/-- A text that is kept is the text. -/
theorem kept_string {v : Json} {s : String} (h : Kept v (.string s)) : v = .string s := by
  cases v with
  | array items =>
    obtain ⟨_, heq, _⟩ := h
    exact absurd heq (by simp)
  | object entries =>
    obtain ⟨⟨_, heq⟩, _⟩ := h
    exact absurd heq (by simp)
  | _ => exact h.symm

/-- What is left alone is kept. -/
theorem kept_self {v : Json} (h : v.KeysOnce) : Kept v v := by
  induction v using Json.induction with
  | null => rfl
  | bool b => rfl
  | number n => rfl
  | string s => rfl
  | array items ih =>
    have hitems := (kept_array id items).mpr fun v hv =>
      ih v hv ((Json.keysOnce_array items).mp h v hv)
    rwa [List.map_id] at hitems
  | object entries ih =>
    obtain ⟨hkeys, hvalues⟩ := (Json.keysOnce_object entries).mp h
    refine ⟨⟨_, rfl⟩, (keptMembers_iff _ _).mpr fun e he => ?_, fun name hname => .inl hname⟩
    exact ⟨e.2, (Json.get_object_eq_some_iff hkeys).mpr he, fun _ => ih e he (hvalues e he)⟩

/-! ## Which values it is of -/

variable (L) in
/-- A key has been redacted before: its digest is that of what is written in its
place. -/
def KeyRedactable (key : String) (v : Json) : Prop :=
  ∃ raw, v = .string raw ∧ digestText L key raw = digestText L key "[redacted]"

mutual

/-- **A value that can be redacted.** An object is walked through; where the walk
does not go on, nothing special may be. -/
def Redactable (L : OperatorLibs) : Json → Prop
  | .object entries => RedactableMembers L (.object entries) entries
  | v => Clean v

/-- The same, item by item. -/
def RedactableItems (L : OperatorLibs) : List Json → Prop
  | [] => True
  | v :: rest => Redactable L v ∧ RedactableItems L rest

/-- The same, member by member. What is special is a token, or a key that is
redacted; any other member is walked into, and where a digest is shown it is
that. -/
def RedactableMembers (L : OperatorLibs) (owner : Json) : List (String × Json) → Prop
  | [] => True
  | (key, .array items) :: rest =>
    (key ∈ secretKeys ∨ key ∉ specialKeys ∧ shownAt L owner key = none ∧ RedactableItems L items)
      ∧ RedactableMembers L owner rest
  | (key, v) :: rest =>
    (key ∈ secretKeys ∨ key ∈ publicKeys ∧ KeyRedactable L key v
      ∨ key ∉ specialKeys ∧ (∀ d ∈ shownAt L owner key, v = d) ∧ Redactable L v)
      ∧ RedactableMembers L owner rest

end

/-- A value that is not special can be: an array, if its items can. -/
def NestedRedactable (L : OperatorLibs) : Json → Prop
  | .array items => ∀ v ∈ items, Redactable L v
  | v => Redactable L v

/-- A member can be. -/
def MemberRedactable (L : OperatorLibs) (owner : Json) (e : String × Json) : Prop :=
  e.1 ∈ secretKeys ∨ e.1 ∈ publicKeys ∧ KeyRedactable L e.1 e.2
    ∨ e.1 ∉ specialKeys ∧ (∀ d ∈ shownAt L owner e.1, e.2 = d) ∧ NestedRedactable L e.2

theorem redactableItems_iff (items : List Json) :
    RedactableItems L items ↔ ∀ v ∈ items, Redactable L v := by
  induction items with
  | nil => simp [RedactableItems]
  | cons v rest ih => rw [RedactableItems, ih, List.forall_mem_cons]

/-- What is shown is a text. -/
theorem string_of_shownAt {v : Json} {name : String} {d : Json} (h : shownAt L v name = some d) :
    ∃ s, d = .string s := by
  obtain ⟨key, _, raw, _, _, rfl⟩ := shownAt_eq_some_iff.mp h
  exact ⟨_, rfl⟩

theorem redactable_object (entries : List (String × Json)) :
    Redactable L (.object entries) ↔ ∀ e ∈ entries, MemberRedactable L (.object entries) e := by
  have hmembers : ∀ (owner : Json) (members : List (String × Json)),
      RedactableMembers L owner members ↔ ∀ e ∈ members, MemberRedactable L owner e := by
    intro owner members
    induction members with
    | nil => simp [RedactableMembers]
    | cons e rest ih =>
      obtain ⟨key, v⟩ := e
      rw [List.forall_mem_cons, ← ih]
      cases v with
      | array items =>
        refine and_congr_left fun _ => ?_
        unfold MemberRedactable
        refine or_congr_right ?_
        have hkey : ¬ (key ∈ publicKeys ∧ KeyRedactable L key (.array items)) := by
          rintro ⟨_, raw, heq, _⟩
          exact absurd heq (by simp)
        rw [or_iff_right hkey]
        refine and_congr_right fun _ => and_congr ?_ (redactableItems_iff items)
        constructor
        · intro hnone d hd
          rw [hnone] at hd
          exact absurd hd (by simp)
        · intro hall
          cases hshown : shownAt L owner key with
          | none => rfl
          | some d =>
            obtain ⟨s, rfl⟩ := string_of_shownAt hshown
            exact absurd (hall _ hshown) (by simp)
      | _ => exact Iff.rfl
  exact hmembers _ entries

/-! ## One object -/

theorem insertMember_keys_nodup {entries : List (String × Json)}
    (hkeys : (entries.map Prod.fst).Nodup) (e : String × Json) :
    ((insertMember entries e).map Prod.fst).Nodup := by
  unfold insertMember
  by_cases hthere : (entries.any fun other => other.1 == e.1) = true
  · rw [if_pos hthere, List.map_map]
    have hsame : entries.map (Prod.fst ∘ fun other => if other.1 == e.1 then e else other)
        = entries.map Prod.fst := by
      refine List.map_congr_left fun other _ => ?_
      show (if other.1 == e.1 then e else other).1 = other.1
      split
      · next hother => exact (eq_of_beq hother).symm
      · rfl
    rw [hsame]
    exact hkeys
  · rw [if_neg hthere, List.map_append, List.nodup_append]
    refine ⟨hkeys, List.nodup_singleton _, fun key hkey key' hkey' heq => hthere ?_⟩
    obtain ⟨other, hother, rfl⟩ := List.mem_map.mp hkey
    obtain rfl := List.mem_singleton.mp hkey'
    exact List.any_eq_true.mpr ⟨other, hother, by simpa using heq⟩

/-- What is redacted has every key once still. -/
theorem exists_redact {entries : List (String × Json)} (hkeys : (entries.map Prod.fst).Nodup) :
    ∃ entries', redactDsrPayload L (.object entries) = .object entries'
      ∧ (entries'.map Prod.fst).Nodup := by
  refine ⟨_, rfl, ?_⟩
  have hstart : ((redactMembers L entries).map Prod.fst).Nodup := by
    rw [redactMembers_eq, List.map_map]
    exact hkeys
  generalize redactMembers L entries = members at hstart
  induction digests L entries generalizing members with
  | nil => exact hstart
  | cons e rest ih => exact ih _ (insertMember_keys_nodup hstart e)

theorem redactValue_secret {key : String} (h : key ∈ secretKeys) (v : Json) :
    redactValue L key v = redacted := if_pos h

theorem redactValue_public {key : String} (h : key ∈ publicKeys) (v : Json) :
    redactValue L key v = redactKey v :=
  (if_neg (secretKeys_disjoint key h)).trans (if_pos h)

theorem redactValue_other {key : String} (h : key ∉ specialKeys) (v : Json) :
    redactValue L key v = redactNested L v :=
  (if_neg fun hs => h (List.mem_append_left _ hs)).trans
    (if_neg fun hp => h (List.mem_append_right _ hp))

theorem redactKey_redactKey (v : Json) : redactKey (redactKey v) = redactKey v := by
  cases v <;> rfl

/-- A key is special, or a digest may be shown under it. -/
theorem notMem_specialKeys_of_shownAt {v : Json} {name : String} {d : Json}
    (h : shownAt L v name = some d) : name ∉ specialKeys := by
  obtain ⟨key, hkey, _, _, rfl, _⟩ := shownAt_eq_some_iff.mp h
  exact digestName_notMem key hkey

theorem shownAt_special {key : String} (h : key ∈ specialKeys) (v : Json) :
    shownAt L v key = none := by
  cases hshown : shownAt L v key with
  | none => rfl
  | some d => exact absurd h (notMem_specialKeys_of_shownAt hshown)

/-- A member that can be redacted is what it should be. -/
theorem clean_of_memberRedactable {owner : Json} {e : String × Json}
    (h : MemberRedactable L owner e)
    (hnested : NestedRedactable L e.2 → Completes (redactNested L) e.2) :
    (e.1 ∈ specialKeys → redactValue L e.1 e.2 = redacted)
      ∧ Clean (redactValue L e.1 e.2)
      ∧ (e.1 ∉ specialKeys → Kept e.2 (redactValue L e.1 e.2)) := by
  rcases h with hsecret | ⟨hpublic, raw, hraw, _⟩ | ⟨hother, _, hredactable⟩
  · rw [redactValue_secret hsecret]
    exact ⟨fun _ => rfl, trivial, fun hother => absurd (List.mem_append_left _ hsecret) hother⟩
  · rw [redactValue_public hpublic, hraw]
    exact ⟨fun _ => rfl, trivial, fun hother => absurd (List.mem_append_right _ hpublic) hother⟩
  · rw [redactValue_other hother]
    have hcomplete := hnested hredactable
    exact ⟨fun hspecial => absurd hspecial hother, hcomplete.clean, fun _ => hcomplete.kept⟩

section Object

variable {entries : List (String × Json)} (hkeys : (entries.map Prod.fst).Nodup)

include hkeys

/-- Where no digest is shown, a member is what is made of it. -/
theorem get_redact_of_none {name : String} (h : shownAt L (.object entries) name = none) :
    (redactDsrPayload L (.object entries)).get name
      = ((Json.object entries).get name).map (redactValue L name) := by
  rw [get_redact hkeys, h, Option.none_or]

/-- A text under a key is replaced. -/
theorem getStr_redact {key : String} (h : key ∈ publicKeys) :
    (redactDsrPayload L (.object entries)).getStr key
      = ((Json.object entries).getStr key).map fun _ => "[redacted]" := by
  have hspecial : key ∈ specialKeys := List.mem_append_right _ h
  unfold Json.getStr
  rw [get_redact_of_none hkeys (shownAt_special hspecial _)]
  cases (Json.object entries).get key with
  | none => rfl
  | some v =>
    rw [Option.map_some, redactValue_public h]
    cases v <;> rfl

/-- What is shown of a key that is redacted is the digest of what is written in
its place. -/
theorem shownAt_redact {key : String} (h : key ∈ publicKeys) :
    shownAt L (redactDsrPayload L (.object entries)) (digestName key)
      = ((Json.object entries).getStr key).map fun _ =>
        .string (digestText L key "[redacted]") := by
  rw [shownAt_digestName h, getStr_redact hkeys h, Option.map_map]
  rfl

/-- No digest is shown where none was. -/
theorem shownAt_redact_of_none {name : String} (h : shownAt L (.object entries) name = none) :
    shownAt L (redactDsrPayload L (.object entries)) name = none := by
  cases hshown : shownAt L (redactDsrPayload L (.object entries)) name with
  | none => rfl
  | some d =>
    obtain ⟨key, hkey, _, _, rfl, _⟩ := shownAt_eq_some_iff.mp hshown
    rw [shownAt_digestName hkey, Option.map_eq_none_iff] at h
    rw [shownAt_redact hkeys hkey, h] at hshown
    exact absurd hshown (by simp)

/-- **A second redaction changes nothing** where every digest is that of what is
written in place of a key, and the other members are such themselves. -/
theorem again_iff :
    (redactDsrPayload L (redactDsrPayload L (.object entries))).SameUpToKeyOrder
        (redactDsrPayload L (.object entries))
      ↔ (∀ key ∈ publicKeys, ∀ raw, (Json.object entries).getStr key = some raw →
          digestText L key raw = digestText L key "[redacted]")
        ∧ ∀ e ∈ entries, e.1 ∉ specialKeys → shownAt L (.object entries) e.1 = none →
          (redactNested L (redactNested L e.2)).SameUpToKeyOrder (redactNested L e.2) := by
  obtain ⟨once, honce, hkeys'⟩ := exists_redact (L := L) hkeys
  obtain ⟨twice, htwice, hkeys''⟩ := exists_redact (L := L) hkeys'
  have hget : ∀ name, (redactDsrPayload L (redactDsrPayload L (.object entries))).get name
      = (shownAt L (redactDsrPayload L (.object entries)) name).or
        (((redactDsrPayload L (.object entries)).get name).map (redactValue L name)) := by
    intro name
    rw [honce]
    exact get_redact hkeys' name
  have hsame : (redactDsrPayload L (redactDsrPayload L (.object entries))).SameUpToKeyOrder
        (redactDsrPayload L (.object entries))
      ↔ ∀ name, ((redactDsrPayload L (redactDsrPayload L (.object entries))).get name).map
          Json.sortKeys
        = ((redactDsrPayload L (.object entries)).get name).map Json.sortKeys := by
    rw [honce, htwice]
    exact Json.sameUpToKeyOrder_object_iff_get hkeys'' hkeys'
  rw [hsame]
  constructor
  · intro h
    constructor
    · intro key hkey raw hraw
      have hname := h (digestName key)
      rw [hget, shownAt_redact hkeys hkey, get_redact hkeys, shownAt_digestName hkey, hraw] at hname
      exact (Json.string.inj (Option.some.inj hname)).symm
    · intro e he hother hnone
      have hname := h e.1
      have hmember : (Json.object entries).get e.1 = some e.2 :=
        (Json.get_object_eq_some_iff hkeys).mpr he
      rw [hget, shownAt_redact_of_none hkeys hnone, Option.none_or, get_redact_of_none hkeys hnone,
        hmember, Option.map_some, Option.map_some, redactValue_other hother,
        redactValue_other hother] at hname
      exact Option.some.inj hname
  · rintro ⟨hdigests, hothers⟩ name
    rw [hget]
    cases hshown : shownAt L (.object entries) name with
    | some d =>
      obtain ⟨key, hkey, raw, hraw, rfl, rfl⟩ := shownAt_eq_some_iff.mp hshown
      rw [shownAt_redact hkeys hkey, get_redact hkeys, hshown, hraw, hdigests key hkey raw hraw]
      rfl
    | none =>
      rw [shownAt_redact_of_none hkeys hshown, Option.none_or, get_redact_of_none hkeys hshown]
      cases hmember : (Json.object entries).get name with
      | none => rfl
      | some v =>
        have hmem : (name, v) ∈ entries := (Json.get_object_eq_some_iff hkeys).mp hmember
        rw [Option.map_some, Option.map_some]
        by_cases hother : name ∈ specialKeys
        · rcases List.mem_append.mp hother with hsecret | hpublic
          · rw [redactValue_secret hsecret, redactValue_secret hsecret]
          · rw [redactValue_public hpublic, redactValue_public hpublic, redactKey_redactKey]
        · rw [redactValue_other hother, redactValue_other hother]
          exact congrArg some (hothers (name, v) hmem hother hshown)

/-- **The redaction of an object is what it should be** if its members can be
redacted, what is not special in them being redacted as it should be. -/
theorem completes_of_members (hmembers : ∀ e ∈ entries, MemberRedactable L (.object entries) e)
    (hnested : ∀ e ∈ entries, NestedRedactable L e.2 → Completes (redactNested L) e.2) :
    Completes (redactDsrPayload L) (.object entries) := by
  obtain ⟨once, honce, hkeys'⟩ := exists_redact (L := L) hkeys
  refine ⟨?_, ?_, (again_iff hkeys).mpr ⟨fun key hkey raw hraw => ?_, fun e he hother hnone => ?_⟩⟩
  · rw [honce, clean_object]
    rintro ⟨name, w⟩ hw
    have hget : (redactDsrPayload L (.object entries)).get name = some w := by
      rw [honce]
      exact (Json.get_object_eq_some_iff hkeys').mpr hw
    cases hshown : shownAt L (.object entries) name with
    | some d =>
      rw [get_redact hkeys, hshown] at hget
      obtain rfl : d = w := Option.some.inj hget
      obtain ⟨s, rfl⟩ := string_of_shownAt hshown
      exact ⟨fun hspecial => absurd hspecial (notMem_specialKeys_of_shownAt hshown), trivial⟩
    | none =>
      rw [get_redact_of_none hkeys hshown] at hget
      obtain ⟨v, hv, rfl⟩ := Option.map_eq_some_iff.mp hget
      have hmem : (name, v) ∈ entries := (Json.get_object_eq_some_iff hkeys).mp hv
      obtain ⟨hspecial, hclean, _⟩ := clean_of_memberRedactable (hmembers _ hmem)
        (hnested _ hmem)
      exact ⟨hspecial, hclean⟩
  · refine ⟨⟨once, honce⟩, (keptMembers_iff _ _).mpr fun e he => ?_, fun name hname => ?_⟩
    · have hmember : (Json.object entries).get e.1 = some e.2 :=
        (Json.get_object_eq_some_iff hkeys).mpr he
      cases hshown : shownAt L (.object entries) e.1 with
      | some d =>
        refine ⟨d, by rw [get_redact hkeys, hshown, Option.some_or], fun hother => ?_⟩
        obtain ⟨s, rfl⟩ := string_of_shownAt hshown
        rcases hmembers e he with hsecret | ⟨hpublic, _⟩ | ⟨_, hsame, _⟩
        · exact absurd (List.mem_append_left _ hsecret) hother
        · exact absurd (List.mem_append_right _ hpublic) hother
        · rw [hsame _ hshown]
          rfl
      | none =>
        refine ⟨redactValue L e.1 e.2, ?_,
          (clean_of_memberRedactable (hmembers e he) (hnested e he)).2.2⟩
        rw [get_redact_of_none hkeys hshown, hmember]
        rfl
    · rw [get_redact hkeys, Option.isSome_or, Bool.or_eq_true, Option.isSome_map] at hname
      rcases hname with hshown | hthere
      · obtain ⟨d, hd⟩ := Option.isSome_iff_exists.mp hshown
        obtain ⟨key, hkey, _, _, rfl, _⟩ := shownAt_eq_some_iff.mp hd
        exact .inr (List.mem_map_of_mem hkey)
      · exact .inl hthere
  · have hmem : (key, .string raw) ∈ entries :=
      (Json.get_object_eq_some_iff hkeys).mp (Json.getStr_eq_some_iff.mp hraw)
    rcases hmembers _ hmem with hsecret | ⟨_, raw', heq, hdigest⟩ | ⟨hother, _⟩
    · exact absurd hsecret (secretKeys_disjoint key hkey)
    · obtain rfl := Json.string.inj heq
      exact hdigest
    · exact absurd (List.mem_append_right _ hkey) hother
  · rcases hmembers e he with hsecret | ⟨hpublic, _⟩ | ⟨_, _, hredactable⟩
    · exact absurd (List.mem_append_left _ hsecret) hother
    · exact absurd (List.mem_append_right _ hpublic) hother
    · exact (hnested e he hredactable).again

/-- **And only then.** -/
theorem members_of_completes (h : Completes (redactDsrPayload L) (.object entries))
    (hnested : ∀ e ∈ entries, Completes (redactNested L) e.2 → NestedRedactable L e.2) :
    ∀ e ∈ entries, MemberRedactable L (.object entries) e := by
  obtain ⟨once, honce, hkeys'⟩ := exists_redact (L := L) hkeys
  obtain ⟨hdigests, hagain⟩ := (again_iff hkeys).mp h.again
  have hclean := h.clean
  rw [honce, clean_object] at hclean
  -- a member of what is redacted is clean
  have hmember : ∀ {name w}, (redactDsrPayload L (.object entries)).get name = some w →
      (name ∈ specialKeys → w = redacted) ∧ Clean w := by
    intro name w hw
    rw [honce] at hw
    exact hclean (name, w) ((Json.get_object_eq_some_iff hkeys').mp hw)
  intro e he
  have hget : (Json.object entries).get e.1 = some e.2 :=
    (Json.get_object_eq_some_iff hkeys).mpr he
  by_cases hother : e.1 ∈ specialKeys
  · rcases List.mem_append.mp hother with hsecret | hpublic
    · exact .inl hsecret
    · refine .inr (.inl ⟨hpublic, ?_⟩)
      have hvalue : (redactDsrPayload L (.object entries)).get e.1 = some (redactKey e.2) := by
        rw [get_redact_of_none hkeys (shownAt_special hother _), hget, Option.map_some,
          redactValue_public hpublic]
      have hredacted : redactKey e.2 = redacted := (hmember hvalue).1 hother
      cases hv : e.2 with
      | string raw =>
        refine ⟨raw, rfl, hdigests e.1 hpublic raw ?_⟩
        rw [Json.getStr_eq_some_iff, hget, hv]
      | _ =>
        rw [hv] at hredacted
        exact absurd hredacted (by simp [redactKey, redacted])
  · refine .inr (.inr ⟨hother, ?_, ?_⟩)
    · intro d hd
      obtain ⟨w, hw, hkept⟩ := (keptMembers_iff _ _).mp h.kept.2.1 e he
      rw [get_redact hkeys, hd, Option.some_or] at hw
      obtain rfl := Option.some.inj hw
      obtain ⟨s, rfl⟩ := string_of_shownAt hd
      exact kept_string (hkept hother)
    · cases hshown : shownAt L (.object entries) e.1 with
      | some d =>
        obtain ⟨w, hw, hkept⟩ := (keptMembers_iff _ _).mp h.kept.2.1 e he
        rw [get_redact hkeys, hshown, Option.some_or] at hw
        obtain rfl := Option.some.inj hw
        obtain ⟨s, rfl⟩ := string_of_shownAt hshown
        rw [kept_string (hkept hother)]
        exact trivial
      | none =>
        have hvalue : (redactDsrPayload L (.object entries)).get e.1
            = some (redactNested L e.2) := by
          rw [get_redact_of_none hkeys hshown, hget, Option.map_some, redactValue_other hother]
        refine hnested e he ⟨(hmember hvalue).2, ?_, hagain e he hother hshown⟩
        obtain ⟨w, hw, hkept⟩ := (keptMembers_iff _ _).mp h.kept.2.1 e he
        rw [hvalue] at hw
        obtain rfl := Option.some.inj hw
        exact hkept hother

end Object

/-! ## Every value -/

theorem completes_array_iff (items : List Json) :
    Completes (redactNested L) (.array items)
      ↔ ∀ v ∈ items, Completes (redactDsrPayload L) v := by
  have hclean : Clean (redactNested L (.array items))
      ↔ ∀ v ∈ items, Clean (redactDsrPayload L v) := by
    show Clean (.array (items.map _)) ↔ _
    rw [clean_array, List.forall_mem_map]
  have hkept : Kept (.array items) (redactNested L (.array items))
      ↔ ∀ v ∈ items, Kept v (redactDsrPayload L v) := kept_array _ items
  have hagain : (redactNested L (redactNested L (.array items))).SameUpToKeyOrder
        (redactNested L (.array items))
      ↔ ∀ v ∈ items, (redactDsrPayload L (redactDsrPayload L v)).SameUpToKeyOrder
        (redactDsrPayload L v) := by
    show (Json.array ((items.map _).map _)).sortKeys = (Json.array (items.map _)).sortKeys ↔ _
    rw [Json.sortKeys_array, Json.sortKeys_array, Json.array.injEq, List.map_map, List.map_map,
      List.map_map, List.map_inj_left]
    rfl
  constructor
  · intro h v hv
    exact ⟨hclean.mp h.clean v hv, hkept.mp h.kept v hv, hagain.mp h.again v hv⟩
  · intro h
    exact ⟨hclean.mpr fun v hv => (h v hv).clean, hkept.mpr fun v hv => (h v hv).kept,
      hagain.mpr fun v hv => (h v hv).again⟩

/-- A value the redaction leaves alone is what it should be if it is clean. -/
theorem completes_iff_clean {redact : Json → Json} {v : Json} (h : redact v = v)
    (hkeys : v.KeysOnce) : Completes redact v ↔ Clean v := by
  constructor
  · intro hcomplete
    have hclean := hcomplete.clean
    rwa [h] at hclean
  · intro hclean
    refine ⟨by rwa [h], ?_, ?_⟩
    · rw [h]
      exact kept_self hkeys
    · rw [h, h]
      rfl

/-- **The redaction is what it should be** of the values that can be redacted, and
of no others. -/
theorem completes_iff (L : OperatorLibs) {v : Json} (h : v.KeysOnce) :
    (Completes (redactDsrPayload L) v ↔ Redactable L v)
      ∧ (Completes (redactNested L) v ↔ NestedRedactable L v) := by
  induction v using Json.induction with
  | null => exact ⟨completes_iff_clean rfl h, completes_iff_clean rfl h⟩
  | bool b => exact ⟨completes_iff_clean rfl h, completes_iff_clean rfl h⟩
  | number n => exact ⟨completes_iff_clean rfl h, completes_iff_clean rfl h⟩
  | string s => exact ⟨completes_iff_clean rfl h, completes_iff_clean rfl h⟩
  | array items ih =>
    refine ⟨completes_iff_clean rfl h, (completes_array_iff items).trans ?_⟩
    have hitems := (Json.keysOnce_array items).mp h
    exact forall₂_congr fun v hv => (ih v hv (hitems v hv)).1
  | object entries ih =>
    obtain ⟨hkeys, hvalues⟩ := (Json.keysOnce_object entries).mp h
    have hobject : Completes (redactDsrPayload L) (.object entries)
        ↔ Redactable L (.object entries) := by
      rw [redactable_object]
      constructor
      · intro hcomplete
        exact members_of_completes hkeys hcomplete fun e he => (ih e he (hvalues e he)).2.mp
      · intro hmembers
        exact completes_of_members hkeys hmembers fun e he => (ih e he (hvalues e he)).2.mpr
    have honce : redactNested L (.object entries) = redactDsrPayload L (.object entries) := rfl
    have htwice : redactNested L (redactNested L (.object entries))
        = redactDsrPayload L (redactDsrPayload L (.object entries)) := rfl
    refine ⟨hobject, (⟨fun hcomplete => ?_, fun hcomplete => ?_⟩ :
      Completes (redactNested L) (.object entries)
        ↔ Completes (redactDsrPayload L) (.object entries)).trans hobject⟩
    · exact ⟨honce ▸ hcomplete.clean, honce ▸ hcomplete.kept, htwice ▸ honce ▸ hcomplete.again⟩
    · exact ⟨honce ▸ hcomplete.clean, honce ▸ hcomplete.kept, htwice ▸ honce ▸ hcomplete.again⟩

end Dsr

open Dsr

/-- **The redaction of a value is what it should be if and only if the value can
be redacted.** Nothing special is left, the rest is as it was, and a second
redaction changes nothing: that is so of an object if every token in it is where
the walk comes, every key in it is a text that was redacted before, and what is
shown under the name of a digest already is the digest; and of any other value
if nothing special is in it. -/
theorem redaction_complete_iff (L : OperatorLibs) {v : Json} (h : v.KeysOnce) :
    Completes (redactDsrPayload L) v ↔ Redactable L v := (completes_iff L h).1

namespace Sample

/-- SHA-256 of two texts. -/
def redactionLibs : OperatorLibs where
  lower c := [c]
  sqlNormalize := id
  base64Decode _ := none
  sha256 text := (
    [(utf8 "k", bytes 32 0x8254c329a92850f6d539dd376f4816ee2764517da5e0235514af433164480d7a),
     (utf8 "[redacted]",
        bytes 32 0x017ad73325fcf108a972edac618f9edfc957c5b1de10f8b371b0a8bfa4f59e2d)].lookup
      text).getD []

/-- A token in an array in an array, -/
def tokenInArrays : Json :=
  .object [("rows", .array [.array [.object [("node_token", .string "t")]]])]

/-- in an array that is the value itself, -/
def tokenInArray : Json := .array [.object [("node_token", .string "t")]]

/-- a key that is no text, -/
def keyObject : Json := .object [("public_key", .object [("key", .string "k")])]

/-- a fingerprint of one's own, -/
def ownFingerprint : Json :=
  .object [("operator_pubkey", .string "k"), ("operator_fingerprint", .string "mine")]

/-- and a key. -/
def keyText : Json := .object [("public_key", .string "k")]

/-- A manifest with tokens where the walk comes. -/
def tokensReached : Json :=
  .object [("nodes", .array [.object [("node_token", .string "t")]]), ("region", .string "eu")]

end Sample

open Sample in
/-- **What is left, and what is changed.** -/
theorem redaction_incomplete :
    ¬ Clean (redactDsrPayload redactionLibs tokenInArrays)
      ∧ ¬ Clean (redactDsrPayload redactionLibs tokenInArray)
      ∧ ¬ Clean (redactDsrPayload redactionLibs keyObject)
      ∧ ¬ Kept ownFingerprint (redactDsrPayload redactionLibs ownFingerprint)
      ∧ ¬ (redactDsrPayload redactionLibs (redactDsrPayload redactionLibs keyText)).SameUpToKeyOrder
        (redactDsrPayload redactionLibs keyText) := by
  refine ⟨fun h => ?_, fun h => ?_, fun h => ?_, fun h => ?_, fun h => ?_⟩
  · have hitems := ((clean_object _).mp h _ List.mem_cons_self).2
    have hitem := (clean_array _).mp ((clean_array _).mp hitems _ List.mem_cons_self) _
      List.mem_cons_self
    have htoken := ((clean_object _).mp hitem _ List.mem_cons_self).1 (by decide)
    exact absurd (Json.string.inj htoken) (by decide)
  · have hitem := (clean_array _).mp h _ List.mem_cons_self
    have htoken := ((clean_object _).mp hitem _ List.mem_cons_self).1 (by decide)
    exact absurd (Json.string.inj htoken) (by decide)
  · have hkey : Json.object [("key", .string "k")] = redacted :=
      ((clean_object _).mp h _ List.mem_cons_self).1 (by decide)
    exact absurd hkey (by simp [redacted])
  · have hown : ("operator_fingerprint", Json.string "mine") ∈
        [("operator_pubkey", Json.string "k"), ("operator_fingerprint", Json.string "mine")] :=
      List.mem_cons_of_mem _ List.mem_cons_self
    obtain ⟨w, hw, hkept⟩ := (keptMembers_iff _ _).mp h.2.1 _ hown
    have hfingerprint : w = .string (operatorFingerprint redactionLibs "k") :=
      (Option.some.inj hw).symm
    have hmine := kept_string (hfingerprint ▸ hkept (by decide))
    exact absurd (Json.string.inj hmine) (by decide +kernel)
  · have hdigest := ((again_iff (by decide)).mp h).1 "public_key" (by decide) "k" rfl
    exact absurd hdigest (by decide +kernel)

open Sample in
theorem redaction_complete_iff_tokensReached :
    tokensReached.KeysOnce ∧ Completes (redactDsrPayload redactionLibs) tokensReached := by
  have hkeys : tokensReached.KeysOnce :=
    ⟨(by decide : ["nodes", "region"].Nodup),
      ⟨⟨List.nodup_singleton _, trivial, trivial⟩, trivial⟩, trivial, trivial⟩
  refine ⟨hkeys, (redaction_complete_iff redactionLibs hkeys).mpr ?_⟩
  have hshown : shownAt redactionLibs tokensReached "region" = none := rfl
  exact ⟨.inr ⟨by decide, rfl, ⟨⟨.inl (by decide), trivial⟩, trivial⟩⟩,
    .inr (.inr ⟨by decide, fun d hd => absurd (hshown.symm.trans hd) (by simp), trivial⟩), trivial⟩
