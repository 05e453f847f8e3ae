import IicpDirectory.Foundations.Table
import IicpDirectory.JsonText
import IicpDirectory.Replica.Transcript

/-!
# The payload of an event and its digest

The canonical form of a payload does not depend on the order of the members
of its objects, and on nothing less than the rest: payloads with one
canonical form are equal up to that order (`canonicalJson_eq_iff`), and the
form is read back as the payload. So two payloads that differ have different
digests, unless their canonical forms collide.
-/

namespace Json

/-- Members that are sorted stay as they are. -/
theorem sortMembers_sortMembers {α : Type} (entries : List (String × α)) :
    sortMembers (sortMembers entries) = sortMembers entries :=
  (List.pairwise_insertionSort _ entries).insertionSort_eq

/-- Sorting the values of the members does not change how they are sorted. -/
theorem sortMembers_map_sortKeys (entries : List (String × Json)) :
    sortMembers (entries.map fun e => (e.1, e.2.sortKeys))
      = (sortMembers entries).map fun e => (e.1, e.2.sortKeys) :=
  sortMembers_map (fun e => (e.1, e.2.sortKeys)) (fun _ => rfl) entries

/-- **Sorting a value twice is sorting it once.** -/
theorem sortKeys_sortKeys (v : Json) : v.sortKeys.sortKeys = v.sortKeys := by
  induction v using Json.induction with
  | null => rfl
  | bool b => rfl
  | number n => rfl
  | string s => rfl
  | array items ih =>
    rw [sortKeys_array, sortKeys_array, List.map_map]
    exact congrArg array (List.map_congr_left ih)
  | object entries ih =>
    rw [sortKeys_object, sortKeys_object, sortMembers_map_sortKeys, sortMembers_sortMembers,
      List.map_map]
    refine congrArg object (List.map_congr_left fun e he => ?_)
    exact congrArg (Prod.mk e.1) (ih e (mem_sortMembers.mp he))

/-- **What sorting forgets is the order alone**: two objects, the first with
every key once, are equal up to key order if the members of the one are those
of the other in some order, each equal up to key order. -/
theorem sameUpToKeyOrder_object_iff {entries entries' : List (String × Json)}
    (hkeys : (entries.map Prod.fst).Nodup) :
    (object entries).SameUpToKeyOrder (object entries')
      ↔ (entries.map fun e => (e.1, e.2.sortKeys)).Perm
        (entries'.map fun e => (e.1, e.2.sortKeys)) := by
  unfold SameUpToKeyOrder
  rw [sortKeys_object, sortKeys_object, object.injEq, ← sortMembers_map_sortKeys,
    ← sortMembers_map_sortKeys]
  generalize hes : entries.map (fun e => (e.1, e.2.sortKeys)) = es
  generalize entries'.map (fun e => (e.1, e.2.sortKeys)) = es'
  have hnodup : (es.map Prod.fst).Nodup := by
    rw [← hes, List.map_map]
    exact hkeys
  constructor
  · intro h
    have hperm : (sortMembers es).Perm es' := h ▸ List.perm_insertionSort _ es'
    exact (List.perm_insertionSort _ es).symm.trans hperm
  · intro h
    have hsame : (sortMembers es).Perm (sortMembers es') :=
      (List.perm_insertionSort _ es).trans (h.trans (List.perm_insertionSort _ es').symm)
    refine hsame.eq_of_pairwise (fun a b ha hb hab hba => ?_)
      (List.pairwise_insertionSort _ es) (List.pairwise_insertionSort _ es')
    -- one key is under one value
    have hb' : b ∈ es := h.mem_iff.mpr (mem_sortMembers.mp hb)
    exact List.inj_on_of_nodup_map hnodup (mem_sortMembers.mp ha) hb' (le_antisymm hab hba)

/-! ## Objects by their members -/

/-- What an object with every key once has under a key. -/
theorem get_object_eq_some_iff {entries : List (String × Json)}
    (hkeys : (entries.map Prod.fst).Nodup) {key : String} {v : Json} :
    (object entries).get key = some v ↔ (key, v) ∈ entries := by
  have hfind : (object entries).get key
      = ((⟨entries, hkeys⟩ : Table Prod.fst).find key).map Prod.snd := rfl
  rw [hfind, Option.map_eq_some_iff]
  constructor
  · rintro ⟨e, he, rfl⟩
    obtain ⟨hmem, rfl⟩ := Table.find_eq_some_iff.mp he
    exact hmem
  · intro hmem
    exact ⟨(key, v), Table.find_eq_some_iff.mpr ⟨hmem, rfl⟩, rfl⟩

/-- What is done to the members of an object, key by key, is done to what it
has under a key. -/
theorem get_object_map (f : String × Json → Json) (entries : List (String × Json))
    (key : String) :
    (object (entries.map fun e => (e.1, f e))).get key
      = ((object entries).get key).map fun v => f (key, v) := by
  rw [get_object, get_object, List.find?_map, Option.map_map]
  show (entries.find? fun e => e.1 == key).map _ = _
  cases hfind : entries.find? fun e => e.1 == key with
  | none => rfl
  | some e =>
    have hkey : e.1 = key := by simpa using List.find?_some hfind
    show some (f e) = some (f (key, e.2))
    rw [← hkey]

/-- What an object has under a key other than the one that is removed. -/
theorem get_remove_of_ne (entries : List (String × Json)) {key removed : String}
    (h : key ≠ removed) :
    ((object entries).remove removed).get key = (object entries).get key := by
  show ((entries.filter _).find? _).map Prod.snd = (entries.find? _).map Prod.snd
  rw [List.find?_filter]
  have hboth : (fun e : String × Json => decide ((e.1 != removed) = true ∧ (e.1 == key) = true))
      = fun e => e.1 == key := by
    funext e
    by_cases hkey : e.1 = key
    · simp [hkey, h]
    · simp [hkey]
  exact congrArg (fun p => (entries.find? p).map Prod.snd) hboth

/-- An object has nothing under the key that is removed. -/
theorem get_remove_self (entries : List (String × Json)) (key : String) :
    ((object entries).remove key).get key = none := by
  show ((entries.filter _).find? _).map Prod.snd = none
  rw [List.find?_filter, Option.map_eq_none_iff, List.find?_eq_none]
  intro e _ h
  simp at h

/-- **Objects are equal up to key order if they have the same under every
key**, up to key order. -/
theorem sameUpToKeyOrder_object_iff_get {entries entries' : List (String × Json)}
    (hkeys : (entries.map Prod.fst).Nodup) (hkeys' : (entries'.map Prod.fst).Nodup) :
    (object entries).SameUpToKeyOrder (object entries')
      ↔ ∀ key, ((object entries).get key).map sortKeys
        = ((object entries').get key).map sortKeys := by
  have hsorted : ∀ {es : List (String × Json)}, (es.map Prod.fst).Nodup →
      ((es.map fun e => (e.1, e.2.sortKeys)).map Prod.fst).Nodup := by
    intro es h
    rw [List.map_map]
    exact h
  rw [sameUpToKeyOrder_object_iff hkeys,
    List.perm_ext_iff_of_nodup (hsorted hkeys).of_map (hsorted hkeys').of_map]
  simp only [← get_object_map fun e => e.2.sortKeys]
  constructor
  · intro h key
    refine Option.ext fun v => ?_
    rw [get_object_eq_some_iff (hsorted hkeys), get_object_eq_some_iff (hsorted hkeys')]
    exact h (key, v)
  · intro h e
    rw [← get_object_eq_some_iff (hsorted hkeys), ← get_object_eq_some_iff (hsorted hkeys'), h]

/-- What is equal up to key order to an object with every key once has the same
under every key. -/
theorem SameUpToKeyOrder.get_eq {entries : List (String × Json)}
    (hkeys : (entries.map Prod.fst).Nodup) {v : Json} (h : v.SameUpToKeyOrder (object entries))
    (key : String) : (v.get key).map sortKeys = ((object entries).get key).map sortKeys := by
  have hsorted : v.sortKeys = (object entries).sortKeys := h
  cases v with
  | object entries' =>
    have hperm := (sameUpToKeyOrder_object_iff hkeys).mp h.symm
    have hkeys' : (entries'.map Prod.fst).Nodup := by
      have hfst := (hperm.map Prod.fst).nodup_iff
      rw [List.map_map, List.map_map] at hfst
      exact hfst.mp hkeys
    exact (sameUpToKeyOrder_object_iff_get hkeys' hkeys).mp h key
  | _ => exact absurd hsorted (by simp [sortKeys])

@[simp] theorem asI64_sortKeys (v : Json) : v.sortKeys.asI64 = v.asI64 := by cases v <;> rfl

@[simp] theorem asStr_sortKeys (v : Json) : v.sortKeys.asStr = v.asStr := by cases v <;> rfl

@[simp] theorem asU32_sortKeys (v : Json) : v.sortKeys.asU32 = v.asU32 := by cases v <;> rfl

/-- A reading that does not look at the order of members is that of the
sorted value. -/
theorem bind_map_sortKeys {α : Type} {read : Json → Option α}
    (h : ∀ v : Json, read v.sortKeys = read v) (o : Option Json) :
    (o.map sortKeys).bind read = o.bind read := by
  cases o with
  | none => rfl
  | some v => exact h v

/-- So is what it is read as. -/
theorem SameUpToKeyOrder.read_eq {entries : List (String × Json)}
    (hkeys : (entries.map Prod.fst).Nodup) {v : Json} (h : v.SameUpToKeyOrder (object entries))
    {α : Type} {read : Json → Option α} (hread : ∀ v : Json, read v.sortKeys = read v)
    (key : String) : (v.get key).bind read = ((object entries).get key).bind read := by
  rw [← bind_map_sortKeys hread, h.get_eq hkeys, bind_map_sortKeys hread]

end Json

namespace Federation

variable {L : Libs}

/-- A row of items printed alike. -/
theorem row_congr {β : Type} {close : Char} {print print' : β → List Char} {items : List β}
    (h : ∀ b ∈ items, print b = print' b) :
    Delimited.row ',' close print items = Delimited.row ',' close print' items := by
  have hrow : ∀ f : β → List Char,
      Delimited.row ',' close id (items.map f) = Delimited.row ',' close f items := fun f =>
    Delimited.row_map f items
  rw [← hrow, ← hrow, List.map_congr_left h]

/-- **The canonical form does not depend on the order of members.** -/
theorem canonicalJson_sortKeys (v : Json) : canonicalJson L v.sortKeys = canonicalJson L v := by
  rw [← String.toList_inj]
  induction v using Json.induction with
  | null => rfl
  | bool b => rfl
  | number n => rfl
  | string s => rfl
  | array items ih =>
    rw [Json.sortKeys_array, toList_canonicalJson_array, toList_canonicalJson_array,
      Delimited.row_map]
    exact congrArg (List.cons '[') (row_congr ih)
  | object entries ih =>
    rw [Json.sortKeys_object, toList_canonicalJson_object, toList_canonicalJson_object,
      Json.sortMembers_map_sortKeys, Json.sortMembers_sortMembers, Delimited.row_map]
    refine congrArg (List.cons (Char.ofNat 123)) (row_congr fun e he => ?_)
    show (quote e.1).toList ++ ':' :: (canonicalJson L e.2.sortKeys).toList = memberText L e
    rw [ih e (Json.mem_sortMembers.mp he)]
    rfl

/-- **The canonical form is that of the values that are equal up to key
order**, and of no others. -/
theorem canonicalJson_eq_iff (hL : L.PrintsNumbers) {v w : Json} (hv : v.Proper) (hw : w.Proper) :
    canonicalJson L v = canonicalJson L w ↔ v.SameUpToKeyOrder w := by
  constructor
  · exact sortKeys_of_canonicalJson_eq hL hv hw
  · intro h
    rw [← canonicalJson_sortKeys v, ← canonicalJson_sortKeys w, h]

end Federation

/-! ## Doubles as fractions are read back -/

namespace Sample

open JsonText

/-- Read back two integers with a point between them. -/
def readFraction (text : List Char) : Option ℚ :=
  match text.splitOn '.' with
  | ['-' :: num, den] => do
    let n ← readDigits num
    let d ← readDigits den
    return mkRat (-n) d
  | [num, den] => do
    let n ← readDigits num
    let d ← readDigits den
    return mkRat n d
  | _ => none

theorem readsDoubles_readFraction : ReadsDoubles printingLibs readFraction := by
  intro x
  rw [toList_printF64]
  have hden : (toString x.den).toList = Nat.toDigits 10 x.den := NumberText.toList_natToString _
  have hsplit : ((toString x.num).toList ++ '.' :: (toString x.den).toList).splitOn '.'
      = [(toString x.num).toList, Nat.toDigits 10 x.den] := by
    rw [Delimited.splitOn_append_cons, Delimited.splitOn_of_notMem (point_notMem_intToString _),
      Delimited.splitOn_of_notMem (point_notMem_natToString _), hden]
    rfl
  unfold readFraction
  rw [hsplit]
  rcases le_or_gt 0 x.num with hnum | hnum
  · have htext : (toString x.num).toList = Nat.toDigits 10 x.num.toNat := by
      rw [NumberText.intToString_of_nonneg hnum, NumberText.toList_natToString]
    rw [htext]
    split
    · next num den heq =>
      have hmem : '-' ∈ Nat.toDigits 10 x.num.toNat :=
        (List.cons.inj heq).1 ▸ List.mem_cons_self
      exact absurd (Nat.isDigit_of_mem_toDigits (by decide) (by decide) hmem) (by decide)
    · next num den _ heq =>
      obtain ⟨rfl, rfl⟩ : Nat.toDigits 10 x.num.toNat = num ∧ Nat.toDigits 10 x.den = den := by
        simpa using heq
      rw [readDigits_toDigits, readDigits_toDigits]
      show some (mkRat (x.num.toNat : ℤ) x.den) = some x
      rw [Int.toNat_of_nonneg hnum, Rat.mkRat_self]
    · next h => exact (h _ _ rfl).elim
  · have htext : (toString x.num).toList = '-' :: Nat.toDigits 10 (-x.num).toNat := by
      rw [NumberText.intToString_of_neg hnum, String.toList_append, NumberText.toList_natToString]
      rfl
    rw [htext]
    show ((readDigits (Nat.toDigits 10 (-x.num).toNat)).bind fun n =>
      (readDigits (Nat.toDigits 10 x.den)).bind fun d => some (mkRat (-(n : ℤ)) d)) = some x
    rw [readDigits_toDigits, readDigits_toDigits]
    show some (mkRat (-((-x.num).toNat : ℤ)) x.den) = some x
    rw [Int.toNat_of_nonneg (by omega), Int.neg_neg, Rat.mkRat_self]

/-- A payload, with its members in an order that is not theirs by key. -/
def payload : Json := .object [("region", .string "eu"), ("load", .number (.posInt 3))]

/-- And another with the same members. -/
def payload' : Json := .object [("load", .number (.posInt 3)), ("region", .string "eu")]

theorem proper_payload : payload.Proper := by
  refine (Json.proper_object _).mpr fun e he => ?_
  simp only [List.mem_cons, List.not_mem_nil, or_false] at he
  rcases he with rfl | rfl
  · exact trivial
  · show 3 < 2 ^ 64
    decide

theorem proper_payload' : payload'.Proper := by
  refine (Json.proper_object _).mpr fun e he => ?_
  simp only [List.mem_cons, List.not_mem_nil, or_false] at he
  rcases he with rfl | rfl
  · show 3 < 2 ^ 64
    decide
  · exact trivial

end Sample
