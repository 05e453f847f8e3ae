import Mathlib.Algebra.Order.Field.Rat

/-!
# JSON values and the readings the directory makes of them

Everything the directories exchange is a `serde_json::Value`: event
payloads, snapshot bodies, DID documents, event pages. The type here is
that one, constructor for constructor, and the functions are the readings
the source makes of it – `get`, `as_str`, `as_i64` and the rest – under
the source's names.

Two readings deserve a word. A number is one of the three forms
`serde_json` keeps (`PosInt`, `NegInt`, `Float`), so that `as_i64` refuses
what was written with a fraction and accepts what was not. A double is a
rational number here: the directory carries scores and balances through
JSON and compares them, and no result below depends on rounding.

A derived `Deserialize` reads a struct either from an object, by field
name, or from an array, by field position; `Json.field` is that choice,
made once. A field with `#[serde(default)]` that is absent takes its
default, one that is present must parse (`Json.fieldOr`), and a field
without a default must be there (`Json.fieldReq`).
-/

/-- A `serde_json` number: non-negative integer, negative integer or
double, in the form it was written. -/
inductive JsonNumber
  | posInt (n : ℕ)
  | negInt (i : ℤ)
  | float (q : ℚ)
  deriving DecidableEq

/-- **A JSON value.** Every reading of an object is by key, so the order its
entries are listed in carries no meaning. -/
inductive Json
  | null
  | bool (b : Bool)
  | number (n : JsonNumber)
  | string (s : String)
  | array (items : List Json)
  | object (entries : List (String × Json))
  deriving Inhabited

namespace Json

/-- The member of an object under a key; nothing on any other value. -/
def get (v : Json) (key : String) : Option Json :=
  match v with
  | .object entries => (entries.find? (fun e => e.1 == key)).map Prod.snd
  | _ => none

/-- The text of a string value. -/
def asStr : Json → Option String
  | .string s => some s
  | _ => none

/-- The truth value of a boolean. -/
def asBool : Json → Option Bool
  | .bool b => some b
  | _ => none

/-- The items of an array. -/
def asArray : Json → Option (List Json)
  | .array items => some items
  | _ => none

/-- The 64-bit signed integer a number holds, if it was written as one and
fits. -/
def asI64 : Json → Option ℤ
  | .number (.posInt n) => if n < 2 ^ 63 then some (n : ℤ) else none
  | .number (.negInt i) => some i
  | _ => none

/-- The 64-bit unsigned integer a number holds, if it was written as
one. -/
def asU64 : Json → Option ℕ
  | .number (.posInt n) => some n
  | _ => none

/-- The double a number holds, whichever form it was written in. -/
def asF64 : Json → Option ℚ
  | .number (.posInt n) => some (n : ℚ)
  | .number (.negInt i) => some (i : ℚ)
  | .number (.float q) => some q
  | _ => none

/-- Whether the value is an array. -/
def isArray (v : Json) : Bool := v.asArray.isSome

/-- The text under a key, the reading most of the field walks make. -/
def getStr (v : Json) (key : String) : Option String :=
  (v.get key).bind asStr

/-- The items under a key. -/
def getArray (v : Json) (key : String) : Option (List Json) :=
  (v.get key).bind asArray

/-- The texts of an array's string items, in order; the other items are
passed over. -/
def strings (items : List Json) : List String := items.filterMap asStr

/-- **The field a derived deserializer reads**: by name from an object, by
position from an array. -/
def field (v : Json) (i : ℕ) (name : String) : Option Json :=
  match v with
  | .object entries => (entries.find? (fun e => e.1 == name)).map Prod.snd
  | .array items => items[i]?
  | _ => none

/-- Whether a value can be read as a struct of `n` fields at all: any
object, or an array no longer than the struct. -/
def isStruct (v : Json) (n : ℕ) : Bool :=
  match v with
  | .object _ => true
  | .array items => decide (items.length ≤ n)
  | _ => false

/-- A field without a default: it must be there and parse. -/
def fieldReq {α : Type} (v : Json) (i : ℕ) (name : String)
    (parse : Json → Option α) : Option α :=
  (v.field i name).bind parse

/-- A field with a default: absent it takes the default, present it must
parse. -/
def fieldOr {α : Type} (v : Json) (i : ℕ) (name : String) (default : α)
    (parse : Json → Option α) : Option α :=
  match v.field i name with
  | none => some default
  | some x => parse x

/-- An optional value: `null` is nothing, anything else must parse. -/
def optional {α : Type} (parse : Json → Option α) : Json → Option (Option α)
  | .null => some none
  | v => (parse v).map some

/-- A 32-bit unsigned integer. -/
def asU32 (v : Json) : Option ℕ :=
  v.asU64.filter (fun n => n < 2 ^ 32)

/-- A vector: every item must parse. -/
def asVec {α : Type} (parse : Json → Option α) (v : Json) : Option (List α) :=
  v.asArray.bind (fun items => items.mapM parse)

/-- A string-keyed map: every member must parse. -/
def asMap {α : Type} (parse : Json → Option α) : Json → Option (List (String × α))
  | .object entries =>
    entries.mapM (fun e => (parse e.2).map (fun a => (e.1, a)))
  | _ => none

/-- A string literal as a value, as the `json!` literals of the source
write one. -/
def ofOptionStr : Option String → Json
  | none => .null
  | some s => .string s

/-- A 64-bit signed integer as a value. -/
def ofInt (i : ℤ) : Json :=
  if 0 ≤ i then .number (.posInt i.toNat) else .number (.negInt i)

/-- An optional value: nothing is `null`. -/
def ofOption : Option Json → Json
  | none => .null
  | some v => v

/-- A list of strings as a value. -/
def ofStrings (items : List String) : Json := .array (items.map .string)

/-- A value without the member under a key. -/
def remove (v : Json) (key : String) : Json :=
  match v with
  | .object entries => .object (entries.filter (fun e => e.1 != key))
  | v => v

mutual

/-- Equality of values: two objects are compared as maps. -/
def beq : Json → Json → Bool
  | .null, .null => true
  | .bool a, .bool b => a == b
  | .number a, .number b => a == b
  | .string a, .string b => a == b
  | .array items, .array items' => beqItems items items'
  | .object entries, .object entries' =>
    entries.length == entries'.length && beqMembers entries (.object entries')
  | _, _ => false

/-- Equality item by item. -/
def beqItems : List Json → List Json → Bool
  | [], [] => true
  | v :: rest, v' :: rest' => beq v v' && beqItems rest rest'
  | _, _ => false

/-- Whether an object has every one of the members. -/
def beqMembers : List (String × Json) → Json → Bool
  | [], _ => true
  | (k, v) :: rest, other =>
    (match other.get k with
    | some w => beq v w
    | none => false) && beqMembers rest other

end

instance : BEq Json := ⟨beq⟩

/-- Whether a value is `null`. -/
def isNull : Json → Bool
  | .null => true
  | _ => false

/-- Every member of the one is in the other. -/
theorem beqMembers_iff (entries : List (String × Json)) (other : Json) :
    beqMembers entries other = true
      ↔ ∀ e ∈ entries, ∃ w, other.get e.1 = some w ∧ beq e.2 w = true := by
  induction entries with
  | nil => simp [beqMembers]
  | cons e rest ih =>
    rw [beqMembers, Bool.and_eq_true, ih, List.forall_mem_cons]
    refine and_congr_left fun _ => ?_
    cases other.get e.1 <;> simp

mutual

/-- **Equality of values is transitive.** -/
theorem beq_trans : ∀ {a b c : Json}, beq a b = true → beq b c = true → beq a c = true
  | .null, .null, _, _, hbc => hbc
  | .bool x, .bool y, .bool z, hab, hbc => by
    rw [beq, beq_iff_eq] at hab hbc ⊢
    exact hab.trans hbc
  | .number x, .number y, .number z, hab, hbc => by
    rw [beq, beq_iff_eq] at hab hbc ⊢
    exact hab.trans hbc
  | .string x, .string y, .string z, hab, hbc => by
    rw [beq, beq_iff_eq] at hab hbc ⊢
    exact hab.trans hbc
  | .array items, .array items', .array items'', hab, hbc => by
    rw [beq] at hab hbc ⊢
    exact beqItems_trans hab hbc
  | .object entries, .object entries', .object entries'', hab, hbc => by
    rw [beq, Bool.and_eq_true, beq_iff_eq] at hab hbc ⊢
    exact ⟨hab.1.trans hbc.1, beqMembers_trans hab.2 hbc.2⟩

theorem beqItems_trans : ∀ {a b c : List Json},
    beqItems a b = true → beqItems b c = true → beqItems a c = true
  | [], [], _, _, hbc => hbc
  | v :: rest, v' :: rest', v'' :: rest'', hab, hbc => by
    rw [beqItems, Bool.and_eq_true] at hab hbc ⊢
    exact ⟨beq_trans hab.1 hbc.1, beqItems_trans hab.2 hbc.2⟩

theorem beqMembers_trans : ∀ {a b : List (String × Json)} {c : Json},
    beqMembers a (.object b) = true → beqMembers b c = true → beqMembers a c = true
  | [], _, _, _, _ => rfl
  | (k, v) :: rest, b, c, hab, hbc => by
    rw [beqMembers, Bool.and_eq_true] at hab ⊢
    refine ⟨?_, beqMembers_trans hab.2 hbc⟩
    cases hget : (Json.object b).get k with
    | none =>
      rw [hget] at hab
      exact absurd hab.1 Bool.false_ne_true
    | some w =>
      rw [hget] at hab
      obtain ⟨e, he, rfl⟩ := Option.map_eq_some_iff.mp hget
      obtain ⟨x, hx, hex⟩ := (beqMembers_iff b c).mp hbc e (List.mem_of_find?_eq_some he)
      rw [show e.1 = k from by simpa using List.find?_some he] at hx
      rw [hx]
      exact beq_trans hab.1 hex

end

@[simp] theorem get_object (entries : List (String × Json)) (key : String) :
    (object entries).get key
      = (entries.find? (fun e => e.1 == key)).map Prod.snd := rfl

@[simp] theorem asStr_string (s : String) : (string s).asStr = some s := rfl

@[simp] theorem asBool_bool (b : Bool) : (bool b).asBool = some b := rfl

@[simp] theorem asArray_array (items : List Json) :
    (array items).asArray = some items := rfl

/-- Removing from an object what only its last members can be. -/
theorem remove_object_append {entries : List (String × Json)} {key : String}
    (h : key ∉ entries.map Prod.fst) (added : List (String × Json)) :
    (object (entries ++ added)).remove key
      = object (entries ++ added.filter (fun e => e.1 != key)) := by
  have hkeep : entries.filter (fun e => e.1 != key) = entries :=
    List.filter_eq_self.mpr fun e he =>
      bne_iff_ne.mpr fun heq => h (heq ▸ List.mem_map_of_mem he)
  show object ((entries ++ added).filter _) = _
  rw [List.filter_append, hkeep]

/-- Reading from an object what only its last members can be. -/
theorem get_object_append {entries : List (String × Json)} {key : String}
    (h : key ∉ entries.map Prod.fst) (added : List (String × Json)) :
    (object (entries ++ added)).get key = (object added).get key := by
  have hnone : entries.find? (fun e => e.1 == key) = none :=
    List.find?_eq_none.mpr fun e he heq => h (beq_iff_eq.mp heq ▸ List.mem_map_of_mem he)
  rw [get_object, get_object, List.find?_append, hnone, Option.none_or]

/-- What was written as a 64-bit integer is read back. -/
theorem asI64_ofInt {i : ℤ} (h : i < 2 ^ 63) : (ofInt i).asI64 = some i := by
  unfold ofInt
  split
  · rename_i h0
    have hn : i.toNat < 2 ^ 63 := by omega
    show (if i.toNat < 2 ^ 63 then some ((i.toNat : ℕ) : ℤ) else none) = some i
    rw [if_pos hn, Int.toNat_of_nonneg h0]
  · rfl

/-- What is read back as a 64-bit integer was written as it. -/
theorem eq_of_asI64_ofInt {i j : ℤ} (h : (ofInt i).asI64 = some j) : j = i := by
  unfold ofInt at h
  split at h
  · rename_i h0
    simp only [asI64] at h
    split at h
    · rw [← Option.some.inj h, Int.toNat_of_nonneg h0]
    · exact absurd h (by simp)
  · exact (Option.some.inj h).symm

/-- What was written as a 32-bit number is read back. -/
theorem asU32_posInt {n : ℕ} (h : n < 2 ^ 32) : asU32 (.number (.posInt n)) = some n := by
  show (some n).filter _ = some n
  rw [Option.filter_some, if_pos (decide_eq_true h)]

theorem lt_of_asU32 {v : Json} {n : ℕ} (h : v.asU32 = some n) : n < 2 ^ 32 := by
  unfold asU32 at h
  obtain ⟨_, hlt⟩ := Option.filter_eq_some_iff.mp h
  exact of_decide_eq_true hlt

/-- A list of strings is read back. -/
@[simp] theorem asVec_asStr_ofStrings (items : List String) :
    asVec asStr (ofStrings items) = some items := by
  show (items.map string).mapM asStr = some items
  induction items with
  | nil => rfl
  | cons s rest ih => rw [List.map_cons, List.mapM_cons, ih]; rfl

/-- The texts of a list of strings. -/
@[simp] theorem strings_ofStrings (items : List String) :
    strings (items.map string) = items := by
  unfold strings
  rw [List.filterMap_map]
  exact List.filterMap_some

section Reading

variable {α : Type} {parse : Json → Option α} {write : α → Json}

/-- A map is read back when its values are. -/
theorem asMap_object (h : ∀ a, parse (write a) = some a) (entries : List (String × α)) :
    asMap parse (object (entries.map (fun e => (e.1, write e.2)))) = some entries := by
  show (entries.map _).mapM _ = some entries
  induction entries with
  | nil => rfl
  | cons e rest ih =>
    rw [List.map_cons, List.mapM_cons, ih, h]
    rfl

/-- An optional value is read back when what is there is, and is not
written `null`. -/
theorem optional_ofOption {o : Option α} (h : ∀ a ∈ o, parse (write a) = some a)
    (hnull : ∀ a, write a ≠ null) : optional parse (ofOption (o.map write)) = some o := by
  cases o with
  | none => rfl
  | some a =>
    show optional parse (write a) = some (some a)
    have hread := h a rfl
    cases hw : write a with
    | null => exact absurd hw (hnull a)
    | _ =>
      rw [hw] at hread
      show (parse _).map some = some (some a)
      rw [hread]
      rfl

/-- An optional value that is there was parsed. -/
theorem of_optional {v : Json} {a : α} (h : optional parse v = some (some a)) :
    parse v = some a := by
  cases v with
  | null => exact absurd h (by simp [optional])
  | _ =>
    obtain ⟨b, hb, heq⟩ := Option.map_eq_some_iff.mp h
    exact hb.trans heq

end Reading

@[simp] theorem optional_asStr_string (s : String) :
    optional asStr (string s) = some (some s) := rfl

/-- An optional string is read back. -/
@[simp] theorem optional_asStr_ofOptionStr (o : Option String) :
    optional asStr (ofOptionStr o) = some o := by
  cases o <;> rfl

end Json
