import IicpDirectory.Federation
import IicpDirectory.Foundations.Delimited

/-!
# The canonical form determines the value

`canonicalJson` is what the digest of a payload is taken of. It forgets the
order of the members of an object and nothing else: two values with one
canonical form are the same with their members sorted
(`sortKeys_of_canonicalJson_eq`). The reason is that a canonical form is
delimited by what can follow it inside another – a comma or a closing
bracket – which is proved along the value, with a row of items or members
taken care of by `Delimited.row_inj`.

Of the printing of doubles it takes that different doubles are printed
differently, in the characters of a number, and never like an integer
(`Libs.PrintsNumbers`).
-/

/-- The characters a number is printed in. -/
def isNumberChar (c : Char) : Bool :=
  c.isDigit || c == '-' || c == '+' || c == '.' || c == 'e'

/-- **How doubles are printed.** -/
structure Libs.PrintsNumbers (L : Libs) : Prop where
  printF64_inj : ∀ {x y : ℚ}, L.printF64 x = L.printF64 y → x = y
  printF64_chars : ∀ x, ∀ c ∈ (L.printF64 x).toList, isNumberChar c = true
  printF64_float : ∀ x, ∃ c ∈ (L.printF64 x).toList, c = '.' ∨ c = 'e'

/-! ## Values as they are held -/

/-- A number in the form it is held in: 64 bits, the negative form only
where it is negative. -/
def JsonNumber.Proper : JsonNumber → Prop
  | .posInt n => n < 2 ^ 64
  | .negInt i => -2 ^ 63 ≤ i ∧ i < 0
  | .float _ => True

namespace Json

/-- Induction over a value: its items and its members come first. -/
theorem induction {P : Json → Prop} (null : P .null) (bool : ∀ b, P (.bool b))
    (number : ∀ n, P (.number n)) (string : ∀ s, P (.string s))
    (array : ∀ items, (∀ v ∈ items, P v) → P (.array items))
    (object : ∀ entries, (∀ e ∈ entries, P e.2) → P (.object entries)) (v : Json) : P v :=
  @Json.rec P (fun items => ∀ v ∈ items, P v) (fun entries => ∀ e ∈ entries, P e.2)
    (fun e => P e.2) null bool number string array object
    (fun _ h => absurd h List.not_mem_nil)
    (fun _ _ hv hrest _ h => (List.mem_cons.mp h).elim (fun heq => heq ▸ hv) (hrest _))
    (fun _ h => absurd h List.not_mem_nil)
    (fun _ _ he hrest _ h => (List.mem_cons.mp h).elim (fun heq => heq ▸ he) (hrest _))
    (fun _ _ hv => hv) v

mutual

/-- **A value as it is held**: every number in it is. -/
def Proper : Json → Prop
  | .number n => n.Proper
  | .array items => ProperItems items
  | .object entries => ProperMembers entries
  | _ => True

/-- The same, item by item. -/
def ProperItems : List Json → Prop
  | [] => True
  | v :: rest => Proper v ∧ ProperItems rest

/-- The same, member by member. -/
def ProperMembers : List (String × Json) → Prop
  | [] => True
  | (_, v) :: rest => Proper v ∧ ProperMembers rest

end

theorem proper_array (items : List Json) : (array items).Proper ↔ ∀ v ∈ items, v.Proper := by
  show ProperItems items ↔ _
  induction items with
  | nil => simp [ProperItems]
  | cons v rest ih => rw [ProperItems, ih, List.forall_mem_cons]

theorem proper_object (entries : List (String × Json)) :
    (object entries).Proper ↔ ∀ e ∈ entries, e.2.Proper := by
  show ProperMembers entries ↔ _
  induction entries with
  | nil => simp [ProperMembers]
  | cons e rest ih => rw [ProperMembers, ih, List.forall_mem_cons]

/-! ## Sorting the members -/

/-- The members of one object, sorted by their keys. -/
def sortMembers {α : Type} (entries : List (String × α)) : List (String × α) :=
  entries.insertionSort (fun a b => a.1 ≤ b.1)

/-- What is done to the values does not change how the keys are sorted. -/
theorem sortMembers_map {α β : Type} (f : String × α → String × β) (hf : ∀ e, (f e).1 = e.1)
    (entries : List (String × α)) : sortMembers (entries.map f) = (sortMembers entries).map f := by
  have hkeys : ∀ a ∈ entries, ∀ b ∈ entries, (a.1 ≤ b.1 ↔ (f a).1 ≤ (f b).1) := by
    intro a _ b _
    rw [hf a, hf b]
  exact (List.map_insertionSort (fun a b : String × α => a.1 ≤ b.1)
    (fun a b : String × β => a.1 ≤ b.1) f entries hkeys).symm

theorem mem_sortMembers {α : Type} {entries : List (String × α)} {e : String × α} :
    e ∈ sortMembers entries ↔ e ∈ entries :=
  (List.perm_insertionSort _ entries).mem_iff

mutual

/-- **A value with its members sorted**, at every depth. -/
def sortKeys : Json → Json
  | .array items => .array (sortItems items)
  | .object entries => .object (sortMembers (sortValues entries))
  | v => v

/-- The same of the items of an array. -/
def sortItems : List Json → List Json
  | [] => []
  | v :: rest => sortKeys v :: sortItems rest

/-- The same of the values of an object. -/
def sortValues : List (String × Json) → List (String × Json)
  | [] => []
  | (k, v) :: rest => (k, sortKeys v) :: sortValues rest

end

theorem sortKeys_array (items : List Json) :
    (array items).sortKeys = array (items.map sortKeys) := by
  show array (sortItems items) = _
  congr 1
  induction items with
  | nil => rfl
  | cons v rest ih => rw [sortItems, ih, List.map_cons]

theorem sortKeys_object (entries : List (String × Json)) :
    (object entries).sortKeys
      = object ((sortMembers entries).map (fun e => (e.1, e.2.sortKeys))) := by
  have hvalues : sortValues entries = entries.map (fun e => (e.1, e.2.sortKeys)) := by
    induction entries with
    | nil => rfl
    | cons e rest ih => rw [sortValues, ih, List.map_cons]
  show object (sortMembers (sortValues entries)) = _
  rw [hvalues]
  exact congrArg object (sortMembers_map (fun e => (e.1, e.2.sortKeys)) (fun _ => rfl) entries)

/-- **The same value up to the order of members.** -/
def SameUpToKeyOrder (v w : Json) : Prop := v.sortKeys = w.sortKeys

end Json

/-! ## Numbers as text -/

namespace NumberText

theorem isNumberChar_of_isDigit {c : Char} (h : c.isDigit = true) : isNumberChar c = true := by
  unfold isNumberChar
  rw [h]
  rfl

/-- The digits of a natural number. -/
theorem toList_natToString (n : ℕ) : (toString n).toList = Nat.toDigits 10 n := Nat.toList_repr

theorem isDigit_of_mem {n : ℕ} {c : Char} (h : c ∈ (toString n).toList) : c.isDigit = true := by
  rw [toList_natToString] at h
  exact Nat.isDigit_of_mem_toDigits (by decide) (by decide) h

theorem natToString_inj {m n : ℕ} (h : toString m = toString n) : m = n := by
  have hdigits : Nat.toDigits 10 m = Nat.toDigits 10 n := by
    rw [← toList_natToString, h, toList_natToString]
  rw [← @Nat.ofDigitChars_ten_toDigits m, hdigits, Nat.ofDigitChars_ten_toDigits]

/-- An integer that is not negative is printed as a natural number. -/
theorem intToString_of_nonneg {i : ℤ} (h : 0 ≤ i) : toString i = toString i.toNat := by
  show i.repr = i.toNat.repr
  rw [Int.repr_eq_if, if_pos h]

/-- A negative one is, behind its sign. -/
theorem intToString_of_neg {i : ℤ} (h : i < 0) : toString i = "-" ++ toString (-i).toNat := by
  show i.repr = "-" ++ (-i).toNat.repr
  rw [Int.repr_eq_if, if_neg (not_le.mpr h)]

/-- An integer is printed in digits, with a sign at most. -/
theorem isDigit_or_sign_of_mem {i : ℤ} {c : Char} (h : c ∈ (toString i).toList) :
    c.isDigit = true ∨ c = '-' := by
  rcases le_or_gt 0 i with hi | hi
  · rw [intToString_of_nonneg hi] at h
    exact Or.inl (isDigit_of_mem h)
  · rw [intToString_of_neg hi, String.toList_append] at h
    rcases List.mem_append.mp h with hsign | hdigit
    · exact Or.inr (List.mem_singleton.mp hsign)
    · exact Or.inl (isDigit_of_mem hdigit)

/-- A sign is no digit. -/
theorem intToString_ne {i j : ℤ} (hi : 0 ≤ i) (hj : j < 0) : toString i ≠ toString j := by
  intro h
  have hmem : '-' ∈ (toString i).toList := by
    rw [h, intToString_of_neg hj, String.toList_append]
    exact List.mem_append_left _ (List.mem_singleton_self _)
  rw [intToString_of_nonneg hi] at hmem
  exact absurd (isDigit_of_mem hmem) (by decide)

/-- **Different integers are printed differently.** -/
theorem intToString_inj {i j : ℤ} (h : toString i = toString j) : i = j := by
  rcases le_or_gt 0 i with hi | hi <;> rcases le_or_gt 0 j with hj | hj
  · rw [intToString_of_nonneg hi, intToString_of_nonneg hj] at h
    have hnat := natToString_inj h
    omega
  · exact absurd h (intToString_ne hi hj)
  · exact absurd h.symm (intToString_ne hj hi)
  · rw [intToString_of_neg hi, intToString_of_neg hj] at h
    have hnat := natToString_inj (String.append_right_inj "-" |>.mp h)
    omega

/-- An integer of 64 bits is printed in at most twenty characters. -/
theorem length_intToString_le {i : ℤ} (hlower : -2 ^ 63 ≤ i) (hupper : i < 2 ^ 63) :
    (toString i).toList.length ≤ 20 := by
  have hdigits : ∀ n : ℕ, n < 10 ^ 19 → (toString n).toList.length ≤ 19 := by
    intro n hn
    rw [toList_natToString]
    exact (Nat.length_toDigits_le_iff (by decide) (by decide)).mpr hn
  rcases le_or_gt 0 i with hi | hi
  · rw [intToString_of_nonneg hi]
    exact (hdigits i.toNat (by omega)).trans (by decide)
  · rw [intToString_of_neg hi, String.toList_append, List.length_append]
    have hlength := hdigits (-i).toNat (by omega)
    have hsign : "-".toList.length = 1 := rfl
    omega

end NumberText

namespace Federation

variable {L : Libs}

open NumberText

/-- An integer, in either of its forms, is printed as one. -/
theorem printNumber_posInt (n : ℕ) : printNumber L (.posInt n) = toString (n : ℤ) := by
  rw [intToString_of_nonneg (Int.natCast_nonneg n)]
  rfl

/-- A double is never printed like an integer. -/
theorem printF64_ne (hL : L.PrintsNumbers) (x : ℚ) (i : ℤ) : L.printF64 x ≠ toString i := by
  intro h
  obtain ⟨c, hc, hchar⟩ := hL.printF64_float x
  rw [h] at hc
  rcases isDigit_or_sign_of_mem hc with hdigit | rfl
  · rcases hchar with rfl | rfl
    · exact absurd hdigit (by decide)
    · exact absurd hdigit (by decide)
  · exact absurd hchar (by decide)

/-- **Different numbers are printed differently.** -/
theorem printNumber_inj (hL : L.PrintsNumbers) {x y : JsonNumber} (hx : x.Proper) (hy : y.Proper)
    (h : printNumber L x = printNumber L y) : x = y := by
  cases x with
  | posInt m =>
    rw [printNumber_posInt] at h
    cases y with
    | posInt n =>
      rw [printNumber_posInt] at h
      rw [Int.ofNat_inj.mp (intToString_inj h)]
    | negInt j =>
      have hj : j < 0 := hy.2
      exact absurd h (intToString_ne (Int.natCast_nonneg m) hj)
    | float y => exact absurd h.symm (printF64_ne hL y m)
  | negInt i =>
    have hi : i < 0 := hx.2
    cases y with
    | posInt n =>
      rw [printNumber_posInt] at h
      exact absurd h.symm (intToString_ne (Int.natCast_nonneg n) hi)
    | negInt j => rw [intToString_inj h]
    | float y => exact absurd h.symm (printF64_ne hL y i)
  | float x =>
    cases y with
    | posInt n =>
      rw [printNumber_posInt] at h
      exact absurd h (printF64_ne hL x n)
    | negInt j => exact absurd h (printF64_ne hL x j)
    | float y => rw [hL.printF64_inj h]

/-- A number is printed in the characters of numbers. -/
theorem isNumberChar_of_mem (hL : L.PrintsNumbers) {x : JsonNumber} {c : Char}
    (h : c ∈ (printNumber L x).toList) : isNumberChar c = true := by
  have hint : ∀ i : ℤ, c ∈ (toString i).toList → isNumberChar c = true := by
    intro i hc
    rcases isDigit_or_sign_of_mem hc with hdigit | rfl
    · exact isNumberChar_of_isDigit hdigit
    · rfl
  cases x with
  | posInt n => exact hint n (printNumber_posInt (L := L) n ▸ h)
  | negInt i => exact hint i h
  | float x => exact hL.printF64_chars x c h

/-- A number is printed in at least one. -/
theorem printNumber_ne_nil (hL : L.PrintsNumbers) (x : JsonNumber) :
    (printNumber L x).toList ≠ [] := by
  cases x with
  | posInt n =>
    show (toString n).toList ≠ []
    rw [toList_natToString]
    exact Nat.toDigits_ne_nil
  | negInt i =>
    show (toString i).toList ≠ []
    rcases le_or_gt 0 i with hi | hi
    · rw [intToString_of_nonneg hi, toList_natToString]
      exact Nat.toDigits_ne_nil
    · rw [intToString_of_neg hi, String.toList_append]
      exact List.cons_ne_nil _ _
  | float x =>
    obtain ⟨c, hc, _⟩ := hL.printF64_float x
    exact List.ne_nil_of_mem hc

/-! ## Strings as text -/

/-- The quotation mark. -/
def quoteMark : Char := Char.ofNat 34

/-- Read back one character of a string. -/
def readEscaped : List Char → Option (Char × List Char)
  | [] => none
  | c :: rest =>
    if c = Char.ofNat 92 then
      match rest with
      | 'b' :: r => some (Char.ofNat 8, r)
      | 't' :: r => some (Char.ofNat 9, r)
      | 'n' :: r => some (Char.ofNat 10, r)
      | 'f' :: r => some (Char.ofNat 12, r)
      | 'r' :: r => some (Char.ofNat 13, r)
      | 'u' :: _ :: _ :: hi :: lo :: r =>
        some (Char.ofNat (16 * (Hex.value hi).getD 0 + (Hex.value lo).getD 0), r)
      | d :: r => some (d, r)
      | [] => none
    else some (c, rest)

/-- **An escaped character is read back**, whatever follows. -/
theorem readEscaped_append (c : Char) (r : List Char) :
    readEscaped (escapeChar c ++ r) = some (c, r) := by
  have hc : c = Char.ofNat c.toNat := (Char.ofNat_toNat c).symm
  unfold escapeChar
  split
  -- the characters that have an escape of their own
  iterate 7
    · rename_i h
      rw [h] at hc
      rw [hc]
      rfl
  · rename_i hne _ _ _ _ _
    split
    · show some (Char.ofNat (16 * (Hex.value (Hex.digit (c.toNat / 16))).getD 0
        + (Hex.value (Hex.digit (c.toNat % 16))).getD 0), r) = _
      rw [Hex.value_digit (by omega), Hex.value_digit (by omega)]
      show some (Char.ofNat (16 * (c.toNat / 16) + c.toNat % 16), r) = _
      rw [Nat.div_add_mod, ← hc]
    · have hbackslash : c ≠ Char.ofNat 92 := by
        rintro rfl
        exact hne rfl
      exact if_neg hbackslash

/-- No escaped character starts with the quotation mark. -/
theorem escapeChar_append_ne (c : Char) (r s : List Char) : escapeChar c ++ r ≠ quoteMark :: s := by
  intro h
  have hread := readEscaped_append c r
  rw [h] at hread
  have hquote : some (quoteMark, s) = some (c, r) := hread
  obtain ⟨rfl, _⟩ := Prod.ext_iff.mp (Option.some.inj hquote)
  exact absurd (List.cons.inj h).1 (by decide)

/-- **A string is delimited by its closing mark.** -/
theorem escaped_inj {xs ys r s : List Char}
    (h : xs.flatMap escapeChar ++ quoteMark :: r = ys.flatMap escapeChar ++ quoteMark :: s) :
    xs = ys ∧ r = s := by
  induction xs generalizing ys with
  | nil =>
    cases ys with
    | nil => exact ⟨rfl, (List.cons.inj h).2⟩
    | cons d ys =>
      rw [List.flatMap_cons, List.append_assoc] at h
      exact absurd h.symm (escapeChar_append_ne d _ _)
  | cons c xs ih =>
    cases ys with
    | nil =>
      rw [List.flatMap_cons, List.append_assoc] at h
      exact absurd h (escapeChar_append_ne c _ _)
    | cons d ys =>
      rw [List.flatMap_cons, List.flatMap_cons, List.append_assoc, List.append_assoc] at h
      have hread := congrArg readEscaped h
      rw [readEscaped_append, readEscaped_append] at hread
      obtain ⟨rfl, hrest⟩ := Prod.ext_iff.mp (Option.some.inj hread)
      obtain ⟨rfl, hrs⟩ := ih hrest
      exact ⟨rfl, hrs⟩

theorem toList_quote (s : String) :
    (quote s).toList = quoteMark :: (s.toList.flatMap escapeChar ++ [quoteMark]) :=
  String.toList_ofList

/-- Quoted strings are told apart, whatever follows. -/
theorem quote_append_inj {x y : String} {r s : List Char}
    (h : (quote x).toList ++ r = (quote y).toList ++ s) : x = y ∧ r = s := by
  rw [toList_quote, toList_quote, List.cons_append, List.cons_append, List.append_assoc,
    List.append_assoc] at h
  obtain ⟨hxy, hrs⟩ := escaped_inj (List.cons.inj h).2
  exact ⟨String.toList_inj.mp hxy, hrs⟩

/-! ## Values as text -/

/-- What can follow a value in a canonical form: nothing, a comma, a closing
bracket. -/
def Follows (r : List Char) : Prop := ∀ c ∈ r.head?, c = ',' ∨ c = ']' ∨ c = Char.ofNat 125

/-- What the first character of a canonical form says of the value. -/
inductive Opening
  | null
  | true
  | false
  | number
  | string
  | array
  | object
  | none
  deriving DecidableEq

/-- What a character opens. -/
def openingOf (c : Char) : Opening :=
  if isNumberChar c then .number
  else if c = 'n' then .null
  else if c = 't' then .true
  else if c = 'f' then .false
  else if c = quoteMark then .string
  else if c = '[' then .array
  else if c = Char.ofNat 123 then .object
  else .none

/-- What a value is opened by. -/
def opening : Json → Opening
  | .null => .null
  | .bool b => if b then .true else .false
  | .number _ => .number
  | .string _ => .string
  | .array _ => .array
  | .object _ => .object

/-- Texts with commas between them and a bracket behind. -/
theorem toList_intercalate_append (close : Char) (texts : List String) :
    (",".intercalate texts).toList ++ [close]
      = Delimited.row ',' close String.toList texts := by
  have hrest : ∀ t ts, (",".intercalate (t :: ts)).toList ++ [close]
      = t.toList ++ Delimited.afterFirst ',' close String.toList ts := by
    intro t ts
    induction ts generalizing t with
    | nil => rw [String.intercalate_singleton]; rfl
    | cons u us ih =>
      rw [String.intercalate_cons_cons, String.toList_append, String.toList_append,
        List.append_assoc, ih u, List.append_assoc]
      rfl
  cases texts with
  | nil => rfl
  | cons t ts => exact hrest t ts

/-- The text of an array: its items in a row. -/
theorem toList_canonicalJson_array (items : List Json) :
    (canonicalJson L (.array items)).toList
      = '[' :: Delimited.row ',' ']' (fun v => (canonicalJson L v).toList) items := by
  have hitems : canonicalItems L items = items.map (canonicalJson L) := by
    induction items with
    | nil => rfl
    | cons v rest ih => rw [canonicalItems, ih, List.map_cons]
  show ("[" ++ ",".intercalate (canonicalItems L items) ++ "]").toList = _
  rw [hitems, String.toList_append, String.toList_append, List.append_assoc]
  show "[".toList ++ ((",".intercalate (items.map (canonicalJson L))).toList ++ [']']) = _
  rw [toList_intercalate_append, Delimited.row_map]
  rfl

/-- The text of a member. -/
def memberText (L : Libs) (e : String × Json) : List Char :=
  (quote e.1).toList ++ ':' :: (canonicalJson L e.2).toList

/-- The text of an object: its members in a row, sorted by their keys. -/
theorem toList_canonicalJson_object (entries : List (String × Json)) :
    (canonicalJson L (.object entries)).toList
      = Char.ofNat 123 :: Delimited.row ',' (Char.ofNat 125) (memberText L)
          (Json.sortMembers entries) := by
  have hmembers : canonicalMembers L entries
      = entries.map (fun e => (e.1, quote e.1 ++ ":" ++ canonicalJson L e.2)) := by
    induction entries with
    | nil => rfl
    | cons e rest ih => rw [canonicalMembers, ih, List.map_cons]
  have htexts : (Json.sortMembers (canonicalMembers L entries)).map Prod.snd
      = (Json.sortMembers entries).map (fun e => quote e.1 ++ ":" ++ canonicalJson L e.2) := by
    rw [hmembers, Json.sortMembers_map
      (fun e => (e.1, quote e.1 ++ ":" ++ canonicalJson L e.2)) (fun _ => rfl), List.map_map]
    rfl
  show ("\x7b" ++ ",".intercalate ((Json.sortMembers (canonicalMembers L entries)).map Prod.snd)
    ++ "\x7d").toList = _
  rw [htexts, String.toList_append, String.toList_append, List.append_assoc]
  show [Char.ofNat 123] ++ ((",".intercalate ((Json.sortMembers entries).map
    (fun e => quote e.1 ++ ":" ++ canonicalJson L e.2))).toList ++ [Char.ofNat 125]) = _
  rw [toList_intercalate_append, Delimited.row_map]
  have hprint : (fun e : String × Json => (quote e.1 ++ ":" ++ canonicalJson L e.2).toList)
      = memberText L := by
    funext e
    rw [String.toList_append, String.toList_append, List.append_assoc]
    rfl
  rw [hprint]
  rfl

/-- The first character of a canonical form is the opening of its value. -/
theorem canonicalJson_opening (hL : L.PrintsNumbers) (v : Json) :
    ∃ c t, (canonicalJson L v).toList = c :: t ∧ openingOf c = opening v := by
  cases v with
  | null => exact ⟨'n', ['u', 'l', 'l'], by simp [canonicalJson], rfl⟩
  | bool b =>
    cases b with
    | true => exact ⟨'t', ['r', 'u', 'e'], by simp [canonicalJson], rfl⟩
    | false => exact ⟨'f', ['a', 'l', 's', 'e'], by simp [canonicalJson], rfl⟩
  | number x =>
    obtain ⟨c, t, hct⟩ := List.exists_cons_of_ne_nil (printNumber_ne_nil hL x)
    refine ⟨c, t, hct, ?_⟩
    have hchar : isNumberChar c = true := isNumberChar_of_mem hL (hct ▸ List.mem_cons_self)
    unfold openingOf
    rw [hchar]
    rfl
  | string s => exact ⟨quoteMark, _, toList_quote s, rfl⟩
  | array items => exact ⟨'[', _, toList_canonicalJson_array items, rfl⟩
  | object entries => exact ⟨Char.ofNat 123, _, toList_canonicalJson_object entries, rfl⟩

/-- Values with one text have one opening. -/
theorem opening_eq_of_append (hL : L.PrintsNumbers) {v w : Json} {r s : List Char}
    (h : (canonicalJson L v).toList ++ r = (canonicalJson L w).toList ++ s) :
    opening v = opening w := by
  obtain ⟨c, t, hc, hv⟩ := canonicalJson_opening hL v
  obtain ⟨d, u, hd, hw⟩ := canonicalJson_opening hL w
  rw [hc, hd] at h
  rw [← hv, ← hw, (List.cons.inj h).1]

/-- What follows a value is no part of a number. -/
theorem Follows.not_isNumberChar {r : List Char} (h : Follows r) :
    ∀ c ∈ r.head?, ¬ isNumberChar c = true := by
  intro c hc
  rcases h c hc with rfl | rfl | rfl <;> decide

/-- What separates or closes follows a value. -/
theorem follows_cons {close : Char} (hclose : close = ']' ∨ close = Char.ofNat 125) (c : Char)
    (t : List Char) (h : c = ',' ∨ c = close) : Follows (c :: t) := by
  intro d hd
  obtain rfl : c = d := by simpa using hd
  rcases h with rfl | rfl
  · exact Or.inl rfl
  · exact Or.inr hclose

/-- No value is opened by what opens none. -/
theorem canonicalJson_append_ne (hL : L.PrintsNumbers) {close : Char}
    (hclose : openingOf close = .none) (v : Json) (r t : List Char) :
    (canonicalJson L v).toList ++ r ≠ close :: t := by
  intro h
  obtain ⟨c, u, hc, hv⟩ := canonicalJson_opening hL v
  rw [hc] at h
  rw [(List.cons.inj h).1, hclose] at hv
  cases v with
  | bool b => cases b <;> exact absurd hv (by simp [opening])
  | _ => exact absurd hv (by simp [opening])

/-- No member is opened by a closing brace. -/
theorem memberText_append_ne (e : String × Json) (r t : List Char) :
    memberText L e ++ r ≠ Char.ofNat 125 :: t := by
  intro h
  rw [memberText, toList_quote] at h
  exact absurd (List.cons.inj h).1 (by decide)

/-- A member is delimited if its value is. -/
theorem delimits_memberText {e : String × Json}
    (he : Delimited.Delimits Json.Proper (fun v => (canonicalJson L v).toList) Follows Json.sortKeys
      e.2) :
    Delimited.Delimits (fun e => e.2.Proper) (memberText L) Follows
      (fun e => (e.1, e.2.sortKeys)) e := by
  intro e' r s hproper hr hs h
  unfold memberText at h
  rw [List.append_assoc, List.append_assoc] at h
  obtain ⟨hkey, hrest⟩ := quote_append_inj h
  obtain ⟨hvalue, hrs⟩ := he hproper hr hs (List.cons.inj hrest).2
  exact ⟨Prod.ext hkey hvalue, hrs⟩

/-- **A canonical form is delimited**: it is that of the same values up to the
order of members, and of no other. -/
theorem delimits_canonicalJson (hL : L.PrintsNumbers) (v : Json) (hv : v.Proper) :
    Delimited.Delimits Json.Proper (fun w => (canonicalJson L w).toList) Follows Json.sortKeys
      v := by
  induction v using Json.induction with
  | null =>
    intro w r s _ _ _ h
    have hopening := opening_eq_of_append hL h
    cases w with
    | null => exact ⟨rfl, List.append_cancel_left h⟩
    | bool b => cases b <;> exact absurd hopening (by simp [opening])
    | _ => exact absurd hopening (by simp [opening])
  | bool b =>
    intro w r s _ _ _ h
    have hopening := opening_eq_of_append hL h
    cases w with
    | bool b' =>
      obtain rfl : b = b' := by
        cases b <;> cases b' <;> first | rfl | exact absurd hopening (by simp [opening])
      exact ⟨rfl, List.append_cancel_left h⟩
    | _ => cases b <;> exact absurd hopening (by simp [opening])
  | number x =>
    intro w r s hw hr hs h
    have hopening := opening_eq_of_append hL h
    cases w with
    | number y =>
      obtain ⟨htext, hrs⟩ := Delimited.append_inj_of_class
        (fun _ hc => isNumberChar_of_mem hL hc) (fun _ hc => isNumberChar_of_mem hL hc)
        hr.not_isNumberChar hs.not_isNumberChar h
      rw [printNumber_inj hL hv hw (String.toList_inj.mp htext)]
      exact ⟨rfl, hrs⟩
    | bool b => cases b <;> exact absurd hopening (by simp [opening])
    | _ => exact absurd hopening (by simp [opening])
  | string x =>
    intro w r s _ _ _ h
    have hopening := opening_eq_of_append hL h
    cases w with
    | string y =>
      obtain ⟨rfl, hrs⟩ := quote_append_inj h
      exact ⟨rfl, hrs⟩
    | bool b => cases b <;> exact absurd hopening (by simp [opening])
    | _ => exact absurd hopening (by simp [opening])
  | array items ih =>
    intro w r s hw hr hs h
    have hopening := opening_eq_of_append hL h
    cases w with
    | array items' =>
      simp only [toList_canonicalJson_array] at h
      obtain ⟨hitems, hrs⟩ := Delimited.row_inj (by decide) (follows_cons (Or.inl rfl))
        (canonicalJson_append_ne hL rfl)
        (fun v hmem => ih v hmem ((Json.proper_array items).mp hv v hmem))
        ((Json.proper_array items').mp hw) (List.cons.inj h).2
      rw [Json.sortKeys_array, Json.sortKeys_array, hitems]
      exact ⟨rfl, hrs⟩
    | bool b => cases b <;> exact absurd hopening (by simp [opening])
    | _ => exact absurd hopening (by simp [opening])
  | object entries ih =>
    intro w r s hw hr hs h
    have hopening := opening_eq_of_append hL h
    cases w with
    | object entries' =>
      simp only [toList_canonicalJson_object] at h
      have hmembers : ∀ e ∈ Json.sortMembers entries, Delimited.Delimits (fun e => e.2.Proper)
          (memberText L) Follows (fun e => (e.1, e.2.sortKeys)) e := by
        intro e hmem
        have hentry := Json.mem_sortMembers.mp hmem
        exact delimits_memberText (ih e hentry ((Json.proper_object entries).mp hv e hentry))
      obtain ⟨hsorted, hrs⟩ := Delimited.row_inj (by decide) (follows_cons (Or.inr rfl))
        memberText_append_ne hmembers
        (fun e hmem => (Json.proper_object entries').mp hw e (Json.mem_sortMembers.mp hmem))
        (List.cons.inj h).2
      rw [Json.sortKeys_object, Json.sortKeys_object, hsorted]
      exact ⟨rfl, hrs⟩
    | bool b => cases b <;> exact absurd hopening (by simp [opening])
    | _ => exact absurd hopening (by simp [opening])

/-- **The canonical form determines the value** up to the order of members. -/
theorem sortKeys_of_canonicalJson_eq (hL : L.PrintsNumbers) {v w : Json} (hv : v.Proper)
    (hw : w.Proper) (h : canonicalJson L v = canonicalJson L w) : v.SameUpToKeyOrder w := by
  have hend : Follows [] := by
    intro c hc
    exact absurd hc (by simp)
  exact (delimits_canonicalJson hL v hv hw hend hend (by simp only [h])).1

end Federation
