import Mathlib.Algebra.Ring.Nat
import Mathlib.Data.Fin.Basic
import Mathlib.Data.List.Induction
import Mathlib.Data.List.TakeWhile

/-!
# Addresses and their texts

An address of version four is four octets and has one text: decimal numbers
without a needless zero, with dots between them. One of version six is eight
groups and has many, as zeros may be written or left out, letters are large or
small, and the last two groups may be an address of version four.

A reader takes what it can from the beginning of a text and hands on the rest. An
address is printed in one of its texts (`ofText_toText`), and one of version four
has no other (`ofText_eq_v4_iff`). What a text of version six begins with is the
first group or the two colons of zeros left out (`shape_of_readIpv6`). The texts
are as good in capitals (`ofText_map_toLower`).
-/

namespace Addresses

/-! ## Numbers -/

/-- The value of a digit, sixteen of what is none. -/
def digitValue (c : Char) : ℕ :=
  if '0' ≤ c ∧ c ≤ '9' then c.toNat - 48
  else if 'a' ≤ c ∧ c ≤ 'f' then c.toNat - 87
  else if 'A' ≤ c ∧ c ≤ 'F' then c.toNat - 55
  else 16

/-- The symbol is a digit of the base. -/
def isDigitOf (base : ℕ) (c : Char) : Bool := decide (digitValue c < base)

/-- The number that some digits are. -/
def ofDigits (base : ℕ) (digits : List Char) : ℕ :=
  digits.foldl (fun value c => value * base + digitValue c) 0

/-- **A number** of so many digits below a bound, perhaps with needless zeros, and
the rest. -/
def readNumber (base most bound : ℕ) (zeros : Bool) (s : List Char) : Option (Fin bound × List Char) :=
  let digits := s.takeWhile (isDigitOf base)
  if digits = [] ∨ most < digits.length then none
  else if zeros = false ∧ digits.head? = some '0' ∧ 1 < digits.length then none
  else if h : ofDigits base digits < bound then some (⟨_, h⟩, s.dropWhile (isDigitOf base))
  else none

/-- A symbol, and the rest. -/
def readChar (expected : Char) : List Char → Option (List Char)
  | [] => none
  | c :: rest => if c = expected then some rest else none

theorem readChar_eq_some_iff {expected : Char} {s r : List Char} :
    readChar expected s = some r ↔ s = expected :: r := by
  cases s with
  | nil => simp [readChar]
  | cons c rest =>
    unfold readChar
    split
    · next h => simp [h]
    · next h => simp [h]

/-- What a number was read from. -/
theorem of_readNumber {base most bound : ℕ} {zeros : Bool} {s r : List Char} {n : Fin bound}
    (h : readNumber base most bound zeros s = some (n, r)) :
    ∃ digits, s = digits ++ r ∧ digits ≠ [] ∧ digits.length ≤ most
      ∧ (∀ c ∈ digits, isDigitOf base c = true) ∧ ofDigits base digits = n
      ∧ (zeros = false → digits.head? = some '0' → digits.length ≤ 1)
      ∧ ∀ c ∈ r.head?, isDigitOf base c = false := by
  unfold readNumber at h
  dsimp only at h
  split at h
  · exact absurd h (by simp)
  next hsome =>
  obtain ⟨hne, hmost⟩ := not_or.mp hsome
  split at h
  · exact absurd h (by simp)
  next hzeros =>
  split at h
  · obtain ⟨rfl, rfl⟩ := Prod.mk.inj (Option.some.inj h)
    refine ⟨s.takeWhile (isDigitOf base), (List.takeWhile_append_dropWhile).symm, hne,
      not_lt.mp hmost, fun c hc => List.mem_takeWhile_imp hc, rfl, fun hz hhead => ?_, ?_⟩
    · exact not_lt.mp fun hlong => hzeros ⟨hz, hhead, hlong⟩
    · intro c hc
      have hnot := List.head?_dropWhile_not (isDigitOf base) s
      rw [Option.mem_def.mp hc] at hnot
      simpa using hnot
  · exact absurd h (by simp)

/-- A number is read from its digits, up to what is not one. -/
theorem readNumber_append {base most bound : ℕ} {zeros : Bool} {digits r : List Char}
    (hne : digits ≠ []) (hmost : digits.length ≤ most)
    (hdigits : ∀ c ∈ digits, isDigitOf base c = true)
    (hzeros : zeros = false → digits.head? = some '0' → digits.length ≤ 1)
    (hbound : ofDigits base digits < bound) (hr : ∀ c ∈ r.head?, isDigitOf base c = false) :
    readNumber base most bound zeros (digits ++ r) = some (⟨_, hbound⟩, r) := by
  have hnone : r.takeWhile (isDigitOf base) = [] ∧ r.dropWhile (isDigitOf base) = r := by
    cases r with
    | nil => exact ⟨rfl, rfl⟩
    | cons c r =>
      have hc : isDigitOf base c = false := hr c rfl
      exact ⟨by rw [List.takeWhile_cons, hc]; rfl, by rw [List.dropWhile_cons, hc]; rfl⟩
  have htake : (digits ++ r).takeWhile (isDigitOf base) = digits := by
    rw [List.takeWhile_append_of_pos hdigits, hnone.1, List.append_nil]
  have hdrop : (digits ++ r).dropWhile (isDigitOf base) = r := by
    rw [List.dropWhile_append_of_pos hdigits, hnone.2]
  unfold readNumber
  simp only [htake, hdrop]
  rw [if_neg (not_or.mpr ⟨hne, not_lt.mpr hmost⟩), if_neg, dif_pos hbound]
  rintro ⟨hz, hhead, hlong⟩
  exact absurd (hzeros hz hhead) (not_le.mpr hlong)

/-! ## The digits of a number -/

theorem digitValue_digitChar {d : ℕ} (hd : d < 16) : digitValue d.digitChar = d := by
  have hall : ∀ d < 16, digitValue (Nat.digitChar d) = d := by decide
  exact hall d hd

/-- A decimal digit is that of its value. -/
theorem digitChar_digitValue {c : Char} (hc : isDigitOf 10 c = true) :
    (digitValue c).digitChar = c := by
  have hrange : ∀ n < 10, (Char.ofNat (n + 48)).toNat - 48 = n
      ∧ Nat.digitChar n = Char.ofNat (n + 48) := by decide
  unfold isDigitOf digitValue at hc
  unfold digitValue
  split
  · next h =>
    have hlo : 48 ≤ c.toNat := h.1
    have hhi : c.toNat ≤ 57 := h.2
    obtain ⟨-, hchar⟩ := hrange (c.toNat - 48) (by omega)
    rw [hchar, Nat.sub_add_cancel hlo, Char.ofNat_toNat]
  · next h =>
    rw [if_neg h] at hc
    have hlt := of_decide_eq_true hc
    split at hlt
    · next hletter =>
      have hlo : 97 ≤ c.toNat := hletter.1
      omega
    · split at hlt
      · next hletter =>
        have hlo : 65 ≤ c.toNat := hletter.1
        omega
      · omega

theorem ofDigits_append_singleton (base : ℕ) (digits : List Char) (c : Char) :
    ofDigits base (digits ++ [c]) = ofDigits base digits * base + digitValue c := by
  unfold ofDigits
  rw [List.foldl_append]
  rfl

/-- The digits of a number are digits, and its own. -/
theorem toDigits_spec {base : ℕ} (hone : 1 < base) (hbase : base ≤ 16) (n : ℕ) :
    (∀ c ∈ Nat.toDigits base n, isDigitOf base c = true)
      ∧ ofDigits base (Nat.toDigits base n) = n := by
  induction n using Nat.strongRecOn with
  | _ n ih =>
  have hvalue : ∀ d < base, digitValue d.digitChar = d := fun d hd =>
    digitValue_digitChar (by omega)
  have hdigit : ∀ d < base, isDigitOf base d.digitChar = true := fun d hd =>
    decide_eq_true ((hvalue d hd).symm ▸ hd)
  rw [Nat.toDigits_eq_if hone]
  split
  · next hlt =>
    refine ⟨fun c hc => ?_, ?_⟩
    · rw [List.mem_singleton.mp hc]
      exact hdigit n hlt
    · show 0 * base + digitValue n.digitChar = n
      rw [hvalue n hlt]
      omega
  · next hge =>
    have hmod := Nat.mod_lt n (show 0 < base by omega)
    obtain ⟨hall, hofDigits⟩ := ih (n / base) (Nat.div_lt_self (by omega) hone)
    refine ⟨fun c hc => ?_, ?_⟩
    · rcases List.mem_append.mp hc with hc | hc
      · exact hall c hc
      · rw [List.mem_singleton.mp hc]
        exact hdigit _ hmod
    · rw [ofDigits_append_singleton, hofDigits, hvalue _ hmod, Nat.div_add_mod']

/-- A needless zero is not written. -/
theorem length_toDigits_of_head {base : ℕ} (hone : 1 < base) {n : ℕ}
    (h : (Nat.toDigits base n).head? = some '0') : (Nat.toDigits base n).length ≤ 1 := by
  induction n using Nat.strongRecOn with
  | _ n ih =>
  rw [Nat.toDigits_eq_if hone] at h ⊢
  split
  · exact le_rfl
  · next hge =>
    rw [if_neg hge] at h
    have hhead : (Nat.toDigits base (n / base)).head? = some '0' := by
      cases hd : Nat.toDigits base (n / base) with
      | nil => exact absurd hd Nat.toDigits_ne_nil
      | cons c rest =>
        rw [hd] at h
        exact h
    have hshort := ih (n / base) (Nat.div_lt_self (by omega) hone) hhead
    have hlt : n / base < base := by
      simpa using (Nat.length_toDigits_le_iff hone Nat.one_pos).mp hshort
    have hpos : 0 < n / base := Nat.div_pos (by omega) (by omega)
    rw [Nat.toDigits_of_lt_base hlt] at hhead
    have hzero : (n / base).digitChar = '0' := Option.some.inj hhead
    exact absurd (Nat.digitChar_eq_zero.mp hzero) (by omega)

/-- **Digits without a needless zero are those of their number.** -/
theorem toDigits_ofDigits {digits : List Char} (hne : digits ≠ [])
    (hdigits : ∀ c ∈ digits, isDigitOf 10 c = true)
    (hzeros : digits.head? = some '0' → digits.length ≤ 1) :
    Nat.toDigits 10 (ofDigits 10 digits) = digits := by
  induction digits using List.reverseRecOn with
  | nil => exact absurd rfl hne
  | append_singleton digits c ih =>
    have hc : isDigitOf 10 c = true := hdigits c (by simp)
    have hlt : digitValue c < 10 := of_decide_eq_true hc
    rw [ofDigits_append_singleton]
    cases digits with
    | nil =>
      show Nat.toDigits 10 (0 * 10 + digitValue c) = [c]
      rw [Nat.zero_mul, Nat.zero_add, Nat.toDigits_of_lt_base hlt, digitChar_digitValue hc]
    | cons first rest =>
      have hfirst : first ≠ '0' := by
        rintro rfl
        have hlong := hzeros rfl
        simp at hlong
      have hih := ih (List.cons_ne_nil _ _) (fun d hd => hdigits d (List.mem_append_left _ hd))
        (fun hhead => absurd (Option.some.inj hhead) hfirst)
      have hpos : 0 < ofDigits 10 (first :: rest) := by
        refine Nat.pos_of_ne_zero fun hzero => hfirst ?_
        rw [hzero, Nat.toDigits_zero] at hih
        exact (List.cons.inj hih).1.symm
      rw [Nat.mul_comm, ← Nat.toDigits_append_toDigits (by decide) hpos hlt, hih,
        Nat.toDigits_of_lt_base hlt, digitChar_digitValue hc]

/-- A number is read from its digits, whatever else follows. -/
theorem readNumber_toDigits {base most bound : ℕ} (zeros : Bool) (hone : 1 < base)
    (hbase : base ≤ 16) (hmost : bound ≤ base ^ most) (hpos : 0 < most) (n : Fin bound)
    {r : List Char} (hr : ∀ c ∈ r.head?, isDigitOf base c = false) :
    readNumber base most bound zeros (Nat.toDigits base n ++ r) = some (n, r) := by
  obtain ⟨hdigits, hvalue⟩ := toDigits_spec hone hbase n
  have hlength : (Nat.toDigits base n).length ≤ most :=
    (Nat.length_toDigits_le_iff hone hpos).mpr (n.isLt.trans_le hmost)
  rw [readNumber_append Nat.toDigits_ne_nil hlength hdigits
    (fun _ hhead => length_toDigits_of_head hone hhead) (hvalue.symm ▸ n.isLt) hr]
  exact congrArg (fun m => some (m, r)) (Fin.ext hvalue)

/-! ## Version four -/

/-- **An address of version four.** -/
structure Ipv4Addr where
  a : Fin 256
  b : Fin 256
  c : Fin 256
  d : Fin 256
deriving DecidableEq

/-- An octet has up to three digits, and no needless zero. -/
def readOctet : List Char → Option (Fin 256 × List Char) := readNumber 10 3 256 false

/-- **An address of version four**, and the rest. -/
def readIpv4 (s : List Char) : Option (Ipv4Addr × List Char) := do
  let (a, s) ← readOctet s
  let (b, s) ← readOctet (← readChar '.' s)
  let (c, s) ← readOctet (← readChar '.' s)
  let (d, s) ← readOctet (← readChar '.' s)
  return (⟨a, b, c, d⟩, s)

/-- An octet as it is printed. -/
def octetText (n : Fin 256) : List Char := Nat.toDigits 10 n

/-- **The text of an address of version four.** -/
def Ipv4Addr.toText (v4 : Ipv4Addr) : List Char :=
  octetText v4.a ++ '.' :: (octetText v4.b ++ '.' :: (octetText v4.c ++ '.' :: octetText v4.d))

theorem readIpv4_eq_some_iff {s r : List Char} {v4 : Ipv4Addr} :
    readIpv4 s = some (v4, r) ↔
      ∃ s₁ s₂ s₃, readOctet s = some (v4.a, '.' :: s₁) ∧ readOctet s₁ = some (v4.b, '.' :: s₂)
        ∧ readOctet s₂ = some (v4.c, '.' :: s₃) ∧ readOctet s₃ = some (v4.d, r) := by
  unfold readIpv4
  constructor
  · intro h
    simp only [Option.bind_eq_bind, Option.bind_eq_some_iff, readChar_eq_some_iff, Option.pure_def,
      Prod.exists, Option.some.injEq, Prod.mk.injEq] at h
    obtain ⟨a, _, ha, s₁, rfl, b, _, hb, s₂, rfl, c, _, hc, s₃, rfl, d, _, hd, rfl, rfl⟩ := h
    exact ⟨s₁, s₂, s₃, ha, hb, hc, hd⟩
  · rintro ⟨s₁, s₂, s₃, ha, hb, hc, hd⟩
    simp only [ha, hb, hc, hd, readChar, Option.bind_eq_bind, Option.bind_some, if_true,
      Option.pure_def]

/-- An octet is read from its text, and from no other. -/
theorem readOctet_eq_some_iff {s r : List Char} {n : Fin 256} :
    readOctet s = some (n, r) ↔ s = octetText n ++ r ∧ ∀ c ∈ r.head?, isDigitOf 10 c = false := by
  constructor
  · intro h
    obtain ⟨digits, rfl, hne, -, hdigits, hvalue, hzeros, hr⟩ := of_readNumber h
    refine ⟨?_, hr⟩
    unfold octetText
    rw [← hvalue, toDigits_ofDigits hne hdigits (hzeros rfl)]
  · rintro ⟨rfl, hr⟩
    exact readNumber_toDigits false (by decide) (by decide) (by decide) (by decide) n hr

/-- **An address of version four is read from its text, and from no other.** -/
theorem readIpv4_toText_iff {s r : List Char} {v4 : Ipv4Addr} :
    readIpv4 s = some (v4, r) ↔ s = v4.toText ++ r ∧ ∀ c ∈ r.head?, isDigitOf 10 c = false := by
  have hdot : ∀ s : List Char, ∀ c ∈ ('.' :: s).head?, isDigitOf 10 c = false := by
    intro s c hc
    obtain rfl := Option.some.inj hc
    decide
  simp only [readIpv4_eq_some_iff, readOctet_eq_some_iff]
  unfold Ipv4Addr.toText
  constructor
  · rintro ⟨s₁, s₂, s₃, ⟨rfl, -⟩, ⟨rfl, -⟩, ⟨rfl, -⟩, rfl, hr⟩
    exact ⟨by simp only [List.append_assoc, List.cons_append], hr⟩
  · rintro ⟨rfl, hr⟩
    exact ⟨_, _, _, ⟨by simp only [List.append_assoc, List.cons_append], hdot _⟩,
      ⟨rfl, hdot _⟩, ⟨rfl, hdot _⟩, rfl, hr⟩

/-- What does not begin with a number and a point is no address of version
four. -/
theorem readIpv4_eq_none {digits r : List Char} (hdigits : ∀ c ∈ digits, c ≠ '.')
    (hr : ∀ c ∈ r.head?, isDigitOf 10 c = false ∧ c ≠ '.') : readIpv4 (digits ++ r) = none := by
  by_contra hsome
  obtain ⟨⟨v4, rest⟩, h⟩ := Option.ne_none_iff_exists'.mp hsome
  obtain ⟨s₁, -, -, ha, -⟩ := readIpv4_eq_some_iff.mp h
  obtain ⟨octet, heq, -, -, hoctet, -⟩ := of_readNumber ha
  -- what follows the first octet is a digit, or the first symbol of the rest
  have hlength : octet.length < digits.length ∨ digits.length ≤ octet.length := by omega
  rcases hlength with hshort | hlong
  · have hget := congrArg (fun l => l[octet.length]?) heq
    simp only [List.getElem?_append_left hshort, List.getElem?_append_right le_rfl, Nat.sub_self,
      List.getElem?_cons_zero] at hget
    exact hdigits '.' (List.mem_of_getElem? hget) rfl
  · cases hrest : r with
    | nil =>
      have hcount := congrArg List.length heq
      rw [hrest] at hcount
      simp only [List.length_append, List.length_cons, List.length_nil] at hcount
      omega
    | cons c tail =>
      obtain ⟨hnodigit, hnopoint⟩ := hr c (by rw [hrest]; rfl)
      have hget := congrArg (fun l => l[digits.length]?) heq
      rw [hrest] at hget
      simp only [List.getElem?_append_right le_rfl, Nat.sub_self, List.getElem?_cons_zero] at hget
      rcases hlong.lt_or_eq with hlt | hsame
      · rw [List.getElem?_append_left hlt] at hget
        have hmem := hoctet c (List.mem_of_getElem? hget.symm)
        rw [hnodigit] at hmem
        exact absurd hmem Bool.false_ne_true
      · rw [hsame, List.getElem?_append_right le_rfl, Nat.sub_self, List.getElem?_cons_zero] at hget
        exact hnopoint (Option.some.inj hget)

/-! ## Version six -/

/-- **An address of version six.** -/
structure Ipv6Addr where
  groups : List (Fin 65536)
  length_groups : groups.length = 8
deriving DecidableEq

/-- Two octets in one group. -/
def group (hi lo : Fin 256) : Fin 65536 :=
  ⟨hi * 256 + lo, by omega⟩

/-- The two groups of an address of version four. -/
def Ipv4Addr.groups (v4 : Ipv4Addr) : List (Fin 65536) := [group v4.a v4.b, group v4.c v4.d]

/-- A group has up to four digits. -/
def readGroup : List Char → Option (Fin 65536 × List Char) := readNumber 16 4 65536 true

/-- What is behind a colon, which the first of some groups does not have. -/
def readSeparator (first : Bool) (s : List Char) : Option (List Char) :=
  if first then some s else readChar ':' s

/-- **So many groups** at most with colons between them, of which the last two may
be an address of version four; whether they are; and the rest. -/
def readGroups : ℕ → Bool → List Char → List (Fin 65536) × Bool × List Char
  | 0, _, s => ([], false, s)
  | limit + 1, first, s =>
    match if limit = 0 then none else (readSeparator first s).bind readIpv4 with
    | some (v4, rest) => (v4.groups, true, rest)
    | none =>
      match (readSeparator first s).bind readGroup with
      | none => ([], false, s)
      | some (g, rest) =>
        let (groups, v4, rest) := readGroups limit false rest
        (g :: groups, v4, rest)

/-- Eight groups. -/
def Ipv6Addr.ofGroups (groups : List (Fin 65536)) : Option Ipv6Addr :=
  if h : groups.length = 8 then some ⟨groups, h⟩ else none

/-- **An address of version six**, and the rest: eight groups, or some, two colons
for one zero or more, and the others. -/
def readIpv6 (s : List Char) : Option (Ipv6Addr × List Char) :=
  let (head, v4, rest) := readGroups 8 true s
  if head.length = 8 then (Ipv6Addr.ofGroups head).map fun a => (a, rest)
  else if v4 then none
  else do
    let s ← readChar ':' rest
    let s ← readChar ':' s
    let (tail, _, rest) := readGroups (8 - (head.length + 1)) true s
    let a ← Ipv6Addr.ofGroups (head ++ List.replicate (8 - head.length - tail.length) 0 ++ tail)
    return (a, rest)

/-! ## The text of an address of version six -/

/-- A group as it is printed. -/
def groupText (g : Fin 65536) : List Char := Nat.toDigits 16 g

/-- Groups, each with a colon before it. -/
def tailText (groups : List (Fin 65536)) : List Char := groups.flatMap fun g => ':' :: groupText g

/-- Groups with colons between them. -/
def groupsText : List (Fin 65536) → List Char
  | [] => []
  | g :: groups => groupText g ++ tailText groups

/-- Some zeros in a row: how many groups are before them, and how many they are. -/
structure Span where
  start : ℕ
  length : ℕ

/-- The current and the longest zeros, after a further group. -/
def Span.next (state : ℕ × Span × Span) (g : Fin 65536) : ℕ × Span × Span :=
  let (i, current, longest) := state
  if g = 0 then
    let current : Span := ⟨if current.length = 0 then i else current.start, current.length + 1⟩
    (i + 1, current, if longest.length < current.length then current else longest)
  else (i + 1, ⟨0, 0⟩, longest)

/-- **The first of the longest zeros.** -/
def zeroSpan (groups : List (Fin 65536)) : Span :=
  (groups.foldl Span.next (0, ⟨0, 0⟩, ⟨0, 0⟩)).2.2

/-- The address of version four that one of version six maps. -/
def Ipv6Addr.toIpv4Mapped (a : Ipv6Addr) : Option Ipv4Addr :=
  if a.groups.take 6 = [0, 0, 0, 0, 0, 65535] then
    let hi : Fin 65536 := a.groups.getD 6 0
    let lo : Fin 65536 := a.groups.getD 7 0
    some
      ⟨⟨hi / 256, by omega⟩, ⟨hi % 256, by omega⟩, ⟨lo / 256, by omega⟩, ⟨lo % 256, by omega⟩⟩
  else none

/-- **The text of an address of version six**: with a mapped address as one, and
otherwise without the longest zeros, if there is more than one. -/
def Ipv6Addr.toText (a : Ipv6Addr) : List Char :=
  match a.toIpv4Mapped with
  | some v4 => "::ffff:".toList ++ v4.toText
  | none =>
    let span := zeroSpan a.groups
    if 1 < span.length then
      groupsText (a.groups.take span.start) ++ ':' :: ':' ::
        groupsText (a.groups.drop (span.start + span.length))
    else groupsText a.groups

/-! ## What an address is for -/

namespace Ipv4Addr

variable (v4 : Ipv4Addr)

/-- Of a private network. -/
def isPrivate : Bool :=
  v4.a = 10 || (v4.a = 172 && (16 ≤ v4.b && v4.b ≤ 31)) || (v4.a = 192 && v4.b = 168)

/-- Of the machine itself. -/
def isLoopback : Bool := v4.a = 127

/-- Of the link. -/
def isLinkLocal : Bool := v4.a = 169 && v4.b = 254

/-- None. -/
def isUnspecified : Bool := v4.a = 0 && v4.b = 0 && v4.c = 0 && v4.d = 0

/-- Everyone on the link. -/
def isBroadcast : Bool := v4.a = 255 && v4.b = 255 && v4.c = 255 && v4.d = 255

/-- Of a group. -/
def isMulticast : Bool := 224 ≤ v4.a && v4.a ≤ 239

/-- For examples. -/
def isDocumentation : Bool :=
  (v4.a = 192 && v4.b = 0 && v4.c = 2) || (v4.a = 198 && v4.b = 51 && v4.c = 100)
    || (v4.a = 203 && v4.b = 0 && v4.c = 113)

end Ipv4Addr

namespace Ipv6Addr

variable (v6 : Ipv6Addr)

/-- The first group. -/
def first : ℕ := (v6.groups.headD 0 : Fin 65536)

/-- Of the machine itself. -/
def isLoopback : Bool := v6.groups = [0, 0, 0, 0, 0, 0, 0, 1]

/-- None. -/
def isUnspecified : Bool := v6.groups = [0, 0, 0, 0, 0, 0, 0, 0]

/-- Of a group. -/
def isMulticast : Bool := v6.first &&& 0xff00 = 0xff00

/-- Of a private network. -/
def isUniqueLocal : Bool := v6.first &&& 0xfe00 = 0xfc00

/-- Of the link. -/
def isUnicastLinkLocal : Bool := v6.first &&& 0xffc0 = 0xfe80

end Ipv6Addr

/-! ## Addresses -/

/-- **An address.** -/
inductive IpAddr
  | v4 (addr : Ipv4Addr)
  | v6 (addr : Ipv6Addr)
deriving DecidableEq

/-- An address, and the rest. -/
def readIp (s : List Char) : Option (IpAddr × List Char) :=
  match readIpv4 s with
  | some (v4, rest) => some (.v4 v4, rest)
  | none => (readIpv6 s).map fun p => (.v6 p.1, p.2)

/-- **The address that a text is.** -/
def IpAddr.ofText (s : List Char) : Option IpAddr :=
  match readIp s with
  | some (ip, []) => some ip
  | _ => none

/-- **The text of an address.** -/
def IpAddr.toText : IpAddr → List Char
  | .v4 addr => addr.toText
  | .v6 addr => addr.toText

/-! ## The longest zeros -/

/-- The groups are zeros, from so far on so many. -/
def Span.IsZeros (span : Span) (groups : List (Fin 65536)) : Prop :=
  ∀ k < span.length, groups[span.start + k]? = some 0

theorem Span.IsZeros.append {span : Span} {groups : List (Fin 65536)} (h : span.IsZeros groups)
    (more : List (Fin 65536)) : span.IsZeros (groups ++ more) := by
  intro k hk
  have hzero := h k hk
  rw [List.getElem?_append_left (List.getElem?_eq_some_iff.mp hzero).1]
  exact hzero

/-- What the longest zeros are among, after so many groups. -/
structure Span.Counted (groups : List (Fin 65536)) (state : ℕ × Span × Span) : Prop where
  count : state.1 = groups.length
  reaches : state.2.1.length ≠ 0 → state.2.1.start + state.2.1.length = groups.length
  current : state.2.1.IsZeros groups
  longest : state.2.2.IsZeros groups

theorem Span.counted_foldl (groups : List (Fin 65536)) :
    Span.Counted groups (groups.foldl Span.next (0, ⟨0, 0⟩, ⟨0, 0⟩)) := by
  induction groups using List.reverseRecOn with
  | nil =>
    have hnone : (⟨0, 0⟩ : Span).IsZeros [] := fun k hk => absurd hk (by simp)
    exact ⟨rfl, fun h => absurd rfl h, hnone, hnone⟩
  | append_singleton groups g ih =>
    rw [List.foldl_append]
    generalize groups.foldl Span.next (0, ⟨0, 0⟩, ⟨0, 0⟩) = state at ih ⊢
    obtain ⟨i, current, longest⟩ := state
    obtain ⟨hcount, hreaches, hcurrent, hlongest⟩ := ih
    dsimp only at hcount hreaches hcurrent hlongest
    have hnone : ∀ i, (⟨i, 0⟩ : Span).IsZeros (groups ++ [g]) := fun i k hk => absurd hk (by simp)
    rw [List.foldl_cons, List.foldl_nil]
    unfold Span.next
    dsimp only
    split
    · next hzero =>
      have hlonger : Span.IsZeros ⟨if current.length = 0 then i else current.start, current.length + 1⟩
          (groups ++ [g]) := by
        intro k hk
        dsimp only at hk ⊢
        by_cases hfirst : current.length = 0
        · obtain rfl : k = 0 := by omega
          rw [if_pos hfirst, hcount, Nat.add_zero, List.getElem?_append_right le_rfl, Nat.sub_self,
            hzero]
          rfl
        · rw [if_neg hfirst]
          rcases Nat.lt_succ_iff_lt_or_eq.mp hk with hlt | rfl
          · exact hcurrent.append [g] k hlt
          · rw [hreaches hfirst, List.getElem?_append_right le_rfl, Nat.sub_self, hzero]
            rfl
      refine ⟨?_, fun _ => ?_, hlonger, ?_⟩
      · rw [List.length_append, hcount]
        rfl
      · dsimp only
        rw [List.length_append, List.length_singleton]
        split
        · omega
        · next hfirst =>
          have := hreaches hfirst
          omega
      · dsimp only
        split
        · exact hlonger
        · exact hlongest.append [g]
    · refine ⟨?_, fun h => absurd rfl h, hnone 0, hlongest.append [g]⟩
      rw [List.length_append, hcount]
      rfl

/-- **The longest zeros are zeros**, between what is before and after them. -/
theorem eq_around_zeroSpan (groups : List (Fin 65536)) (h : 0 < (zeroSpan groups).length) :
    (zeroSpan groups).start + (zeroSpan groups).length ≤ groups.length
      ∧ groups.take (zeroSpan groups).start ++ List.replicate (zeroSpan groups).length 0
          ++ groups.drop ((zeroSpan groups).start + (zeroSpan groups).length)
        = groups := by
  have hzeros : (zeroSpan groups).IsZeros groups := (Span.counted_foldl groups).longest
  generalize zeroSpan groups = span at h hzeros ⊢
  obtain ⟨start, length⟩ := span
  dsimp only at h ⊢
  have hlast : groups[start + (length - 1)]? = some 0 := hzeros (length - 1) (by dsimp only; omega)
  have hle : start + length ≤ groups.length := by
    have hlt := (List.getElem?_eq_some_iff.mp hlast).1
    omega
  refine ⟨hle, ?_⟩
  have hmiddle : (groups.drop start).take length = List.replicate length 0 := by
    refine List.eq_replicate_iff.mpr ⟨?_, fun g hg => ?_⟩
    · rw [List.length_take, List.length_drop]
      omega
    · obtain ⟨k, hk⟩ := List.mem_iff_getElem?.mp hg
      have hlt : k < length := by
        have := (List.getElem?_eq_some_iff.mp hk).1
        rw [List.length_take] at this
        omega
      rw [List.getElem?_take_of_lt hlt, List.getElem?_drop] at hk
      exact Option.some.inj (hk.symm.trans (hzeros k hlt))
  rw [← hmiddle, List.append_assoc, ← List.drop_drop, List.take_append_drop, List.take_append_drop]

/-! ## Reading the text back -/

/-- What does not begin with a digit is no number. -/
theorem readNumber_eq_none {base most bound : ℕ} {zeros : Bool} {s : List Char}
    (hs : ∀ c ∈ s.head?, isDigitOf base c = false) : readNumber base most bound zeros s = none := by
  have hnone : s.takeWhile (isDigitOf base) = [] := by
    cases s with
    | nil => rfl
    | cons c s => rw [List.takeWhile_cons, hs c rfl]; rfl
  unfold readNumber
  dsimp only
  rw [hnone, if_pos (Or.inl rfl)]

/-- What is no digit of a group is no decimal digit. -/
theorem isDigitOf_ten {c : Char} (h : isDigitOf 16 c = false) : isDigitOf 10 c = false := by
  unfold isDigitOf at h ⊢
  simp only [decide_eq_false_iff_not, not_lt] at h ⊢
  omega

theorem readIpv4_of_head {s : List Char} (hs : ∀ c ∈ s.head?, isDigitOf 16 c = false) :
    readIpv4 s = none := by
  have hnone : readOctet s = none := readNumber_eq_none fun c hc => isDigitOf_ten (hs c hc)
  unfold readIpv4
  rw [hnone]
  rfl

/-- The digits of a group. -/
theorem of_mem_groupText {g : Fin 65536} {c : Char} (h : c ∈ groupText g) :
    isDigitOf 16 c = true ∧ c ≠ '.' ∧ c ≠ ':' := by
  have hdigit := (toDigits_spec (by decide : 1 < 16) le_rfl g).1 c h
  refine ⟨hdigit, ?_, ?_⟩
  · rintro rfl
    exact absurd hdigit (by decide)
  · rintro rfl
    exact absurd hdigit (by decide)

/-- The groups end where nothing follows, or two colons do. -/
def Ends (s : List Char) : Prop := s = [] ∨ ∃ rest, s = ':' :: ':' :: rest

theorem Ends.head {s : List Char} (h : Ends s) : ∀ c ∈ s.head?, c = ':' := by
  rcases h with rfl | ⟨rest, rfl⟩
  · exact fun c hc => absurd hc (by simp)
  · exact fun c hc => (Option.some.inj hc).symm

theorem readGroups_of_ends {s : List Char} (h : Ends s) (limit : ℕ) (first : Bool) :
    readGroups limit first s = ([], false, s) := by
  have hcolon : ∀ s' : List Char, (∀ c ∈ s'.head?, c = ':') → ∀ c ∈ s'.head?, isDigitOf 16 c = false := by
    intro s' hs' c hc
    rw [hs' c hc]
    decide
  have hread : (readSeparator first s).bind readIpv4 = none
      ∧ (readSeparator first s).bind readGroup = none := by
    have hnone : ∀ s' : List Char, (∀ c ∈ s'.head?, c = ':') → readIpv4 s' = none ∧ readGroup s' = none :=
      fun s' hs' => ⟨readIpv4_of_head (hcolon s' hs'), readNumber_eq_none (hcolon s' hs')⟩
    cases first with
    | true => exact hnone s h.head
    | false =>
      rcases h with rfl | ⟨rest, rfl⟩
      · exact ⟨rfl, rfl⟩
      · exact hnone (':' :: rest) fun c hc => (Option.some.inj hc).symm
  cases limit with
  | zero => rfl
  | succ limit =>
    unfold readGroups
    rw [hread.1, hread.2, ite_self]

/-- A group is read from its text. -/
theorem readGroups_cons {s r : List Char} {first : Bool} {g : Fin 65536}
    (hs : readSeparator first s = some (groupText g ++ r)) (hr : ∀ c ∈ r.head?, c = ':') (limit : ℕ) :
    readGroups (limit + 1) first s
      = (g :: (readGroups limit false r).1, (readGroups limit false r).2) := by
  have hcolon : ∀ c ∈ r.head?, isDigitOf 16 c = false ∧ isDigitOf 10 c = false ∧ c ≠ '.' := by
    intro c hc
    rw [hr c hc]
    decide
  have hnone : readIpv4 (groupText g ++ r) = none :=
    readIpv4_eq_none (fun c hc => (of_mem_groupText hc).2.1) fun c hc => (hcolon c hc).2
  have hgroup : readGroup (groupText g ++ r) = some (g, r) :=
    readNumber_toDigits true (by decide) le_rfl (by decide) (by decide) g fun c hc => (hcolon c hc).1
  conv_lhs => unfold readGroups
  rw [hs, Option.bind_some, Option.bind_some, hnone, ite_self, hgroup]

theorem head_tailText_append {groups : List (Fin 65536)} {r : List Char} (hr : Ends r) :
    ∀ c ∈ (tailText groups ++ r).head?, c = ':' := by
  cases groups with
  | nil => exact hr.head
  | cons g groups => exact fun c hc => (Option.some.inj hc).symm

theorem readGroups_tailText {groups : List (Fin 65536)} {r : List Char} (hr : Ends r) {limit : ℕ}
    (hlimit : groups.length ≤ limit) :
    readGroups limit false (tailText groups ++ r) = (groups, false, r) := by
  induction groups generalizing limit with
  | nil => exact readGroups_of_ends hr limit false
  | cons g groups ih =>
    obtain ⟨limit, rfl⟩ := Nat.exists_eq_add_of_le' (Nat.one_le_of_lt (Nat.lt_of_succ_le hlimit))
    have hs : readSeparator false (tailText (g :: groups) ++ r)
        = some (groupText g ++ (tailText groups ++ r)) := by
      show readChar ':' (':' :: (groupText g ++ tailText groups) ++ r) = _
      rw [readChar_eq_some_iff, List.cons_append, List.append_assoc]
    rw [readGroups_cons hs (head_tailText_append hr), ih (by simpa using hlimit)]

/-- **Groups are read from their text.** -/
theorem readGroups_groupsText {groups : List (Fin 65536)} {r : List Char} (hr : Ends r) {limit : ℕ}
    (hlimit : groups.length ≤ limit) :
    readGroups limit true (groupsText groups ++ r) = (groups, false, r) := by
  cases groups with
  | nil => exact readGroups_of_ends hr limit true
  | cons g groups =>
    obtain ⟨limit, rfl⟩ := Nat.exists_eq_add_of_le' (Nat.one_le_of_lt (Nat.lt_of_succ_le hlimit))
    have hs : readSeparator true (groupsText (g :: groups) ++ r)
        = some (groupText g ++ (tailText groups ++ r)) :=
      congrArg some (List.append_assoc _ _ _)
    rw [readGroups_cons hs (head_tailText_append hr), readGroups_tailText hr (by simpa using hlimit)]

theorem Ipv6Addr.ofGroups_eq_some_iff {groups : List (Fin 65536)} {a : Ipv6Addr} :
    Ipv6Addr.ofGroups groups = some a ↔ a.groups = groups := by
  unfold Ipv6Addr.ofGroups
  constructor
  · intro h
    split at h
    · exact congrArg Ipv6Addr.groups (Option.some.inj h).symm
    · exact absurd h (by simp)
  · rintro rfl
    rw [dif_pos a.length_groups]

/-- **How an address of version six is read.** -/
theorem readIpv6_eq_some_iff {s r : List Char} {a : Ipv6Addr} :
    readIpv6 s = some (a, r) ↔
      (∃ v4, readGroups 8 true s = (a.groups, v4, r))
        ∨ ∃ head s' tail v4, readGroups 8 true s = (head, false, ':' :: ':' :: s')
          ∧ head.length ≠ 8 ∧ readGroups (8 - (head.length + 1)) true s' = (tail, v4, r)
          ∧ a.groups = head ++ List.replicate (8 - head.length - tail.length) 0 ++ tail := by
  unfold readIpv6
  obtain ⟨head, v4, rest⟩ := readGroups 8 true s
  dsimp only
  split
  · next hfull =>
    simp only [Option.map_eq_some_iff, Ipv6Addr.ofGroups_eq_some_iff, Prod.mk.injEq]
    constructor
    · rintro ⟨b, hb, rfl, rfl⟩
      exact Or.inl ⟨v4, hb.symm, rfl, rfl⟩
    · rintro (⟨_, hhead, -, rfl⟩ | ⟨_, _, _, _, ⟨rfl, -⟩, hne, -⟩)
      · exact ⟨a, hhead.symm, rfl, rfl⟩
      · exact absurd hfull hne
  · next hpart =>
    have hother : ¬ ∃ b, (head, v4, rest) = (a.groups, b, r) := by
      rintro ⟨b, h⟩
      have hgroups : head = a.groups := congrArg Prod.fst h
      exact hpart (hgroups ▸ a.length_groups)
    rw [or_iff_right hother]
    split
    · next hv4 =>
      simp only [reduceCtorEq, false_iff]
      rintro ⟨_, _, _, _, h, -⟩
      have hnot : v4 = false := congrArg (fun p => p.2.1) h
      rw [hnot] at hv4
      exact absurd hv4 Bool.false_ne_true
    · next hv4 =>
      simp only [Option.bind_eq_bind, Option.bind_eq_some_iff, readChar_eq_some_iff, Option.pure_def,
        Option.some.injEq, Prod.mk.injEq, Ipv6Addr.ofGroups_eq_some_iff]
      constructor
      · rintro ⟨_, rfl, s', rfl, b, hb, rfl, rfl⟩
        exact ⟨head, s', _, _, ⟨rfl, Bool.not_eq_true _ ▸ hv4, rfl⟩, hpart, rfl, hb⟩
      · rintro ⟨_, s', tail, b, ⟨rfl, -, rfl⟩, -, htail, ha⟩
        refine ⟨_, rfl, s', rfl, a, ?_, rfl, ?_⟩
        · rw [htail]
          exact ha
        · rw [htail]

/-! ## What is printed is read back -/

/-- An address that maps one of version four has its groups at the end. -/
theorem Ipv6Addr.groups_of_mapped {a : Ipv6Addr} {v4 : Ipv4Addr} (h : a.toIpv4Mapped = some v4) :
    a.groups = [0, 0, 0, 0, 0, 65535] ++ v4.groups := by
  obtain ⟨groups, hlength⟩ := a
  unfold Ipv6Addr.toIpv4Mapped at h
  dsimp only at h ⊢
  split at h
  · next hsix =>
    obtain rfl := Option.some.inj h
    match groups, hlength, hsix with
    | [g₀, g₁, g₂, g₃, g₄, g₅, hi, lo], _, hsix =>
      have hgroup : ∀ g : Fin 65536,
          group ⟨g / 256, by omega⟩ ⟨g % 256, by omega⟩ = g := fun g =>
        Fin.ext (Nat.div_add_mod' (g : ℕ) 256)
      show [g₀, g₁, g₂, g₃, g₄, g₅, hi, lo] = [0, 0, 0, 0, 0, 65535] ++ [group _ _, group _ _]
      rw [← hsix]
      simp only [List.getD_cons_succ, List.getD_cons_zero, hgroup]
      rfl
  · exact absurd h (by simp)

/-- **An address of version six is read from its text.** -/
theorem readIpv6_toText (a : Ipv6Addr) : readIpv6 a.toText = some (a, []) := by
  have hends : Ends [] := Or.inl rfl
  rw [readIpv6_eq_some_iff]
  unfold Ipv6Addr.toText
  cases hmapped : a.toIpv4Mapped with
  | some v4 =>
    refine Or.inr ⟨[], 'f' :: 'f' :: 'f' :: 'f' :: ':' :: v4.toText, 65535 :: v4.groups, true,
      readGroups_of_ends (Or.inr ⟨_, rfl⟩) 8 true, by decide, ?_, Ipv6Addr.groups_of_mapped hmapped⟩
    have hgroup : readSeparator true ('f' :: 'f' :: 'f' :: 'f' :: ':' :: v4.toText)
        = some (groupText 65535 ++ ':' :: v4.toText) := rfl
    have hread : readIpv4 v4.toText = some (v4, []) :=
      readIpv4_toText_iff.mpr ⟨(List.append_nil _).symm, fun c hc => absurd hc (by simp)⟩
    show readGroups 7 true _ = _
    rw [readGroups_cons hgroup (fun c hc => (Option.some.inj hc).symm)]
    have htail : readGroups 6 false (':' :: v4.toText) = (v4.groups, true, []) := by
      unfold readGroups
      show (match if (5 : ℕ) = 0 then none else readIpv4 v4.toText with
        | some (v4, rest) => (v4.groups, true, rest)
        | none => _) = _
      rw [if_neg (by decide), hread]
    rw [htail]
  | none =>
    dsimp only
    split
    · next hspan =>
      obtain ⟨hle, hgroups⟩ := eq_around_zeroSpan a.groups (by omega)
      rw [a.length_groups] at hle
      set start := (zeroSpan a.groups).start
      set length := (zeroSpan a.groups).length
      have hhead : (a.groups.take start).length = start := by
        rw [List.length_take, a.length_groups]
        omega
      have htail : (a.groups.drop (start + length)).length = 8 - (start + length) := by
        rw [List.length_drop, a.length_groups]
      refine Or.inr ⟨a.groups.take start, groupsText (a.groups.drop (start + length)),
        a.groups.drop (start + length), false,
        readGroups_groupsText (Or.inr ⟨_, rfl⟩) (by omega), by omega, ?_, ?_⟩
      · have hread := @readGroups_groupsText (a.groups.drop (start + length)) [] hends
          (8 - ((a.groups.take start).length + 1)) (by omega)
        rwa [List.append_nil] at hread
      · have hlength : 8 - (a.groups.take start).length - (a.groups.drop (start + length)).length
            = length := by omega
        rw [hlength]
        exact hgroups.symm
    · have hread := @readGroups_groupsText a.groups [] hends 8 a.length_groups.le
      rw [List.append_nil] at hread
      exact Or.inl ⟨false, hread⟩

/-! ## What a text begins with -/

/-- How the first group is read, or an address of version four. -/
theorem readGroups_succ_cases (limit : ℕ) (first : Bool) (s : List Char) :
    (∃ v4 r, (readSeparator first s).bind readIpv4 = some (v4, r)
        ∧ readGroups (limit + 1) first s = (v4.groups, true, r))
      ∨ (∃ g r, (readSeparator first s).bind readGroup = some (g, r)
        ∧ readGroups (limit + 1) first s
          = (g :: (readGroups limit false r).1, (readGroups limit false r).2))
      ∨ readGroups (limit + 1) first s = ([], false, s) := by
  cases hv4 : (if limit = 0 then none else (readSeparator first s).bind readIpv4) with
  | some p =>
    obtain ⟨v4, r⟩ := p
    have hlimit : limit ≠ 0 := by
      rintro rfl
      exact absurd hv4 (by simp)
    refine Or.inl ⟨v4, r, ?_, ?_⟩
    · rwa [if_neg hlimit] at hv4
    · rw [readGroups, hv4]
  | none =>
    cases hgroup : (readSeparator first s).bind readGroup with
    | some p =>
      obtain ⟨g, r⟩ := p
      exact Or.inr (Or.inl ⟨g, r, rfl, by rw [readGroups, hv4, hgroup]⟩)
    | none => exact Or.inr (Or.inr (by rw [readGroups, hv4, hgroup]))

/-- Further groups begin with a colon, or there are none. -/
theorem readGroups_false_cases (limit : ℕ) (s : List Char) :
    readGroups limit false s = ([], false, s) ∨ ∃ t, s = ':' :: t := by
  have hcolon : ∀ {α : Type} {f : List Char → Option α} {x : α},
      (readSeparator false s).bind f = some x → ∃ t, s = ':' :: t := by
    intro α f x h
    obtain ⟨t, ht, -⟩ := Option.bind_eq_some_iff.mp h
    exact ⟨t, readChar_eq_some_iff.mp ht⟩
  cases limit with
  | zero => exact Or.inl rfl
  | succ limit =>
    rcases readGroups_succ_cases limit false s with ⟨_, _, h, -⟩ | ⟨_, _, h, -⟩ | h
    · exact Or.inr (hcolon h)
    · exact Or.inr (hcolon h)
    · exact Or.inl h

/-- **What a text of version six begins with**: two colons, or the first group and
a colon. -/
theorem shape_of_readIpv6 {s r : List Char} {a : Ipv6Addr} (h : readIpv6 s = some (a, r)) :
    (∃ t, s = ':' :: ':' :: t)
      ∨ ∃ digits t, s = digits ++ ':' :: t ∧ digits ≠ []
        ∧ (∀ c ∈ digits, isDigitOf 16 c = true)
        ∧ ∃ g, a.groups.head? = some g ∧ ofDigits 16 digits = g := by
  rw [readIpv6_eq_some_iff] at h
  -- the groups that are read first are all eight, or those before two colons
  have hread : ∀ {head : List (Fin 65536)} {v4 : Bool} {rest : List Char},
      readGroups 8 true s = (head, v4, rest) →
        head.length = 8 ∧ a.groups = head
          ∨ v4 = false ∧ (∃ t, rest = ':' :: ':' :: t) ∧ ∃ more, a.groups = head ++ more := by
    intro head v4 rest hs
    rw [hs] at h
    rcases h with ⟨_, h⟩ | ⟨_, s', _, _, h, -, -, ha⟩
    · have hhead : head = a.groups := congrArg Prod.fst h
      exact Or.inl ⟨hhead ▸ a.length_groups, hhead.symm⟩
    · obtain ⟨rfl, rfl, rfl⟩ := h
      rw [List.append_assoc] at ha
      exact Or.inr ⟨rfl, ⟨s', rfl⟩, _, ha⟩
  rcases readGroups_succ_cases 7 true s with ⟨v4, r₁, -, hs⟩ | ⟨g, r₁, hgroup, hs⟩ | hs
  · rcases hread hs with ⟨hlength, -⟩ | ⟨hflag, -⟩
    · exact absurd hlength (by simp [Ipv4Addr.groups])
    · exact absurd hflag (by simp)
  · obtain ⟨digits, rfl, hne, -, hall, hvalue, -⟩ := of_readNumber hgroup
    have hcolon : ∃ t, r₁ = ':' :: t := by
      rcases readGroups_false_cases 7 r₁ with hnil | ht
      · rw [hnil] at hs
        rcases hread hs with ⟨hlength, -⟩ | ⟨-, ⟨t, ht⟩, -⟩
        · exact absurd hlength (by simp)
        · exact ⟨':' :: t, ht⟩
      · exact ht
    have hhead : a.groups.head? = some g := by
      rcases hread hs with ⟨-, ha⟩ | ⟨-, -, more, ha⟩
      · rw [ha]
        rfl
      · rw [ha]
        rfl
    obtain ⟨t, rfl⟩ := hcolon
    exact Or.inr ⟨digits, t, rfl, hne, hall, g, hhead, hvalue⟩
  · rcases hread hs with ⟨hlength, -⟩ | ⟨-, ht, -⟩
    · exact absurd hlength (by simp)
    · exact Or.inl ht

/-- **No text is an address of both versions.** -/
theorem readIpv4_of_readIpv6 {s : List Char} {p : Ipv6Addr × List Char} (h : readIpv6 s = some p) :
    readIpv4 s = none := by
  have hcolon : ∀ t : List Char, ∀ c ∈ (':' :: t).head?, isDigitOf 10 c = false ∧ c ≠ '.' := by
    intro t c hc
    obtain rfl := Option.some.inj hc
    decide
  rcases shape_of_readIpv6 h with ⟨t, rfl⟩ | ⟨digits, t, rfl, -, hdigits, -⟩
  · exact @readIpv4_eq_none [] _ (by simp) (hcolon _)
  · refine readIpv4_eq_none (fun c hc => ?_) (hcolon _)
    rintro rfl
    exact absurd (hdigits _ hc) (by decide)

namespace IpAddr

/-- **The text of version four is the only one.** -/
theorem ofText_eq_v4_iff {s : List Char} {v4 : Ipv4Addr} :
    ofText s = some (.v4 v4) ↔ s = v4.toText := by
  have hread : readIpv4 s = some (v4, []) ↔ s = v4.toText := by
    rw [readIpv4_toText_iff, List.append_nil]
    exact and_iff_left fun c hc => absurd hc (by simp)
  rw [← hread]
  unfold ofText readIp
  cases h4 : readIpv4 s with
  | some p =>
    obtain ⟨v4', rest⟩ := p
    cases rest <;> simp
  | none =>
    cases h6 : readIpv6 s with
    | none => simp
    | some p =>
      obtain ⟨a, rest⟩ := p
      cases rest <;> simp

/-- A text of version six is read as one. -/
theorem ofText_eq_v6_iff {s : List Char} {a : Ipv6Addr} :
    ofText s = some (.v6 a) ↔ readIpv6 s = some (a, []) := by
  unfold ofText readIp
  constructor
  · intro h
    cases h4 : readIpv4 s with
    | some p =>
      obtain ⟨v4', rest⟩ := p
      rw [h4] at h
      cases rest <;> simp at h
    | none =>
      cases h6 : readIpv6 s with
      | none => simp [h4, h6] at h
      | some p =>
        obtain ⟨b, rest⟩ := p
        cases rest <;> simp [h4, h6] at h
        rw [h]
  · intro h
    rw [readIpv4_of_readIpv6 h, h]
    rfl

/-- **What is printed is read back.** -/
theorem ofText_toText (ip : IpAddr) : ofText ip.toText = some ip := by
  cases ip with
  | v4 addr => exact ofText_eq_v4_iff.mpr rfl
  | v6 addr => exact ofText_eq_v6_iff.mpr (readIpv6_toText addr)

end IpAddr

/-! ## The symbols of a text -/

/-- A symbol that the text of an address may have. -/
def IsSymbol (c : Char) : Prop := isDigitOf 16 c = true ∨ c = ':' ∨ c = '.'

/-- A reader takes symbols of addresses. -/
def Takes (s r : List Char) : Prop := ∃ taken, s = taken ++ r ∧ ∀ c ∈ taken, IsSymbol c

theorem Takes.trans {s t r : List Char} (h : Takes s t) (h' : Takes t r) : Takes s r := by
  obtain ⟨first, rfl, hfirst⟩ := h
  obtain ⟨next, rfl, hnext⟩ := h'
  refine ⟨first ++ next, (List.append_assoc _ _ _).symm, fun c hc => ?_⟩
  exact (List.mem_append.mp hc).elim (hfirst c) (hnext c)

theorem takes_colon (r : List Char) : Takes (':' :: r) r :=
  ⟨[':'], rfl, fun _ hc => Or.inr (Or.inl (List.mem_singleton.mp hc))⟩

theorem takes_readSeparator {first : Bool} {s r : List Char} (h : readSeparator first s = some r) :
    Takes s r := by
  cases first with
  | true =>
    obtain rfl := Option.some.inj h
    exact ⟨[], rfl, fun c hc => absurd hc List.not_mem_nil⟩
  | false =>
    rw [readChar_eq_some_iff.mp h]
    exact takes_colon r

theorem takes_readGroup {s r : List Char} {g : Fin 65536} (h : readGroup s = some (g, r)) :
    Takes s r := by
  obtain ⟨digits, hs, -, -, hdigits, -⟩ := of_readNumber h
  exact ⟨digits, hs, fun c hc => Or.inl (hdigits c hc)⟩

theorem isSymbol_of_mem_toText {v4 : Ipv4Addr} {c : Char} (h : c ∈ v4.toText) : IsSymbol c := by
  have hoctet : ∀ n, c ∈ octetText n → IsSymbol c := by
    intro n hc
    have hdigit : digitValue c < 10 :=
      of_decide_eq_true ((toDigits_spec (by decide : 1 < 10) (by decide) n).1 c hc)
    exact Or.inl (decide_eq_true (by omega))
  unfold Ipv4Addr.toText at h
  simp only [List.mem_append, List.mem_cons] at h
  rcases h with h | rfl | h | rfl | h | rfl | h
  · exact hoctet _ h
  · exact Or.inr (Or.inr rfl)
  · exact hoctet _ h
  · exact Or.inr (Or.inr rfl)
  · exact hoctet _ h
  · exact Or.inr (Or.inr rfl)
  · exact hoctet _ h

theorem takes_readGroups (limit : ℕ) (first : Bool) (s : List Char) :
    Takes s (readGroups limit first s).2.2 := by
  have hnone : ∀ t : List Char, Takes t t := fun t => ⟨[], rfl, fun c hc => absurd hc List.not_mem_nil⟩
  induction limit generalizing first s with
  | zero => exact hnone s
  | succ limit ih =>
    rcases readGroups_succ_cases limit first s with ⟨v4, r, h, hs⟩ | ⟨g, r, h, hs⟩ | hs
    · obtain ⟨t, ht, hv4⟩ := Option.bind_eq_some_iff.mp h
      rw [hs]
      obtain ⟨rfl, -⟩ := readIpv4_toText_iff.mp hv4
      exact (takes_readSeparator ht).trans ⟨v4.toText, rfl, fun c hc => isSymbol_of_mem_toText hc⟩
    · obtain ⟨t, ht, hg⟩ := Option.bind_eq_some_iff.mp h
      rw [hs]
      exact ((takes_readSeparator ht).trans (takes_readGroup hg)).trans (ih false r)
    · rw [hs]
      exact hnone s

/-- **The text of an address has no other symbols.** -/
theorem IpAddr.isSymbol_of_ofText {s : List Char} {ip : IpAddr} (h : IpAddr.ofText s = some ip) :
    ∀ c ∈ s, IsSymbol c := by
  have hall : Takes s [] → ∀ c ∈ s, IsSymbol c := by
    rintro ⟨taken, rfl, htaken⟩ c hc
    rw [List.append_nil] at hc
    exact htaken c hc
  cases ip with
  | v4 addr =>
    rw [ofText_eq_v4_iff.mp h]
    exact fun c hc => isSymbol_of_mem_toText hc
  | v6 addr =>
    have hgroups := takes_readGroups 8 true s
    rcases readIpv6_eq_some_iff.mp (ofText_eq_v6_iff.mp h) with ⟨_, hs⟩ | ⟨head, s', _, _, hs, -, htail, -⟩
    · rw [hs] at hgroups
      exact hall hgroups
    · rw [hs] at hgroups
      have hrest := takes_readGroups (8 - (head.length + 1)) true s'
      rw [htail] at hrest
      exact hall (hgroups.trans ((takes_colon _).trans ((takes_colon _).trans hrest)))

/-! ## Capitals -/

/-- A symbol is as it is in small letters, or a capital. -/
theorem toLower_cases (c : Char) : c.toLower = c ∨ ∃ n < 26, c = Char.ofNat (n + 65) := by
  by_cases h : c.val ≥ 'A'.val ∧ c.val ≤ 'Z'.val
  · have hlo : 65 ≤ c.toNat := h.1
    have hhi : c.toNat ≤ 90 := h.2
    refine Or.inr ⟨c.toNat - 65, by omega, ?_⟩
    rw [Nat.sub_add_cancel hlo, Char.ofNat_toNat]
  · exact Or.inl (dif_neg h)

/-- A symbol that is no letter. -/
def Caseless (d : Char) : Prop :=
  ∀ n < 26, Char.ofNat (n + 65) ≠ d ∧ (Char.ofNat (n + 65)).toLower ≠ d

instance (d : Char) : Decidable (Caseless d) := inferInstanceAs (Decidable (∀ n < 26, _))

/-- What is no letter is not the small one of a capital. -/
theorem toLower_eq_iff {c d : Char} (hd : Caseless d) : c.toLower = d ↔ c = d := by
  rcases toLower_cases c with h | ⟨n, hn, rfl⟩
  · rw [h]
  · exact iff_of_false (hd n hn).2 (hd n hn).1

theorem map_toLower_eq_iff {s text : List Char} (h : ∀ d ∈ text, Caseless d) :
    s.map Char.toLower = text ↔ s = text := by
  induction s generalizing text with
  | nil => rfl
  | cons c s ih =>
    cases text with
    | nil => simp
    | cons d text =>
      rw [List.map_cons, List.cons.injEq, List.cons.injEq, toLower_eq_iff (h d List.mem_cons_self),
        ih fun d hd => h d (List.mem_cons_of_mem _ hd)]

theorem digitValue_toLower (c : Char) : digitValue c.toLower = digitValue c := by
  rcases toLower_cases c with h | ⟨n, hn, rfl⟩
  · rw [h]
  · have hall : ∀ n < 26,
        digitValue (Char.ofNat (n + 65)).toLower = digitValue (Char.ofNat (n + 65)) := by decide
    exact hall n hn

theorem readNumber_toLower (base most bound : ℕ) (zeros : Bool) (s : List Char) :
    readNumber base most bound zeros (s.map Char.toLower)
      = (readNumber base most bound zeros s).map (Prod.map id (List.map Char.toLower)) := by
  have hdigit : isDigitOf base ∘ Char.toLower = isDigitOf base := by
    funext c
    exact congrArg (fun v => decide (v < base)) (digitValue_toLower c)
  have hvalue : ∀ digits, ofDigits base (digits.map Char.toLower) = ofDigits base digits := by
    intro digits
    unfold ofDigits
    rw [List.foldl_map]
    simp only [digitValue_toLower]
  have hhead : ∀ digits : List Char,
      (digits.map Char.toLower).head? = some '0' ↔ digits.head? = some '0' := by
    intro digits
    rw [List.head?_map, Option.map_eq_some_iff]
    simp only [toLower_eq_iff (by decide : Caseless '0'), exists_eq_right]
  unfold readNumber
  simp only [List.takeWhile_map, List.dropWhile_map, hdigit, hvalue, hhead, List.map_eq_nil_iff,
    List.length_map]
  split
  · rfl
  split
  · rfl
  split
  · rfl
  · rfl

theorem readChar_toLower {d : Char} (hd : Caseless d) (s : List Char) :
    readChar d (s.map Char.toLower) = (readChar d s).map (List.map Char.toLower) := by
  cases s with
  | nil => rfl
  | cons c s =>
    simp only [List.map_cons, readChar, toLower_eq_iff hd]
    split <;> rfl

theorem readIpv4_toLower (s : List Char) :
    readIpv4 (s.map Char.toLower) = (readIpv4 s).map (Prod.map id (List.map Char.toLower)) := by
  have hoctet : ∀ s, readOctet (s.map Char.toLower)
      = (readOctet s).map (Prod.map id (List.map Char.toLower)) := readNumber_toLower 10 3 256 false
  have hdot : ∀ s, readChar '.' (s.map Char.toLower)
      = (readChar '.' s).map (List.map Char.toLower) := readChar_toLower (by decide)
  unfold readIpv4
  simp only [Option.bind_eq_bind, hoctet, hdot, Option.bind_map, Option.map_bind, Option.pure_def,
    Function.comp_def, Prod.map_fst, Prod.map_snd, id_eq, Option.map_some]
  rfl

theorem readSeparator_toLower (first : Bool) (s : List Char) :
    readSeparator first (s.map Char.toLower)
      = (readSeparator first s).map (List.map Char.toLower) := by
  cases first with
  | true => rfl
  | false => exact readChar_toLower (by decide) s

theorem readGroups_toLower (limit : ℕ) (first : Bool) (s : List Char) :
    readGroups limit first (s.map Char.toLower)
      = Prod.map id (Prod.map id (List.map Char.toLower)) (readGroups limit first s) := by
  induction limit generalizing first s with
  | zero => rfl
  | succ limit ih =>
    have hbind : ∀ {α : Type} {read : List Char → Option (α × List Char)},
        (∀ s, read (s.map Char.toLower) = (read s).map (Prod.map id (List.map Char.toLower))) →
          (readSeparator first (s.map Char.toLower)).bind read
            = ((readSeparator first s).bind read).map (Prod.map id (List.map Char.toLower)) := by
      intro α read hread
      rw [readSeparator_toLower, Option.bind_map, Option.map_bind]
      exact congrArg (Option.bind _) (funext hread)
    have hv4 : (if limit = 0 then none else (readSeparator first (s.map Char.toLower)).bind readIpv4)
        = (if limit = 0 then none else (readSeparator first s).bind readIpv4).map
          (Prod.map id (List.map Char.toLower)) := by
      split
      · rfl
      · exact hbind readIpv4_toLower
    have hgroup := @hbind _ readGroup (readNumber_toLower 16 4 65536 true)
    rw [readGroups, hv4, hgroup, readGroups]
    cases if limit = 0 then none else (readSeparator first s).bind readIpv4 with
    | some p => rfl
    | none =>
      cases (readSeparator first s).bind readGroup with
      | none => rfl
      | some p =>
        simp only [Option.map_none, Option.map_some, Prod.map_fst, Prod.map_snd, ih]
        rfl

/-- The text of version four has no letters. -/
theorem caseless_of_mem_toText {v4 : Ipv4Addr} {c : Char} (h : c ∈ v4.toText) : Caseless c := by
  have hdigits : ∀ d < 10, Caseless (Nat.digitChar d) := by decide
  have hoctet : ∀ n, c ∈ octetText n → Caseless c := by
    intro n hc
    have hdigit := (toDigits_spec (by decide : 1 < 10) (by decide) n).1 c hc
    rw [← digitChar_digitValue hdigit]
    exact hdigits _ (of_decide_eq_true hdigit)
  unfold Ipv4Addr.toText at h
  simp only [List.mem_append, List.mem_cons] at h
  rcases h with h | rfl | h | rfl | h | rfl | h
  · exact hoctet _ h
  · decide
  · exact hoctet _ h
  · decide
  · exact hoctet _ h
  · decide
  · exact hoctet _ h

/-- **A text in capitals is the same address**, or none either. -/
theorem IpAddr.ofText_map_toLower (s : List Char) : ofText (s.map Char.toLower) = ofText s := by
  refine Option.ext fun ip => ?_
  cases ip with
  | v4 addr =>
    rw [ofText_eq_v4_iff, ofText_eq_v4_iff]
    exact map_toLower_eq_iff fun c hc => caseless_of_mem_toText hc
  | v6 addr =>
    have hread : ∀ {limit first t groups v4 r},
        readGroups limit first (t.map Char.toLower) = (groups, v4, r)
          ↔ ∃ r₀, readGroups limit first t = (groups, v4, r₀) ∧ r₀.map Char.toLower = r := by
      intro limit first t groups v4 r
      rw [readGroups_toLower]
      obtain ⟨groups₀, v4₀, r₀⟩ := readGroups limit first t
      constructor
      · intro h
        obtain ⟨rfl, rfl, rfl⟩ := h
        exact ⟨r₀, rfl, rfl⟩
      · rintro ⟨r₁, h, rfl⟩
        obtain ⟨rfl, rfl, rfl⟩ := h
        rfl
    have hcolons : ∀ {r t : List Char}, r.map Char.toLower = ':' :: ':' :: t →
        ∃ t₀, r = ':' :: ':' :: t₀ ∧ t₀.map Char.toLower = t := by
      intro r t h
      obtain ⟨c, r, rfl, hc, hr⟩ := List.map_eq_cons_iff.mp h
      obtain ⟨d, r, rfl, hd, hr⟩ := List.map_eq_cons_iff.mp hr
      rw [toLower_eq_iff (by decide)] at hc hd
      exact ⟨r, by rw [hc, hd], hr⟩
    rw [ofText_eq_v6_iff, ofText_eq_v6_iff, readIpv6_eq_some_iff, readIpv6_eq_some_iff]
    constructor
    · rintro (⟨v4, hs⟩ | ⟨head, s', tail, v4, hs, hne, htail, ha⟩)
      · obtain ⟨r, hr, hnil⟩ := hread.mp hs
        exact Or.inl ⟨v4, List.map_eq_nil_iff.mp hnil ▸ hr⟩
      · obtain ⟨r, hr, hcolon⟩ := hread.mp hs
        obtain ⟨t, rfl, rfl⟩ := hcolons hcolon
        obtain ⟨r', hr', hnil⟩ := hread.mp htail
        exact Or.inr ⟨head, t, tail, v4, hr, hne, List.map_eq_nil_iff.mp hnil ▸ hr', ha⟩
    · rintro (⟨v4, hs⟩ | ⟨head, s', tail, v4, hs, hne, htail, ha⟩)
      · exact Or.inl ⟨v4, hread.mpr ⟨[], hs, rfl⟩⟩
      · exact Or.inr ⟨head, s'.map Char.toLower, tail, v4, hread.mpr ⟨_, hs, rfl⟩, hne,
          hread.mpr ⟨[], htail, rfl⟩, ha⟩

end Addresses
