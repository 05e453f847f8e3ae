import Mathlib.Algebra.Ring.Nat
import Mathlib.Data.List.Basic

/-!
# Base64

Three bytes are four digits of six bits each. What is left behind the last
three is one byte in two digits or two bytes in three, the bits that are
missing being zero, and a character that is no digit may fill up the last
group (`Base64.Alphabet.encode`).

The digits give the bytes back (`Base64.octets_sextets`). Which texts are
Base64 is a matter of how strict one is with the bits that were missing:
to be *canonical* is to be the encoding of some bytes, and a *lenient* reader
takes every number of digits that ends between two bytes.
-/

namespace Base64

/-! ## Bytes as digits -/

/-- The values of the digits, four for three bytes. -/
def sextets : List UInt8 → List ℕ
  | a :: b :: c :: rest =>
    let n := a.toNat * 2 ^ 16 + b.toNat * 2 ^ 8 + c.toNat
    n / 2 ^ 18 :: n / 2 ^ 12 % 64 :: n / 2 ^ 6 % 64 :: n % 64 :: sextets rest
  | [a, b] =>
    let n := a.toNat * 2 ^ 16 + b.toNat * 2 ^ 8
    [n / 2 ^ 18, n / 2 ^ 12 % 64, n / 2 ^ 6 % 64]
  | [a] =>
    let n := a.toNat * 2 ^ 16
    [n / 2 ^ 18, n / 2 ^ 12 % 64]
  | [] => []

/-- The bytes of the values, three of four. -/
def octets : List ℕ → List UInt8
  | w :: x :: y :: z :: rest =>
    let n := w * 2 ^ 18 + x * 2 ^ 12 + y * 2 ^ 6 + z
    .ofNat (n / 2 ^ 16) :: .ofNat (n / 2 ^ 8) :: .ofNat n :: octets rest
  | [w, x, y] =>
    let n := w * 2 ^ 18 + x * 2 ^ 12 + y * 2 ^ 6
    [.ofNat (n / 2 ^ 16), .ofNat (n / 2 ^ 8)]
  | [w, x] => [.ofNat ((w * 2 ^ 18 + x * 2 ^ 12) / 2 ^ 16)]
  | _ => []

/-- A byte is what its number ends with. -/
theorem ofNat_eq_of_mod {n : ℕ} {b : UInt8} (h : n % 256 = b.toNat) : UInt8.ofNat n = b := by
  apply UInt8.toNat_inj.mp
  rw [UInt8.toNat_ofNat']
  exact h

/-- **The digits give the bytes back.** -/
theorem octets_sextets (bytes : List UInt8) : octets (sextets bytes) = bytes := by
  induction bytes using sextets.induct with
  | case1 a b c rest ih =>
    have ha := a.toNat_lt
    have hb := b.toNat_lt
    have hc := c.toNat_lt
    rw [sextets, octets, ih, ofNat_eq_of_mod (b := a) (by omega),
      ofNat_eq_of_mod (b := b) (by omega), ofNat_eq_of_mod (b := c) (by omega)]
  | case2 a b =>
    have ha := a.toNat_lt
    have hb := b.toNat_lt
    rw [sextets, octets, ofNat_eq_of_mod (b := a) (by omega), ofNat_eq_of_mod (b := b) (by omega)]
  | case3 a =>
    have ha := a.toNat_lt
    rw [sextets, octets, ofNat_eq_of_mod (b := a) (by omega)]
  | case4 => rfl

/-- A digit has six bits. -/
theorem lt_of_mem_sextets {bytes : List UInt8} {n : ℕ} (h : n ∈ sextets bytes) : n < 64 := by
  induction bytes using sextets.induct with
  | case1 a b c rest ih =>
    have ha := a.toNat_lt
    have hb := b.toNat_lt
    have hc := c.toNat_lt
    rw [sextets] at h
    simp only [List.mem_cons] at h
    rcases h with rfl | rfl | rfl | rfl | h
    · omega
    · omega
    · omega
    · omega
    · exact ih h
  | case2 a b =>
    have ha := a.toNat_lt
    have hb := b.toNat_lt
    simp only [sextets, List.mem_cons, List.not_mem_nil, or_false] at h
    omega
  | case3 a =>
    have ha := a.toNat_lt
    simp only [sextets, List.mem_cons, List.not_mem_nil, or_false] at h
    omega
  | case4 => exact absurd h List.not_mem_nil

/-- One digit more than bytes in a group, whole or not. -/
theorem length_sextets (bytes : List UInt8) :
    (sextets bytes).length = (4 * bytes.length + 2) / 3 := by
  induction bytes using sextets.induct with
  | case1 a b c rest ih =>
    rw [sextets]
    simp only [List.length_cons, ih]
    omega
  | case2 a b => simp [sextets]
  | case3 a => simp [sextets]
  | case4 => rfl

/-- Two values make a byte. -/
theorem octets_ne_nil_iff (values : List ℕ) : octets values ≠ [] ↔ 2 ≤ values.length := by
  match values with
  | w :: x :: y :: z :: rest => simp [octets]
  | [w, x, y] => simp [octets]
  | [w, x] => simp [octets]
  | [w] => simp [octets]
  | [] => simp [octets]

/-- Bytes are fewer than digits. -/
theorem length_octets_le (values : List ℕ) : (octets values).length ≤ values.length := by
  induction values using octets.induct with
  | case1 w x y z rest ih =>
    rw [octets]
    simp only [List.length_cons]
    omega
  | case2 w x y => simp [octets]
  | case3 w x => simp [octets]
  | case4 values hgroup hthree htwo =>
    rw [octets.eq_4 values hgroup hthree htwo]
    exact Nat.zero_le _

/-! ## Texts -/

/-- Sixty-four digits, and what fills up the last group. -/
structure Alphabet (χ : Type*) where
  digits : List χ
  pad : χ
  length_digits : digits.length = 64
  nodup_digits : digits.Nodup
  pad_notMem : pad ∉ digits

/-- **What a reader demands of the bits that are missing**: that they are zero, or
nothing. -/
inductive Strictness
  | canonical
  | lenient
  deriving DecidableEq

namespace Alphabet

variable {χ : Type*} (A : Alphabet χ)

/-- The digit of a value. -/
def digit (n : ℕ) : χ := A.digits.getD n A.pad

/-- Digits, with the last group filled up or not. -/
def finish (padded : Bool) (ds : List χ) : List χ :=
  if padded then ds ++ List.replicate ((4 - ds.length % 4) % 4) A.pad else ds

/-- **The encoding of bytes**, with padding or without. -/
def encode (padded : Bool) (bytes : List UInt8) : List χ :=
  A.finish padded ((sextets bytes).map A.digit)

/-- **A text is Base64.** -/
def Valid : Strictness → List χ → Prop
  | .canonical, text => ∃ bytes padded, text = A.encode padded bytes
  | .lenient, text => ∃ ds padded, (∀ d ∈ ds, d ∈ A.digits) ∧ ds.length % 4 ≠ 1
      ∧ text = A.finish padded ds

variable {A}

theorem digit_mem {n : ℕ} (h : n < 64) : A.digit n ∈ A.digits := by
  unfold digit
  have hn : n < A.digits.length := by rw [A.length_digits]; exact h
  rw [List.getD_eq_getElem?_getD, List.getElem?_eq_getElem hn]
  exact List.getElem_mem hn

/-- The digits of an encoding. -/
theorem mem_digits_of_mem_map {bytes : List UInt8} {d : χ}
    (h : d ∈ (sextets bytes).map A.digit) : d ∈ A.digits := by
  obtain ⟨n, hn, rfl⟩ := List.mem_map.mp h
  exact digit_mem (lt_of_mem_sextets hn)

/-- A text is digits and padding. -/
theorem mem_of_mem_finish {padded : Bool} {ds : List χ} {c : χ} (h : c ∈ A.finish padded ds) :
    c ∈ ds ∨ c = A.pad := by
  cases padded with
  | false => exact .inl h
  | true =>
    rcases List.mem_append.mp h with h | h
    · exact .inl h
    · exact .inr (List.eq_of_mem_replicate h)

/-- **Without the padding** the digits are left. -/
theorem filter_finish [DecidableEq χ] {padded : Bool} {ds : List χ} (h : ∀ d ∈ ds, d ∈ A.digits) :
    (A.finish padded ds).filter (· ≠ A.pad) = ds := by
  have hds : ds.filter (· ≠ A.pad) = ds := by
    refine List.filter_eq_self.mpr fun d hd => ?_
    have hne : d ≠ A.pad := fun heq => A.pad_notMem (heq ▸ h d hd)
    simpa using hne
  cases padded with
  | false => exact hds
  | true =>
    show (ds ++ List.replicate _ A.pad).filter _ = ds
    rw [List.filter_append, hds, List.filter_replicate_of_neg (by simp), List.append_nil]

/-- **An encoding is read by every reader.** -/
theorem valid_encode (strictness : Strictness) (padded : Bool) (bytes : List UInt8) :
    A.Valid strictness (A.encode padded bytes) := by
  cases strictness with
  | canonical => exact ⟨bytes, padded, rfl⟩
  | lenient =>
    refine ⟨_, padded, fun d hd => mem_digits_of_mem_map hd, ?_, rfl⟩
    rw [List.length_map, length_sextets]
    omega

/-- What is canonical is read by a lenient reader. -/
theorem Valid.lenient {strictness : Strictness} {text : List χ} (h : A.Valid strictness text) :
    A.Valid .lenient text := by
  cases strictness with
  | canonical =>
    obtain ⟨bytes, padded, rfl⟩ := h
    exact valid_encode .lenient padded bytes
  | lenient => exact h

/-- **A character of Base64** is a digit, or fills up the last group. -/
theorem Valid.mem {strictness : Strictness} {text : List χ} (h : A.Valid strictness text) {c : χ}
    (hc : c ∈ text) : c ∈ A.digits ∨ c = A.pad := by
  obtain ⟨ds, padded, hds, -, rfl⟩ := h.lenient
  exact (mem_of_mem_finish hc).imp_left (hds c)

end Alphabet

end Base64
