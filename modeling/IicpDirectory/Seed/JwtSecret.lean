import IicpDirectory.Foundations.Base64
import IicpDirectory.Seed.NodeAuth

/-!
# The decoder of the secret

The secret of the signed tokens is configured as `base64:` and a text. The
decoder reads it by indices, four digits at a time from a table of 256 entries,
and then what is left of them. Here it stands with its indices and shifts
(`Auth.Indexed`), each read being one that may fail. None does, and the bytes
are those of `Auth.base64Decode` (`Auth.Indexed.base64Decode_eq`).

What is Base64 comes back as it was encoded, with padding and without. But the
table has zero for what is no digit, and that is the digit `A`: a text that is
not Base64 is a secret of its own, of other bytes than the text, as soon as it
has two bytes that are not padding (`Auth.jwt_secret_reads_iff`).
-/

open Federation

/-- A text of ASCII has a byte for each character. -/
theorem utf8_ofList_of_ascii {text : List Char} (h : ∀ c ∈ text, c.toNat < 128) :
    utf8 (String.ofList text) = text.map fun c => .ofNat c.toNat := by
  induction text with
  | nil => rfl
  | cons c text ih =>
    obtain ⟨hc, htext⟩ := List.forall_mem_cons.mp h
    have hsize : c.utf8Size = 1 := by
      rw [Char.utf8Size_eq_one_iff, UInt32.le_iff_toNat_le]
      exact Nat.le_of_lt_succ hc
    have hone : utf8 (String.singleton c) = [.ofNat c.toNat] := by
      unfold utf8
      rw [String.toByteArray_singleton, List.utf8Encode_singleton,
        String.utf8EncodeChar_eq_singleton hsize]
      rfl
    rw [String.ofList_cons, utf8_append, hone, ih htext]
    rfl

namespace Auth

namespace Indexed

/-- The table: zeros, and for a character of the alphabet its place. -/
def table : List UInt8 :=
  base64Alphabet.zipIdx.foldl (fun table entry => table.set entry.1.toNat (.ofNat entry.2))
    (List.replicate 256 0)

/-- `table[input[i] as usize] as u32`. -/
def sextetAt (input : Bytes) (i : ℕ) : Option UInt32 := do
  let b ← input[i]?
  let value ← table[b.toNat]?
  return value.toUInt32

/-- The loop over whole groups: where it ends, and what it has put out. -/
def groups (input : Bytes) (i : ℕ) (out : Bytes) : Option (ℕ × Bytes) :=
  if i + 3 < input.length then do
    let a ← sextetAt input i
    let b ← sextetAt input (i + 1)
    let c ← sextetAt input (i + 2)
    let d ← sextetAt input (i + 3)
    let n := (a <<< 18) ||| (b <<< 12) ||| (c <<< 6) ||| d
    groups input (i + 4) (out ++ [(n >>> 16).toUInt8, (n >>> 8).toUInt8, n.toUInt8])
  else some (i, out)
termination_by input.length - i

/-- What is left behind the groups. -/
def rest (input : Bytes) (i : ℕ) (out : Bytes) : Option Bytes :=
  if i + 2 < input.length then do
    let a ← sextetAt input i
    let b ← sextetAt input (i + 1)
    let c ← sextetAt input (i + 2)
    let n := (a <<< 18) ||| (b <<< 12) ||| (c <<< 6)
    return out ++ [(n >>> 16).toUInt8, (n >>> 8).toUInt8]
  else if i + 1 < input.length then do
    let a ← sextetAt input i
    let b ← sextetAt input (i + 1)
    let n := (a <<< 18) ||| (b <<< 12)
    return out ++ [(n >>> 16).toUInt8]
  else some out

/-- **`base64_decode`**, index by index: nothing where an index is out of range. -/
def base64Decode (s : String) : Option (Option Bytes) := do
  let input := (utf8 s).filter (· ≠ 61)
  let (i, out) ← groups input 0 []
  let out ← rest input i out
  return if out = [] then none else some out

/-- **`jwt_secret`**, of what the environment has as `APP_KEY`. -/
def jwtSecret (appKey : Option String) : Option Bytes :=
  let key := appKey.getD ""
  if "base64:".toList.isPrefixOf key.toList then do
    let decoded ← base64Decode (String.ofList (key.toList.drop 7))
    return decoded.getD (utf8 key)
  else some (utf8 key)

/-! ## The table -/

theorem base64Alphabet_eq : base64Alphabet =
    ['A', 'B', 'C', 'D', 'E', 'F', 'G', 'H', 'I', 'J', 'K', 'L', 'M', 'N', 'O', 'P', 'Q', 'R', 'S',
     'T', 'U', 'V', 'W', 'X', 'Y', 'Z', 'a', 'b', 'c', 'd', 'e', 'f', 'g', 'h', 'i', 'j', 'k', 'l',
     'm', 'n', 'o', 'p', 'q', 'r', 's', 't', 'u', 'v', 'w', 'x', 'y', 'z', '0', '1', '2', '3', '4',
     '5', '6', '7', '8', '9', '+', '/'] :=
  String.toList_ofList

/-- **There is an entry for every byte.** -/
theorem table_getElem? (b : UInt8) : table[b.toNat]? = some (.ofNat (sextet b)) := by
  have hwhole : table = (List.range 256).map fun n => .ofNat (sextet (.ofNat n)) := by
    unfold table sextet
    rw [base64Alphabet_eq]
    decide +kernel
  rw [hwhole, List.getElem?_map, List.getElem?_range b.toNat_lt, Option.map_some, UInt8.ofNat_toNat]

/-- What the table has is six bits. -/
theorem sextet_lt (b : UInt8) : sextet b < 64 := by
  unfold sextet
  cases hfind : base64Alphabet.findIdx? fun c => c.toNat == b.toNat with
  | none => decide
  | some n =>
    obtain ⟨hn, -⟩ := List.findIdx?_eq_some_iff_getElem.mp hfind
    rw [base64Alphabet_eq] at hn
    exact hn

/-- **A read within the input** is of an entry. -/
theorem sextetAt_of_lt {input : Bytes} {i : ℕ} (h : i < input.length) :
    sextetAt input i = some (.ofNat (sextet input[i])) := by
  unfold sextetAt
  rw [List.getElem?_eq_getElem h, Option.bind_eq_bind, Option.bind_some, table_getElem?,
    Option.bind_some]
  have hlt := sextet_lt input[i]
  refine congrArg some ?_
  apply UInt32.toNat_inj.mp
  rw [UInt8.toNat_toUInt32, UInt8.toNat_ofNat', UInt32.toNat_ofNat']
  omega

/-! ## The groups -/

/-- A value moved to its place. -/
theorem toNat_shiftLeft {v k : ℕ} (hv : v < 64) (hk : k ≤ 18) :
    (UInt32.ofNat v <<< UInt32.ofNat k).toNat = v * 2 ^ k := by
  have hpow : 2 ^ k ≤ 2 ^ 18 := Nat.pow_le_pow_right (by decide) hk
  have hlt : v * 2 ^ k < 2 ^ 32 :=
    (Nat.mul_le_mul hv.le hpow).trans_lt (by decide)
  rw [UInt32.toNat_shiftLeft, UInt32.toNat_ofNat', UInt32.toNat_ofNat', Nat.shiftLeft_eq,
    Nat.mod_eq_of_lt (by omega : v < 2 ^ 32), Nat.mod_eq_of_lt (by omega : k < 2 ^ 32),
    Nat.mod_eq_of_lt (by omega : k < 32), Nat.mod_eq_of_lt hlt]

/-- Where bits do not overlap, putting them together is adding. -/
theorem toNat_or {x y : UInt32} {m n : ℕ} (k : ℕ) (hx : x.toNat = 2 ^ k * m) (hy : y.toNat = n)
    (hn : n < 2 ^ k) : (x ||| y).toNat = 2 ^ k * m + n := by
  rw [UInt32.toNat_or, hx, hy, Nat.two_pow_add_eq_or_of_lt hn]

/-- **Two values of six bits**, side by side. -/
theorem toNat_pair {w x : ℕ} (hw : w < 64) (hx : x < 64) :
    (UInt32.ofNat w <<< 18 ||| UInt32.ofNat x <<< 12).toNat = 2 ^ 12 * (w * 2 ^ 6 + x) := by
  have h := toNat_or (m := w) 18 ((toNat_shiftLeft hw (le_refl 18)).trans (by omega))
    (toNat_shiftLeft hx (by decide : 12 ≤ 18)) (by omega)
  rw [show (2 : ℕ) ^ 12 * (w * 2 ^ 6 + x) = 2 ^ 18 * w + x * 2 ^ 12 by omega]
  exact h

theorem toNat_triple {w x y : ℕ} (hw : w < 64) (hx : x < 64) (hy : y < 64) :
    (UInt32.ofNat w <<< 18 ||| UInt32.ofNat x <<< 12 ||| UInt32.ofNat y <<< 6).toNat
      = 2 ^ 6 * (w * 2 ^ 12 + x * 2 ^ 6 + y) := by
  have h := toNat_or 12 (toNat_pair hw hx) (toNat_shiftLeft hy (by decide : 6 ≤ 18)) (by omega)
  rw [show (2 : ℕ) ^ 6 * (w * 2 ^ 12 + x * 2 ^ 6 + y)
    = 2 ^ 12 * (w * 2 ^ 6 + x) + y * 2 ^ 6 by omega]
  exact h

theorem toNat_group {w x y z : ℕ} (hw : w < 64) (hx : x < 64) (hy : y < 64) (hz : z < 64) :
    (UInt32.ofNat w <<< 18 ||| UInt32.ofNat x <<< 12 ||| UInt32.ofNat y <<< 6
        ||| UInt32.ofNat z).toNat
      = w * 2 ^ 18 + x * 2 ^ 12 + y * 2 ^ 6 + z := by
  have hnat : (UInt32.ofNat z).toNat = z := by
    rw [UInt32.toNat_ofNat']
    omega
  have h := toNat_or 6 (toNat_triple hw hx hy) hnat (by omega)
  rw [show w * 2 ^ 18 + x * 2 ^ 12 + y * 2 ^ 6 + z
    = 2 ^ 6 * (w * 2 ^ 12 + x * 2 ^ 6 + y) + z by omega]
  exact h

/-- The cast to a byte keeps what the number ends with. -/
theorem toUInt8_of_toNat {n : UInt32} {v : ℕ} (h : n.toNat = v) : n.toUInt8 = .ofNat v := by
  rw [← h, UInt8.ofNat_uInt32ToNat]

theorem toUInt8_shiftRight {n : UInt32} {v : ℕ} (h : n.toNat = v) (k : ℕ) (hk : k < 32) :
    (n >>> UInt32.ofNat k).toUInt8 = .ofNat (v / 2 ^ k) := by
  refine toUInt8_of_toNat ?_
  rw [UInt32.toNat_shiftRight, UInt32.toNat_ofNat', Nat.mod_eq_of_lt (by omega : k < 2 ^ 32),
    Nat.mod_eq_of_lt hk, Nat.shiftRight_eq_div_pow, h]

/-! ## The loop -/

theorem decodeSextets_group (a b c d : UInt8) (bytes : Bytes) :
    decodeSextets (a :: b :: c :: d :: bytes)
      = decodeSextets [a, b, c, d] ++ decodeSextets bytes := by
  simp only [decodeSextets]
  rfl

theorem decodeSextets_of_length_le_one {bytes : Bytes} (h : bytes.length ≤ 1) :
    decodeSextets bytes = [] := by
  match bytes with
  | [] => rfl
  | [_] => rfl

section Loop

variable {input : Bytes} {i : ℕ}

/-- **A whole group** puts out three bytes, and the loop goes on behind it. -/
theorem groups_of_lt (h : i + 3 < input.length) (out : Bytes) :
    groups input i out = groups input (i + 4)
      (out ++ decodeSextets [input[i], input[i + 1], input[i + 2], input[i + 3]]) := by
  have hn := toNat_group (sextet_lt input[i]) (sextet_lt input[i + 1])
    (sextet_lt input[i + 2]) (sextet_lt input[i + 3])
  rw [groups, if_pos h, sextetAt_of_lt (by omega), sextetAt_of_lt (by omega),
    sextetAt_of_lt (by omega), sextetAt_of_lt (by omega)]
  simp only [decodeSextets]
  rw [← toUInt8_shiftRight hn 16 (by decide), ← toUInt8_shiftRight hn 8 (by decide),
    ← toUInt8_of_toNat hn]
  rfl

/-- Behind the groups there are two bytes, one, or none. -/
theorem rest_eq (h : input.length ≤ i + 3) (out : Bytes) :
    rest input i out = some (out ++ decodeSextets (input.drop i)) := by
  unfold rest
  split_ifs with htwo hone
  · have hn := toNat_triple (sextet_lt input[i]) (sextet_lt input[i + 1]) (sextet_lt input[i + 2])
    have hdrop : input.drop i = [input[i], input[i + 1], input[i + 2]] := by
      rw [List.drop_eq_getElem_cons (by omega), List.drop_eq_getElem_cons (by omega),
        List.drop_eq_getElem_cons (by omega), List.drop_eq_nil_of_le (by omega)]
    rw [hdrop, sextetAt_of_lt (by omega), sextetAt_of_lt (by omega), sextetAt_of_lt (by omega)]
    simp only [decodeSextets]
    rw [show sextet input[i] * 2 ^ 18 + sextet input[i + 1] * 2 ^ 12 + sextet input[i + 2] * 2 ^ 6
        = 2 ^ 6 * (sextet input[i] * 2 ^ 12 + sextet input[i + 1] * 2 ^ 6 + sextet input[i + 2])
        by omega, ← toUInt8_shiftRight hn 16 (by decide), ← toUInt8_shiftRight hn 8 (by decide)]
    rfl
  · have hn := toNat_pair (sextet_lt input[i]) (sextet_lt input[i + 1])
    have hdrop : input.drop i = [input[i], input[i + 1]] := by
      rw [List.drop_eq_getElem_cons (by omega), List.drop_eq_getElem_cons (by omega),
        List.drop_eq_nil_of_le (by omega)]
    rw [hdrop, sextetAt_of_lt (by omega), sextetAt_of_lt (by omega)]
    simp only [decodeSextets]
    rw [show sextet input[i] * 2 ^ 18 + sextet input[i + 1] * 2 ^ 12
        = 2 ^ 12 * (sextet input[i] * 2 ^ 6 + sextet input[i + 1]) by omega,
      ← toUInt8_shiftRight hn 16 (by decide)]
    rfl
  · rw [decodeSextets_of_length_le_one (by rw [List.length_drop]; omega), List.append_nil]

/-- **The loop and what is behind it** put out the bytes of what there is. -/
theorem groups_bind_rest (input : Bytes) (i : ℕ) (out : Bytes) :
    ((groups input i out).bind fun r => rest input r.1 r.2)
      = some (out ++ decodeSextets (input.drop i)) := by
  induction hleft : input.length - i using Nat.strong_induction_on generalizing i out with
  | _ left ih =>
    by_cases h : i + 3 < input.length
    · have hdrop : input.drop i = input[i] :: input[i + 1] :: input[i + 2] :: input[i + 3]
          :: input.drop (i + 4) := by
        rw [List.drop_eq_getElem_cons (by omega), List.drop_eq_getElem_cons (by omega),
          List.drop_eq_getElem_cons (by omega), List.drop_eq_getElem_cons (by omega)]
      rw [groups_of_lt h, ih _ (by omega) (i + 4) _ rfl, hdrop,
        decodeSextets_group _ _ _ _ (input.drop (i + 4)), List.append_assoc]
    · rw [groups, if_neg h, Option.bind_some]
      exact rest_eq (by omega) out

end Loop

/-- **No index is out of range**, and the bytes are those of the digits, four by
four. -/
theorem base64Decode_eq (s : String) : base64Decode s = some (Auth.base64Decode s) := by
  have hloop := groups_bind_rest ((utf8 s).filter (· ≠ 61)) 0 []
  rw [List.drop_zero, List.nil_append] at hloop
  obtain ⟨r, hgroups, hrest⟩ := Option.bind_eq_some_iff.mp hloop
  unfold base64Decode Auth.base64Decode
  simp only [hgroups, hrest, Option.bind_eq_bind, Option.bind_some]
  by_cases hnil : decodeSextets ((utf8 s).filter (· ≠ 61)) = []
  · rw [if_pos hnil, hnil]
    rfl
  · rw [if_neg hnil, Option.filter_some, if_pos (by simpa using hnil)]
    rfl

theorem jwtSecret_eq (appKey : Option String) :
    jwtSecret appKey = some (Auth.jwtSecret (appKey.getD "")) := by
  unfold jwtSecret Auth.jwtSecret
  dsimp only
  split_ifs with h
  · rw [base64Decode_eq]
    rfl
  · rfl

end Indexed

/-! ## What comes back -/

/-- The alphabet of the decoder, with its padding. -/
def standard : Base64.Alphabet Char where
  digits := base64Alphabet
  pad := '='
  length_digits := by rw [Indexed.base64Alphabet_eq]; rfl
  nodup_digits := by rw [Indexed.base64Alphabet_eq]; decide
  pad_notMem := by rw [Indexed.base64Alphabet_eq]; decide

/-- **The decoder is that of Base64**, of what the table has for the bytes. -/
theorem decodeSextets_eq : ∀ bytes, decodeSextets bytes = Base64.octets (bytes.map sextet)
  | a :: b :: c :: d :: rest => by
    rw [decodeSextets, decodeSextets_eq rest]
    rfl
  | [a, b, c] => by simp only [decodeSextets, Base64.octets, List.map_cons, List.map_nil]
  | [a, b] => by simp only [decodeSextets, Base64.octets, List.map_cons, List.map_nil]
  | [_] => rfl
  | [] => rfl

/-- The byte of a digit has its value in the table. -/
theorem sextet_digit {n : ℕ} (h : n < 64) : sextet (.ofNat (standard.digit n).toNat) = n := by
  have hall : ∀ n < 64, sextet (.ofNat (base64Alphabet.getD n '=').toNat) = n := by
    unfold sextet
    rw [Indexed.base64Alphabet_eq]
    decide +kernel
  exact hall n h

theorem ascii_of_standard {c : Char} (h : c ∈ standard.digits ∨ c = '=') : c.toNat < 128 := by
  have hall : base64Alphabet.all (fun c => decide (c.toNat < 128)) = true := by
    rw [Indexed.base64Alphabet_eq]
    decide
  rcases h with h | rfl
  · exact of_decide_eq_true (List.all_eq_true.mp hall c h)
  · decide

/-- **The bytes of a text without its padding**, where it is one of digits and
padding. -/
theorem filter_utf8 {text : List Char} (h : ∀ c ∈ text, c ∈ standard.digits ∨ c = '=') :
    (utf8 (String.ofList text)).filter (· ≠ 61)
      = (text.filter (· ≠ '=')).map fun c => .ofNat c.toNat := by
  rw [utf8_ofList_of_ascii fun c hc => ascii_of_standard (h c hc), List.filter_map]
  refine congrArg (List.map _) (List.filter_congr fun c hc => ?_)
  have hlt := ascii_of_standard (h c hc)
  refine decide_eq_decide.mpr (not_congr ⟨fun heq => ?_, fun heq => heq ▸ rfl⟩)
  have hnat := congrArg UInt8.toNat heq
  rw [UInt8.toNat_ofNat'] at hnat
  exact Char.toNat_inj.mp ((Nat.mod_eq_of_lt (by omega)).symm.trans hnat)

/-- **Encoded bytes come back**, with padding and without. -/
theorem base64Decode_encode (padded : Bool) {bytes : Bytes} (hne : bytes ≠ []) :
    base64Decode (String.ofList (standard.encode padded bytes)) = some bytes := by
  have hmem : ∀ d ∈ (Base64.sextets bytes).map standard.digit, d ∈ standard.digits := fun d hd =>
    Base64.Alphabet.mem_digits_of_mem_map hd
  have htext : ∀ c ∈ standard.encode padded bytes, c ∈ standard.digits ∨ c = '=' := fun c hc =>
    (Base64.Alphabet.mem_of_mem_finish hc).imp_left (hmem c)
  have hdigits : (standard.encode padded bytes).filter (· ≠ '=')
      = (Base64.sextets bytes).map standard.digit := Base64.Alphabet.filter_finish hmem
  have hvalues : (Base64.sextets bytes).map ((sextet ∘ fun c => .ofNat c.toNat) ∘ standard.digit)
      = Base64.sextets bytes :=
    (List.map_congr_left fun n hn => sextet_digit (Base64.lt_of_mem_sextets hn)).trans
      (List.map_id _)
  unfold base64Decode
  rw [filter_utf8 htext, hdigits, decodeSextets_eq, List.map_map, List.map_map, hvalues,
    Base64.octets_sextets, Option.filter_some, if_pos (by simpa using hne)]

/-! ## What falls back -/

/-- **Two bytes that are not padding** are decoded to something, whatever they are. -/
theorem base64Decode_eq_none_iff (s : String) :
    base64Decode s = none ↔ ((utf8 s).filter (· ≠ 61)).length < 2 := by
  have hbytes : decodeSextets ((utf8 s).filter (· ≠ 61)) ≠ []
      ↔ 2 ≤ ((utf8 s).filter (· ≠ 61)).length := by
    rw [decodeSextets_eq, Base64.octets_ne_nil_iff, List.length_map]
  unfold base64Decode
  rw [Option.filter_some]
  split_ifs with h
  · have htwo := hbytes.mp (by simpa using h)
    exact iff_of_false (by simp) (by omega)
  · have hfew := mt hbytes.mpr (by simpa using h)
    exact iff_of_true rfl (by omega)

/-- A text is longer than what is decoded of it. -/
theorem length_of_base64Decode {s : String} {bytes : Bytes} (h : base64Decode s = some bytes) :
    bytes.length ≤ (utf8 s).length := by
  unfold base64Decode at h
  obtain ⟨rfl, -⟩ := Option.filter_eq_some_iff.mp h |>.imp_left Option.some.inj
  rw [decodeSextets_eq]
  exact (Base64.length_octets_le _).trans ((List.length_map _).le.trans (List.length_filter_le _ _))

/-- The secret of a key that says it is Base64. -/
theorem jwtSecret_append (s : String) :
    jwtSecret ("base64:" ++ s) = (base64Decode s).getD (utf8 ("base64:" ++ s)) := by
  have hstarts : "base64:".toList.isPrefixOf ("base64:" ++ s).toList = true := by
    rw [String.toList_append]
    exact List.isPrefixOf_iff_prefix.mpr (List.prefix_append _ _)
  have hdrop : String.ofList (("base64:" ++ s).toList.drop 7) = s := by
    rw [String.toList_append]
    exact String.ofList_toList
  unfold jwtSecret
  rw [if_pos hstarts, hdrop]

/-- **The key itself is the secret** where nothing is decoded, and nowhere else. -/
theorem jwtSecret_append_eq_iff (s : String) :
    jwtSecret ("base64:" ++ s) = utf8 ("base64:" ++ s)
      ↔ ((utf8 s).filter (· ≠ 61)).length < 2 := by
  rw [jwtSecret_append, ← base64Decode_eq_none_iff]
  cases hdecode : base64Decode s with
  | none => exact iff_of_true rfl rfl
  | some bytes =>
    refine iff_of_false (fun heq => ?_) (by simp)
    have hlength := congrArg List.length heq
    have hle := length_of_base64Decode hdecode
    rw [Option.getD_some, utf8_append, List.length_append] at hlength
    have hseven : (utf8 "base64:").length = 7 := by decide
    omega

/-- **A text behind `base64:` is read as it should be**: no index is out of range,
an encoding gives back what was encoded, and what is not Base64 is left to
the key itself. -/
structure ReadsAsBase64 (strictness : Base64.Strictness) (s : String) : Prop where
  inRange : (Indexed.base64Decode s).isSome = true
  decodes : ∀ padded bytes, bytes ≠ [] → s = String.ofList (standard.encode padded bytes) →
    Indexed.base64Decode s = some (some bytes)
  fallsBack : ¬ standard.Valid strictness s.toList →
    Indexed.jwtSecret (some ("base64:" ++ s)) = some (utf8 ("base64:" ++ s))

/-- **What is not Base64 is decoded all the same**, if it has two bytes that are not
padding; and however strict one is, there the decoder differs from Base64 and
nowhere else. -/
theorem jwt_secret_reads_iff (strictness : Base64.Strictness) (s : String) :
    ReadsAsBase64 strictness s
      ↔ standard.Valid strictness s.toList ∨ ((utf8 s).filter (· ≠ 61)).length < 2 := by
  have hsecret : Indexed.jwtSecret (some ("base64:" ++ s)) = some (utf8 ("base64:" ++ s))
      ↔ ((utf8 s).filter (· ≠ 61)).length < 2 := by
    rw [Indexed.jwtSecret_eq, Option.some_inj]
    exact jwtSecret_append_eq_iff s
  constructor
  · rintro ⟨-, -, hfallsBack⟩
    by_cases hvalid : standard.Valid strictness s.toList
    · exact .inl hvalid
    · exact .inr (hsecret.mp (hfallsBack hvalid))
  · intro h
    refine ⟨?_, fun padded bytes hne hs => ?_, fun hvalid => hsecret.mpr (h.resolve_left hvalid)⟩
    · rw [Indexed.base64Decode_eq]
      rfl
    · rw [Indexed.base64Decode_eq, hs, base64Decode_encode padded hne]

/-- **Four characters that are no digits** are three bytes of zero. -/
theorem jwt_secret_of_no_digits :
    Indexed.jwtSecret (some ("base64:" ++ "!!!!")) = some [0, 0, 0]
      ∧ ∀ strictness, ¬ ReadsAsBase64 strictness "!!!!" := by
  refine ⟨by rw [Indexed.jwtSecret_eq]; decide +kernel, fun strictness hreads => ?_⟩
  have hinvalid : ¬ standard.Valid strictness "!!!!".toList := fun hvalid => by
    have hmem := hvalid.mem (List.mem_cons_self : '!' ∈ "!!!!".toList)
    revert hmem
    show ¬ ('!' ∈ base64Alphabet ∨ '!' = '=')
    rw [Indexed.base64Alphabet_eq]
    decide
  have hsecret := hreads.fallsBack hinvalid
  rw [Indexed.jwtSecret_eq, Option.some_inj] at hsecret
  exact absurd ((jwtSecret_append_eq_iff "!!!!").mp hsecret) (by decide)

end Auth
