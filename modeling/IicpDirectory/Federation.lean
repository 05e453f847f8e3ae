import IicpDirectory.Json
import Mathlib.Data.List.Sort
import Mathlib.Data.String.Basic

/-!
# The signed event log: transcripts, links and signatures

A seed signs every event it appends, over a digest of

`event_id:event_type:seq:ts_ms:payload_hash:prev_hash`,

where `prev_hash` is the digest of the predecessor's signature, or
`genesisRoot` where there is none. This module is `federation.rs`: the
canonical form of a payload, the two transcripts (with and without a
service identity), the link, and the two ends of a signature.

SHA-256, Ed25519, Base64, the printing of doubles and the reading of dates
are libraries the directory calls. They enter as the fields of a `Libs`,
and what the directory relies on is `Libs.Lawful`. What is *not* in the transcript
matters as much as what is: the `node_id` an event is about is not one of
its arguments.
-/

/-- A string of bytes. -/
abbrev Bytes := List UInt8

/-! ## Hexadecimal -/

namespace Hex

/-- The lower-case digit of a value below sixteen. -/
def digit (n : ℕ) : Char :=
  if n < 10 then Char.ofNat (48 + n) else Char.ofNat (87 + n)

/-- Two digits a byte, high half first. -/
def encodeByte (b : UInt8) : List Char := [digit (b.toNat / 16), digit (b.toNat % 16)]

/-- `hex::encode`. -/
def encode (bytes : Bytes) : String := String.ofList (bytes.flatMap encodeByte)

/-- The value of a digit, in either case. -/
def value (c : Char) : Option ℕ :=
  if 48 ≤ c.toNat ∧ c.toNat ≤ 57 then some (c.toNat - 48)
  else if 97 ≤ c.toNat ∧ c.toNat ≤ 102 then some (c.toNat - 87)
  else if 65 ≤ c.toNat ∧ c.toNat ≤ 70 then some (c.toNat - 55)
  else none

/-- Digits in pairs; an odd one out or a character that is no digit is an
error. -/
def decodeChars : List Char → Option Bytes
  | [] => some []
  | [_] => none
  | a :: b :: rest => do
    let hi ← value a
    let lo ← value b
    let tail ← decodeChars rest
    return UInt8.ofNat (16 * hi + lo) :: tail

/-- `hex::decode`. -/
def decode (s : String) : Option Bytes := decodeChars s.toList

theorem value_digit {n : ℕ} (h : n < 16) : value (digit n) = some n := by
  have key : ∀ m < 16, value (digit m) = some m := by decide
  exact key n h

theorem decodeChars_encodeByte (b : UInt8) (rest : List Char) :
    decodeChars (encodeByte b ++ rest) = (decodeChars rest).map (b :: ·) := by
  have hb : b.toNat < 256 := UInt8.toNat_lt b
  have hhi : value (digit (b.toNat / 16)) = some (b.toNat / 16) :=
    value_digit (by omega)
  have hlo : value (digit (b.toNat % 16)) = some (b.toNat % 16) :=
    value_digit (by omega)
  have hrebuild : UInt8.ofNat (16 * (b.toNat / 16) + b.toNat % 16) = b := by
    rw [Nat.div_add_mod]
    exact UInt8.ofNat_toNat
  simp only [encodeByte, List.cons_append, List.nil_append, decodeChars, hhi, hlo,
    Option.bind_eq_bind, Option.bind_some, hrebuild]
  cases decodeChars rest <;> rfl

/-- **Decoding undoes encoding.** -/
@[simp] theorem decode_encode (bytes : Bytes) : decode (encode bytes) = some bytes := by
  unfold decode encode
  rw [String.toList_ofList]
  induction bytes with
  | nil => rfl
  | cons b bs ih => rw [List.flatMap_cons, decodeChars_encodeByte, ih]; rfl

theorem encode_injective : Function.Injective encode := fun a b h =>
  Option.some.inj ((decode_encode a).symm.trans (h ▸ decode_encode b))

/-- The characters of an encoding are digits. -/
theorem exists_digit_of_mem {bytes : Bytes} {c : Char} (h : c ∈ (encode bytes).toList) :
    ∃ n < 16, c = digit n := by
  unfold encode at h
  rw [String.toList_ofList, List.mem_flatMap] at h
  obtain ⟨b, _, hc⟩ := h
  have hb : b.toNat < 256 := UInt8.toNat_lt b
  simp only [encodeByte, List.mem_cons, List.not_mem_nil, or_false] at hc
  rcases hc with rfl | rfl
  · exact ⟨b.toNat / 16, by omega, rfl⟩
  · exact ⟨b.toNat % 16, by omega, rfl⟩

/-- Two characters a byte. -/
theorem length_encode (bytes : Bytes) : (encode bytes).toList.length = 2 * bytes.length := by
  unfold encode
  rw [String.toList_ofList]
  induction bytes with
  | nil => rfl
  | cons b bs ih =>
    rw [List.flatMap_cons, List.length_append, ih, List.length_cons]
    show 2 + 2 * bs.length = 2 * (bs.length + 1)
    omega

/-- A digit is a character of one byte. -/
theorem utf8Size_of_value {c : Char} {n : ℕ} (h : value c = some n) : c.utf8Size = 1 := by
  rw [Char.utf8Size_eq_one_iff, UInt32.le_iff_toNat_le]
  show c.toNat ≤ 127
  unfold value at h
  split at h
  · omega
  · split at h
    · omega
    · split at h
      · omega
      · exact absurd h (by simp)

/-- **Two characters a byte**, each of one byte itself. -/
theorem utf8ByteSize_of_decodeChars {cs : List Char} {bytes : Bytes}
    (h : decodeChars cs = some bytes) : (String.ofList cs).utf8ByteSize = 2 * bytes.length := by
  induction cs using decodeChars.induct generalizing bytes with
  | case1 => obtain rfl := Option.some.inj h; rfl
  | case2 c => exact absurd h (by simp [decodeChars])
  | case3 a b rest ih =>
    simp only [decodeChars, Option.bind_eq_bind, Option.bind_eq_some_iff] at h
    obtain ⟨hi, ha, lo, hb, tail, htail, hbytes⟩ := h
    obtain rfl := Option.some.inj hbytes
    rw [String.ofList_cons, String.ofList_cons, String.utf8ByteSize_append,
      String.utf8ByteSize_append, String.utf8ByteSize_singleton, String.utf8ByteSize_singleton,
      utf8Size_of_value ha, utf8Size_of_value hb, ih htail, List.length_cons]
    omega

/-- The length of what a text decodes to. -/
theorem utf8ByteSize_of_decode {s : String} {bytes : Bytes} (h : decode s = some bytes) :
    s.utf8ByteSize = 2 * bytes.length := by
  rw [← utf8ByteSize_of_decodeChars h, String.ofList_toList]

end Hex

/-! ## The libraries -/

/-- The libraries the directory calls. -/
structure Libs where
  /-- SHA-256 of the UTF-8 bytes of a string. -/
  sha256 : String → Bytes
  /-- The Ed25519 public key of a 32-byte seed. -/
  publicKey : Bytes → Bytes
  /-- The deterministic Ed25519 signature of a message under a seed. -/
  sign : Bytes → Bytes → Bytes
  /-- Ed25519 verification: public key, message, signature. -/
  verify : Bytes → Bytes → Bytes → Bool
  /-- URL-safe Base64 without padding. -/
  base64UrlDecode : String → Option Bytes
  /-- How a double is printed in JSON. -/
  printF64 : ℚ → String
  /-- An RFC 3339 date, as Unix milliseconds. -/
  parseRfc3339Ms : String → Option ℤ

/-- **What the directory relies on**: the lengths of the formats, and that
a signature made with a seed verifies under its public key. -/
structure Libs.Lawful (L : Libs) : Prop where
  sha256_length : ∀ s, (L.sha256 s).length = 32
  publicKey_length : ∀ seed, (L.publicKey seed).length = 32
  sign_length : ∀ seed msg, (L.sign seed msg).length = 64
  verify_sign : ∀ seed msg, L.verify (L.publicKey seed) msg (L.sign seed msg) = true

namespace Federation

variable (L : Libs)

/-! ## The canonical form of a payload -/

/-- How `serde_json` writes a character inside a string: the quote, the
backslash and the control characters are escaped, nothing else is. -/
def escapeChar (c : Char) : List Char :=
  let backslash := Char.ofNat 92
  match c.toNat with
  | 34 => [backslash, c]
  | 92 => [backslash, c]
  | 8 => [backslash, 'b']
  | 9 => [backslash, 't']
  | 10 => [backslash, 'n']
  | 12 => [backslash, 'f']
  | 13 => [backslash, 'r']
  | n =>
    if n < 32 then
      [backslash, 'u', '0', '0', Hex.digit (n / 16), Hex.digit (n % 16)]
    else [c]

/-- A string, quoted. -/
def quote (s : String) : String :=
  String.ofList (Char.ofNat 34 :: (s.toList.flatMap escapeChar ++ [Char.ofNat 34]))

/-- A number, as it was written. -/
def printNumber : JsonNumber → String
  | .posInt n => toString n
  | .negInt i => toString i
  | .float q => L.printF64 q

mutual

/-- **The canonical form**: keys sorted, nothing between the tokens. -/
def canonicalJson : Json → String
  | .null => "null"
  | .bool b => if b then "true" else "false"
  | .number n => printNumber L n
  | .string s => quote s
  | .array items => "[" ++ ",".intercalate (canonicalItems items) ++ "]"
  | .object entries =>
    "\x7b" ++ ",".intercalate
      (((canonicalMembers entries).insertionSort (fun a b => a.1 ≤ b.1)).map Prod.snd)
      ++ "\x7d"

/-- The items of an array, each in canonical form. -/
def canonicalItems : List Json → List String
  | [] => []
  | v :: rest => canonicalJson v :: canonicalItems rest

/-- The members of an object, each with the key it is sorted by. -/
def canonicalMembers : List (String × Json) → List (String × String)
  | [] => []
  | (k, v) :: rest =>
    (k, quote k ++ ":" ++ canonicalJson v) :: canonicalMembers rest

end

/-! ## Links and transcripts -/

/-- The hash-chain genesis root: the digest of
`iicp:dir:event-log:genesis:v1`. -/
def genesisRoot : String :=
  "c44802bedf3e63b5a3f1634c5d19263634f92f26dd15401b09b06dd53a80cf9d"

/-- `prev_hash` for an event whose predecessor's signature is `prevSig`:
the digest of that signature's text, or the genesis root where the
predecessor is unsigned or there is none. -/
def prevHashFrom (prevSig : Option String) : String :=
  match prevSig.filter (· ≠ "") with
  | some sig => Hex.encode (L.sha256 sig)
  | none => genesisRoot

/-- The digest of a payload. -/
def payloadHash (payload : Json) : String :=
  Hex.encode (L.sha256 (canonicalJson L payload))

/-- **The message a seed signs for an event.** -/
def eventMessage (eventId eventType : String) (seq tsMs : ℤ) (payload : Json)
    (prevHash : String) : Bytes :=
  L.sha256 (eventId ++ ":" ++ eventType ++ ":" ++ toString seq ++ ":" ++ toString tsMs
    ++ ":" ++ payloadHash L payload ++ ":" ++ prevHash)

/-- The characters a service identity may hold after the first. -/
def isServiceIdChar (c : Char) : Bool :=
  c.isLower || c.isDigit || c == '.' || c == '_' || c == '-'

/-- **A service identity**: one to 64 lower-case letters, digits, dots,
underscores and hyphens, the first a letter or a digit. -/
def validServiceId (value : String) : Bool :=
  match value.toList with
  | [] => false
  | c :: rest =>
    decide ((c :: rest).length ≤ 64) && (c.isLower || c.isDigit)
      && (c :: rest).all isServiceIdChar

/-- The message of an event that carries a service identity: its own
domain, and the identity bound. -/
def eventMessageWithServiceId (serviceId eventId eventType : String) (seq tsMs : ℤ)
    (payload : Json) (prevHash : String) : Option Bytes :=
  if validServiceId serviceId then
    some (L.sha256 ("iicp-event-v2:" ++ serviceId ++ ":" ++ eventId ++ ":" ++ eventType
      ++ ":" ++ toString seq ++ ":" ++ toString tsMs ++ ":" ++ payloadHash L payload
      ++ ":" ++ prevHash))
  else none

/-! ## The two ends of a signature -/

/-- **Verification of a detached signature.** Malformed hexadecimal and
wrong lengths are refusals, never errors. -/
def verifyEvent (pubkeyHex sigHex : String) (message : Bytes) : Bool :=
  match Hex.decode pubkeyHex, Hex.decode sigHex with
  | some pk, some sig =>
    decide (pk.length = 32) && decide (sig.length = 64) && L.verify pk message sig
  | _, _ => false

/-- The 32-byte seed of a libsodium secret key, `seed ‖ public key` in
hexadecimal. Nothing if the text is malformed or of another length. -/
def seedOf (secretKeyHex : String) : Option Bytes :=
  (Hex.decode secretKeyHex).bind (fun sk => if sk.length = 64 then some (sk.take 32) else none)

/-- The public key, in hexadecimal, of the seed a secret key holds. -/
def pubkeyHexOf (seed : Bytes) : String := Hex.encode (L.publicKey seed)

/-- **The signature a seed puts on an event**, or nothing under a malformed
key. -/
def signEvent (secretKeyHex eventId eventType : String) (seq tsMs : ℤ) (payload : Json)
    (prevHash : String) : Option String :=
  (seedOf secretKeyHex).map (fun seed =>
    Hex.encode (L.sign seed (eventMessage L eventId eventType seq tsMs payload prevHash)))

variable {L}

/-- **What a key signs, its public key verifies.** -/
theorem verifyEvent_signEvent (hL : L.Lawful) {key : String} {seed : Bytes}
    (hseed : seedOf key = some seed) {eventId eventType : String} {seq tsMs : ℤ}
    {payload : Json} {prevHash sig : String}
    (hsig : signEvent L key eventId eventType seq tsMs payload prevHash = some sig) :
    verifyEvent L (pubkeyHexOf L seed) sig
      (eventMessage L eventId eventType seq tsMs payload prevHash) = true := by
  unfold signEvent at hsig
  rw [hseed] at hsig
  obtain rfl := Option.some.inj hsig
  unfold verifyEvent pubkeyHexOf
  simp only [Hex.decode_encode]
  rw [hL.publicKey_length, hL.sign_length, hL.verify_sign]
  rfl

end Federation

/-! ## A table of the libraries

The libraries on the texts of one log of three events, signed with the
seed of thirty-two bytes `0x11`: every entry is the value the real ones
return. Off the table the functions return zeros, which keeps them
lawful. -/

namespace Sample

/-- The public key of the sample seed. -/
def pubkeyHex : String :=
  "d04ab232742bb4ab3a1368bd4615e4e6d0224ab71a016baf8520a332c9778737"

/-- The secret key: the seed and its public key. -/
def secretKeyHex : String :=
  "1111111111111111111111111111111111111111111111111111111111111111" ++ pubkeyHex

/-- The signature of the first event. -/
def sig1 : String :=
  "5bb52b458fbba56b0bccf5b238c844237433119c150f729d554fe1ec4cc16a2e"
    ++ "9e95f100e404893c17e48c2c05e409677d52dd5a8c57d955fd7faecc713fff04"

/-- The signature of the second event. -/
def sig2 : String :=
  "fefac42846851d6ebc4eac28131c3c409adcd081ab7434a35e5915fb9e148079"
    ++ "1fe1fd1f99e8883a9bdda4e2879a168bb9d8c2fa7f778ace106e819604e5f200"

/-- The signature of the third event. -/
def sig3 : String :=
  "24d2c4b6b2545ecb63b909d7809191c98156efb53661bd14e5f57bd90cf1e030"
    ++ "4373861b2a4bb4be145ea4ba706ed96f5d803b9920fcb7d1679e4c7a873b040c"

/-- The link of the second event. -/
def link2 : String := "ccfc921d2681ff659b928a3df5e67eaa2eb6598e3e8c47a625f7e2cfb3215507"

/-- The link of the third event. -/
def link3 : String := "9b7fdf7d14d278146f14e4ca14564a831c7c33d7f66d1921c8fd9f666f818442"

/-- The bytes of a number, most significant first. -/
def bytes : ℕ → ℕ → Bytes
  | 0, _ => []
  | k + 1, n => UInt8.ofNat (n / 256 ^ k) :: bytes k n

theorem length_bytes (k n : ℕ) : (bytes k n).length = k := by
  induction k with
  | zero => rfl
  | succ k ih => rw [bytes, List.length_cons, ih]

/-- The digests of the payloads, the transcripts and the signatures. -/
def digests : List (String × ℕ) :=
  [("\x7b\"endpoint\":\"https://n1.test\"\x7d",
     0x9e0b6b31915d25dd97ba6fc9754b6faab6d1858320c880a6fd53a8b285a1a9db),
   ("evt-1:REGISTER:1:1:9e0b6b31915d25dd97ba6fc9754b6faab6d1858320c880a6fd53a8b285a1a9db:"
       ++ Federation.genesisRoot,
     0x092c3d050fbf89e80b753309e5ab910b2f3cdd2d4143998b86fd457d5acc0fc2),
   (sig1, 0xccfc921d2681ff659b928a3df5e67eaa2eb6598e3e8c47a625f7e2cfb3215507),
   ("\x7b\"endpoint\":\"https://n2.test\"\x7d",
     0x45b47bbf62aeb6d6fcd4c680aed0cb15cff82b83f26169179b7dae0b0aa0f679),
   ("evt-2:REGISTER:2:2:45b47bbf62aeb6d6fcd4c680aed0cb15cff82b83f26169179b7dae0b0aa0f679:"
       ++ link2,
     0x42d0af6bf293fb972039a239a3e30e92c85969d712facd4a7fdf4c84900eea62),
   (sig2, 0x9b7fdf7d14d278146f14e4ca14564a831c7c33d7f66d1921c8fd9f666f818442),
   ("\x7b\x7d", 0x44136fa355b3678a1146ad16f7e8649e94fb4fc21fe77e8310c060f61caaff8a),
   ("evt-3:DEREGISTER:3:3:44136fa355b3678a1146ad16f7e8649e94fb4fc21fe77e8310c060f61caaff8a:"
       ++ link3,
     0xc92f9970196650fab9b6d8c0f9378c3944415aa44bac046a365917dfbd6ff97d),
   (sig3, 0xe81e452fbf4606f2813596536b76c79c6639e5d159651aa303877beb9ddbb0e2)]

/-- The signatures of the three messages. -/
def signatures : List (Bytes × ℕ) :=
  [(bytes 32 0x092c3d050fbf89e80b753309e5ab910b2f3cdd2d4143998b86fd457d5acc0fc2,
     0x5bb52b458fbba56b0bccf5b238c844237433119c150f729d554fe1ec4cc16a2e9e95f100e404893c17e48c2c05e409677d52dd5a8c57d955fd7faecc713fff04),
   (bytes 32 0x42d0af6bf293fb972039a239a3e30e92c85969d712facd4a7fdf4c84900eea62,
     0xfefac42846851d6ebc4eac28131c3c409adcd081ab7434a35e5915fb9e1480791fe1fd1f99e8883a9bdda4e2879a168bb9d8c2fa7f778ace106e819604e5f200),
   (bytes 32 0xc92f9970196650fab9b6d8c0f9378c3944415aa44bac046a365917dfbd6ff97d,
     0x24d2c4b6b2545ecb63b909d7809191c98156efb53661bd14e5f57bd90cf1e0304373861b2a4bb4be145ea4ba706ed96f5d803b9920fcb7d1679e4c7a873b040c)]

/-- The value of a key in a table; zero where it is not listed. -/
def tableValue {α : Type} [BEq α] (table : List (α × ℕ)) (key : α) : ℕ :=
  (table.lookup key).getD 0

/-- The public key of the sample seed is in the table, no other is. -/
def publicKeyOf (seed : Bytes) : Bytes :=
  bytes 32 (if seed = List.replicate 32 17 then
      0xd04ab232742bb4ab3a1368bd4615e4e6d0224ab71a016baf8520a332c9778737
    else 0)

/-- The signature of a message under the sample key; zeros under any
other. -/
def signatureUnder (pk msg : Bytes) : Bytes :=
  bytes 64 (if pk = publicKeyOf (List.replicate 32 17) then tableValue signatures msg else 0)

/-- **The libraries on the sample.** -/
def libs : Libs where
  sha256 s := bytes 32 (tableValue digests s)
  publicKey := publicKeyOf
  sign s msg := signatureUnder (publicKeyOf s) msg
  verify pk msg sig := sig == signatureUnder pk msg
  base64UrlDecode s :=
    if s = "0EqyMnQrtKs6E2i9RhXk5tAiSrcaAWuvhSCjMsl3hzc" then
      some (publicKeyOf (List.replicate 32 17))
    else none
  printF64 q := toString q
  parseRfc3339Ms _ := none

/-- The sample meets what the directory relies on. -/
theorem libs_lawful : libs.Lawful where
  sha256_length _ := length_bytes 32 _
  publicKey_length _ := length_bytes 32 _
  sign_length _ _ := length_bytes 64 _
  verify_sign _ _ := beq_self_eq_true _

end Sample
