import IicpDirectory.Canonical
import IicpDirectory.Foundations.Addresses

/-!
# Reading JSON

A reader of JSON texts: white space between the tokens, strings with their
escapes, numbers, arrays and objects. A number without a fraction and an
exponent is an integer if it has 64 bits, any other number is a double; how
doubles are read is a parameter. Members are kept in the order they stand in.

A canonical form is read back (`readValue_canonicalJson`), as the value with
its members sorted, whatever follows it in another. So nothing of a value is
lost in its canonical form, and its digest stands for it.
-/

namespace JsonText

open Federation NumberText

/-! ## The reader -/

/-- The mark that begins an escape. -/
def backslash : Char := Char.ofNat 92

/-- White space between tokens. -/
def isBlank (c : Char) : Bool := c == ' ' || c.toNat == 9 || c.toNat == 10 || c.toNat == 13

def skipBlanks (text : List Char) : List Char := text.dropWhile isBlank

/-- Four hexadecimal digits. -/
def readHex4 : List Char → Option (ℕ × List Char)
  | a :: b :: c :: d :: rest => do
    let a ← Hex.value a
    let b ← Hex.value b
    let c ← Hex.value c
    let d ← Hex.value d
    return (((a * 16 + b) * 16 + c) * 16 + d, rest)
  | _ => none

/-- A character by its number; beyond 16 bits it takes two. -/
def readUnicode (text : List Char) : Option (Char × List Char) := do
  let (high, rest) ← readHex4 text
  if high < 0xD800 ∨ 0xDFFF < high then return (Char.ofNat high, rest)
  else if 0xDC00 ≤ high then none
  else
    match rest with
    | c :: 'u' :: rest => do
      guard (c = backslash)
      let (low, rest) ← readHex4 rest
      guard (0xDC00 ≤ low ∧ low ≤ 0xDFFF)
      return (Char.ofNat (0x10000 + (high - 0xD800) * 0x400 + (low - 0xDC00)), rest)
    | _ => none

/-- What is behind the mark of an escape. -/
def readEscape : List Char → Option (Char × List Char)
  | [] => none
  | 'b' :: rest => some (Char.ofNat 8, rest)
  | 't' :: rest => some (Char.ofNat 9, rest)
  | 'n' :: rest => some (Char.ofNat 10, rest)
  | 'f' :: rest => some (Char.ofNat 12, rest)
  | 'r' :: rest => some (Char.ofNat 13, rest)
  | 'u' :: rest => readUnicode rest
  | c :: rest => if c = quoteMark ∨ c = backslash ∨ c = '/' then some (c, rest) else none

/-- A character of a string. Control characters are escaped. -/
def readChar : List Char → Option (Char × List Char)
  | [] => none
  | c :: rest =>
    if c = backslash then readEscape rest
    else if c.toNat < 32 then none
    else some (c, rest)

/-- The characters of a string up to its closing mark. -/
def readChars : ℕ → List Char → Option (List Char × List Char)
  | 0, _ => none
  | _ + 1, [] => none
  | fuel + 1, c :: rest =>
    if c = quoteMark then some ([], rest)
    else do
      let (d, rest) ← readChar (c :: rest)
      let (ds, rest) ← readChars fuel rest
      return (d :: ds, rest)

/-- A string behind its opening mark. -/
def readString (text : List Char) : Option (String × List Char) :=
  (readChars text.length text).map fun p => (String.ofList p.1, p.2)

/-- The symbols a number is written with. -/
def isNumberSymbol (c : Char) : Bool := isNumberChar c || c == 'E'

/-- The digits of an integer: no zero that is not needed. -/
def readDigits (digits : List Char) : Option ℕ :=
  if digits = [] ∨ digits.all Char.isDigit = false ∨ digits.head? = some '0' ∧ 1 < digits.length
  then none
  else some (Nat.ofDigitChars 10 digits 0)

section Reader

variable (readF64 : List Char → Option ℚ)

/-- A number. -/
def readNumber (text : List Char) : Option JsonNumber :=
  if text.any fun c => c == '.' || c == 'e' || c == 'E' then (readF64 text).map .float
  else
    match text with
    | '-' :: digits => do
      let n ← readDigits digits
      if 0 < n ∧ n ≤ 9223372036854775808 then return .negInt (-n)
      else (readF64 text).map .float
    | digits => do
      let n ← readDigits digits
      if n < 18446744073709551616 then return .posInt n else (readF64 text).map .float

variable {α : Type}

/-- Items with commas between them and a bracket behind. -/
def readRow (read : List Char → Option (α × List Char)) (close : Char) :
    ℕ → List Char → Option (List α × List Char)
  | 0, _ => none
  | fuel + 1, text => do
    let (a, rest) ← read text
    match skipBlanks rest with
    | [] => none
    | c :: rest =>
      if c = close then return ([a], rest)
      else if c = ',' then do
        let (as, rest) ← readRow read close fuel rest
        return (a :: as, rest)
      else none

/-- The same behind the opening bracket: there may be none. -/
def readItems (read : List Char → Option (α × List Char)) (close : Char) (text : List Char) :
    Option (List α × List Char) :=
  match skipBlanks text with
  | [] => none
  | c :: rest => if c = close then some ([], rest) else readRow read close text.length (c :: rest)

/-- A key, a colon and what there is under the key. -/
def readMember (read : List Char → Option (α × List Char)) (text : List Char) :
    Option ((String × α) × List Char) :=
  match skipBlanks text with
  | [] => none
  | c :: rest => do
    guard (c = quoteMark)
    let (key, rest) ← readString rest
    match skipBlanks rest with
    | ':' :: rest => do
      let (a, rest) ← read rest
      return ((key, a), rest)
    | _ => none

/-- **A value**, nested no deeper than a limit. -/
def readValue : ℕ → List Char → Option (Json × List Char)
  | 0, _ => none
  | limit + 1, text =>
    match skipBlanks text with
    | 'n' :: 'u' :: 'l' :: 'l' :: rest => some (.null, rest)
    | 't' :: 'r' :: 'u' :: 'e' :: rest => some (.bool true, rest)
    | 'f' :: 'a' :: 'l' :: 's' :: 'e' :: rest => some (.bool false, rest)
    | [] => none
    | c :: rest =>
      if c = quoteMark then (readString rest).map fun p => (.string p.1, p.2)
      else if c = '[' then
        (readItems (readValue limit) ']' rest).map fun p => (.array p.1, p.2)
      else if c = Char.ofNat 123 then
        (readItems (readMember (readValue limit)) (Char.ofNat 125) rest).map fun p =>
          (.object p.1, p.2)
      else if isNumberChar c then
        (readNumber readF64 ((c :: rest).takeWhile isNumberSymbol)).map fun n =>
          (.number n, (c :: rest).dropWhile isNumberSymbol)
      else none

/-- **A text that is a value**, with nothing behind it. No value is nested
deeper than its text is long. -/
def parse (text : String) : Option Json := do
  let (v, rest) ← readValue readF64 text.toList.length text.toList
  guard (skipBlanks rest = [])
  return v

end Reader

/-! ## Strings are read back -/

/-- **An escaped character is read back**, whatever follows. -/
theorem readChar_escapeChar (c : Char) (r : List Char) :
    readChar (escapeChar c ++ r) = some (c, r) := by
  have hc : c = Char.ofNat c.toNat := (Char.ofNat_toNat c).symm
  unfold escapeChar
  split
  -- the characters that have an escape of their own
  iterate 7
    · rename_i h
      rw [h] at hc
      rw [hc]
      rfl
  · rename_i hbackslash _ _ _ _ _
    split
    · next hcontrol =>
      have hhex : readHex4 ('0' :: '0' :: Hex.digit (c.toNat / 16) :: Hex.digit (c.toNat % 16) :: r)
          = some (c.toNat, r) := by
        have hhi : Hex.value (Hex.digit (c.toNat / 16)) = some (c.toNat / 16) :=
          Hex.value_digit (by omega)
        have hlo : Hex.value (Hex.digit (c.toNat % 16)) = some (c.toNat % 16) :=
          Hex.value_digit (by omega)
        rw [readHex4, hhi, hlo]
        show some (((0 * 16 + 0) * 16 + c.toNat / 16) * 16 + c.toNat % 16, r) = _
        rw [show ((0 * 16 + 0) * 16 + c.toNat / 16) * 16 + c.toNat % 16 = c.toNat by omega]
      have hunicode : readUnicode
          ('0' :: '0' :: Hex.digit (c.toNat / 16) :: Hex.digit (c.toNat % 16) :: r)
          = some (Char.ofNat c.toNat, r) := by
        rw [readUnicode, hhex]
        exact if_pos (.inl (by omega))
      rw [← hc] at hunicode
      exact hunicode
    · next hplain =>
      have hne : c ≠ backslash := by
        rintro rfl
        exact hbackslash rfl
      show readChar (c :: r) = some (c, r)
      rw [readChar, if_neg hne, if_neg hplain]

theorem length_escapeChar_pos (c : Char) : 0 < (escapeChar c).length := by
  unfold escapeChar
  split
  iterate 7 exact Nat.succ_pos _
  split <;> exact Nat.succ_pos _

/-- The characters of a string are read back up to the closing mark. -/
theorem readChars_flatMap {chars : List Char} {fuel : ℕ} (hfuel : chars.length < fuel)
    (r : List Char) :
    readChars fuel (chars.flatMap escapeChar ++ quoteMark :: r) = some (chars, r) := by
  induction chars generalizing fuel with
  | nil =>
    obtain ⟨fuel, rfl⟩ := Nat.exists_eq_succ_of_ne_zero hfuel.ne_bot
    rfl
  | cons c chars ih =>
    obtain ⟨fuel, rfl⟩ := Nat.exists_eq_succ_of_ne_zero (Nat.ne_zero_of_lt hfuel)
    rw [List.flatMap_cons, List.append_assoc]
    obtain ⟨d, text, htext⟩ := List.exists_cons_of_length_pos (length_escapeChar_pos c)
    have hread := readChar_escapeChar c (chars.flatMap escapeChar ++ quoteMark :: r)
    have hne : d ≠ quoteMark := by
      rintro rfl
      exact escapeChar_append_ne c (chars.flatMap escapeChar ++ quoteMark :: r) _
        (by rw [htext]; rfl)
    rw [htext, List.cons_append] at hread ⊢
    rw [readChars, if_neg hne, hread]
    show ((readChars fuel (chars.flatMap escapeChar ++ quoteMark :: r)).bind fun p =>
      some (c :: p.1, p.2)) = _
    rw [ih (Nat.lt_of_succ_lt_succ hfuel)]
    rfl

theorem length_le_flatMap (chars : List Char) :
    chars.length ≤ (chars.flatMap escapeChar).length := by
  induction chars with
  | nil => exact Nat.zero_le _
  | cons c rest ih =>
    rw [List.flatMap_cons, List.length_append, List.length_cons]
    have hpos := length_escapeChar_pos c
    omega

/-- **A quoted string is read back** behind its opening mark. -/
theorem readString_quote (s : String) (r : List Char) :
    readString (s.toList.flatMap escapeChar ++ quoteMark :: r) = some (s, r) := by
  have hfuel : s.toList.length < (s.toList.flatMap escapeChar ++ quoteMark :: r).length := by
    have hle := length_le_flatMap s.toList
    rw [List.length_append, List.length_cons]
    omega
  unfold readString
  rw [readChars_flatMap hfuel, Option.map_some, String.ofList_toList]

/-! ## Numbers are read back -/

/-- **What of doubles is read back.** -/
def ReadsDoubles (L : Libs) (readF64 : List Char → Option ℚ) : Prop :=
  ∀ x, readF64 (L.printF64 x).toList = some x

/-- The digits of a number are read as the number. -/
theorem readDigits_toDigits (n : ℕ) : readDigits (Nat.toDigits 10 n) = some n := by
  have hdigits : (Nat.toDigits 10 n).all Char.isDigit = true :=
    List.all_eq_true.mpr fun c hc => Nat.isDigit_of_mem_toDigits (by decide) (by decide) hc
  unfold readDigits
  rw [if_neg, Nat.ofDigitChars_ten_toDigits]
  rintro (hnil | hall | ⟨hzero, hlong⟩)
  · exact Nat.toDigits_ne_nil hnil
  · rw [hdigits] at hall
    exact nomatch hall
  · exact absurd (Addresses.length_toDigits_of_head (by decide) hzero) (not_le.mpr hlong)

/-- An integer has no mark of a fraction or an exponent. -/
theorem any_eq_false_of_isDigit {text : List Char}
    (h : ∀ c ∈ text, c.isDigit = true ∨ c = '-') :
    (text.any fun c => c == '.' || c == 'e' || c == 'E') = false := by
  rw [List.any_eq_false]
  intro c hc hmark
  simp only [Bool.or_eq_true, beq_iff_eq] at hmark
  rcases hmark with (rfl | rfl) | rfl <;> rcases h _ hc with hdigit | hsign
  all_goals first | exact absurd hdigit (by decide) | exact absurd hsign (by decide)

/-- **A printed number is read back.** -/
theorem readNumber_printNumber {L : Libs} {readF64 : List Char → Option ℚ} (hL : L.PrintsNumbers)
    (hread : ReadsDoubles L readF64) {n : JsonNumber} (hn : n.Proper) :
    readNumber readF64 (printNumber L n).toList = some n := by
  cases n with
  | posInt n =>
    have htext : (printNumber L (.posInt n)).toList = Nat.toDigits 10 n := toList_natToString n
    have hchars : ∀ c ∈ Nat.toDigits 10 n, c.isDigit = true ∨ c = '-' := fun c hc =>
      .inl (Nat.isDigit_of_mem_toDigits (by decide) (by decide) hc)
    have hbound : n < 18446744073709551616 := hn
    rw [htext]
    unfold readNumber
    rw [any_eq_false_of_isDigit hchars, if_neg Bool.false_ne_true]
    split
    · next digits heq =>
      have hmem : '-' ∈ Nat.toDigits 10 n := heq ▸ List.mem_cons_self
      exact absurd (Nat.isDigit_of_mem_toDigits (by decide) (by decide) hmem) (by decide)
    · rw [readDigits_toDigits]
      exact if_pos hbound
  | negInt i =>
    obtain ⟨hlower, hneg⟩ := hn
    have htext : (printNumber L (.negInt i)).toList = '-' :: Nat.toDigits 10 (-i).toNat := by
      show (toString i).toList = _
      rw [intToString_of_neg hneg, String.toList_append, toList_natToString]
      rfl
    have hchars : ∀ c ∈ '-' :: Nat.toDigits 10 (-i).toNat, c.isDigit = true ∨ c = '-' := by
      intro c hc
      cases hc with
      | head => exact .inr rfl
      | tail _ hc => exact .inl (Nat.isDigit_of_mem_toDigits (by decide) (by decide) hc)
    rw [htext]
    unfold readNumber
    rw [any_eq_false_of_isDigit hchars, if_neg Bool.false_ne_true]
    show ((readDigits (Nat.toDigits 10 (-i).toNat)).bind fun n =>
      if 0 < n ∧ n ≤ 9223372036854775808 then some (JsonNumber.negInt (-n))
      else (readF64 _).map .float) = _
    rw [readDigits_toDigits, Option.bind_some, if_pos (by omega)]
    congr 2
    omega
  | float x =>
    obtain ⟨c, hc, hmark⟩ := hL.printF64_float x
    have hany : ((L.printF64 x).toList.any fun c => c == '.' || c == 'e' || c == 'E') = true := by
      rw [List.any_eq_true]
      exact ⟨c, hc, by rcases hmark with rfl | rfl <;> rfl⟩
    show readNumber readF64 (L.printF64 x).toList = _
    unfold readNumber
    rw [if_pos hany, hread x]
    rfl

/-! ## Rows are read back -/

theorem skipBlanks_cons {c : Char} (h : isBlank c = false) (t : List Char) :
    skipBlanks (c :: t) = c :: t := List.dropWhile_cons_of_neg (by simp [h])

section Rows

variable {α β : Type} {read : List Char → Option (α × List Char)} {print : β → List Char}
  {view : β → α} {close : Char}

/-- A row of items that are read back is read back. -/
theorem readRow_row (hblank : isBlank close = false) (hclose : close ≠ ',') {items : List β}
    (hread : ∀ b ∈ items, ∀ c t, c = ',' ∨ c = close →
      read (print b ++ c :: t) = some (view b, c :: t))
    (hne : items ≠ []) {fuel : ℕ} (hfuel : items.length ≤ fuel) (r : List Char) :
    readRow read close fuel (Delimited.row ',' close print items ++ r)
      = some (items.map view, r) := by
  induction items generalizing fuel with
  | nil => exact absurd rfl hne
  | cons b rest ih =>
    obtain ⟨fuel, rfl⟩ := Nat.exists_eq_succ_of_ne_zero (Nat.ne_zero_of_lt hfuel)
    have hfirst := hread b List.mem_cons_self
    rw [Delimited.row, List.append_assoc]
    cases rest with
    | nil =>
      show readRow read close (fuel + 1) (print b ++ close :: r) = _
      rw [readRow, hfirst close r (.inr rfl)]
      show (match skipBlanks (close :: r) with
        | [] => none
        | c :: rest =>
          if c = close then some ([view b], rest)
          else if c = ',' then
            (readRow read close fuel rest).bind fun p => some (view b :: p.1, p.2)
          else none) = _
      rw [skipBlanks_cons hblank]
      exact if_pos rfl
    | cons b' rest =>
      have hrest := ih (fun b hb => hread b (List.mem_cons_of_mem _ hb)) (List.cons_ne_nil b' rest)
        (Nat.le_of_succ_le_succ hfuel)
      show readRow read close (fuel + 1)
        (print b ++ ',' :: (Delimited.row ',' close print (b' :: rest) ++ r)) = _
      rw [readRow, hfirst ',' _ (.inl rfl)]
      show (match skipBlanks (',' :: (Delimited.row ',' close print (b' :: rest) ++ r)) with
        | [] => none
        | c :: rest =>
          if c = close then some ([view b], rest)
          else if c = ',' then
            (readRow read close fuel rest).bind fun p => some (view b :: p.1, p.2)
          else none) = _
      rw [skipBlanks_cons (by decide)]
      show (if ',' = close then _ else if ',' = ',' then _ else none) = _
      rw [if_neg hclose.symm, if_pos rfl, hrest]
      rfl

/-- A row has a symbol for each of its items. -/
theorem length_le_row (hprint : ∀ b, print b ≠ []) (items : List β) (r : List Char) :
    items.length ≤ (Delimited.row ',' close print items ++ r).length := by
  have hrest : ∀ rest : List β,
      rest.length ≤ (Delimited.afterFirst ',' close print rest).length := by
    intro rest
    induction rest with
    | nil => exact Nat.zero_le _
    | cons b rest ih =>
      rw [Delimited.afterFirst, List.length_cons, List.length_cons, List.length_append]
      omega
  cases items with
  | nil => exact Nat.zero_le _
  | cons b rest =>
    have hle := hrest rest
    have hpos := List.length_pos_iff.mpr (hprint b)
    rw [Delimited.row, List.length_append, List.length_append, List.length_cons]
    omega

/-- **Items in brackets are read back** behind the opening one. -/
theorem readItems_row (hblank : isBlank close = false) (hclose : close ≠ ',') {items : List β}
    (hprint : ∀ b, ∃ c t, print b = c :: t ∧ isBlank c = false ∧ c ≠ close)
    (hread : ∀ b ∈ items, ∀ c t, c = ',' ∨ c = close →
      read (print b ++ c :: t) = some (view b, c :: t)) (r : List Char) :
    readItems read close (Delimited.row ',' close print items ++ r)
      = some (items.map view, r) := by
  cases items with
  | nil =>
    show readItems read close (close :: r) = _
    rw [readItems, skipBlanks_cons hblank]
    exact if_pos rfl
  | cons b rest =>
    have hnonempty : ∀ b, print b ≠ [] := by
      intro b
      obtain ⟨c, t, h, -⟩ := hprint b
      rw [h]
      exact List.cons_ne_nil c t
    have hlength : (b :: rest).length ≤ (Delimited.row ',' close print (b :: rest) ++ r).length :=
      length_le_row hnonempty (b :: rest) r
    have hrow := readRow_row hblank hclose hread (List.cons_ne_nil b rest) hlength r
    obtain ⟨c, t, hb, hc, hne⟩ := hprint b
    have htext : Delimited.row ',' close print (b :: rest) ++ r
        = c :: (t ++ Delimited.afterFirst ',' close print rest ++ r) := by
      rw [Delimited.row, hb]
      rfl
    rw [htext] at hrow ⊢
    rw [readItems, skipBlanks_cons hc]
    show (if c = close then _ else _) = _
    rw [if_neg hne]
    exact hrow

end Rows

/-! ## Values are read back -/

/-- What opens a value is no white space. -/
theorem isBlank_of_openingOf {c : Char} (h : openingOf c ≠ .none) : isBlank c = false := by
  by_contra hblank
  rw [Bool.not_eq_false] at hblank
  refine h ?_
  have hc : c = Char.ofNat c.toNat := (Char.ofNat_toNat c).symm
  simp only [isBlank, Bool.or_eq_true, beq_iff_eq] at hblank
  rcases hblank with ((rfl | h9) | h10) | h13
  · decide
  · rw [hc, h9]
    decide
  · rw [hc, h10]
    decide
  · rw [hc, h13]
    decide

theorem opening_ne_none (v : Json) : opening v ≠ .none := by
  cases v with
  | bool b => cases b <;> exact fun h => nomatch h
  | _ => exact fun h => nomatch h

section Values

variable {L : Libs} {readF64 : List Char → Option ℚ} {limit : ℕ}

theorem readValue_quote (t : List Char) :
    readValue readF64 (limit + 1) (quoteMark :: t)
      = (readString t).map fun p => (.string p.1, p.2) := rfl

theorem readValue_array (t : List Char) :
    readValue readF64 (limit + 1) ('[' :: t)
      = (readItems (readValue readF64 limit) ']' t).map fun p => (.array p.1, p.2) := rfl

theorem readValue_object (t : List Char) :
    readValue readF64 (limit + 1) (Char.ofNat 123 :: t)
      = (readItems (readMember (readValue readF64 limit)) (Char.ofNat 125) t).map fun p =>
        (.object p.1, p.2) := rfl

theorem readValue_number {c : Char} (hc : isNumberChar c = true) (t : List Char) :
    readValue readF64 (limit + 1) (c :: t)
      = (readNumber readF64 ((c :: t).takeWhile isNumberSymbol)).map fun n =>
        (.number n, (c :: t).dropWhile isNumberSymbol) := by
  have hne : ∀ d : Char, isNumberChar d = false → c ≠ d := by
    rintro d hd rfl
    rw [hc] at hd
    exact nomatch hd
  have hopening : openingOf c ≠ .none := by
    unfold openingOf
    rw [if_pos hc]
    exact fun h => nomatch h
  have hblank := isBlank_of_openingOf hopening
  rw [readValue, skipBlanks_cons hblank]
  split
  · next heq => exact absurd (List.cons.inj heq).1 (hne 'n' (by decide))
  · next heq => exact absurd (List.cons.inj heq).1 (hne 't' (by decide))
  · next heq => exact absurd (List.cons.inj heq).1 (hne 'f' (by decide))
  · next heq => exact nomatch heq
  · next d rest _ _ _ heq =>
    obtain ⟨rfl, rfl⟩ := List.cons.inj heq
    rw [if_neg (hne quoteMark (by decide)), if_neg (hne '[' (by decide)),
      if_neg (hne (Char.ofNat 123) (by decide)), if_pos hc]

/-- The first symbol of a canonical form is no white space and no bracket that
closes. -/
theorem exists_first (hL : L.PrintsNumbers) {close : Char} (hclose : openingOf close = .none)
    (v : Json) :
    ∃ c t, (canonicalJson L v).toList = c :: t ∧ isBlank c = false ∧ c ≠ close := by
  obtain ⟨c, t, htext, hopening⟩ := canonicalJson_opening hL v
  have hsome : openingOf c ≠ .none := hopening ▸ opening_ne_none v
  exact ⟨c, t, htext, isBlank_of_openingOf hsome, fun heq => hsome (heq ▸ hclose)⟩

/-- A member is read back if its value is. -/
theorem readMember_memberText {e : String × Json} {r : List Char} {w : Json}
    (h : readValue readF64 limit ((canonicalJson L e.2).toList ++ r) = some (w, r)) :
    readMember (readValue readF64 limit) (memberText L e ++ r) = some ((e.1, w), r) := by
  have htext : memberText L e ++ r = quoteMark :: (e.1.toList.flatMap escapeChar
      ++ quoteMark :: ':' :: ((canonicalJson L e.2).toList ++ r)) := by
    unfold memberText
    rw [toList_quote]
    simp only [List.cons_append, List.append_assoc, List.nil_append]
  rw [htext, readMember, skipBlanks_cons (by decide)]
  show ((guard (quoteMark = quoteMark) : Option PUnit).bind fun _ =>
    (readString _).bind fun p => _) = _
  rw [readString_quote, guard, if_pos rfl]
  show (match skipBlanks (':' :: ((canonicalJson L e.2).toList ++ r)) with
    | ':' :: rest =>
      (readValue readF64 limit rest).bind fun p => some ((e.1, p.1), p.2)
    | _ => none) = _
  rw [skipBlanks_cons (by decide)]
  show ((readValue readF64 limit ((canonicalJson L e.2).toList ++ r)).bind _) = _
  rw [h]
  rfl

/-- An item is shorter than a row it is in. -/
theorem length_le_of_mem {β : Type} {print : β → List Char} {close : Char} {items : List β} {b : β}
    (h : b ∈ items) : (print b).length ≤ (Delimited.row ',' close print items).length := by
  have hrest : ∀ rest : List β, b ∈ rest →
      (print b).length ≤ (Delimited.afterFirst ',' close print rest).length := by
    intro rest hmem
    induction rest with
    | nil => exact absurd hmem List.not_mem_nil
    | cons d rest ih =>
      rw [Delimited.afterFirst, List.length_cons, List.length_append]
      cases hmem with
      | head => omega
      | tail _ hmem =>
        have hle := ih hmem
        omega
  cases items with
  | nil => exact absurd h List.not_mem_nil
  | cons d rest =>
    rw [Delimited.row, List.length_append]
    cases h with
    | head => omega
    | tail _ hmem =>
      have hle := hrest rest hmem
      omega

/-- **A canonical form is read back**, whatever follows it in another: as the
value with its members sorted. -/
theorem readValue_canonicalJson (hL : L.PrintsNumbers) (hread : ReadsDoubles L readF64) (v : Json)
    (hv : v.Proper) (hlimit : (canonicalJson L v).toList.length ≤ limit) {r : List Char}
    (hr : Follows r) :
    readValue readF64 limit ((canonicalJson L v).toList ++ r) = some (v.sortKeys, r) := by
  induction v using Json.induction generalizing limit r with
  | null =>
    have htext : (canonicalJson L .null).toList = ['n', 'u', 'l', 'l'] := by simp [canonicalJson]
    rw [htext] at hlimit ⊢
    obtain ⟨limit, rfl⟩ := Nat.exists_eq_succ_of_ne_zero (Nat.ne_zero_of_lt hlimit)
    rfl
  | bool b =>
    cases b with
    | true =>
      have htext : (canonicalJson L (.bool true)).toList = ['t', 'r', 'u', 'e'] := by
        simp [canonicalJson]
      rw [htext] at hlimit ⊢
      obtain ⟨limit, rfl⟩ := Nat.exists_eq_succ_of_ne_zero (Nat.ne_zero_of_lt hlimit)
      rfl
    | false =>
      have htext : (canonicalJson L (.bool false)).toList = ['f', 'a', 'l', 's', 'e'] := by
        simp [canonicalJson]
      rw [htext] at hlimit ⊢
      obtain ⟨limit, rfl⟩ := Nat.exists_eq_succ_of_ne_zero (Nat.ne_zero_of_lt hlimit)
      rfl
  | number n =>
    have hchars : ∀ c ∈ (printNumber L n).toList, isNumberSymbol c = true := fun c hc => by
      rw [isNumberSymbol, isNumberChar_of_mem hL hc]
      rfl
    have hend : ∀ c ∈ r.head?, isNumberSymbol c = false := by
      intro c hc
      obtain rfl | rfl | rfl := hr c hc <;> decide
    have hstop : r.takeWhile isNumberSymbol = [] ∧ r.dropWhile isNumberSymbol = r := by
      cases r with
      | nil => exact ⟨rfl, rfl⟩
      | cons c r =>
        have hc := hend c rfl
        exact ⟨List.takeWhile_cons_of_neg (by simp [hc]), List.dropWhile_cons_of_neg (by simp [hc])⟩
    obtain ⟨c, t, hct⟩ := List.exists_cons_of_ne_nil (printNumber_ne_nil hL n)
    have hc : isNumberChar c = true := isNumberChar_of_mem hL (hct ▸ List.mem_cons_self)
    show readValue readF64 limit ((printNumber L n).toList ++ r) = _
    have hlimit : (printNumber L n).toList.length ≤ limit := hlimit
    rw [hct] at hlimit
    obtain ⟨limit, rfl⟩ := Nat.exists_eq_succ_of_ne_zero (Nat.ne_zero_of_lt hlimit)
    rw [hct, List.cons_append, readValue_number hc, ← List.cons_append, ← hct,
      List.takeWhile_append_of_pos hchars, List.dropWhile_append_of_pos hchars, hstop.1, hstop.2,
      List.append_nil, readNumber_printNumber hL hread hv]
    rfl
  | string s =>
    have htext : (canonicalJson L (.string s)).toList ++ r
        = quoteMark :: (s.toList.flatMap escapeChar ++ quoteMark :: r) := by
      show (quote s).toList ++ r = _
      rw [toList_quote, List.cons_append, List.append_assoc]
      rfl
    have hpos : (canonicalJson L (.string s)).toList ≠ [] := by
      show (quote s).toList ≠ []
      rw [toList_quote]
      exact List.cons_ne_nil _ _
    obtain ⟨limit, rfl⟩ := Nat.exists_eq_succ_of_ne_zero
      (Nat.ne_zero_of_lt ((List.length_pos_iff.mpr hpos).trans_le hlimit))
    rw [htext, readValue_quote, readString_quote]
    rfl
  | array items ih =>
    rw [toList_canonicalJson_array] at hlimit ⊢
    obtain ⟨limit, rfl⟩ := Nat.exists_eq_succ_of_ne_zero (Nat.ne_zero_of_lt hlimit)
    have hitem : ∀ v ∈ items, ∀ c t, c = ',' ∨ c = ']' →
        readValue readF64 limit ((canonicalJson L v).toList ++ c :: t)
          = some (v.sortKeys, c :: t) := by
      intro v hmem c t hc
      refine ih v hmem ((Json.proper_array items).mp hv v hmem) ?_ (follows_cons (.inl rfl) c t hc)
      exact (length_le_of_mem hmem).trans (Nat.le_of_succ_le_succ hlimit)
    have hrow := readItems_row (by decide) (by decide) (exists_first hL rfl) hitem r
    rw [List.cons_append, readValue_array, hrow, Json.sortKeys_array]
    rfl
  | object entries ih =>
    rw [toList_canonicalJson_object] at hlimit ⊢
    obtain ⟨limit, rfl⟩ := Nat.exists_eq_succ_of_ne_zero (Nat.ne_zero_of_lt hlimit)
    have hmember : ∀ e ∈ Json.sortMembers entries, ∀ c t, c = ',' ∨ c = Char.ofNat 125 →
        readMember (readValue readF64 limit) (memberText L e ++ c :: t)
          = some ((e.1, e.2.sortKeys), c :: t) := by
      intro e hmem c t hc
      have hentry := Json.mem_sortMembers.mp hmem
      have hlength : (canonicalJson L e.2).toList.length ≤ (memberText L e).length := by
        unfold memberText
        rw [List.length_append, List.length_cons]
        omega
      refine readMember_memberText (ih e hentry ((Json.proper_object entries).mp hv e hentry) ?_
        (follows_cons (.inr rfl) c t hc))
      exact hlength.trans ((length_le_of_mem hmem).trans (Nat.le_of_succ_le_succ hlimit))
    have hfirst : ∀ e : String × Json, ∃ c t, memberText L e = c :: t ∧ isBlank c = false
        ∧ c ≠ Char.ofNat 125 := fun e =>
      ⟨quoteMark, _, by rw [memberText, toList_quote]; rfl, by decide, by decide⟩
    have hrow := readItems_row (by decide) (by decide) hfirst hmember r
    rw [List.cons_append, readValue_object, hrow, Json.sortKeys_object]
    rfl

/-- **A canonical form is a JSON text of its value.** -/
theorem parse_canonicalJson (hL : L.PrintsNumbers) (hread : ReadsDoubles L readF64) {v : Json}
    (hv : v.Proper) : parse readF64 (canonicalJson L v) = some v.sortKeys := by
  have hend : Follows [] := fun c hc => absurd hc (by simp)
  have hvalue := readValue_canonicalJson hL hread v hv le_rfl hend
  rw [List.append_nil] at hvalue
  unfold parse
  rw [hvalue]
  rfl

end Values

end JsonText
