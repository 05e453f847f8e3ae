import IicpDirectory.Admission
import IicpDirectory.Foundations.Delimited
import IicpDirectory.Foundations.Padded
import IicpDirectory.Operators
import Mathlib.Data.List.TakeWhile

/-!
# Comparing versions

A version is compared part by part: a part counts with the number it begins
with, and reading ends at the first part that begins with none, or with one
of more than 32 bits. Two versions are compared as sequences that are padded
with zeros.

The report on tokens compares with a reader of its own: it drops the `v`s a
version begins with, but not a `V`, and it takes three parts.
-/

/-- `SDK_BASELINE_VERSION`. -/
def sdkBaselineVersion : String := "0.7.68"

/-- The number a part begins with, if it has 32 bits. -/
def leadingNumber (part : List Char) : Option ℕ :=
  let digits := part.takeWhile Char.isDigit
  if digits.isEmpty then none
  else (some (Nat.ofDigitChars 10 digits 0)).filter (· < 4294967296)

/-- `Iterator::map_while`. -/
def mapWhile {A B : Type} (f : A → Option B) : List A → List B
  | [] => []
  | a :: rest =>
    match f a with
    | none => []
    | some b => b :: mapWhile f rest

/-- `version_parts`. -/
def versionParts (version : String) : List ℕ :=
  mapWhile leadingNumber
    (((trimChars version.toList).dropWhile fun c => c == 'v' || c == 'V').splitOn '.')

/-- `version_at_least`. -/
def versionAtLeast (version baseline : String) : Bool :=
  Padded.atLeast (versionParts version) (versionParts baseline)

/-- `sdk_status`. -/
def sdkStatus (version : Option String) : String :=
  match (version.map fun v => String.ofList (trimChars v.toList)).filter (!·.isEmpty) with
  | none => "unknown"
  | some v => if versionAtLeast v sdkBaselineVersion then "current" else "downlevel"

/-- `token_capable`. -/
def tokenCapable (version : Option String) : Bool :=
  match version with
  | none => false
  | some version =>
    match (((version.toList.dropWhile (· == 'v')).splitOn '.').take 3).map leadingNumber with
    | [some major, some minor, some patch] =>
      decide (0 < major ∨ major = 0 ∧ (7 < minor ∨ minor = 7 ∧ 59 ≤ patch))
    | _ => false

/-! ## Reading a version -/

theorem isWhitespace_eq_false {c : Char} (h : 33 ≤ c.toNat ∧ c.toNat ≤ 122) :
    isWhitespace c = false := by
  unfold isWhitespace
  simp only [Bool.or_eq_false_iff, Bool.and_eq_false_iff, decide_eq_false_iff_not, beq_eq_false_iff_ne]
  omega

/-- The characters of a version are printed ones. -/
theorem range_of_versionChar {c : Char}
    (h : (c.isAlphanum || ['.', '_', '+', '-'].contains c) = true) :
    33 ≤ c.toNat ∧ c.toNat ≤ 122 := by
  rw [Bool.or_eq_true] at h
  obtain h | h := h
  · change (decide ('A'.val ≤ c.val ∧ c.val ≤ 'Z'.val)
      || decide ('a'.val ≤ c.val) && decide (c.val ≤ 'z'.val)
      || decide ('0'.val ≤ c.val) && decide (c.val ≤ '9'.val)) = true at h
    simp only [Bool.or_eq_true, Bool.and_eq_true, decide_eq_true_eq, UInt32.le_iff_toNat_le,
      Char.reduceVal, UInt32.reduceToNat] at h
    have hval : c.toNat = c.val.toNat := rfl
    omega
  · simp only [List.contains_eq_mem, List.mem_cons, List.not_mem_nil, or_false,
      decide_eq_true_eq] at h
    rcases h with rfl | rfl | rfl | rfl <;> decide

/-- Nothing is trimmed of a text without white space. -/
theorem trimChars_of_forall {text : List Char} (h : ∀ c ∈ text, isWhitespace c = false) :
    trimChars text = text := by
  have hnone : ∀ chars : List Char, (∀ c ∈ chars, isWhitespace c = false) →
      chars.dropWhile isWhitespace = chars := by
    intro chars hchars
    cases chars with
    | nil => rfl
    | cons c rest => exact List.dropWhile_cons_of_neg (by simp [hchars c List.mem_cons_self])
  unfold trimChars
  rw [hnone text h, hnone text.reverse fun c hc => h c (List.mem_reverse.mp hc),
    List.reverse_reverse]

/-- `trim_start_matches(['v', 'V'])`. -/
def dropLetters (text : List Char) : List Char := text.dropWhile fun c => c == 'v' || c == 'V'

theorem trimChars_of_valid {version : String} (h : Admission.validVersionAxis version = true) :
    trimChars version.toList = version.toList := by
  unfold Admission.validVersionAxis at h
  rw [Bool.and_eq_true] at h
  exact trimChars_of_forall fun c hc =>
    isWhitespace_eq_false (range_of_versionChar (List.all_eq_true.mp h.2 c hc))

theorem versionParts_of_valid {version : String} (h : Admission.validVersionAxis version = true) :
    versionParts version
      = mapWhile leadingNumber ((dropLetters version.toList).splitOn '.') := by
  unfold versionParts dropLetters
  rw [trimChars_of_valid h]

/-- **A version that was admitted is current if it is at least the baseline**,
and else behind it. -/
theorem sdkStatus_of_valid {version : String} (h : Admission.validVersionAxis version = true) :
    sdkStatus (some version)
      = if versionAtLeast version sdkBaselineVersion then "current" else "downlevel" := by
  have hne : version.isEmpty = false := by
    rw [Bool.eq_false_iff]
    intro hempty
    rw [String.isEmpty_iff.mp hempty] at h
    exact absurd h (by decide +kernel)
  unfold sdkStatus
  rw [Option.map_some, trimChars_of_valid h, String.ofList_toList, Option.filter_some_pos]
  · rw [hne]
    rfl

/-! ## Versions that are numbers -/

/-- The number some digits are. -/
def numberOf (digits : List Char) : ℕ := Nat.ofDigitChars 10 digits 0

/-- **A version that is decimal numbers with dots between**, perhaps behind a
`v`, and the numbers. -/
def IsNumericVersion (version : String) (numbers : List ℕ) : Prop :=
  ∃ (lead : List Char) (parts : List (List Char)), (lead = [] ∨ lead = ['v']) ∧ parts ≠ []
    ∧ (∀ part ∈ parts, part ≠ [] ∧ part.all Char.isDigit = true)
    ∧ version.toList = lead ++ ['.'].intercalate parts ∧ numbers = parts.map numberOf

/-- Of digits the number is read, if it has 32 bits. -/
theorem leadingNumber_of_digits {part : List Char} (hne : part ≠ [])
    (hdigits : part.all Char.isDigit = true) :
    leadingNumber part = (some (numberOf part)).filter (· < 4294967296) := by
  unfold leadingNumber numberOf
  have hall : part.takeWhile Char.isDigit = part :=
    List.takeWhile_eq_self_iff.mpr (List.all_eq_true.mp hdigits)
  rw [hall]
  exact if_neg (by simpa using hne)

/-- **What is read of numbers is what is before the first of more than 32
bits.** -/
theorem mapWhile_leadingNumber {parts : List (List Char)}
    (hparts : ∀ part ∈ parts, part ≠ [] ∧ part.all Char.isDigit = true) :
    mapWhile leadingNumber parts = Padded.cut 4294967296 (parts.map numberOf) := by
  induction parts with
  | nil => rfl
  | cons part rest ih =>
    have ⟨hne, hdigits⟩ := hparts part List.mem_cons_self
    have hrest := ih fun p hp => hparts p (List.mem_cons_of_mem part hp)
    rw [mapWhile, leadingNumber_of_digits hne hdigits, List.map_cons]
    by_cases hsmall : numberOf part < 4294967296
    · rw [Option.filter_some_pos (by simpa using hsmall), Padded.cut_cons_of_lt hsmall, hrest]
    · rw [Option.filter_some_neg (by simpa using hsmall), Padded.cut_cons_of_le (not_lt.mp hsmall)]

/-- No digit is a letter or a dot. -/
theorem isDigit_ne {c : Char} (h : c.isDigit = true) : c ≠ 'v' ∧ c ≠ 'V' ∧ c ≠ '.' := by
  refine ⟨?_, ?_, ?_⟩ <;> rintro rfl <;> exact absurd h (by decide)

/-- A text that begins with a digit keeps it. -/
theorem dropLetters_digit {c : Char} (rest : List Char) (h : c.isDigit = true) :
    dropLetters (c :: rest) = c :: rest := by
  have ⟨hv, hV, _⟩ := isDigit_ne h
  exact List.dropWhile_cons_of_neg (by simp [hv, hV])

/-- Put together with dots, the parts of a numeric version begin with a digit. -/
theorem exists_digit_intercalate {parts : List (List Char)} (hne : parts ≠ [])
    (hparts : ∀ part ∈ parts, part ≠ [] ∧ part.all Char.isDigit = true) :
    ∃ c rest, ['.'].intercalate parts = c :: rest ∧ c.isDigit = true := by
  cases parts with
  | nil => exact absurd rfl hne
  | cons part others =>
    have ⟨hpart, hdigits⟩ := hparts part List.mem_cons_self
    cases part with
    | nil => exact absurd rfl hpart
    | cons c part =>
      have hc : c.isDigit = true := List.all_eq_true.mp hdigits c List.mem_cons_self
      cases others with
      | nil => exact ⟨c, part, List.intercalate_singleton, hc⟩
      | cons next others =>
        refine ⟨c, part ++ ['.'] ++ ['.'].intercalate (next :: others), ?_, hc⟩
        rw [List.intercalate_cons_of_ne_nil (List.cons_ne_nil next others)]
        rfl

/-- **What is read of a numeric version** is what is before the first number
of more than 32 bits. -/
theorem versionParts_of_numeric {version : String} {numbers : List ℕ}
    (hvalid : Admission.validVersionAxis version = true) (h : IsNumericVersion version numbers) :
    versionParts version = Padded.cut 4294967296 numbers := by
  obtain ⟨lead, parts, hlead, hne, hparts, htext, rfl⟩ := h
  obtain ⟨c, rest, hjoined, hc⟩ := exists_digit_intercalate hne hparts
  have hdropped : dropLetters version.toList = ['.'].intercalate parts := by
    rw [htext, hjoined]
    obtain rfl | rfl := hlead
    · exact dropLetters_digit rest hc
    · exact (dropLetters_digit rest hc :)
  have hsplit : (['.'].intercalate parts).splitOn '.' = parts :=
    List.splitOn_intercalate '.' (fun part hpart hdot =>
      (isDigit_ne (List.all_eq_true.mp (hparts part hpart).2 '.' hdot)).2.2 rfl) hne
  rw [versionParts_of_valid hvalid, hdropped, hsplit, mapWhile_leadingNumber hparts]

/-! ## The two comparators -/

/-- The number a part of a text begins with. -/
def partAt (text : List Char) (i : ℕ) : Option ℕ := ((text.splitOn '.')[i]?).bind leadingNumber

/-- **Three parts are numbers.** -/
def ThreeNumbers (text : List Char) : Prop := ∀ i < 3, (partAt text i).isSome = true

/-- **The parts reach 0.7.59**: the first is more than nothing, or it is
nothing and the second is more than seven, or it is seven and the third is 59
or more. -/
def Reaches (text : List Char) : Prop :=
  (∃ n ∈ partAt text 0, 0 < n)
    ∨ partAt text 0 = some 0 ∧ ((∃ n ∈ partAt text 1, 7 < n)
      ∨ partAt text 1 = some 7 ∧ ∃ n ∈ partAt text 2, 59 ≤ n)

theorem mem_take_three {parts : List (List Char)} {major minor patch : ℕ} :
    (parts.take 3).map leadingNumber = [some major, some minor, some patch]
      ↔ (parts[0]?).bind leadingNumber = some major ∧ (parts[1]?).bind leadingNumber = some minor
        ∧ (parts[2]?).bind leadingNumber = some patch := by
  match parts with
  | [] => simp
  | [_] => simp
  | [_, _] => simp
  | _ :: _ :: _ :: _ => simp

/-- **A version is capable of tokens if three parts are numbers and reach the
floor.** -/
theorem tokenCapable_iff {version : String} :
    tokenCapable (some version) = true
      ↔ ThreeNumbers (version.toList.dropWhile (· == 'v'))
        ∧ Reaches (version.toList.dropWhile (· == 'v')) := by
  generalize htext : version.toList.dropWhile (· == 'v') = text
  unfold tokenCapable
  dsimp only
  rw [htext]
  constructor
  · intro h
    split at h
    · next major minor patch hparts =>
      obtain ⟨hmajor, hminor, hpatch⟩ := mem_take_three.mp hparts
      rw [decide_eq_true_eq] at h
      refine ⟨fun i hi => ?_, ?_⟩
      · unfold partAt
        match i, hi with
        | 0, _ => rw [hmajor]; rfl
        | 1, _ => rw [hminor]; rfl
        | 2, _ => rw [hpatch]; rfl
      · unfold Reaches partAt
        rw [hmajor, hminor, hpatch]
        simp only [Option.mem_some_iff, exists_eq_left', Option.some_inj]
        exact h
    · contradiction
  · rintro ⟨hthree, hreaches⟩
    obtain ⟨major, hmajor⟩ := Option.isSome_iff_exists.mp (hthree 0 (by decide))
    obtain ⟨minor, hminor⟩ := Option.isSome_iff_exists.mp (hthree 1 (by decide))
    obtain ⟨patch, hpatch⟩ := Option.isSome_iff_exists.mp (hthree 2 (by decide))
    rw [mem_take_three.mpr ⟨hmajor, hminor, hpatch⟩]
    unfold Reaches at hreaches
    rw [hmajor, hminor, hpatch] at hreaches
    simp only [Option.mem_some_iff, exists_eq_left', Option.some_inj] at hreaches
    exact decide_eq_true hreaches

theorem versionParts_floor : versionParts "0.7.59" = [0, 7, 59] := by decide +kernel

/-- A sequence reaches the floor by its first three values. -/
theorem not_precedes_floor_iff {numbers : List ℕ} :
    ¬ Padded.Precedes numbers [0, 7, 59]
      ↔ 0 < Padded.value numbers 0 ∨ Padded.value numbers 0 = 0
        ∧ (7 < Padded.value numbers 1 ∨ Padded.value numbers 1 = 7
          ∧ 59 ≤ Padded.value numbers 2) := by
  rw [Padded.precedes_iff_tail, Padded.precedes_iff_tail, Padded.precedes_iff_tail]
  simp only [List.tail_cons, Padded.value_tail, Padded.value_cons_zero, Padded.not_precedes_nil,
    and_false, or_false, Nat.zero_add, Nat.reduceAdd]
  omega

/-- What is read of the parts reaches the floor if they do. -/
theorem value_mapWhile_reaches {parts : List (List Char)} :
    (0 < Padded.value (mapWhile leadingNumber parts) 0
        ∨ Padded.value (mapWhile leadingNumber parts) 0 = 0
          ∧ (7 < Padded.value (mapWhile leadingNumber parts) 1
            ∨ Padded.value (mapWhile leadingNumber parts) 1 = 7
              ∧ 59 ≤ Padded.value (mapWhile leadingNumber parts) 2))
      ↔ (∃ n ∈ (parts[0]?).bind leadingNumber, 0 < n)
        ∨ (parts[0]?).bind leadingNumber = some 0
          ∧ ((∃ n ∈ (parts[1]?).bind leadingNumber, 7 < n)
            ∨ (parts[1]?).bind leadingNumber = some 7
              ∧ ∃ n ∈ (parts[2]?).bind leadingNumber, 59 ≤ n) := by
  have hnil : ∀ i, Padded.value ([] : List ℕ) i = 0 := fun _ => rfl
  match parts with
  | [] => simp [mapWhile, hnil]
  | p :: rest =>
    simp only [List.getElem?_cons_zero, List.getElem?_cons_succ, Option.bind_some, mapWhile]
    cases leadingNumber p with
    | none => simp [hnil]
    | some major =>
      simp only [Padded.value_cons_zero, Padded.value_cons_succ]
      match rest with
      | [] => simp [mapWhile, hnil]
      | q :: rest =>
        simp only [List.getElem?_cons_zero, List.getElem?_cons_succ, Option.bind_some, mapWhile]
        cases leadingNumber q with
        | none => simp [hnil]
        | some minor =>
          simp only [Padded.value_cons_zero, Padded.value_cons_succ]
          match rest with
          | [] => simp [mapWhile, hnil]
          | r :: rest =>
            simp only [List.getElem?_cons_zero, Option.bind_some, mapWhile]
            cases leadingNumber r with
            | none => simp [hnil]
            | some patch => simp [Padded.value_cons_zero]

/-- **The loop over a version and the floor.** -/
theorem versionAtLeast_floor_iff {version : String}
    (h : Admission.validVersionAxis version = true) :
    versionAtLeast version "0.7.59" = true ↔ Reaches (dropLetters version.toList) := by
  unfold versionAtLeast
  rw [Padded.atLeast_iff, versionParts_floor, versionParts_of_valid h, not_precedes_floor_iff]
  exact value_mapWhile_reaches

theorem leadingNumber_of_not_digit {c : Char} {part : List Char} (h : c.isDigit = false) :
    leadingNumber (c :: part) = none := by
  unfold leadingNumber
  rw [List.takeWhile_cons_of_neg (by simp [h])]
  rfl

/-- A text whose first part is a number begins with a digit. -/
theorem exists_digit_of_partAt {text : List Char} (h : (partAt text 0).isSome = true) :
    ∃ c rest, text = c :: rest ∧ c.isDigit = true := by
  unfold partAt at h
  cases text with
  | nil => exact absurd h (by decide)
  | cons c rest =>
    refine ⟨c, rest, rfl, ?_⟩
    by_contra hc
    have hc : c.isDigit = false := Bool.eq_false_iff.mpr hc
    -- the first part is empty, or begins with the symbol
    rw [List.splitOn_cons_eq_if_modifyHead] at h
    split at h
    · exact absurd h Bool.false_ne_true
    · cases hparts : rest.splitOn '.' with
      | nil =>
        rw [hparts] at h
        exact absurd h Bool.false_ne_true
      | cons part parts =>
        rw [hparts, List.modifyHead_cons, List.getElem?_cons_zero, Option.bind_some,
          leadingNumber_of_not_digit hc] at h
        exact absurd h (by decide)

/-- Three numbers begin with a digit, so that no letter is left. -/
theorem dropLetters_of_threeNumbers {text : List Char}
    (h : ThreeNumbers (text.dropWhile (· == 'v'))) :
    dropLetters text = text.dropWhile (· == 'v') := by
  obtain ⟨c, rest, htext, hc⟩ := exists_digit_of_partAt (h 0 (by decide))
  have hletters : ∀ chars : List Char,
      dropLetters chars = dropLetters (chars.dropWhile (· == 'v')) := by
    intro chars
    induction chars with
    | nil => rfl
    | cons d chars ih =>
      by_cases hd : d = 'v'
      · subst hd
        exact ih
      · rw [List.dropWhile_cons_of_neg (by simpa using hd)]
  rw [hletters, htext, dropLetters_digit rest hc]

/-- **Where the two comparators agree.** -/
theorem tokenCapable_iff_versionAtLeast_iff {version : String}
    (h : Admission.validVersionAxis version = true) :
    (tokenCapable (some version) = true ↔ versionAtLeast version "0.7.59" = true)
      ↔ ThreeNumbers (version.toList.dropWhile (· == 'v'))
        ∨ ¬ Reaches (dropLetters version.toList) := by
  rw [tokenCapable_iff, versionAtLeast_floor_iff h]
  by_cases hthree : ThreeNumbers (version.toList.dropWhile (· == 'v'))
  · rw [dropLetters_of_threeNumbers hthree, and_iff_right hthree]
    exact iff_of_true Iff.rfl (Or.inl hthree)
  · have hnot : ¬ (ThreeNumbers (version.toList.dropWhile (· == 'v'))
        ∧ Reaches (version.toList.dropWhile (· == 'v'))) := fun hboth => hthree hboth.1
    rw [or_iff_right hthree, iff_false_left hnot]

/-- **Where versions are compared as numbers, and as they are for tokens.** For
numeric versions the loop decides whether the one is at least the other
exactly if the numbers of more than 32 bits do not show. And the report on
tokens agrees with the loop exactly if a version is three numbers behind its
`v`s, or does not reach the floor. -/
theorem versions_agree_iff {a b version : String} {xs ys : List ℕ}
    (ha : Admission.validVersionAxis a = true) (hb : Admission.validVersionAxis b = true)
    (hxs : IsNumericVersion a xs) (hys : IsNumericVersion b ys)
    (hversion : Admission.validVersionAxis version = true) :
    ((versionAtLeast a b = true ↔ ¬ Padded.Precedes xs ys) ↔ Padded.CutSafe 4294967296 xs ys)
      ∧ ((tokenCapable (some version) = true ↔ versionAtLeast version "0.7.59" = true)
        ↔ ThreeNumbers (version.toList.dropWhile (· == 'v'))
          ∨ ¬ Reaches (dropLetters version.toList)) := by
  refine ⟨?_, tokenCapable_iff_versionAtLeast_iff hversion⟩
  unfold versionAtLeast
  rw [Padded.atLeast_iff, versionParts_of_numeric ha hxs, versionParts_of_numeric hb hys]
  exact Padded.agrees_iff_cutSafe

theorem isNumericVersion_one : IsNumericVersion "1" [1] :=
  ⟨[], [['1']], .inl rfl, by decide, by decide, by decide, by decide⟩

theorem isNumericVersion_large : IsNumericVersion "4294967296" [4294967296] :=
  ⟨[], ["4294967296".toList], .inl rfl, by decide, by simp, by decide, by decide⟩

theorem versions_agree_iff_one :
    IsNumericVersion "1" [1]
      ∧ ((versionAtLeast "1" "1" = true ↔ ¬ Padded.Precedes [1] [1])
        ↔ Padded.CutSafe 4294967296 [1] [1]) :=
  ⟨isNumericVersion_one, (@versions_agree_iff "1" "1" "1.0.0" _ _ (by decide +kernel)
    (by decide +kernel) isNumericVersion_one isNumericVersion_one (by decide +kernel)).1⟩

/-- A number of more than 32 bits is less than 1, and a version of two parts
that is later than the floor is not capable of tokens. -/
theorem versions_disagree :
    (Admission.validVersionAxis "4294967296" = true ∧ Admission.validVersionAxis "1" = true
        ∧ IsNumericVersion "4294967296" [4294967296] ∧ IsNumericVersion "1" [1]
        ∧ versionAtLeast "4294967296" "1" = false ∧ ¬ Padded.Precedes [4294967296] [1])
      ∧ Admission.validVersionAxis "0.8" = true ∧ tokenCapable (some "0.8") = false
      ∧ versionAtLeast "0.8" "0.7.59" = true := by
  refine ⟨⟨by decide +kernel, by decide +kernel, isNumericVersion_large, isNumericVersion_one,
    by decide +kernel, ?_⟩, by decide +kernel, by decide +kernel, by decide +kernel⟩
  rw [Padded.precedes_iff_tail]
  exact fun h => absurd h (by simp [Padded.not_precedes_nil])
