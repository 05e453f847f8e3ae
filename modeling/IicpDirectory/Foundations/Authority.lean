import IicpDirectory.Foundations.Addresses
import IicpDirectory.Foundations.Delimited

/-!
# The host of a URL

A client reads the host that it dials out of the text of a URL. Tabs and line
breaks are taken out of the text first, and further slashes behind the scheme are
passed over. The authority ends at a slash of either kind, a question mark or a
number sign; the host is behind the last at sign in it and before a colon that is
not in brackets, and what is behind the colon is a port. What is in brackets is an
address of version six, and how another host is read is a parameter: it is a name
with its letters made small and its escapes resolved, or an address.

Where no symbol with a meaning is in the way, the authority begins as its text
does (`authority_append`), and the host is what is before the colon
(`hostText_eq_of_plain`).
-/

namespace Authority

open Addresses

/-- **A host**: an address, or a name. -/
inductive Host
  | ip (addr : IpAddr)
  | name (text : List Char)
deriving DecidableEq

/-- The host that a text stands for: an address, or a name. -/
def Host.ofText (text : List Char) : Host := (IpAddr.ofText text).elim (.name text) .ip

/-- A tab or a line break. -/
def isRemoved (c : Char) : Bool := ['\t', '\n', '\r'].contains c

/-- A slash of either kind. -/
def isSlash (c : Char) : Bool := ['/', '\\'].contains c

/-- What an authority ends at. -/
def isEnd (c : Char) : Bool := ['/', '\\', '?', '#'].contains c

/-- What no host has. -/
def isForbidden (c : Char) : Bool :=
  [Char.ofNat 0, '\t', '\n', '\r', ' ', '#', '/', ':', '<', '>', '?', '@', '[', '\\', ']', '^',
    '|'].contains c

/-- **How a host without brackets is read.** It has none of the symbols that no
host has, and a name has none. -/
structure NameReader where
  read : List Char → Option Host
  valid : ∀ text host, read text = some host → ∀ c ∈ text, isForbidden c = false
  name_valid : ∀ text name, read text = some (.name name) → ∀ c ∈ name, isForbidden c = false

/-- What is behind the last of some symbol, or all. -/
def afterLast (d : Char) (text : List Char) : List Char :=
  (text.reverse.takeWhile fun c => c != d).reverse

/-- The host, and the port behind the first colon that is not in brackets. -/
def splitPort : Bool → List Char → List Char × Option (List Char)
  | _, [] => ([], none)
  | inside, c :: rest =>
    if c = ':' ∧ inside = false then ([], some rest)
    else
      let (host, port) :=
        splitPort (if c = '[' then true else if c = ']' then false else inside) rest
      (c :: host, port)

/-- The authority of what is behind a scheme. -/
def authority (text : List Char) : List Char :=
  ((text.filter fun c => !isRemoved c).dropWhile isSlash).takeWhile fun c => !isEnd c

/-- The host of an authority, and its port. -/
def hostPort (text : List Char) : List Char × Option (List Char) :=
  splitPort false (afterLast '@' (authority text))

/-- The text of the host. -/
def hostText (text : List Char) : List Char := (hostPort text).1

/-- The port, if there is a valid one or none. -/
def portOf : Option (List Char) → Option (Option ℕ)
  | none => some none
  | some [] => some none
  | some digits =>
    if digits.all (isDigitOf 10) = true ∧ ofDigits 10 digits < 65536 then
      some (some (ofDigits 10 digits))
    else none

/-- **The host that a text is**: in brackets an address of version six. -/
def hostOf (N : NameReader) : List Char → Option Host
  | [] => none
  | '[' :: rest =>
    if rest.getLast? = some ']' then
      match readIpv6 rest.dropLast with
      | some (a, []) => some (.ip (.v6 a))
      | _ => none
    else none
  | text => N.read text

/-- What a URL is dialled at. -/
structure Target where
  host : Host
  port : ℕ
deriving DecidableEq

/-- What is behind the scheme, and the port of the scheme. -/
def stripScheme (url : List Char) : Option (ℕ × List Char) :=
  if "https://".toList <+: url then some (443, url.drop 8)
  else if "http://".toList <+: url then some (80, url.drop 7)
  else none

/-- **What is dialled for a URL.** -/
def target (N : NameReader) (url : List Char) : Option Target := do
  let (port, text) ← stripScheme url
  let host ← hostOf N (hostText text)
  let given ← portOf (hostPort text).2
  return ⟨host, given.getD port⟩

/-! ## Behind the last of a symbol -/

theorem not_mem_afterLast (d : Char) (text : List Char) : d ∉ afterLast d text := by
  intro h
  have hne := List.mem_takeWhile_imp (List.mem_reverse.mp h)
  simp at hne

theorem afterLast_eq_self {d : Char} {text : List Char} (h : d ∉ text) : afterLast d text = text := by
  have hall : text.reverse.takeWhile (fun c => c != d) = text.reverse := by
    refine List.takeWhile_eq_self_iff.mpr fun c hc => ?_
    have hne : c ≠ d := by
      rintro rfl
      exact h (List.mem_reverse.mp hc)
    exact bne_iff_ne.mpr hne
  unfold afterLast
  rw [hall, List.reverse_reverse]

/-! ## The host before a colon -/

/-- The host and the port make the text. -/
theorem splitPort_eq (inside : Bool) (text : List Char) :
    text = (splitPort inside text).1
      ++ (splitPort inside text).2.elim [] (fun port => ':' :: port) := by
  induction text generalizing inside with
  | nil => rfl
  | cons c rest ih =>
    unfold splitPort
    split
    · next h => rw [h.1]; rfl
    · exact congrArg (List.cons c) (ih _)

/-- Outside of brackets the host has no colon. -/
theorem colon_not_mem_splitPort {text : List Char} (h : '[' ∉ (splitPort false text).1) :
    ':' ∉ (splitPort false text).1 := by
  induction text with
  | nil => exact List.not_mem_nil
  | cons c rest ih =>
    unfold splitPort at h ⊢
    split
    · exact List.not_mem_nil
    · next hc =>
      rw [if_neg hc] at h
      have hcolon : c ≠ ':' := fun hc' => hc ⟨hc', rfl⟩
      have hbracket : c ≠ '[' := by
        rintro rfl
        exact h List.mem_cons_self
      have hinside : (if c = '[' then true else if c = ']' then false else false) = false := by
        rw [if_neg hbracket, ite_self]
      rw [hinside] at h ⊢
      intro hmem
      rcases List.mem_cons.mp hmem with rfl | hmem
      · exact hcolon rfl
      · exact ih (fun hb => h (List.mem_cons_of_mem _ hb)) hmem

/-! ## The beginning of an authority -/

/-- A symbol that has no meaning before the host: no slash, tab, or at sign. -/
def isPlain (c : Char) : Bool := !isRemoved c && !isEnd c && c != '@'

/-- A symbol with a meaning is in no host, is no letter and is in no address. -/
theorem isForbidden_of_isPlain {c : Char} (h : isPlain c = false) :
    isForbidden c = true ∧ c.toLower = c ∧ ¬ IsSymbol c := by
  have hall : (['\t', '\n', '\r', '/', '\\', '?', '#', '@'].all fun d => isForbidden d
      && (d.toLower == d) && !(isDigitOf 16 d || d == ':' || d == '.')) = true := by decide
  suffices hmem : c ∈ ['\t', '\n', '\r', '/', '\\', '?', '#', '@'] by
    have hc := List.all_eq_true.mp hall c hmem
    rw [Bool.and_eq_true, Bool.and_eq_true, beq_iff_eq, Bool.not_eq_true', Bool.or_eq_false_iff,
      Bool.or_eq_false_iff, beq_eq_false_iff_ne, beq_eq_false_iff_ne] at hc
    obtain ⟨⟨hforbidden, hlower⟩, ⟨hdigit, hcolon⟩, hdot⟩ := hc
    refine ⟨hforbidden, hlower, ?_⟩
    rintro (h | h | h)
    · exact absurd (h.symm.trans hdigit) (by decide)
    · exact hcolon h
    · exact hdot h
  unfold isPlain isRemoved isEnd at h
  simp only [List.contains_eq_mem, Bool.and_eq_false_iff, Bool.not_eq_false', decide_eq_true_eq,
    bne_eq_false_iff_eq] at h
  rcases h with (h | h) | rfl
  · exact List.mem_append_left ['/', '\\', '?', '#', '@'] h
  · exact List.mem_append_right ['\t', '\n', '\r'] (List.mem_append_left ['@'] h)
  · decide

/-- What is behind the beginning of an authority. -/
def remainder (text : List Char) : List Char :=
  (text.filter fun c => !isRemoved c).takeWhile fun c => !isEnd c

/-- **An authority begins as its text does.** -/
theorem authority_append {start : List Char} (hne : start ≠ [])
    (hplain : ∀ c ∈ start, isPlain c = true) (rest : List Char) :
    authority (start ++ rest) = start ++ remainder rest := by
  have hsplit : ∀ c ∈ start, (!isRemoved c) = true ∧ (!isEnd c) = true := by
    intro c hc
    have h := hplain c hc
    unfold isPlain at h
    simp only [Bool.and_eq_true] at h
    exact h.1
  have hfilter : (start ++ rest).filter (fun c => !isRemoved c)
      = start ++ rest.filter fun c => !isRemoved c := by
    rw [List.filter_append, List.filter_eq_self.mpr fun c hc => (hsplit c hc).1]
  obtain ⟨c, start', rfl⟩ := List.exists_cons_of_ne_nil hne
  have hslash : isSlash c = false := by
    have hend := (hsplit c List.mem_cons_self).2
    unfold isEnd at hend
    unfold isSlash
    simp only [List.contains_cons, Bool.not_eq_true', Bool.or_eq_false_iff] at hend ⊢
    exact ⟨hend.1, hend.2.1, rfl⟩
  unfold authority remainder
  rw [hfilter, List.cons_append, List.dropWhile_cons, hslash]
  simp only [Bool.false_eq_true, if_false]
  rw [← List.cons_append, List.takeWhile_append_of_pos fun c hc => (hsplit c hc).2]

/-! ## The host of a text -/

theorem portOf_digits {port : List Char} (h : portOf (some port) ≠ none) : ':' ∉ port := by
  cases port with
  | nil => exact List.not_mem_nil
  | cons c digits =>
    by_cases hdigits : (c :: digits).all (isDigitOf 10) = true
    · intro hmem
      exact absurd (List.all_eq_true.mp hdigits ':' hmem) (by decide)
    · exact absurd (if_neg fun hvalid => hdigits hvalid.1) h

/-- Where no at sign follows, the host is split off the whole authority. -/
theorem hostPort_append {start : List Char} (hne : start ≠ [])
    (hplain : ∀ c ∈ start, isPlain c = true) {rest : List Char} (hat : '@' ∉ remainder rest) :
    hostPort (start ++ rest) = splitPort false (start ++ remainder rest) := by
  have hstart : '@' ∉ start := fun h => absurd (hplain '@' h) (by decide)
  unfold hostPort
  rw [authority_append hne hplain, afterLast_eq_self]
  exact fun h => (List.mem_append.mp h).elim hstart hat

/-- **The host is what is before the only colon**, if no bracket is in it and the
port is one. -/
theorem hostText_eq_of_plain {start : List Char} (hne : start ≠ [])
    (hplain : ∀ c ∈ start, isPlain c = true) {rest : List Char} (hat : '@' ∉ remainder rest)
    (hrest : remainder rest = [] ∧ ':' ∉ start ∨ ∃ v, remainder rest = ':' :: v ∧ ':' ∉ v)
    (hbracket : '[' ∉ hostText (start ++ rest)) (hport : portOf (hostPort (start ++ rest)).2 ≠ none) :
    hostText (start ++ rest) = start := by
  have hsplit := splitPort_eq false (start ++ remainder rest)
  unfold hostText at hbracket ⊢
  rw [hostPort_append hne hplain hat] at hbracket hport ⊢
  have hcolon := colon_not_mem_splitPort hbracket
  generalize splitPort false (start ++ remainder rest) = split at hsplit hcolon hport ⊢
  obtain ⟨host, port⟩ := split
  dsimp only at hsplit hcolon hport ⊢
  cases port with
  | none =>
    simp only [Option.elim_none, List.append_nil] at hsplit
    rcases hrest with ⟨hnil, -⟩ | ⟨v, hv, -⟩
    · rw [← hsplit, hnil, List.append_nil]
    · rw [← hsplit, hv] at hcolon
      exact absurd (List.mem_append_right _ List.mem_cons_self) hcolon
  | some port =>
    simp only [Option.elim_some] at hsplit
    have hdigits := portOf_digits hport
    rcases hrest with ⟨hnil, hstart⟩ | ⟨v, hv, hcolons⟩
    · rw [hnil, List.append_nil] at hsplit
      rw [hsplit] at hstart
      exact absurd (List.mem_append_right _ List.mem_cons_self) hstart
    · rw [hv] at hsplit
      -- neither has a colon behind it
      have hcount : start.count ':' = host.count ':' := by
        have htotal := congrArg (List.count ':') hsplit
        simp only [List.count_append, List.count_cons_self, List.count_eq_zero.mpr hcolons,
          List.count_eq_zero.mpr hdigits] at htotal
        omega
      exact (Delimited.append_cons_inj_of_count hcount hsplit).1.symm

/-- What is in brackets is an address of version six. -/
theorem hostOf_bracket {N : NameReader} {rest : List Char} {host : Host}
    (h : hostOf N ('[' :: rest) = some host) :
    ∃ inner a, rest = inner ++ [']'] ∧ readIpv6 inner = some (a, []) ∧ host = .ip (.v6 a) := by
  have hbracket : hostOf N ('[' :: rest) = if rest.getLast? = some ']' then
      match readIpv6 rest.dropLast with
      | some (a, []) => some (.ip (.v6 a))
      | _ => none
    else none := rfl
  rw [hbracket] at h
  split at h
  · next hlast =>
    split at h
    · next a hread =>
      refine ⟨rest.dropLast, a, ?_, hread, (Option.some.inj h).symm⟩
      have hne : rest ≠ [] := by
        rintro rfl
        exact absurd hlast (by simp)
      rw [List.getLast?_eq_some_getLast hne] at hlast
      rw [← Option.some.inj hlast]
      exact (List.dropLast_append_getLast hne).symm
    · exact absurd h (by simp)
  · exact absurd h (by simp)

/-- Without brackets the host is read as one. -/
theorem hostOf_eq_some_of_head {N : NameReader} {text : List Char} {host : Host}
    (hhead : text.head? ≠ some '[') (h : hostOf N text = some host) :
    text ≠ [] ∧ N.read text = some host := by
  unfold hostOf at h
  split at h
  · exact absurd h (by simp)
  · exact absurd rfl hhead
  · next hne _ => exact ⟨hne, h⟩

/-- A name has none of the symbols that no host has. -/
theorem isForbidden_of_hostOf {N : NameReader} {text name : List Char}
    (h : hostOf N text = some (.name name)) : ∀ c ∈ name, isForbidden c = false := by
  by_cases hhead : text.head? = some '['
  · obtain ⟨rest, rfl⟩ := List.head?_eq_some_iff.mp hhead
    obtain ⟨_, _, _, _, hname⟩ := hostOf_bracket h
    exact absurd hname (by simp)
  · exact N.name_valid text name (hostOf_eq_some_of_head hhead h).2

/-- **The address in brackets is up to the first that closes.** -/
theorem hostOf_bracketed {N : NameReader} {inner : List Char}
    (hplain : ∀ c ∈ inner, isPlain c = true) (hinner : ']' ∉ inner) {rest : List Char}
    (hat : '@' ∉ remainder rest) (hrest : remainder rest = [] ∨ ∃ v, remainder rest = ']' :: v)
    {host : Host} (h : hostOf N (hostText ('[' :: inner ++ rest)) = some host) :
    ∃ a, host = .ip (.v6 a) ∧ readIpv6 inner = some (a, []) := by
  have hall : ∀ c ∈ '[' :: inner, isPlain c = true := by
    intro c hc
    rcases List.mem_cons.mp hc with rfl | hc
    · decide
    · exact hplain c hc
  unfold hostText at h
  rw [hostPort_append (List.cons_ne_nil _ _) hall hat] at h
  have hsplit := splitPort_eq true (inner ++ remainder rest)
  have hfirst : (splitPort false ('[' :: inner ++ remainder rest)).1
      = '[' :: (splitPort true (inner ++ remainder rest)).1 := rfl
  rw [hfirst] at h
  generalize splitPort true (inner ++ remainder rest) = split at hsplit h
  obtain ⟨text, port⟩ := split
  dsimp only at hsplit h
  obtain ⟨address, a, rfl, hread, rfl⟩ := hostOf_bracket h
  refine ⟨a, rfl, ?_⟩
  have haddress : ']' ∉ address := by
    intro hmem
    rcases IpAddr.isSymbol_of_ofText (IpAddr.ofText_eq_v6_iff.mpr hread) ']' hmem with h | h | h
    · exact absurd h (by decide)
    · exact absurd h (by decide)
    · exact absurd h (by decide)
  rw [List.append_assoc, List.singleton_append] at hsplit
  rcases hrest with hnil | ⟨v, hv⟩
  · rw [hnil, List.append_nil] at hsplit
    rw [hsplit] at hinner
    exact absurd (List.mem_append_right _ List.mem_cons_self) hinner
  · rw [hv] at hsplit
    have hcount : inner.count ']' = address.count ']' := by
      rw [List.count_eq_zero.mpr hinner, List.count_eq_zero.mpr haddress]
    rw [(Delimited.append_cons_inj_of_count hcount hsplit).1]
    exact hread

theorem target_eq_some_iff {N : NameReader} {url : List Char} {t : Target} :
    target N url = some t ↔
      ∃ port text given, stripScheme url = some (port, text) ∧ hostOf N (hostText text) = some t.host
        ∧ portOf (hostPort text).2 = some given ∧ given.getD port = t.port := by
  unfold target
  simp only [Option.bind_eq_bind, Option.bind_eq_some_iff, Option.pure_def, Option.some.injEq,
    Prod.exists]
  constructor
  · rintro ⟨port, text, hscheme, host, hhost, given, hgiven, rfl⟩
    exact ⟨port, text, given, hscheme, hhost, hgiven, rfl⟩
  · rintro ⟨port, text, given, hscheme, hhost, hgiven, hport⟩
    exact ⟨port, text, hscheme, _, hhost, given, hgiven, by rw [hport]⟩

/-- An authority ends at a slash. -/
theorem remainder_slash {rest : List Char} (h : rest = [] ∨ ∃ v, rest = '/' :: v) :
    remainder rest = [] := by
  rcases h with rfl | ⟨v, rfl⟩
  · rfl
  · rfl

theorem not_mem_remainder {c : Char} {v rest : List Char} (hv : c ∉ v)
    (h : rest = [] ∨ ∃ w, rest = '/' :: w) : c ∉ remainder (v ++ rest) := by
  intro hmem
  have hrest := remainder_slash h
  unfold remainder at hmem hrest
  rw [List.filter_append, List.takeWhile_append, hrest, List.append_nil] at hmem
  have hfilter : c ∈ v.filter fun c => !isRemoved c := by
    split at hmem
    · exact hmem
    · exact (List.takeWhile_prefix _).subset hmem
  exact hv (List.mem_filter.mp hfilter).1

end Authority
