import IicpDirectory.Canonical
import IicpDirectory.Foundations.Occurrence

/-!
# The texts a value holds

A value holds its strings and the keys of its objects. In its canonical form
each of them stands between quotation marks (`infix_quote_of_hasText`), and
a word of two colons or more, without the symbols the form is punctuated
with, can occur nowhere else: between two texts there is one colon at most
(`exists_hasText_of_infix`).
-/

namespace Json

/-- **A value holds a text**: it is the text, or a key, or an item or member
holds it. -/
inductive HasText : Json → String → Prop
  | string (s : String) : HasText (.string s) s
  | item {items : List Json} {v : Json} {s : String} (hv : v ∈ items) (hs : HasText v s) :
    HasText (.array items) s
  | key {entries : List (String × Json)} {e : String × Json} (he : e ∈ entries) :
    HasText (.object entries) e.1
  | member {entries : List (String × Json)} {e : String × Json} {s : String} (he : e ∈ entries)
    (hs : HasText e.2 s) : HasText (.object entries) s

/-- A text is the only one it holds. -/
theorem hasText_string {s t : String} (h : (string s).HasText t) : t = s := by
  cases h with
  | string => rfl

/-- What a list of strings holds is one of them. -/
theorem hasText_ofStrings {items : List String} {t : String} (h : (ofStrings items).HasText t) :
    t ∈ items := by
  cases h with
  | item hv hs =>
    obtain ⟨s, hs', rfl⟩ := List.mem_map.mp hv
    rw [hasText_string hs]
    exact hs'

/-- A member of an object that is there is a key it holds. -/
theorem HasText.of_get {v w : Json} {key : String} (h : v.get key = some w) : v.HasText key := by
  cases v with
  | object entries =>
    obtain ⟨e, he, _⟩ := Option.map_eq_some_iff.mp h
    obtain rfl : e.1 = key := by simpa using List.find?_some he
    exact .key (List.mem_of_find?_eq_some he)
  | _ => exact absurd h (by simp [get])

/-- The text under a key is held. -/
theorem HasText.of_getStr {v : Json} (key : String) {s : String} (h : v.getStr key = some s) :
    v.HasText s := by
  obtain ⟨w, hw, hs⟩ := Option.bind_eq_some_iff.mp h
  cases v with
  | object entries =>
    obtain ⟨e, he, rfl⟩ := Option.map_eq_some_iff.mp hw
    refine .member (List.mem_of_find?_eq_some he) ?_
    cases hv : e.2 with
    | string t =>
      rw [hv] at hs
      obtain rfl := Option.some.inj hs
      exact .string _
    | _ =>
      rw [hv] at hs
      exact absurd hs (by simp [asStr])
  | _ => exact absurd hw (by simp [get])

end Json

namespace Federation

open Occurrence

variable {L : Libs}

/-! ## Where a text stands -/

/-- **A text that is held stands in the canonical form**, between quotation
marks. -/
theorem infix_quote_of_hasText {v : Json} {s : String} (h : v.HasText s) :
    (quote s).toList <:+: (canonicalJson L v).toList := by
  induction h with
  | string s => exact List.infix_rfl
  | @item items v s hv _ ih =>
    rw [toList_canonicalJson_array]
    refine List.infix_cons (ih.trans ?_)
    exact infix_row (fun v => (canonicalJson L v).toList) hv
  | @key entries e he =>
    rw [toList_canonicalJson_object]
    have hmember : (quote e.1).toList <:+: memberText L e := List.infix_append_left
    exact List.infix_cons (hmember.trans (infix_row (memberText L) (Json.mem_sortMembers.mpr he)))
  | @member entries e s he _ ih =>
    rw [toList_canonicalJson_object]
    have hmember : (canonicalJson L e.2).toList <:+: memberText L e :=
      List.infix_append_of_infix_right (List.infix_cons List.infix_rfl)
    exact List.infix_cons ((ih.trans hmember).trans (infix_row (memberText L) (Json.mem_sortMembers.mpr he)))

/-- An escaped character is one character at least. -/
theorem one_le_length_escapeChar (c : Char) : 1 ≤ (escapeChar c).length := by
  unfold escapeChar
  split
  iterate 7 exact le_of_lt (by decide : 1 < 2)
  split
  · exact le_of_lt (by decide : 1 < 6)
  · exact le_refl 1

/-- **A canonical form is longer than each text it holds**, by two quotation
marks. -/
theorem length_le_of_hasText {v : Json} {s : String} (h : v.HasText s) :
    s.toList.length + 2 ≤ (canonicalJson L v).toList.length := by
  have hescaped : ∀ cs : List Char, cs.length ≤ (cs.flatMap escapeChar).length := by
    intro cs
    induction cs with
    | nil => exact le_refl 0
    | cons c cs ih =>
      rw [List.flatMap_cons, List.length_append, List.length_cons]
      have hone := one_le_length_escapeChar c
      omega
  have hquote := (infix_quote_of_hasText (L := L) h).length_le
  rw [toList_quote, List.length_cons, List.length_append, List.length_singleton] at hquote
  exact le_trans (by have := hescaped s.toList; omega) hquote

/-! ## Words that stand in texts only -/

/-- What a canonical form is punctuated with. -/
def punctuation : List Char :=
  [quoteMark, ',', '[', ']', Char.ofNat 123, Char.ofNat 125, Char.ofNat 92]

/-- **A word of texts**: it starts with a colon, has another, and nothing of
the punctuation. -/
structure TextWord (w : List Char) : Prop where
  head : w.head? = some ':'
  colons : 2 ≤ w.count ':'
  plain : ∀ c ∈ punctuation, c ∉ w

/-- An escape is no character, or behind a backslash, without a colon. -/
theorem escapeChar_cases (c : Char) :
    escapeChar c = [c] ∨ ∃ d, escapeChar c = Char.ofNat 92 :: d ∧ ':' ∉ d := by
  have hself : c.toNat ≠ 58 → ':' ∉ [c] := by
    intro hne hmem
    obtain rfl := List.mem_singleton.mp hmem
    exact hne rfl
  have hdigit : ∀ n, n < 16 → ':' ≠ Hex.digit n := by decide
  unfold escapeChar
  split
  · rename_i h
    exact Or.inr ⟨_, rfl, hself (by omega)⟩
  · rename_i h
    exact Or.inr ⟨_, rfl, hself (by omega)⟩
  iterate 5 exact Or.inr ⟨_, rfl, by decide⟩
  split
  · rename_i hlt
    refine Or.inr ⟨_, rfl, fun hmem => ?_⟩
    simp only [List.mem_cons, List.not_mem_nil, or_false] at hmem
    rcases hmem with h | h | h | h | h
    · exact absurd h (by decide)
    · exact absurd h (by decide)
    · exact absurd h (by decide)
    · exact hdigit _ (by omega) h
    · exact hdigit _ (by omega) h
  · exact Or.inl rfl

namespace TextWord

variable {w : List Char}

/-- A word of texts is a colon and a rest that has one. -/
theorem exists_cons (hw : TextWord w) : ∃ t, w = ':' :: t ∧ ':' ∈ t := by
  have hcolons := hw.colons
  cases w with
  | nil => exact absurd hw.head (by simp)
  | cons c t =>
    obtain rfl := Option.some.inj hw.head
    refine ⟨t, rfl, List.count_pos_iff.mp ?_⟩
    rw [List.count_cons_self] at hcolons
    omega

theorem ne_nil (hw : TextWord w) : w ≠ [] := by
  obtain ⟨t, rfl, _⟩ := hw.exists_cons
  exact List.cons_ne_nil _ _

/-- It occurs in nothing without a colon. -/
theorem not_infix (hw : TextWord w) {xs : List Char} (h : ':' ∉ xs) : ¬ w <:+: xs := by
  obtain ⟨t, rfl, _⟩ := hw.exists_cons
  exact fun hin => h (hin.subset List.mem_cons_self)

/-- **It occurs in a string or behind it.** -/
theorem infix_of_quote (hw : TextWord w) {s : String} {r : List Char}
    (h : w <:+: (quote s).toList ++ r) : w <:+: s.toList ∨ w <:+: r := by
  have hquote : quoteMark ∉ w := hw.plain _ (by decide)
  rw [toList_quote, List.cons_append, List.append_assoc, infix_cons_iff_of_notMem hquote] at h
  rcases (infix_append_cons_iff hquote).mp h with hin | hin
  · exact Or.inl (infix_of_flatMap hw.head escapeChar_cases (hw.plain _ (by decide)) hin)
  · exact Or.inr hin

/-- It is not made of the colon behind a key and what comes after it: a value
is opened by punctuation, or has no colon. -/
theorem not_prefix_cons (hL : L.PrintsNumbers) (hw : TextWord w) (v : Json) :
    ¬ w <+: ':' :: (canonicalJson L v).toList := by
  intro h
  obtain ⟨t, rfl, hcolon⟩ := hw.exists_cons
  have ht : t <+: (canonicalJson L v).toList := (List.cons_prefix_cons.mp h).2
  have hopened : ∀ c rest, c ∈ punctuation → (canonicalJson L v).toList = c :: rest → False := by
    intro c rest hc htext
    have hnil : t = [] := eq_nil_of_prefix_cons
      (fun hmem => hw.plain c hc (List.mem_cons_of_mem _ hmem)) (htext ▸ ht)
    rw [hnil] at hcolon
    exact List.not_mem_nil hcolon
  have hmem := ht.subset hcolon
  cases v with
  | null => exact absurd hmem (by simp [canonicalJson])
  | bool b => cases b <;> exact absurd hmem (by simp [canonicalJson])
  | number x => exact absurd (isNumberChar_of_mem hL hmem) (by decide)
  | string s => exact hopened quoteMark _ (by decide) (toList_quote s)
  | array items => exact hopened '[' _ (by decide) (toList_canonicalJson_array items)
  | object entries => exact hopened (Char.ofNat 123) _ (by decide) (toList_canonicalJson_object entries)

end TextWord

/-- **A word of texts that occurs in a canonical form occurs in a text the value
holds.** -/
theorem exists_hasText_of_infix (hL : L.PrintsNumbers) {w : List Char} (hw : TextWord w) {v : Json}
    (h : w <:+: (canonicalJson L v).toList) : ∃ s, v.HasText s ∧ w <:+: s.toList := by
  induction v using Json.induction with
  | null => exact absurd h (hw.not_infix (by simp [canonicalJson]))
  | bool b => cases b <;> exact absurd h (hw.not_infix (by simp [canonicalJson]))
  | number x =>
    refine absurd h (hw.not_infix fun hmem => ?_)
    exact absurd (isNumberChar_of_mem hL hmem) (by decide)
  | string s =>
    have h' : w <:+: (quote s).toList ++ [] := by
      rw [List.append_nil]
      exact h
    rcases hw.infix_of_quote h' with hin | hnil
    · exact ⟨s, .string s, hin⟩
    · exact absurd (List.infix_nil.mp hnil) hw.ne_nil
  | array items ih =>
    rw [toList_canonicalJson_array, infix_cons_iff_of_notMem (hw.plain _ (by decide))] at h
    obtain ⟨v, hv, hin⟩ := exists_infix_of_row hw.ne_nil (hw.plain _ (by decide))
      (hw.plain _ (by decide)) h
    obtain ⟨s, hs, hws⟩ := ih v hv hin
    exact ⟨s, .item hv hs, hws⟩
  | object entries ih =>
    rw [toList_canonicalJson_object, infix_cons_iff_of_notMem (hw.plain _ (by decide))] at h
    obtain ⟨e, he, hin⟩ := exists_infix_of_row hw.ne_nil (hw.plain _ (by decide))
      (hw.plain _ (by decide)) h
    have hentry := Json.mem_sortMembers.mp he
    rcases hw.infix_of_quote hin with hkey | hvalue
    · exact ⟨e.1, .key hentry, hkey⟩
    · rcases List.infix_cons_iff.mp hvalue with hstart | hin'
      · exact absurd hstart (hw.not_prefix_cons hL e.2)
      · obtain ⟨s, hs, hws⟩ := ih e hentry hin'
        exact ⟨s, .member hentry hs, hws⟩

/-- **A word that needs no escape occurs in the canonical form** where it occurs in
a text the value holds. -/
theorem infix_of_hasText {w : List Char} (hw : ∀ c ∈ w, escapeChar c = [c]) {v : Json} {s : String}
    (hs : v.HasText s) (h : w <:+: s.toList) : w <:+: (canonicalJson L v).toList := by
  have hescaped : w <:+: (quote s).toList := by
    rw [toList_quote]
    exact List.infix_cons (List.infix_append_of_infix_left (infix_flatMap hw h))
  exact hescaped.trans (infix_quote_of_hasText hs)

end Federation
