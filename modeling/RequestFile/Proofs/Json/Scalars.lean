import RequestFile.Json

/-!
This module contains where the scalars of a JSON text end: a string at the first quotation mark that is
not escaped, and a number before the first character that no number has.
-/

namespace RequestFile

namespace Json

def shortEscapes : List (Char × Char) :=
  [('"', '"'), ('\\', '\\'), ('\n', 'n'), ('\r', 'r'), ('\t', 't'), ('\x08', 'b'), ('\x0c', 'f')]

inductive Escapes : Char → List Char → Prop where
  | short {c k : Char} (h : (c, k) ∈ shortEscapes) : Escapes c ['\\', k]
  | code {c : Char} (h : c.toNat < 0x20) : Escapes c ('\\' :: 'u' :: Text.hexadecimal 4 c.toNat)
  | itself {c : Char} (hquote : c ≠ '"') (hbackslash : c ≠ '\\') : Escapes c [c]

theorem escapes_escapeChar (c : Char) : Escapes c (escapeChar c) := by
  unfold escapeChar
  split
  · next h => exact .short (by simp [h, shortEscapes])
  split
  · next h => exact .short (by simp [h, shortEscapes])
  split
  · next h => exact .short (by simp [h, shortEscapes])
  split
  · next h => exact .short (by simp [h, shortEscapes])
  split
  · next h => exact .short (by simp [h, shortEscapes])
  split
  · next h => exact .short (by simp [h, shortEscapes])
  split
  · next h => exact .short (by simp [h, shortEscapes])
  split
  · next h => exact .code h
  · exact .itself ‹_› ‹_›

theorem length_hexadecimal_control : ∀ n < 0x20, (Text.hexadecimal 4 n).length = 4 := by
  decide

theorem ofDigits_hexadecimal_control : ∀ n < 0x20, Text.ofDigits 16 (Text.hexadecimal 4 n) = n := by
  decide

theorem fst_eq_of_mem_shortEscapes
    : ∀ e ∈ shortEscapes, ∀ e' ∈ shortEscapes, e.2 = e'.2 → e.1 = e'.1 := by
  decide

theorem ne_of_mem_shortEscapes : ∀ e ∈ shortEscapes, e.2 ≠ 'u' := by
  decide

theorem Escapes.append_inj {c d : Char} {u v x y : List Char} (hc : Escapes c u) (hd : Escapes d v)
    (h : u ++ x = v ++ y) : c = d ∧ x = y := by
  cases hc with
  | short hk =>
    cases hd with
    | short hl =>
      simp only [List.cons_append, List.nil_append, List.cons.injEq, true_and] at h
      exact ⟨fst_eq_of_mem_shortEscapes _ hk _ hl h.1, h.2⟩
    | code =>
      simp only [List.cons_append, List.nil_append, List.cons.injEq, true_and] at h
      exact absurd h.1 (ne_of_mem_shortEscapes _ hk)
    | itself _ hbackslash =>
      simp only [List.cons_append, List.cons.injEq] at h
      exact absurd h.1.symm hbackslash
  | code hc =>
    cases hd with
    | short hl =>
      simp only [List.cons_append, List.nil_append, List.cons.injEq, true_and] at h
      exact absurd h.1.symm (ne_of_mem_shortEscapes _ hl)
    | code hd =>
      simp only [List.cons_append, List.cons.injEq, true_and] at h
      have hlength := (length_hexadecimal_control _ hc).trans (length_hexadecimal_control _ hd).symm
      obtain ⟨hdigits, hrest⟩ := List.append_inj h hlength
      have hcode := congrArg (Text.ofDigits 16) hdigits
      rw [ofDigits_hexadecimal_control _ hc, ofDigits_hexadecimal_control _ hd] at hcode
      exact ⟨Char.toNat_inj.mp hcode, hrest⟩
    | itself _ hbackslash =>
      simp only [List.cons_append, List.cons.injEq] at h
      exact absurd h.1.symm hbackslash
  | itself _ hbackslash =>
    cases hd with
    | short =>
      simp only [List.cons_append, List.cons.injEq] at h
      exact absurd h.1 hbackslash
    | code =>
      simp only [List.cons_append, List.cons.injEq] at h
      exact absurd h.1 hbackslash
    | itself =>
      simpa using h

theorem escapeChar_append_ne (c : Char) (x y : List Char) : escapeChar c ++ x ≠ '"' :: y := by
  intro h
  have hc := escapes_escapeChar c
  generalize escapeChar c = u at h hc
  cases hc with
  | short => simp at h
  | code => simp at h
  | itself hquote => exact hquote (by simpa using (List.cons.inj h).1)

theorem flatMap_escapeChar_append_inj {s t x y : List Char}
    (h : s.flatMap escapeChar ++ '"' :: x = t.flatMap escapeChar ++ '"' :: y) : s = t ∧ x = y := by
  induction s generalizing t with
  | nil =>
    cases t with
    | nil => simpa using h
    | cons d t =>
      rw [List.flatMap_cons, List.append_assoc] at h
      exact absurd h.symm (escapeChar_append_ne d _ _)
  | cons c s ih =>
    rw [List.flatMap_cons, List.append_assoc] at h
    cases t with
    | nil => exact absurd h (escapeChar_append_ne c _ _)
    | cons d t =>
      rw [List.flatMap_cons, List.append_assoc] at h
      obtain ⟨rfl, htails⟩ := (escapes_escapeChar c).append_inj (escapes_escapeChar d) h
      obtain ⟨rfl, hrest⟩ := ih htails
      exact ⟨rfl, hrest⟩

theorem quote_append_inj {s t x y : List Char} (h : quote s ++ x = quote t ++ y)
    : s = t ∧ x = y := by
  simp only [quote, List.cons_append, List.append_assoc, List.nil_append, List.cons.injEq,
    true_and] at h
  exact flatMap_escapeChar_append_inj h

end Json

def isNumberChar (c : Char) : Prop :=
  c.isDigit = true ∨ c ∈ ['+', '-', '.', 'a', 'e', 'f', 'i', 'n']

theorem isNumberChar_of_isDigit {c : Char} (h : c.isDigit = true) : isNumberChar c := .inl h

theorem isNumberChar_minus : isNumberChar '-' := .inr (by simp)

theorem isNumberChar_of_mem_toDigits {n : Nat} {c : Char} (h : c ∈ Nat.toDigits 10 n)
    : isNumberChar c :=
  isNumberChar_of_isDigit (Nat.isDigit_of_mem_toDigits (by omega) (by omega) h)

theorem isNumberChar_of_mem_toString {n : Int} {c : Char} (h : c ∈ (toString n).toList)
    : isNumberChar c := by
  have hrepr : toString n = n.repr := rfl
  rw [hrepr, Int.repr_eq_if] at h
  split at h
  · rw [Nat.repr_eq_ofList_toDigits, String.toList_ofList] at h
    exact isNumberChar_of_mem_toDigits h
  · rw [Nat.repr_eq_ofList_toDigits, String.toList_append, List.mem_append] at h
    cases h with
    | inl hsign =>
      rw [List.mem_singleton.mp hsign]
      exact isNumberChar_minus
    | inr hdigits =>
      rw [String.toList_ofList] at hdigits
      exact isNumberChar_of_mem_toDigits hdigits

theorem toString_int_ne_nil (n : Int) : (toString n).toList ≠ [] := by
  have hrepr : toString n = n.repr := rfl
  rw [hrepr, Int.repr_eq_if]
  split
  · rw [Nat.repr_eq_ofList_toDigits, String.toList_ofList]
    exact Nat.toDigits_ne_nil
  · simp

namespace Decimal

theorem isNumberChar_of_mem_decimal {width n : Nat} {c : Char} (h : c ∈ Text.decimal width n)
    : isNumberChar c := by
  rw [Text.decimal, Text.padded, List.mem_append] at h
  cases h with
  | inl hzero =>
    rw [List.eq_of_mem_replicate hzero]
    exact isNumberChar_of_isDigit rfl
  | inr hdigit => exact isNumberChar_of_mem_toDigits hdigit

namespace Layout

variable {layout : Layout} {digits : List Char} {e : Int} {c : Char}

theorem mem_significant (h : c ∈ significant digits) : c = '0' ∨ c ∈ digits := by
  unfold significant at h
  split at h
  · exact .inl (List.mem_singleton.mp h)
  · rw [List.mem_reverse] at h
    exact .inr (List.mem_reverse.mp (List.dropWhile_suffix _ |>.mem h))

theorem isNumberChar_of_mem_plain (hdigits : ∀ c ∈ digits, isNumberChar c) (h : c ∈ plain digits e)
    : isNumberChar c := by
  have hzero : isNumberChar '0' := isNumberChar_of_isDigit rfl
  have hpoint : isNumberChar '.' := .inr (by simp)
  unfold plain at h
  split at h
  · simp only [List.cons_append, List.mem_cons, List.mem_append, List.mem_replicate] at h
    rcases h with rfl | rfl | ⟨_, rfl⟩ | h
    · exact hzero
    · exact hpoint
    · exact hzero
    · exact hdigits c h
  · simp only [List.mem_append, List.mem_cons, List.mem_replicate] at h
    rcases h with (h | ⟨_, rfl⟩) | rfl | h
    · exact hdigits c (List.mem_of_mem_take h)
    · exact hzero
    · exact hpoint
    · split at h
      · rw [List.mem_singleton.mp h]
        exact hzero
      · exact hdigits c (List.mem_of_mem_drop h)

theorem isNumberChar_of_mem_withExponent (hdigits : ∀ c ∈ digits, isNumberChar c)
    (h : c ∈ layout.withExponent digits e) : isNumberChar c := by
  unfold withExponent at h
  simp only [List.mem_append, List.mem_cons] at h
  rcases h with (h | h) | rfl | rfl | h
  · exact hdigits c (List.mem_of_mem_take h)
  · split at h
    · cases h
    · rw [List.mem_cons] at h
      cases h with
      | inl hpoint => exact .inr (by simp [hpoint])
      | inr hdigit => exact hdigits c (List.mem_of_mem_drop hdigit)
  · exact .inr (by simp)
  · split
    · exact .inr (by simp)
    · exact .inr (by simp)
  · exact isNumberChar_of_mem_decimal h

theorem isNumberChar_of_mem_scientific {d : Scientific} (h : c ∈ layout.scientific d)
    : isNumberChar c := by
  have hdigits : ∀ c ∈ significant (Nat.toDigits 10 d.coefficient), isNumberChar c := by
    intro c hc
    cases mem_significant hc with
    | inl hzero =>
      rw [hzero]
      exact isNumberChar_of_isDigit rfl
    | inr hdigit => exact isNumberChar_of_mem_toDigits hdigit
  unfold scientific at h
  extract_lets all e digits at h
  split at h
  · exact isNumberChar_of_mem_plain hdigits h
  · exact isNumberChar_of_mem_withExponent hdigits h

theorem scientific_ne_nil (d : Scientific) : layout.scientific d ≠ [] := by
  unfold scientific
  extract_lets all e digits
  split
  · unfold plain
    split <;> simp
  · simp [withExponent]

end Layout

theorem isNumberChar_of_mem_signed {negative : Bool} {s : String} {c : Char}
    (hs : ∀ c ∈ s.toList, isNumberChar c)
    (h : c ∈ (if negative = true then "-" ++ s else s).toList) : isNumberChar c := by
  split at h
  · rw [String.toList_append, List.mem_append] at h
    cases h with
    | inl hsign =>
      rw [List.mem_singleton.mp hsign]
      exact isNumberChar_minus
    | inr hmem => exact hs c hmem
  · exact hs c h

theorem signed_ne_nil {negative : Bool} {s : String} (hs : s.toList ≠ [])
    : (if negative = true then "-" ++ s else s).toList ≠ [] := by
  split
  · simp
  · exact hs

theorem isNumberChar_of_mem_text {x : Float} {c : Char} (h : c ∈ (text x).toList)
    : isNumberChar c := by
  have hwords : ∀ c ∈ ['i', 'n', 'f', 'a'], isNumberChar c := by
    intro c hc
    exact .inr (by simp at hc ⊢; grind)
  unfold text Layout.double at h
  extract_lets signed at h
  split at h
  · exact hwords c (by simp [standardLayout] at h; grind)
  · apply isNumberChar_of_mem_signed _ h
    intro c hc
    exact hwords c (by simp [standardLayout] at hc; grind)
  · apply isNumberChar_of_mem_signed _ h
    intro c hc
    rw [String.toList_ofList] at hc
    exact Layout.isNumberChar_of_mem_scientific hc

theorem text_ne_nil (x : Float) : (text x).toList ≠ [] := by
  unfold text Layout.double
  extract_lets signed
  split
  · simp [standardLayout]
  · apply signed_ne_nil
    simp [standardLayout]
  · apply signed_ne_nil
    rw [String.toList_ofList]
    exact Layout.scientific_ne_nil _

end Decimal

end RequestFile
