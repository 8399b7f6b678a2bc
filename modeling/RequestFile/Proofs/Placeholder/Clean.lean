import Mathlib.Data.List.Infix
import RequestFile.Proofs.Placeholder.Scanning

/-!
This module contains the texts in which double braces occur as tokens only. In such a text values
without opening braces neither make nor destroy a token, so replacing names one after another is the
same as replacing all of them at once.
-/

namespace RequestFile.Placeholder

/--
Every occurrence of two opening braces begins a token of a valid name.
-/
def IsClean (text : List Char) : Prop :=
  ∀ suffix, suffix <:+ text → ['\x7b', '\x7b'] <+: suffix →
    ∃ name, isName name = true ∧ token name <+: suffix

theorem isClean_iff_nameAt? {text : List Char}
    : IsClean text
        ↔
      ∀ suffix ∈ text.tails, ['\x7b', '\x7b'] <+: suffix → (nameAt? suffix).isSome := by
  simp only [IsClean, List.mem_tails, Option.isSome_iff_exists, nameAt?_eq_some_iff]

instance (text : List Char) : Decidable (IsClean text) :=
  decidable_of_iff _ isClean_iff_nameAt?.symm

theorem isClean_nil : IsClean [] := by
  intro suffix hsuffix hbraces
  rw [List.suffix_nil] at hsuffix
  simp [hsuffix] at hbraces

theorem isClean_cons_iff {c : Char} {rest : List Char}
    : IsClean (c :: rest)
        ↔
      (['\x7b', '\x7b'] <+: c :: rest → ∃ name, isName name = true ∧ token name <+: c :: rest)
        ∧ IsClean rest := by
  constructor
  · intro h
    refine ⟨h _ (List.suffix_refl _), ?_⟩
    intro suffix hsuffix
    exact h suffix (hsuffix.trans (List.suffix_cons c rest))
  · rintro ⟨hhead, hrest⟩ suffix hsuffix
    rw [List.suffix_cons_iff] at hsuffix
    cases hsuffix with
    | inl heq => rwa [heq]
    | inr hsuffix => exact hrest suffix hsuffix

theorem IsClean.tail {c : Char} {rest : List Char} (h : IsClean (c :: rest)) : IsClean rest :=
  (isClean_cons_iff.mp h).2

theorem IsClean.of_append {s rest : List Char} (h : IsClean (s ++ rest)) : IsClean rest := by
  intro suffix hsuffix
  exact h suffix (hsuffix.trans (List.suffix_append s rest))

theorem isClean_cons {c : Char} {rest : List Char} (hbrace : c = '\x7b' → rest.head? ≠ some '\x7b')
    (h : IsClean rest) : IsClean (c :: rest) := by
  rw [isClean_cons_iff]
  refine ⟨?_, h⟩
  rintro ⟨after, hafter⟩
  simp only [List.cons_append, List.nil_append, List.cons.injEq] at hafter
  exfalso
  apply hbrace hafter.1.symm
  rw [← hafter.2]
  rfl

theorem isClean_append {s rest : List Char} (hs : '\x7b' ∉ s) (h : IsClean rest)
    : IsClean (s ++ rest) := by
  induction s with
  | nil => exact h
  | cons c s ih =>
    simp only [List.mem_cons, not_or] at hs
    apply isClean_cons
    · intro hc
      exact absurd hc.symm hs.1
    · exact ih hs.2

theorem isClean_token_append {name rest : List Char} (hname : isName name = true)
    (h : IsClean rest) : IsClean (token name ++ rest) := by
  have htail : IsClean ('\x7b' :: ((name ++ ['\x7d', '\x7d']) ++ rest)) := by
    have hne := forall_ne_of_isName hname
    rw [isClean_cons_iff]
    constructor
    · intro hbraces
      rcases List.exists_cons_of_ne_nil (isName_iff.mp hname).1 with ⟨c, name, rfl⟩
      simp only [List.cons_append, List.cons_prefix_cons] at hbraces
      exact absurd hbraces.2.1.symm (hne c (by simp))
    · exact isClean_append (fun hmem => hne _ hmem rfl) h
  rw [token_append_eq]
  rw [isClean_cons_iff]
  exact ⟨fun _ => ⟨name, hname, List.prefix_append _ _⟩, htail⟩

@[elab_as_elim]
theorem IsClean.induction {motive : (text : List Char) → IsClean text → Prop}
    (nil : motive [] isClean_nil)
    (char : ∀ c rest (hbrace : c = '\x7b' → rest.head? ≠ some '\x7b') (hrest : IsClean rest),
      motive rest hrest → motive (c :: rest) (isClean_cons hbrace hrest))
    (token : ∀ name rest (hname : isName name = true) (hrest : IsClean rest),
      motive rest hrest → motive (token name ++ rest) (isClean_token_append hname hrest))
    {text : List Char} (h : IsClean text) : motive text h := by
  induction text using scanInduction with
  | nil => exact nil
  | char c rest hat ih =>
    apply char c rest _ h.tail (ih h.tail)
    rintro rfl hhead
    rcases List.head?_eq_some_iff.mp hhead with ⟨rest, rfl⟩
    rcases (isClean_cons_iff.mp h).1 (by simp) with ⟨name, hname, hbegin⟩
    exact not_token_prefix_cons hname hat hbegin
  | token name rest hname ih => exact token name rest hname h.of_append (ih h.of_append)

def IsPlain (values : List Char → Option (List Char)) : Prop :=
  ∀ name value, values name = some value → '\x7b' ∉ value

variable {values later : List Char → Option (List Char)}

theorem isPlain_only {name value : List Char} (h : '\x7b' ∉ value) : IsPlain (only name value) := by
  intro other found hfound
  unfold only at hfound
  split at hfound
  · rwa [← Option.some.inj hfound]
  · simp at hfound

theorem head?_substitute_ne {text : List Char} (h : IsClean text)
    (hhead : text.head? ≠ some '\x7b') : (substitute values text).head? ≠ some '\x7b' := by
  induction h using IsClean.induction with
  | nil => simp
  | char c rest hbrace _ _ =>
    rw [substitute_cons (nameAt?_cons_eq_none hbrace)]
    simpa using hhead
  | token name rest _ _ _ =>
    rw [token_append_eq] at hhead
    simp at hhead

theorem nameAt?_cons_substitute {c : Char} {rest : List Char}
    (hbrace : c = '\x7b' → rest.head? ≠ some '\x7b') (h : IsClean rest)
    : nameAt? (c :: substitute values rest) = none :=
  nameAt?_cons_eq_none fun hc => head?_substitute_ne h (hbrace hc)

theorem isClean_substitute (hvalues : IsPlain values) {text : List Char} (h : IsClean text)
    : IsClean (substitute values text) := by
  induction h using IsClean.induction with
  | nil => exact isClean_nil
  | char c rest hbrace hrest ih =>
    rw [substitute_cons (nameAt?_cons_eq_none hbrace)]
    apply isClean_cons _ ih
    intro hc
    exact head?_substitute_ne hrest (hbrace hc)
  | token name rest hname hrest ih =>
    rw [substitute_token_append hname]
    cases hvalue : values name with
    | none => exact isClean_token_append hname ih
    | some value => exact isClean_append (hvalues name value hvalue) ih

theorem substitute_substitute (hvalues : IsPlain values) {text : List Char} (h : IsClean text)
    : substitute later (substitute values text)
        =
      substitute (fun name => (values name).or (later name)) text := by
  induction h using IsClean.induction with
  | nil => rfl
  | char c rest hbrace hrest ih =>
    have hat := nameAt?_cons_eq_none hbrace
    rw [substitute_cons hat, substitute_cons (nameAt?_cons_substitute hbrace hrest)]
    rw [substitute_cons hat, ih]
  | token name rest hname hrest ih =>
    rw [substitute_token_append hname, substitute_token_append hname, ← ih]
    cases hvalue : values name with
    | none => simp [substitute_token_append hname]
    | some value => simp [substitute_append_of_not_mem (hvalues name value hvalue)]

theorem mem_or_mem_substitute_of_mem {text : List Char} {c : Char}
    (hc : c ∈ substitute values text)
    : c ∈ text ∨ c ∈ substitute (fun name => (values name).or (later name)) text := by
  induction text using scanInduction with
  | nil => simp at hc
  | char d rest hat ih =>
    rw [substitute_cons hat] at hc ⊢
    simp only [List.mem_cons] at hc ⊢
    grind
  | token name rest hname ih =>
    rw [substitute_token_append hname, List.mem_append] at hc
    rw [substitute_token_append hname, List.mem_append, List.mem_append]
    cases hvalue : values name with
    | none =>
      rw [hvalue] at hc
      exact hc.elim (fun hc => .inl (.inl hc)) fun hc => (ih hc).imp .inr .inr
    | some value =>
      rw [hvalue] at hc
      exact hc.elim (fun hc => .inr (.inl hc)) fun hc => (ih hc).imp .inr .inr

theorem mem_names_substitute (hvalues : IsPlain values) {text : List Char} (h : IsClean text)
    (name : List Char)
    : name ∈ names (substitute values text) ↔ name ∈ names text ∧ values name = none := by
  induction h using IsClean.induction with
  | nil => simp
  | char c rest hbrace hrest ih =>
    have hat := nameAt?_cons_eq_none hbrace
    rw [substitute_cons hat, mem_names_cons (nameAt?_cons_substitute hbrace hrest)]
    rw [mem_names_cons hat, ih]
  | token other rest hother hrest ih =>
    rw [substitute_token_append hother, mem_names_token_append hother]
    cases hvalue : values other with
    | none =>
      simp only [Option.getD_none, mem_names_token_append hother, ih]
      grind
    | some value =>
      simp only [Option.getD_some]
      rw [mem_names_append_of_not_mem (hvalues other value hvalue), ih]
      grind

end RequestFile.Placeholder
