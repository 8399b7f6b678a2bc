import RequestFile.Placeholder.Template
import RequestFile.Text.Replace

/-!
This module contains what reading a text as pieces finds: a token of a valid name is always read as a
placeholder, wherever it stands, and literal replacement of a token meets exactly the placeholders of
its name.
-/

namespace RequestFile

namespace Text

variable {pattern value : List Char}

theorem replace.go_append (pattern value s rest : List Char)
    : replace.go pattern value s.length (s ++ rest) = replace.go pattern value 0 rest := by
  induction s with
  | nil => rfl
  | cons c s ih =>
    rw [List.length_cons, List.cons_append, replace.go]
    exact ih

theorem replace_append_self (hpattern : pattern ≠ []) (rest : List Char)
    : replace pattern value (pattern ++ rest) = value ++ replace pattern value rest := by
  cases pattern with
  | nil => contradiction
  | cons c pattern =>
    have hbegin : (c :: pattern).isPrefixOf (c :: (pattern ++ rest)) = true := by
      rw [List.isPrefixOf_iff_prefix]
      exact ⟨rest, rfl⟩
    have hskip := replace.go_append (c :: pattern) value pattern rest
    simp only [replace, List.isEmpty_cons, Bool.false_eq_true, if_false, List.cons_append]
    rw [replace.go]
    simp [hbegin, hskip]

theorem replace_cons_unmatched {c : Char} {rest : List Char} (hpattern : pattern ≠ [])
    (hbegin : ¬ pattern <+: c :: rest)
    : replace pattern value (c :: rest) = c :: replace pattern value rest := by
  rw [← List.isPrefixOf_iff_prefix] at hbegin
  simp [replace, replace.go, hpattern, hbegin]

theorem replace_of_not_infix {text : List Char} (hpattern : pattern ≠ [])
    (h : ¬ pattern <:+: text) : replace pattern value text = text := by
  induction text with
  | nil => exact replace_nil value hpattern
  | cons c rest ih =>
    rw [List.infix_cons_iff, not_or] at h
    rw [replace_cons_unmatched hpattern h.1, ih h.2]

theorem replace.mem_of_mem_everywhere {text : List Char} {c : Char}
    (h : c ∈ replace.everywhere value text) : c ∈ value ∨ c ∈ text := by
  induction text with
  | nil => exact .inl h
  | cons d rest ih =>
    rw [replace.everywhere, List.mem_append, List.mem_cons] at h
    grind

theorem replace.mem_of_mem_go {skip : Nat} {text : List Char} {c : Char}
    (h : c ∈ replace.go pattern value skip text) : c ∈ value ∨ c ∈ text := by
  induction text generalizing skip with
  | nil => simp at h
  | cons d rest ih =>
    cases skip with
    | succ skip => exact (ih h).imp_right (List.mem_cons_of_mem d)
    | zero =>
      rw [replace.go] at h
      split at h
      · rw [List.mem_append] at h
        exact h.elim .inl fun h => (ih h).imp_right (List.mem_cons_of_mem d)
      · rw [List.mem_cons] at h
        grind

theorem mem_of_mem_replace {text : List Char} {c : Char} (h : c ∈ replace pattern value text)
    : c ∈ value ∨ c ∈ text := by
  unfold replace at h
  split at h
  · exact replace.mem_of_mem_everywhere h
  · exact replace.mem_of_mem_go h

end Text

namespace Placeholder

theorem isNameChar_ne {c : Char} (h : isNameChar c = true) : c ≠ '\x7b' ∧ c ≠ '\x7d' := by
  simp only [isNameChar, Bool.and_eq_true, bne_iff_ne] at h
  exact h.1

theorem isName_iff {name : List Char}
    : isName name = true ↔ name ≠ [] ∧ ∀ c ∈ name, isNameChar c = true := by
  simp [isName]

theorem token_ne_nil (name : List Char) : token name ≠ [] := by
  simp [token]

theorem length_token (name : List Char) : (token name).length = name.length + 4 := by
  simp [token]

theorem nameAt?_token_append {name : List Char} (hname : isName name = true) (rest : List Char)
    : nameAt? (token name ++ rest) = some name := by
  have hall := (isName_iff.mp hname).2
  have htake : (name ++ '\x7d' :: '\x7d' :: rest).takeWhile isNameChar = name := by
    rw [List.takeWhile_append_of_pos hall]
    simp [isNameChar]
  have hdrop : (name ++ '\x7d' :: '\x7d' :: rest).dropWhile isNameChar
      = '\x7d' :: '\x7d' :: rest := by
    rw [List.dropWhile_append_of_pos hall]
    simp [isNameChar]
  simp [token, nameAt?, htake, hdrop, hname]

theorem nameAt?_eq_some_iff {text name : List Char}
    : nameAt? text = some name ↔ isName name = true ∧ token name <+: text := by
  constructor
  · intro h
    unfold nameAt? at h
    split at h
    · next rest =>
      dsimp only at h
      split at h
      · next hcond =>
        simp only [Option.some.injEq] at h
        simp only [Bool.and_eq_true, List.isPrefixOf_iff_prefix] at hcond
        rcases hcond with ⟨hname, after, hafter⟩
        rw [h] at hname
        refine ⟨hname, after, ?_⟩
        calc token name ++ after
          _ = '\x7b' :: '\x7b' :: (name ++ (['\x7d', '\x7d'] ++ after)) := by simp [token]
          _ = '\x7b' :: '\x7b' :: (rest.takeWhile isNameChar ++ rest.dropWhile isNameChar) := by
            rw [hafter, h]
          _ = '\x7b' :: '\x7b' :: rest := by rw [List.takeWhile_append_dropWhile]
      · simp at h
    · simp at h
  · rintro ⟨hname, rest, rfl⟩
    exact nameAt?_token_append hname rest

theorem nameAt?_cons_eq_none {c : Char} {rest : List Char}
    (h : c = '\x7b' → rest.head? ≠ some '\x7b') : nameAt? (c :: rest) = none := by
  rw [Option.eq_none_iff_forall_ne_some]
  intro name hname
  rcases nameAt?_eq_some_iff.mp hname with ⟨_, after, hafter⟩
  simp only [token, List.cons_append, List.cons.injEq] at hafter
  apply h hafter.1.symm
  rw [← hafter.2]
  rfl

theorem nameAt?_cons_of_ne {c : Char} (hc : c ≠ '\x7b') (rest : List Char)
    : nameAt? (c :: rest) = none :=
  nameAt?_cons_eq_none fun h => absurd h hc

theorem not_token_prefix_cons {c : Char} {rest name : List Char} (hname : isName name = true)
    (h : nameAt? (c :: rest) = none) : ¬ token name <+: c :: rest := by
  intro hbegin
  have := nameAt?_eq_some_iff.mpr ⟨hname, hbegin⟩
  rw [h] at this
  contradiction

theorem token_append_eq (name rest : List Char)
    : token name ++ rest = '\x7b' :: '\x7b' :: ((name ++ ['\x7d', '\x7d']) ++ rest) := rfl

theorem forall_ne_of_isName {name : List Char} (hname : isName name = true)
    : ∀ c ∈ name ++ ['\x7d', '\x7d'], c ≠ '\x7b' := by
  intro c hc
  rw [List.mem_append] at hc
  cases hc with
  | inl hc => exact (isNameChar_ne ((isName_iff.mp hname).2 c hc)).1
  | inr hc =>
    rintro rfl
    simp at hc

theorem nameAt?_second_brace {name : List Char} (hname : isName name = true) (rest : List Char)
    : nameAt? ('\x7b' :: ((name ++ ['\x7d', '\x7d']) ++ rest)) = none := by
  -- The second brace of a token is followed by a character of its name.
  have hne := forall_ne_of_isName hname
  rcases List.exists_cons_of_ne_nil (isName_iff.mp hname).1 with ⟨c, name, rfl⟩
  apply nameAt?_cons_eq_none
  intro _ hhead
  simp only [List.cons_append, List.head?_cons, Option.some.injEq] at hhead
  exact hne c (by simp) hhead

theorem not_token_prefix_cons_of_ne {c : Char} {rest name : List Char} (hc : c ≠ '\x7b')
    : ¬ token name <+: c :: rest := by
  rintro ⟨after, hafter⟩
  simp only [token, List.cons_append, List.cons.injEq] at hafter
  exact hc hafter.1.symm

theorem token_prefix_token_append {name other : List Char} (hname : isName name = true)
    (hother : isName other = true) (rest : List Char)
    : token name <+: token other ++ rest ↔ name = other := by
  constructor
  · intro hbegin
    have hat := nameAt?_eq_some_iff.mpr ⟨hname, hbegin⟩
    rw [nameAt?_token_append hother] at hat
    exact (Option.some.inj hat).symm
  · rintro rfl
    exact List.prefix_append _ _

theorem pieces.go_append (s rest : List Char) : pieces.go s.length (s ++ rest) = pieces.go 0 rest := by
  induction s with
  | nil => rfl
  | cons c s ih =>
    rw [List.length_cons, List.cons_append, pieces.go]
    exact ih

@[simp]
theorem pieces_nil : pieces [] = [] := rfl

theorem pieces_cons {c : Char} {rest : List Char} (h : nameAt? (c :: rest) = none)
    : pieces (c :: rest) = .char c :: pieces rest := by
  simp only [pieces]
  rw [pieces.go]
  simp [h]

theorem pieces_token_append {name : List Char} (hname : isName name = true) (rest : List Char)
    : pieces (token name ++ rest) = .placeholder name :: pieces rest := by
  have hat := nameAt?_token_append hname rest
  have hskip := pieces.go_append ('\x7b' :: name ++ ['\x7d', '\x7d']) rest
  have hlength : ('\x7b' :: name ++ ['\x7d', '\x7d']).length = name.length + 3 := by simp
  have htoken : token name ++ rest = '\x7b' :: ('\x7b' :: name ++ ['\x7d', '\x7d'] ++ rest) := rfl
  rw [hlength] at hskip
  rw [htoken] at hat ⊢
  unfold pieces
  rw [pieces.go]
  simp only [hat, hskip]

theorem pieces_append_of_not_mem {s : List Char} (hs : '\x7b' ∉ s) (rest : List Char)
    : pieces (s ++ rest) = s.map .char ++ pieces rest := by
  induction s with
  | nil => rfl
  | cons c s ih =>
    simp only [List.mem_cons, not_or] at hs
    rw [List.cons_append, pieces_cons (nameAt?_cons_of_ne (Ne.symm hs.1) _), ih hs.2]
    rfl

@[elab_as_elim]
theorem scanInduction {motive : List Char → Prop} (text : List Char) (nil : motive [])
    (char : ∀ c rest, nameAt? (c :: rest) = none → motive rest → motive (c :: rest))
    (token : ∀ name rest, isName name = true → motive rest → motive (token name ++ rest))
    : motive text := by
  generalize hlength : text.length = n
  induction n using Nat.strongRecOn generalizing text with
  | ind n ih =>
    cases text with
    | nil => exact nil
    | cons c rest =>
      cases hat : nameAt? (c :: rest) with
      | none =>
        apply char c rest hat
        apply ih rest.length _ rest rfl
        simp [← hlength]
      | some name =>
        rcases nameAt?_eq_some_iff.mp hat with ⟨hname, after, hafter⟩
        rw [← hafter] at hlength ⊢
        apply token name after hname
        apply ih after.length _ after rfl
        rw [← hlength, List.length_append, length_token]
        omega

variable {values : List Char → Option (List Char)}

@[simp]
theorem substitute_nil : substitute values [] = [] := rfl

theorem substitute_cons {c : Char} {rest : List Char} (h : nameAt? (c :: rest) = none)
    : substitute values (c :: rest) = c :: substitute values rest := by
  unfold substitute
  rw [pieces_cons h]
  rfl

theorem substitute_token_append {name : List Char} (hname : isName name = true) (rest : List Char)
    : substitute values (token name ++ rest)
        =
      (values name).getD (token name) ++ substitute values rest := by
  unfold substitute
  rw [pieces_token_append hname]
  rfl

theorem substitute_append_of_not_mem {s : List Char} (hs : '\x7b' ∉ s) (rest : List Char)
    : substitute values (s ++ rest) = s ++ substitute values rest := by
  unfold substitute
  rw [pieces_append_of_not_mem hs, List.flatMap_append, List.flatMap_map]
  simp [Piece.substitute]

theorem replace_token_append_of_forall_ne {name value s : List Char} (hs : ∀ c ∈ s, c ≠ '\x7b')
    (rest : List Char)
    : Text.replace (token name) value (s ++ rest) = s ++ Text.replace (token name) value rest := by
  induction s with
  | nil => rfl
  | cons c s ih =>
    have hbegin : ¬ token name <+: c :: (s ++ rest) := not_token_prefix_cons_of_ne (hs c (by simp))
    rw [List.cons_append, Text.replace_cons_unmatched (token_ne_nil name) hbegin]
    rw [ih (fun c hc => hs c (by simp [hc]))]
    rfl

theorem replace_token_append_of_ne {name other value : List Char} (hname : isName name = true)
    (hother : isName other = true) (hne : other ≠ name) (rest : List Char)
    : Text.replace (token name) value (token other ++ rest)
        =
      token other ++ Text.replace (token name) value rest := by
  have hfirst : ¬ token name <+: token other ++ rest := by
    rw [token_prefix_token_append hname hother]
    exact fun h => hne h.symm
  have hsecond := not_token_prefix_cons hname (nameAt?_second_brace hother rest)
  rw [token_append_eq] at hfirst ⊢
  rw [Text.replace_cons_unmatched (token_ne_nil name) hfirst]
  rw [Text.replace_cons_unmatched (token_ne_nil name) hsecond]
  rw [replace_token_append_of_forall_ne (forall_ne_of_isName hother)]
  rfl

def only (name value : List Char) : List Char → Option (List Char) :=
  fun other => if other = name then some value else none

theorem replace_token {name : List Char} (hname : isName name = true) (value text : List Char)
    : Text.replace (token name) value text = substitute (only name value) text := by
  induction text using scanInduction with
  | nil => simp [token_ne_nil]
  | char c rest hat ih =>
    rw [Text.replace_cons_unmatched (token_ne_nil name) (not_token_prefix_cons hname hat)]
    rw [substitute_cons hat, ih]
  | token other rest hother ih =>
    rw [substitute_token_append hother]
    by_cases h : other = name
    · rw [h, Text.replace_append_self (token_ne_nil name), ih]
      simp [only]
    · rw [replace_token_append_of_ne hname hother h, ih]
      simp [only, h]

@[simp]
theorem names_nil : names [] = [] := rfl

theorem mem_names_cons {c : Char} {rest name : List Char} (h : nameAt? (c :: rest) = none)
    : name ∈ names (c :: rest) ↔ name ∈ names rest := by
  simp [names, pieces_cons h, Piece.name?]

theorem mem_names_token_append {other : List Char} (hother : isName other = true)
    (rest name : List Char)
    : name ∈ names (token other ++ rest) ↔ name = other ∨ name ∈ names rest := by
  simp [names, pieces_token_append hother, Piece.name?]

theorem mem_names_append_of_not_mem {s : List Char} (hs : '\x7b' ∉ s) (rest name : List Char)
    : name ∈ names (s ++ rest) ↔ name ∈ names rest := by
  simp [names, pieces_append_of_not_mem hs, Piece.name?]

theorem isName_of_mem_names {text name : List Char} (h : name ∈ names text) : isName name = true := by
  induction text using scanInduction with
  | nil => simp at h
  | char c rest hat ih => exact ih ((mem_names_cons hat).mp h)
  | token other rest hother ih =>
    cases (mem_names_token_append hother rest name).mp h with
    | inl heq => rwa [heq]
    | inr h => exact ih h

theorem token_infix_cons {c : Char} {rest name : List Char} (hname : isName name = true)
    (h : nameAt? (c :: rest) = none) : token name <:+: c :: rest ↔ token name <:+: rest := by
  rw [List.infix_cons_iff]
  simp [not_token_prefix_cons hname h]

theorem token_infix_append_of_forall_ne {name s : List Char} (hs : ∀ c ∈ s, c ≠ '\x7b')
    (rest : List Char) : token name <:+: s ++ rest ↔ token name <:+: rest := by
  induction s with
  | nil => rfl
  | cons c s ih =>
    rw [List.cons_append, List.infix_cons_iff]
    simp [not_token_prefix_cons_of_ne (hs c (by simp)), ih fun c hc => hs c (by simp [hc])]

theorem token_infix_token_append {name other : List Char} (hname : isName name = true)
    (hother : isName other = true) (rest : List Char)
    : token name <:+: token other ++ rest ↔ name = other ∨ token name <:+: rest := by
  have hfirst := token_prefix_token_append hname hother rest
  rw [token_append_eq] at hfirst ⊢
  rw [List.infix_cons_iff, hfirst]
  rw [token_infix_cons hname (nameAt?_second_brace hother rest)]
  rw [token_infix_append_of_forall_ne (forall_ne_of_isName hother)]

theorem mem_names_iff {name text : List Char}
    : name ∈ names text ↔ isName name = true ∧ token name <:+: text := by
  constructor
  · intro h
    have hname := isName_of_mem_names h
    refine ⟨hname, ?_⟩
    induction text using scanInduction with
    | nil => simp at h
    | char c rest hat ih =>
      exact (token_infix_cons hname hat).mpr (ih ((mem_names_cons hat).mp h))
    | token other rest hother ih =>
      rw [token_infix_token_append hname hother]
      exact ((mem_names_token_append hother rest name).mp h).imp_right ih
  · rintro ⟨hname, h⟩
    induction text using scanInduction with
    | nil => simp [token] at h
    | char c rest hat ih =>
      exact (mem_names_cons hat).mpr (ih ((token_infix_cons hname hat).mp h))
    | token other rest hother ih =>
      rw [mem_names_token_append hother]
      exact ((token_infix_token_append hname hother rest).mp h).imp_right ih

end Placeholder

end RequestFile
