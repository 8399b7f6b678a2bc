import RequestFile.Proofs.Placeholder.Occurrences

/-!
This module contains how a scan for placeholders and literal replacement compare. Both go through a
text from left to right and go on behind what they have found; because no two tokens overlap, both meet
every token, whatever braces stand around it.
-/

namespace RequestFile

namespace Text

/--
Between two texts: they are the same but for pieces of the first one that are `pattern` and stand as
`value` in the second one. The pieces begin at the given places, counted from `offset`.
-/
inductive DiffersAt (pattern value : List Char) : Nat → List Char → List Char → List Nat → Prop where
  | nil (offset : Nat) (gap : List Char) : DiffersAt pattern value offset gap gap []
  | cons {offset : Nat} (gap : List Char) {text result : List Char} {places : List Nat}
    (hrest : DiffersAt pattern value (offset + gap.length + pattern.length) text result places)
    : DiffersAt pattern value offset (gap ++ pattern ++ text) (gap ++ value ++ result)
        ((offset + gap.length) :: places)

def ReplacesAt (pattern text : List Char) (places : List Nat) : Prop :=
  ∀ value, DiffersAt pattern value 0 text (replace pattern value text) places

variable {pattern value : List Char}

theorem DiffersAt.shift {offset : Nat} {text result : List Char} {places : List Nat} (distance : Nat)
    (h : DiffersAt pattern value offset text result places)
    : DiffersAt pattern value (offset + distance) text result (places.map (· + distance)) := by
  induction h with
  | nil => exact .nil _ _
  | @cons offset gap text result places hrest ih =>
    rw [List.map_cons]
    have hoffset : offset + gap.length + pattern.length + distance
        = offset + distance + gap.length + pattern.length := by omega
    have hplace : offset + gap.length + distance = offset + distance + gap.length := by omega
    rw [hoffset] at ih
    rw [hplace]
    exact .cons gap ih

theorem DiffersAt.append {offset : Nat} {text result : List Char} {places : List Nat} (s : List Char)
    (h : DiffersAt pattern value (offset + s.length) text result places)
    : DiffersAt pattern value offset (s ++ text) (s ++ result) places := by
  generalize hstart : offset + s.length = start at h
  cases h with
  | nil => exact .nil _ _
  | cons gap hrest =>
    subst hstart
    have hplace : offset + s.length + gap.length = offset + (s ++ gap).length := by
      rw [List.length_append, Nat.add_assoc]
    rw [hplace] at hrest ⊢
    simp only [← List.append_assoc]
    exact .cons (s ++ gap) hrest

theorem differsAt_nil_iff {offset : Nat} {text result : List Char}
    : DiffersAt pattern value offset text result [] ↔ result = text := by
  constructor
  · rintro ⟨⟩
    rfl
  · rintro rfl
    exact .nil _ _

theorem exists_of_differsAt_cons {offset i : Nat} {text result : List Char} {places : List Nat}
    (h : DiffersAt pattern value offset text result (i :: places))
    : ∃ gap after rest, text = gap ++ pattern ++ after ∧ result = gap ++ value ++ rest
        ∧ i = offset + gap.length
        ∧ DiffersAt pattern value (i + pattern.length) after rest places := by
  cases h with
  | cons gap hrest => exact ⟨gap, _, _, rfl, rfl, rfl, hrest⟩

theorem DiffersAt.tail {offset i : Nat} {text result : List Char} {places : List Nat}
    (h : DiffersAt pattern value offset text result (i :: places))
    : DiffersAt pattern value (i + pattern.length) (text.drop (i - offset + pattern.length))
        (result.drop (i - offset + value.length)) places := by
  obtain ⟨gap, after, rest, rfl, rfl, rfl, hrest⟩ := exists_of_differsAt_cons h
  rw [Nat.add_sub_cancel_left, ← List.length_append, List.drop_left, ← List.length_append,
    List.drop_left]
  exact hrest

theorem gap_eq {c d : Char} (hne : d ≠ c) {gap gap' after after' rest rest' : List Char}
    (htext : gap ++ c :: after = gap' ++ c :: after')
    (hresult : gap ++ d :: rest = gap' ++ d :: rest') : gap = gap' := by
  induction gap generalizing gap' with
  | nil =>
    cases gap' with
    | nil => rfl
    | cons x gap' =>
      simp only [List.nil_append, List.cons_append, List.cons.injEq] at htext hresult
      exact absurd (hresult.1.trans htext.1.symm) hne
  | cons y gap ih =>
    cases gap' with
    | nil =>
      simp only [List.nil_append, List.cons_append, List.cons.injEq] at htext hresult
      exact absurd (hresult.1.symm.trans htext.1) hne
    | cons x gap' =>
      simp only [List.cons_append, List.cons.injEq] at htext hresult
      rw [htext.1, ih htext.2 hresult.2]

theorem not_differsAt_cons_self {c d : Char} (hne : d ≠ c) {offset i : Nat} {text : List Char}
    {places : List Nat} : ¬ DiffersAt (c :: pattern) [d] offset text text (i :: places) := by
  intro h
  obtain ⟨gap, after, rest, htext, hresult, _, _⟩ := exists_of_differsAt_cons h
  rw [htext] at hresult
  simp only [List.append_assoc, List.append_cancel_left_eq, List.cons_append,
    List.cons.injEq] at hresult
  exact hne hresult.1.symm

theorem places_eq_of_differsAt (hpattern : pattern ≠ []) {offset : Nat} {text : List Char}
    {result : List Char → List Char} {places places' : List Nat}
    (h : ∀ value, DiffersAt pattern value offset text (result value) places)
    (h' : ∀ value, DiffersAt pattern value offset text (result value) places')
    : places = places' := by
  rcases List.exists_cons_of_ne_nil hpattern with ⟨c, pattern, rfl⟩
  obtain ⟨d, hne⟩ : ∃ d : Char, d ≠ c := by
    by_cases hc : 'a' = c
    · exact ⟨'b', by rw [← hc]; decide⟩
    · exact ⟨'a', hc⟩
  induction places generalizing offset text result places' with
  | nil =>
    cases places' with
    | nil => rfl
    | cons j places' =>
      have hsame := differsAt_nil_iff.mp (h [d])
      exact absurd (hsame ▸ h' [d]) (not_differsAt_cons_self hne)
  | cons i places ih =>
    cases places' with
    | nil =>
      have hsame := differsAt_nil_iff.mp (h' [d])
      exact absurd (hsame ▸ h [d]) (not_differsAt_cons_self hne)
    | cons j places' =>
      have hplace : i = j := by
        obtain ⟨gap, after, rest, htext, hresult, rfl, _⟩ := exists_of_differsAt_cons (h [d])
        obtain ⟨gap', after', rest', htext', hresult', rfl, _⟩ := exists_of_differsAt_cons (h' [d])
        rw [htext] at htext'
        rw [hresult] at hresult'
        simp only [List.append_assoc, List.cons_append, List.nil_append] at htext' hresult'
        rw [gap_eq hne htext' hresult']
      subst hplace
      rw [ih (fun value => (h value).tail) (fun value => (h' value).tail)]

end Text

namespace Placeholder

def TokenAt (text : List Char) (i : Nat) (name : List Char) : Prop :=
  isName name = true ∧ token name <+: text.drop i

/--
What a search of a text from a position on finds: each time the leftmost token, and then on behind the
end of it.
-/
inductive Scans (text : List Char) : Nat → List (Nat × List Char) → Prop where
  | done {start : Nat} (hnone : ∀ i name, start ≤ i → ¬ TokenAt text i name) : Scans text start []
  | found {start i : Nat} {name : List Char} {rest : List (Nat × List Char)} (hstart : start ≤ i)
    (htoken : TokenAt text i name) (hfirst : ∀ j other, start ≤ j → j < i → ¬ TokenAt text j other)
    (hrest : Scans text (i + (token name).length) rest) : Scans text start ((i, name) :: rest)

variable {text rest s name other : List Char} {start i j : Nat}

theorem TokenAt.unique (h : TokenAt text i name) (h' : TokenAt text i other) : name = other := by
  have hname := nameAt?_eq_some_iff.mpr h
  rw [nameAt?_eq_some_iff.mpr h'] at hname
  exact (Option.some.inj hname).symm

theorem tokenAt_append_iff : TokenAt (s ++ rest) (i + s.length) name ↔ TokenAt rest i name := by
  rw [TokenAt, TokenAt, Nat.add_comm, List.drop_length_add_append]

theorem Scans.unique {found found' : List (Nat × List Char)} (h : Scans text start found)
    (h' : Scans text start found') : found = found' := by
  induction h generalizing found' with
  | done hnone =>
    cases h' with
    | done _ => rfl
    | found hstart htoken _ _ => exact absurd htoken (hnone _ _ hstart)
  | @found start i name rest hstart htoken hfirst hrest ih =>
    cases h' with
    | done hnone => exact absurd htoken (hnone _ _ hstart)
    | @found _ j other rest' hstart' htoken' hfirst' hrest' =>
      rcases Nat.lt_trichotomy i j with hlt | rfl | hlt
      · exact absurd htoken (hfirst' i name hstart hlt)
      · have hname := htoken.unique htoken'
        subst hname
        rw [ih hrest']
      · exact absurd htoken' (hfirst j other hstart' hlt)

theorem Scans.of_le {start' : Nat} {found : List (Nat × List Char)} (hle : start ≤ start')
    (hbetween : ∀ i name, start ≤ i → i < start' → ¬ TokenAt text i name)
    (h : Scans text start' found) : Scans text start found := by
  cases h with
  | done hnone =>
    refine .done fun i name hi => ?_
    by_cases hlt : i < start'
    · exact hbetween i name hi hlt
    · exact hnone i name (Nat.le_of_not_lt hlt)
  | @found _ j name rest hstart htoken hfirst hrest =>
    refine .found (hle.trans hstart) htoken (fun i other hi hlt => ?_) hrest
    by_cases hbefore : i < start'
    · exact hbetween i other hi hbefore
    · exact hfirst i other (Nat.le_of_not_lt hbefore) hlt

theorem Scans.append {found : List (Nat × List Char)} (s : List Char) (h : Scans text start found)
    : Scans (s ++ text) (start + s.length) (found.map (shift s.length)) := by
  induction h with
  | done hnone =>
    refine .done fun i name hi => ?_
    obtain ⟨k, rfl⟩ := Nat.exists_eq_add_of_le' (Nat.le_of_add_left_le hi)
    rw [tokenAt_append_iff]
    exact hnone k name (Nat.le_of_add_le_add_right hi)
  | @found start i name rest hstart htoken hfirst hrest ih =>
    rw [Nat.add_right_comm] at ih
    refine .found (Nat.add_le_add_right hstart _) (tokenAt_append_iff.mpr htoken) ?_ ih
    intro j other hj hlt
    obtain ⟨k, rfl⟩ := Nat.exists_eq_add_of_le' (Nat.le_of_add_left_le hj)
    rw [tokenAt_append_iff]
    exact hfirst k other (Nat.le_of_add_le_add_right hj) (Nat.lt_of_add_lt_add_right hlt)

theorem scans_positions (text : List Char) : Scans text 0 (positions (pieces text)) := by
  induction text using scanInduction with
  | nil => exact .done fun i name _ h => token_ne_nil name (by simpa using h.2)
  | char c rest hat ih =>
    rw [pieces_cons hat, positions]
    refine (ih.append [c]).of_le (Nat.zero_le _) fun i name _ hlt h => ?_
    have hzero : i = 0 := by simpa using hlt
    subst hzero
    exact not_token_prefix_cons h.1 hat h.2
  | token other rest hother ih =>
    rw [pieces_token_append hother, positions]
    refine .found (Nat.le_refl 0) ⟨hother, List.prefix_append _ _⟩ (fun i _ _ hlt => ?_) ?_
    · exact absurd hlt (Nat.not_lt_zero i)
    · exact ih.append (token other)

theorem mem_positions_iff_tokenAt : (i, name) ∈ positions (pieces text) ↔ TokenAt text i name := by
  constructor
  · intro hmem
    have hname := isName_of_mem_positions hmem
    exact ⟨hname, (mem_positions_iff hname).mp hmem⟩
  · rintro ⟨hname, hbegin⟩
    exact (mem_positions_iff hname).mpr hbegin

theorem TokenAt.eq_or_end_le (h : TokenAt text i name) (h' : TokenAt text (i + j) other)
    : j = 0 ∧ name = other ∨ (token name).length ≤ j := by
  obtain ⟨hname, rest, hrest⟩ := h
  obtain ⟨hother, hbegin⟩ := h'
  rw [← List.drop_drop, ← hrest, token_prefix_drop_token_append hother hname] at hbegin
  rcases hbegin with ⟨rfl, rfl⟩ | ⟨k, rfl, _⟩
  · exact .inl ⟨rfl, rfl⟩
  · exact .inr (Nat.le_add_left _ _)

theorem TokenAt.disjoint (h : TokenAt text i name) (h' : TokenAt text j other)
    : i = j ∧ name = other
        ∨ i + (token name).length ≤ j
        ∨ j + (token other).length ≤ i := by
  rcases Nat.le_total i j with hle | hle
  · obtain ⟨distance, rfl⟩ := Nat.exists_eq_add_of_le hle
    rcases h.eq_or_end_le h' with ⟨rfl, rfl⟩ | hend
    · exact .inl ⟨rfl, rfl⟩
    · exact .inr (.inl (Nat.add_le_add_left hend i))
  · obtain ⟨distance, rfl⟩ := Nat.exists_eq_add_of_le hle
    rcases h'.eq_or_end_le h with ⟨rfl, rfl⟩ | hend
    · exact .inl ⟨rfl, rfl⟩
    · exact .inr (.inr (Nat.add_le_add_left hend j))

def placesOf (name : List Char) (found : List (Nat × List Char)) : List Nat :=
  (found.filter fun entry => entry.2 = name).map Prod.fst

theorem placesOf_map_shift (distance : Nat) (found : List (Nat × List Char))
    : placesOf name (found.map (shift distance)) = (placesOf name found).map (· + distance) := by
  simp only [placesOf, List.filter_map, List.map_map]
  rfl

theorem placesOf_cons_self (found : List (Nat × List Char))
    : placesOf name ((i, name) :: found) = i :: placesOf name found := by
  simp [placesOf]

theorem placesOf_cons_of_ne (hne : other ≠ name) (found : List (Nat × List Char))
    : placesOf name ((i, other) :: found) = placesOf name found := by
  simp [placesOf, hne]

theorem mem_placesOf_iff {found : List (Nat × List Char)}
    : i ∈ placesOf name found ↔ (i, name) ∈ found := by
  simp [placesOf]

theorem replacesAt_positions (hname : isName name = true) (text : List Char)
    : Text.ReplacesAt (token name) text (placesOf name (positions (pieces text))) := by
  intro value
  -- What replacement leaves standing in front of the rest, be it one character or a token of another
  -- name, is a gap as long as the scan has moved on.
  induction text using scanInduction with
  | nil =>
    rw [Text.replace_nil value (token_ne_nil name)]
    exact .nil 0 []
  | char c rest hat ih =>
    rw [Text.replace_cons_unmatched (token_ne_nil name) (not_token_prefix_cons hname hat)]
    rw [pieces_cons hat, positions, placesOf_map_shift]
    exact (ih.shift 1).append [c]
  | token other rest hother ih =>
    rw [pieces_token_append hother, positions]
    by_cases hsame : other = name
    · subst hsame
      rw [Text.replace_append_self (token_ne_nil other), placesOf_cons_self, placesOf_map_shift]
      exact .cons [] (ih.shift (token other).length)
    · rw [replace_token_append_of_ne hname hother hsame]
      rw [placesOf_cons_of_ne hsame, placesOf_map_shift]
      exact (ih.shift (token other).length).append (token other)

theorem replacesAt_iff (hname : isName name = true) {places : List Nat}
    : Text.ReplacesAt (token name) text places
        ↔
      places = placesOf name (positions (pieces text)) := by
  constructor
  · intro h
    exact Text.places_eq_of_differsAt (token_ne_nil name) h (replacesAt_positions hname text)
  · rintro rfl
    exact replacesAt_positions hname text

theorem mem_namesOf_iff_exists_position {text name : String}
    : name ∈ namesOf text ↔ ∃ i, (i, name.toList) ∈ positions (pieces text.toList) := by
  rw [namesOf_eq, List.mem_eraseDups, List.mem_map]
  constructor
  · rintro ⟨⟨i, found⟩, hmem, rfl⟩
    exact ⟨i, by rwa [String.toList_ofList]⟩
  · rintro ⟨i, hmem⟩
    exact ⟨_, hmem, String.ofList_toList⟩

theorem pair_sublist_namesOf_iff {text name other : String}
    : [name, other].Sublist (namesOf text)
        ↔
      ∃ i j, IsLeast {i | (i, name.toList) ∈ positions (pieces text.toList)} i
        ∧ IsLeast {j | (j, other.toList) ∈ positions (pieces text.toList)} j
        ∧ i < j := by
  let found := (positions (pieces text.toList)).map fun entry => (entry.1, String.ofList entry.2)
  have hnames : namesOf text = (found.map Prod.snd).eraseDups := by
    rw [namesOf_eq, List.map_map]
    rfl
  have hfound : found.Pairwise fun a b => a.1 < b.1 :=
    List.pairwise_map.mpr (pairwise_positions _)
  have hmem (name : String) (i : Nat)
      : (i, name) ∈ found ↔ (i, name.toList) ∈ positions (pieces text.toList) := by
    simp only [found, List.mem_map, Prod.exists, Prod.mk.injEq]
    constructor
    · rintro ⟨i, name, hmem, rfl, rfl⟩
      rwa [String.toList_ofList]
    · intro hmem
      exact ⟨i, name.toList, hmem, rfl, String.ofList_toList⟩
  rw [hnames, pair_sublist_eraseDups_iff hfound]
  simp only [hmem]

/--
A search for placeholders and literal replacement see the same tokens. What the scan lists is what a
search for the successive leftmost tokens finds, and nothing else is; these are all tokens that stand
in the text, and no two of them overlap. Replacing the token of a name puts the value at the places
where the scan has found this name and nowhere else, and the names of a text are those that are found,
each once, in the order of their first places.
-/
theorem scan_agrees_with_replacement (text : String)
    : let found := positions (pieces text.toList)
      (∀ search, Scans text.toList 0 search ↔ search = found)
        ∧ (∀ i name, (i, name) ∈ found ↔ TokenAt text.toList i name)
        ∧ (∀ i j name other, TokenAt text.toList i name → TokenAt text.toList j other →
          i = j ∧ name = other
            ∨ i + (token name).length ≤ j
            ∨ j + (token other).length ≤ i)
        ∧ (∀ name places, isName name = true →
          (Text.ReplacesAt (token name) text.toList places ↔ places = placesOf name found))
        ∧ (∀ name, name ∈ namesOf text ↔ ∃ i, i ∈ placesOf name.toList found)
        ∧ (namesOf text).Nodup
        ∧ ∀ name other, [name, other].Sublist (namesOf text) ↔
          ∃ i j, IsLeast {i | i ∈ placesOf name.toList found} i
            ∧ IsLeast {j | j ∈ placesOf other.toList found} j
            ∧ i < j := by
  intro found
  refine ⟨fun search => ⟨?_, ?_⟩, fun _ _ => mem_positions_iff_tokenAt,
    fun _ _ _ _ h h' => h.disjoint h', fun _ _ hname => replacesAt_iff hname, ?_,
    nodup_namesOf text, ?_⟩
  · intro hsearch
    exact hsearch.unique (scans_positions text.toList)
  · rintro rfl
    exact scans_positions text.toList
  · simp only [mem_placesOf_iff]
    exact fun _ => mem_namesOf_iff_exists_position
  · simp only [mem_placesOf_iff]
    exact fun _ _ => pair_sublist_namesOf_iff

-- The third token begins right behind braces without a name, the first one behind a brace too many.
example
    : positions (pieces "\x7b\x7b\x7ba\x7d\x7d\x7d\x7b\x7ba\x7b\x7bb\x7d\x7d\x7b\x7b\x7d\x7d\x7b\x7bx\x7d\x7d\x7d".toList)
        =
      [(1, ['a']), (10, ['b']), (19, ['x'])] := by
  decide

end Placeholder

end RequestFile
