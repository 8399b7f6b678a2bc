import RequestFile.Proofs.Json.Scalars

/-!
This module contains what can be seen of a JSON value in print, and that the printed text says this
and nothing else: two values have the same text if and only if they look the same. No string, whatever
its characters, is taken for structure, and no value is taken for the beginning of another one.
-/

namespace RequestFile.Json

def structural : List Char := ['"', '[', '\x7b', ',', '\n']

structure Word where
  chars : List Char
  ne_nil : chars ≠ []
  notStructural : ∀ c ∈ chars, c ∉ structural

inductive Printed where
  | word (w : Word)
  | text (s : String)
  | array (items : List Printed)
  | object (members : List (String × Printed))

theorem not_mem_structural_of_isNumberChar {c : Char} (h : isNumberChar c) : c ∉ structural := by
  intro hc
  simp only [structural, List.mem_cons, List.not_mem_nil, or_false] at hc
  rcases hc with rfl | rfl | rfl | rfl | rfl <;> simp [isNumberChar] at h

namespace Word

def null : Word := ⟨"null".toList, by simp, by simp [structural]⟩

def boolean (b : Bool) : Word :=
  if b then ⟨"true".toList, by simp, by simp [structural]⟩
  else ⟨"false".toList, by simp, by simp [structural]⟩

def integer (n : Int) : Word :=
  ⟨(toString n).toList, toString_int_ne_nil n, fun _ hc =>
    not_mem_structural_of_isNumberChar (isNumberChar_of_mem_toString hc)⟩

def float (x : Float) : Word :=
  ⟨(Decimal.text x).toList, Decimal.text_ne_nil x, fun _ hc =>
    not_mem_structural_of_isNumberChar (Decimal.isNumberChar_of_mem_text hc)⟩

end Word

mutual

def printed : Json → Printed
  | null => .word .null
  | boolean b => .word (.boolean b)
  | integer n => .word (.integer n)
  | float x => .word (.float x)
  | text s => .text s
  | array items => .array (printedItems items)
  | object members => .object (printedMembers members)

def printedItems : List Json → List Printed
  | [] => []
  | item :: items => printed item :: printedItems items

def printedMembers : List (String × Json) → List (String × Printed)
  | [] => []
  | (key, v) :: members => (key, printed v) :: printedMembers members

end

theorem printedItems_eq_map (items : List Json) : printedItems items = items.map printed := by
  induction items with
  | nil => rfl
  | cons item items ih => rw [printedItems, ih, List.map_cons]

theorem printedMembers_eq_map (members : List (String × Json))
    : printedMembers members = members.map fun member => (member.1, member.2.printed) := by
  induction members with
  | nil => rfl
  | cons member members ih => rw [printedMembers, ih, List.map_cons]

def laterEntries (level : Nat) (entries : List (List Char)) : List Char :=
  entries.flatMap fun entry => ',' :: newline level ++ entry

theorem laterEntries_cons_append (level : Nat) (entry : List Char) (entries : List (List Char))
    (rest : List Char)
    : laterEntries level (entry :: entries) ++ rest
        =
      ',' :: (newline level ++ (entry ++ (laterEntries level entries ++ rest))) := by
  simp [laterEntries]

def block (first last : Char) (level : Nat) : List (List Char) → List Char
  | [] => [first, last]
  | entry :: entries =>
    first :: newline (level + 1) ++ entry ++ laterEntries (level + 1) entries ++ newline level ++ [last]

theorem block_cons_append (first last : Char) (level : Nat) (entry : List Char)
    (entries : List (List Char)) (rest : List Char)
    : block first last level (entry :: entries) ++ rest
        =
      first :: (newline (level + 1)
        ++ (entry ++ (laterEntries (level + 1) entries ++ (newline level ++ last :: rest)))) := by
  simp [block]

namespace Printed

def writeMember (key : String) (v : List Char) : List Char :=
  quote key.toList ++ ':' :: ' ' :: v

mutual

def write (level : Nat) : Printed → List Char
  | word w => w.chars
  | text s => quote s.toList
  | array items => block '[' ']' level (writeItems (level + 1) items)
  | object members => block '\x7b' '\x7d' level (writeMembers (level + 1) members)

def writeItems (level : Nat) : List Printed → List (List Char)
  | [] => []
  | item :: items => write level item :: writeItems level items

def writeMembers (level : Nat) : List (String × Printed) → List (List Char)
  | [] => []
  | (key, v) :: members => writeMember key (write level v) :: writeMembers level members

end

theorem writeItems_eq_map (level : Nat) (items : List Printed)
    : writeItems level items = items.map (write level) := by
  induction items with
  | nil => rfl
  | cons item items ih => rw [writeItems, ih, List.map_cons]

theorem writeMembers_eq_map (level : Nat) (members : List (String × Printed))
    : writeMembers level members
        =
      members.map fun member => writeMember member.1 (write level member.2) := by
  induction members with
  | nil => rfl
  | cons member members ih => rw [writeMembers, ih, List.map_cons]

end Printed

mutual

theorem write_printed (level : Nat) (json : Json) : json.printed.write level = json.write level := by
  match json with
  | null => rfl
  | boolean b => cases b <;> rfl
  | integer n => rfl
  | float x => rfl
  | text s => rfl
  | array [] => rfl
  | array (item :: items) =>
    rw [printed, printedItems, Printed.write, Printed.writeItems, block, Json.write, write_printed,
      writeItems_printedItems]
  | object [] => rfl
  | object ((key, v) :: members) =>
    rw [printed, printedMembers, Printed.write, Printed.writeMembers, block, Json.write,
      write_printed, writeMembers_printedMembers]
    simp [Printed.writeMember]

theorem writeItems_printedItems (level : Nat) (items : List Json)
    : laterEntries level (Printed.writeItems level (printedItems items)) = writeItems level items := by
  match items with
  | [] => rfl
  | item :: items =>
    rw [printedItems, Printed.writeItems, laterEntries, List.flatMap_cons, ← laterEntries, writeItems,
      write_printed, writeItems_printedItems]

theorem writeMembers_printedMembers (level : Nat) (members : List (String × Json))
    : laterEntries level (Printed.writeMembers level (printedMembers members))
        =
      writeMembers level members := by
  match members with
  | [] => rfl
  | (key, v) :: members =>
    rw [printedMembers, Printed.writeMembers, laterEntries, List.flatMap_cons, ← laterEntries,
      writeMembers, write_printed, writeMembers_printedMembers]
    simp [Printed.writeMember]

end

def Ends (rest : List Char) : Prop :=
  ∀ c, rest.head? = some c → c = ',' ∨ c = '\n'

theorem ends_nil : Ends [] := by
  simp [Ends]

theorem ends_cons {c : Char} (rest : List Char) (h : c = ',' ∨ c = '\n') : Ends (c :: rest) := by
  intro d hd
  cases hd
  exact h

theorem mem_structural_of_ends {c : Char} {rest : List Char} (h : Ends (c :: rest))
    : c ∈ structural := by
  rcases h c rfl with rfl | rfl <;> simp [structural]

theorem append_inj_of_ends {u v x y : List Char} (hu : ∀ c ∈ u, c ∉ structural)
    (hv : ∀ c ∈ v, c ∉ structural) (hx : Ends x) (hy : Ends y) (h : u ++ x = v ++ y)
    : u = v ∧ x = y := by
  induction u generalizing v with
  | nil =>
    cases v with
    | nil => exact ⟨rfl, h⟩
    | cons d v =>
      rw [List.nil_append, List.cons_append] at h
      subst h
      exact absurd (mem_structural_of_ends hx) (hv d (by simp))
  | cons c u ih =>
    cases v with
    | nil =>
      rw [List.nil_append, List.cons_append] at h
      subst h
      exact absurd (mem_structural_of_ends hy) (hu c (by simp))
    | cons d v =>
      rw [List.cons_append, List.cons_append, List.cons.injEq] at h
      rw [List.forall_mem_cons] at hu hv
      obtain ⟨rfl, htails⟩ := h
      obtain ⟨rfl, hrest⟩ := ih hu.2 hv.2 htails
      exact ⟨rfl, hrest⟩

theorem Word.append_inj {w w' : Word} {x y : List Char} (hx : Ends x) (hy : Ends y)
    (h : w.chars ++ x = w'.chars ++ y) : w = w' ∧ x = y := by
  obtain ⟨hchars, hrest⟩ := append_inj_of_ends w.notStructural w'.notStructural hx hy h
  rcases w with ⟨chars, _, _⟩
  rcases w' with ⟨chars', _, _⟩
  subst hchars
  exact ⟨rfl, hrest⟩

/--
A way of writing says where each text ends and of what it is the text.
-/
def Delimits {α : Type} (write : α → List Char) (a : α) : Prop :=
  ∀ b x y, Ends x → Ends y → write a ++ x = write b ++ y → a = b ∧ x = y

section Block

variable {α : Type} {write : α → List Char} {first last : Char} {level : Nat} {x y : List Char}

theorem ends_laterEntries (level outer : Nat) (entries : List (List Char)) (rest : List Char)
    : Ends (laterEntries level entries ++ (newline outer ++ rest)) := by
  cases entries with
  | nil => exact ends_cons _ (.inr rfl)
  | cons entry entries => exact ends_cons _ (.inl rfl)

theorem laterEntries_append_inj {outer : Nat} {entries entries' : List α}
    (hentries : ∀ entry ∈ entries, Delimits write entry)
    (h : laterEntries level (entries.map write) ++ (newline outer ++ x)
      = laterEntries level (entries'.map write) ++ (newline outer ++ y))
    : entries = entries' ∧ x = y := by
  induction entries generalizing entries' with
  | nil =>
    cases entries' with
    | nil => simpa [laterEntries] using h
    | cons entry' entries' => simp [laterEntries, newline] at h
  | cons entry entries ih =>
    cases entries' with
    | nil => simp [laterEntries, newline] at h
    | cons entry' entries' =>
      rw [List.forall_mem_cons] at hentries
      simp only [List.map_cons, laterEntries_cons_append, List.cons.injEq, true_and,
        List.append_cancel_left_eq] at h
      have hends := ends_laterEntries level outer
      obtain ⟨rfl, htails⟩ := hentries.1 _ _ _ (hends _ _) (hends _ _) h
      obtain ⟨rfl, hrest⟩ := ih hentries.2 htails
      exact ⟨rfl, hrest⟩

theorem block_append_inj {entries entries' : List α} (hlast : last ≠ '\n')
    (hentries : ∀ entry ∈ entries, Delimits write entry)
    (h : block first last level (entries.map write) ++ x
      = block first last level (entries'.map write) ++ y)
    : entries = entries' ∧ x = y := by
  match entries, entries' with
  | [], [] => simpa [block] using h
  | [], entry' :: entries' =>
    simp [block, newline, hlast] at h
  | entry :: entries, [] =>
    simp [block, newline, hlast.symm] at h
  | entry :: entries, entry' :: entries' =>
    rw [List.forall_mem_cons] at hentries
    simp only [List.map_cons, block_cons_append, List.cons.injEq, true_and,
      List.append_cancel_left_eq] at h
    have hends := ends_laterEntries (level + 1) level
    obtain ⟨rfl, htails⟩ := hentries.1 _ _ _ (hends _ _) (hends _ _) h
    obtain ⟨rfl, hrest⟩ := laterEntries_append_inj hentries.2 htails
    exact ⟨rfl, by simpa using hrest⟩

end Block

theorem Delimits.member {write : Printed → List Char} {member : String × Printed}
    (h : Delimits write member.2)
    : Delimits (fun member => Printed.writeMember member.1 (write member.2)) member := by
  intro member' x y hx hy heq
  simp only [Printed.writeMember, List.append_assoc, List.cons_append] at heq
  obtain ⟨hkey, hvalues⟩ := quote_append_inj heq
  simp only [List.cons.injEq, true_and] at hvalues
  obtain ⟨hvalue, hrest⟩ := h _ _ _ hx hy hvalues
  exact ⟨Prod.ext (String.toList_inj.mp hkey) hvalue, hrest⟩

namespace Printed

def opening? : Printed → Option Char
  | word _ => none
  | text _ => some '"'
  | array _ => some '['
  | object _ => some '\x7b'

theorem filter_head?_write (level : Nat) (a : Printed) (x : List Char)
    : (a.write level ++ x).head?.filter (· ∈ structural) = a.opening? := by
  match a with
  | word w =>
    obtain ⟨c, chars, hchars⟩ := List.exists_cons_of_ne_nil w.ne_nil
    have hc : c ∉ structural := w.notStructural c (by simp [hchars])
    rw [write, hchars, List.cons_append, List.head?_cons]
    simp [hc, opening?]
  | text s => rfl
  | array [] => rfl
  | array (item :: items) => rfl
  | object [] => rfl
  | object ((key, v) :: members) => rfl

theorem opening?_eq {level : Nat} {a b : Printed} {x y : List Char}
    (h : a.write level ++ x = b.write level ++ y) : a.opening? = b.opening? := by
  rw [← filter_head?_write level a x, h, filter_head?_write]

mutual

theorem delimits_write (level : Nat) (a : Printed) : Delimits (write level) a := by
  intro b x y hx hy h
  have hopening := opening?_eq h
  match a with
  | word w =>
    cases b with
    | word w' =>
      obtain ⟨rfl, hrest⟩ := Word.append_inj hx hy h
      exact ⟨rfl, hrest⟩
    | _ => cases hopening
  | text s =>
    cases b with
    | text t =>
      obtain ⟨hs, hrest⟩ := quote_append_inj h
      exact ⟨by rw [String.toList_inj.mp hs], hrest⟩
    | _ => cases hopening
  | array items =>
    cases b with
    | array items' =>
      simp only [write, writeItems_eq_map] at h
      obtain ⟨rfl, hrest⟩ := block_append_inj (by simp) (delimits_write_items (level + 1) items) h
      exact ⟨rfl, hrest⟩
    | _ => cases hopening
  | object members =>
    cases b with
    | object members' =>
      simp only [write, writeMembers_eq_map] at h
      obtain ⟨rfl, hrest⟩ := block_append_inj (by simp)
        (fun member hmember => (delimits_write_members (level + 1) members member hmember).member) h
      exact ⟨rfl, hrest⟩
    | _ => cases hopening

theorem delimits_write_items (level : Nat) (items : List Printed)
    : ∀ item ∈ items, Delimits (write level) item := by
  match items with
  | [] => simp
  | item :: items =>
    exact List.forall_mem_cons.mpr ⟨delimits_write level item, delimits_write_items level items⟩

theorem delimits_write_members (level : Nat) (members : List (String × Printed))
    : ∀ member ∈ members, Delimits (write level) member.2 := by
  match members with
  | [] => simp
  | (key, v) :: members =>
    exact List.forall_mem_cons.mpr ⟨delimits_write level v, delimits_write_members level members⟩

end

end Printed

theorem print_eq_print_iff {a b : Json} : print a = print b ↔ a.printed = b.printed := by
  rw [print, print, String.ofList_inj, ← write_printed, ← write_printed]
  constructor
  · intro h
    have happend : a.printed.write 0 ++ [] = b.printed.write 0 ++ [] := by rw [h]
    exact (Printed.delimits_write 0 a.printed _ _ _ ends_nil ends_nil happend).1
  · intro h
    rw [h]

end RequestFile.Json
