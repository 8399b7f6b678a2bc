import RequestFile.Proofs.Document.Conversion
import RequestFile.Proofs.Rendering.Invariants
import RequestFile.Proofs.Rendering.SingleName
import RequestFile.Proofs.Rendering.Sites

/-!
This module contains how the arrays of a document are searched and rendered. An array becomes one text
before anything looks for placeholders: its items, with commas between them. A token without a comma
lies within one item, so to search this text and to replace in it is to do so in each of the items.
-/

namespace RequestFile

open Placeholder

namespace Text

variable {pattern value s rest : List Char} {c : Char}

theorem prefix_append_cons_iff (hc : c ∉ pattern) : pattern <+: s ++ c :: rest ↔ pattern <+: s := by
  induction s generalizing pattern with
  | nil =>
    cases pattern with
    | nil => simp
    | cons d pattern =>
      have hne : d ≠ c := fun heq => hc (heq ▸ List.mem_cons_self)
      simp [List.cons_prefix_cons, hne]
  | cons x s ih =>
    cases pattern with
    | nil => simp
    | cons d pattern =>
      rw [List.cons_append, List.cons_prefix_cons, List.cons_prefix_cons]
      rw [ih fun hmem => hc (List.mem_cons_of_mem d hmem)]

theorem infix_append_cons_iff (hc : c ∉ pattern)
    : pattern <:+: s ++ c :: rest ↔ pattern <:+: s ∨ pattern <:+: rest := by
  induction s with
  | nil =>
    have hbegin : pattern <+: [] ++ c :: rest ↔ pattern <+: [] := prefix_append_cons_iff hc
    rw [List.nil_append] at hbegin ⊢
    rw [List.infix_cons_iff, hbegin, List.prefix_nil, List.infix_nil]
  | cons x s ih =>
    rw [List.cons_append, List.infix_cons_iff, List.infix_cons_iff, ih, ← List.cons_append]
    rw [prefix_append_cons_iff hc, or_assoc]

theorem replace_append_cons (hpattern : pattern ≠ []) (hc : c ∉ pattern)
    : replace pattern value (s ++ c :: rest)
        =
      replace pattern value s ++ c :: replace pattern value rest := by
  -- On the length, because an occurrence takes several characters at once.
  induction hlength : s.length using Nat.strongRecOn generalizing s with
  | ind n ih =>
    by_cases hbegin : pattern <+: s
    · obtain ⟨after, rfl⟩ := hbegin
      have hshorter : after.length < n := by
        have := List.length_pos_iff.mpr hpattern
        rw [← hlength, List.length_append]
        omega
      rw [List.append_assoc, replace_append_self hpattern, replace_append_self hpattern]
      rw [ih after.length hshorter rfl, List.append_assoc]
    · have hunmatched : ¬ pattern <+: s ++ c :: rest := by rwa [prefix_append_cons_iff hc]
      cases s with
      | nil =>
        rw [List.nil_append] at hunmatched ⊢
        rw [replace_cons_unmatched hpattern hunmatched, replace_nil value hpattern, List.nil_append]
      | cons x s =>
        rw [List.cons_append] at hunmatched ⊢
        rw [replace_cons_unmatched hpattern hbegin, replace_cons_unmatched hpattern hunmatched]
        rw [ih s.length (by simp [← hlength]) rfl, List.cons_append]

theorem infix_intercalate_iff (hpattern : pattern ≠ []) (hc : c ∉ pattern)
    {texts : List (List Char)}
    : pattern <:+: [c].intercalate texts ↔ ∃ text ∈ texts, pattern <:+: text := by
  induction texts with
  | nil => simp [hpattern]
  | cons text texts ih =>
    cases texts with
    | nil => simp
    | cons next texts =>
      rw [List.intercalate_cons_cons, List.append_assoc, List.singleton_append]
      rw [infix_append_cons_iff hc, ih]
      simp only [List.exists_mem_cons_iff]

theorem replace_intercalate (hpattern : pattern ≠ []) (hc : c ∉ pattern) (texts : List (List Char))
    : replace pattern value ([c].intercalate texts)
        =
      [c].intercalate (texts.map (replace pattern value)) := by
  induction texts with
  | nil => simp [hpattern]
  | cons text texts ih =>
    cases texts with
    | nil => simp
    | cons next texts =>
      rw [List.map_cons] at ih
      rw [List.map_cons, List.map_cons, List.intercalate_cons_cons, List.intercalate_cons_cons]
      rw [List.append_assoc, List.append_assoc, List.singleton_append, List.singleton_append]
      rw [replace_append_cons hpattern hc, ih]

theorem toList_intercalate_comma (texts : List String)
    : (String.intercalate "," texts).toList = [','].intercalate (texts.map String.toList) := by
  rw [String.toList_intercalate]
  rfl

theorem replaceString_intercalate {token : String} (htoken : token.toList ≠ [])
    (hc : ',' ∉ token.toList) (value : String) (texts : List String)
    : replaceString token value (String.intercalate "," texts)
        =
      String.intercalate "," (texts.map (replaceString token value)) := by
  apply String.toList_injective
  rw [replaceString, String.toList_ofList, toList_intercalate_comma, toList_intercalate_comma]
  rw [replace_intercalate htoken hc, List.map_map, List.map_map]
  congr 1
  apply List.map_congr_left
  intro text _
  rw [Function.comp_apply, Function.comp_apply, replaceString, String.toList_ofList]

end Text

def FormPart.text? : FormPart → Option String
  | text value => some value
  | file _ => none

theorem Value.exists_texts_of_flatText {v : Value} {s : String} (h : v.isFlat = true)
    (hs : Document.flatText itemText v = .ok s)
    : ∃ texts, v.items.map primitiveText? = texts.map some ∧ s = String.intercalate "," texts := by
  obtain ⟨texts, htexts, heq⟩ := Document.flatText_eq_ok_iff.mp hs
  refine ⟨texts, ?_, heq.symm⟩
  rw [map_eq_map_some_iff]
  refine (forall₂_congr_of_mem ?_).mp htexts
  intro item hitem text
  rw [primitiveText?_eq_some_iff, and_iff_right (List.all_eq_true.mp h item hitem)]

inductive Slot where
  | query (key : String)
  | formUrlencoded (key : String)
  | formText (key : String)
  deriving DecidableEq, Repr

namespace Slot

def location : Slot → Location
  | query key => .query key
  | formUrlencoded key | formText key => .form key

def value? (d : Document) : Slot → Option Value
  | query key => Fields.get? key (d.queryParams.getD [])
  | formUrlencoded key => Fields.get? key (d.body.formUrlencoded.getD [])
  | formText key => (Fields.get? key (d.body.formData.getD [])).bind Document.FormField.text

def text? (r : Request) (slot : Slot) : Option String :=
  match slot, r.body with
  | query key, _ => Fields.get? key r.queryParams
  | formUrlencoded key, .formUrlencoded fields => Fields.get? key fields
  | formText key, .formData fields => (Fields.get? key fields).bind FormPart.text?
  | _, _ => none

variable {r : Request} {slot : Slot} {s : String}

theorem mem_sites_of_text? (h : slot.text? r = some s) : (slot.location, s) ∈ r.sites := by
  cases slot with
  | query key => exact Request.query_mem_sites_iff.mpr (Fields.mem_of_get?_eq_some h)
  | formUrlencoded key =>
    cases hbody : r.body with
    | formUrlencoded fields =>
      simp only [text?, hbody] at h
      refine Request.form_mem_sites_iff.mpr ?_
      rw [hbody]
      exact List.mem_map_of_mem (Fields.mem_of_get?_eq_some h)
    | _ => simp [text?, hbody] at h
  | formText key =>
    cases hbody : r.body with
    | formData fields =>
      simp only [text?, hbody, Option.bind_eq_some_iff] at h
      obtain ⟨part, hpart, htext⟩ := h
      cases part with
      | file path => cases htext
      | text value =>
        cases htext
        refine Request.form_mem_sites_iff.mpr ?_
        rw [hbody]
        exact List.mem_map_of_mem (Fields.mem_of_get?_eq_some hpart)
    | _ => simp [text?, hbody] at h

theorem leadsTo_of_text? (hkeys : r.HasDistinctKeys) (h : slot.text? r = some s)
    : r.LeadsTo (· == slot.location) (slot.location, s) := by
  have hmem := mem_sites_of_text? h
  cases slot with
  | query key => exact Request.leadsTo_query hkeys (Request.query_mem_sites_iff.mp hmem)
  | formUrlencoded key => exact Request.leadsTo_form hkeys (Request.form_mem_sites_iff.mp hmem)
  | formText key => exact Request.leadsTo_form hkeys (Request.form_mem_sites_iff.mp hmem)

theorem text?_rewrite (f : (Location → Bool) → List Char → List Char)
    : slot.text? (r.rewrite f)
        =
      (slot.text? r).map fun s => String.ofList (f (· == slot.location) s.toList) := by
  cases slot with
  | query key =>
    exact Fields.get?_mapFirsts (fun key s => String.ofList (f (· == .query key) s.toList)) key
      r.queryParams
  | formUrlencoded key =>
    cases hbody : r.body with
    | formUrlencoded fields =>
      simp only [text?, Request.rewrite, Request.change, Body.change, hbody]
      exact Fields.get?_mapFirsts (fun key s => String.ofList (f (· == .form key) s.toList)) key
        fields
    | _ => simp [text?, Request.rewrite, Request.change, Body.change, hbody]
  | formText key =>
    cases hbody : r.body with
    | formData fields =>
      simp only [text?, Request.rewrite, Request.change, Body.change, hbody]
      rw [Fields.get?_mapFirsts (fun key => FormPart.mapContent
        fun s => String.ofList (f (· == .form key) s.toList)) key fields]
      cases Fields.get? key fields with
      | none => rfl
      | some part => cases part <;> rfl
    | _ => simp [text?, Request.rewrite, Request.change, Body.change, hbody]

end Slot

namespace Document

variable {d : Document} {slot : Slot} {v : Value} {name : String}

theorem isFlat_of_value? {root : Fields Value} (htable : ofTable root = .ok d)
    (h : slot.value? d = some v) : v.isFlat = true := by
  obtain ⟨hquery, hbody⟩ := isFlat_of_ofTable htable
  cases slot with
  | query key => exact hquery _ (Fields.mem_of_get?_eq_some h)
  | formUrlencoded key => exact hbody.formUrlencoded _ (Fields.mem_of_get?_eq_some h)
  | formText key =>
    obtain ⟨field, hfield, htext⟩ := Option.bind_eq_some_iff.mp h
    exact hbody.formData _ (Fields.mem_of_get?_eq_some hfield) v htext

theorem FormField.text?_of_toPart {raw : Value} {field : FormField} {part : FormPart}
    (hreads : Reads raw field) (hpart : field.toPart Value.itemText = .ok part)
    (h : field.text = some v)
    : ∃ s, part.text? = some s ∧ flatText Value.itemText v = .ok s := by
  cases hreads with
  | text w =>
    cases h
    obtain ⟨s, hs, rfl⟩ := toPart_text.mp hpart
    exact ⟨s, rfl, hs⟩
  | file path => cases h

theorem Makes.exists_text? {table : Fields Value} {r : Request} (hmakes : Makes Value.itemText d r)
    (hbody : Body.Reads table d.body) (h : slot.value? d = some v)
    : ∃ s, slot.text? r = some s ∧ flatText Value.itemText v = .ok s := by
  cases slot with
  | query key => exact Fields.get?_of_mapValuesM hmakes.queryParams h
  | formUrlencoded key =>
    have hmade := hmakes.body
    rw [Slot.value?] at h
    simp only [Slot.text?]
    generalize d.body = body at hbody hmade h
    -- The body has one kind, so no other kind is preferred to the one that holds the value.
    cases hbody with
    | formUrlencoded hkey fields =>
      obtain ⟨texts, htexts, heq⟩ := Body.toRequestBody_formUrlencoded.mp hmade
      rw [← heq]
      exact Fields.get?_of_mapValuesM htexts h
    | _ => simp [Body.empty, Fields.get?] at h
  | formText key =>
    have hmade := hmakes.body
    rw [Slot.value?] at h
    simp only [Slot.text?]
    generalize d.body = body at hbody hmade h
    cases hbody with
    | formData hkey hfields =>
      obtain ⟨field, hfield, htext⟩ := Option.bind_eq_some_iff.mp h
      obtain ⟨entry, _, _, hreads⟩ :=
        exists_left_of_forall₂ hfields (Fields.mem_of_get?_eq_some hfield)
      obtain ⟨parts, hparts, heq⟩ := Body.toRequestBody_formData.mp hmade
      obtain ⟨part, hpart, hmapped⟩ := Fields.get?_of_mapValuesM hparts hfield
      rw [← heq]
      simp only [hpart, Option.bind_some]
      exact FormField.text?_of_toPart hreads hmapped htext
    | _ => simp [Body.empty, Fields.get?] at h

/--
What becomes of the values of a document that are primitive or arrays of primitive values. A name is
listed at the place of such a value if and only if its token stands in the text of one of the items.
After rendering the texts of the items stand there, with the token replaced in each of them, and commas
between them. Each key of the query stands once, before and after, so there is nothing behind the first
text that a look-up finds.
-/
theorem items_render {text : String} {r : Request} (h : ofText text = .ok d)
    (hr : d.toRequest = .ok r)
    : (Fields.keys r.queryParams).Nodup
        ∧ Fields.keys r.queryParams = Fields.keys (d.queryParams.getD [])
        ∧ ∀ (slot : Slot) (v : Value), slot.value? d = some v →
          ∃ texts : List String, v.items.map Value.primitiveText? = texts.map some
            ∧ ∀ name : String, isName name.toList = true → ',' ∉ name.toList →
              (slot.location ∈ r.catalog.get name
                ↔ ∃ item ∈ texts, (tokenOf name).toList <:+: item.toList)
              ∧ ∀ value r', r.render r.catalog [(name, value)] = .ok r' →
                slot.text? r'
                  = some (String.intercalate "," (texts.map (Text.replaceString (tokenOf name) value)))
                ∧ Fields.keys r'.queryParams = Fields.keys (d.queryParams.getD []) := by
  have hkeys := hasDistinctKeys_of_ofText h hr
  obtain ⟨root, hroot, htable⟩ := exists_ofTable_of_ofText h
  have houtline := outline_toRequest_of_ofTable hroot htable hr
  obtain ⟨table, _, hbody⟩ := exists_reads_of_ofTable hroot htable
  have hquery : Fields.keys r.queryParams = Fields.keys (d.queryParams.getD []) :=
    congrArg Outline.queryKeys houtline
  refine ⟨hkeys.queryParams, hquery, ?_⟩
  intro slot v hv
  obtain ⟨s, htext, hs⟩ := (toRequest_eq_ok_iff.mp hr).exists_text? hbody hv
  obtain ⟨texts, htexts, hflat⟩ := Value.exists_texts_of_flatText (isFlat_of_value? htable hv) hs
  have hleads := Slot.leadsTo_of_text? hkeys htext
  refine ⟨texts, htexts, fun name hname hcomma => ?_⟩
  have htoken : (tokenOf name).toList = token name.toList := String.toList_ofList
  have hne : (tokenOf name).toList ≠ [] := by
    rw [htoken]
    exact token_ne_nil _
  have hnot : ',' ∉ (tokenOf name).toList := by
    simp [htoken, token, hcomma]
  constructor
  · rw [hleads.mem_get_catalog_iff hname, ← htoken, hflat, Text.toList_intercalate_comma]
    rw [Text.infix_intercalate_iff hne hnot]
    simp only [List.mem_map, exists_exists_and_eq_and]
  · intro value r' hrender
    constructor
    · rw [(Request.render_catalog_eq_ok_iff.mp hrender).2, Slot.text?_rewrite, htext]
      rw [Option.map_some, Request.replaceEach_valuedAt_catalog hname hleads, ← htoken]
      rw [← Text.replaceString, hflat, Text.replaceString_intercalate hne hnot]
    · rw [← hquery]
      exact congrArg Outline.queryKeys (Request.outline_of_render hrender)

theorem items_render_border
    : let text := "[http]\nurl = 'u'\n[body.form-data]\n"
        ++ "f.text = ['\x7b\x7ba\x7d\x7d', 1, '\x7b\x7b', 'a\x7d\x7d', '']"
      ∃ d r r', ofText text = .ok d ∧ d.toRequest = .ok r
        ∧ r.render r.catalog [("a", "x,y")] = .ok r'
        ∧ .form "f" ∈ r.catalog.get "a"
        ∧ (Slot.formText "f").text? r' = some "x,y,1,\x7b\x7b,a\x7d\x7d," := by
  intro text
  let items := ["\x7b\x7ba\x7d\x7d", "1", "\x7b\x7b", "a\x7d\x7d", ""]
  obtain ⟨d, r, r', hdocument, hr, hrender, htest⟩ := exists_render_of_test text [("a", "x,y")]
    (fun d _ _ => ((Slot.formText "f").value? d).any fun v =>
      v.items.map Value.primitiveText? = items.map some)
    (by decide +kernel)
  obtain ⟨v, hvalue, hitems⟩ := (Option.any_eq_true _ _).mp htest
  obtain ⟨texts, htexts, hnames⟩ := (items_render hdocument hr).2.2 _ v hvalue
  rw [of_decide_eq_true hitems] at htexts
  have hinjective : Function.Injective (some : String → Option String) := fun _ _ => Option.some.inj
  obtain rfl := List.map_injective_iff.mpr hinjective htexts
  obtain ⟨hlisted, hresult⟩ := hnames "a" (by decide) (by decide)
  refine ⟨d, r, r', hdocument, hr, hrender, hlisted.mpr ⟨_, List.mem_cons_self, by decide⟩, ?_⟩
  rw [(hresult "x,y" r' hrender).1]
  decide +kernel

end Document

end RequestFile
