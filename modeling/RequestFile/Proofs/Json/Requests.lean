import RequestFile.CommandLine
import RequestFile.Proofs.Json.Printed

/-!
This module contains what can be told from the JSON print-out of a request: all that is sent, exactly,
and of metadata and variables what is seen of their plain data.
-/

namespace RequestFile

open Json (printed printedItems printedMembers printedItems_eq_map printedMembers_eq_map)

theorem printed_header_injective {h h' : Header}
    (heq : printed (.array [.text (String.ofList h.nameText), .text (String.ofList h.valueText)])
      = printed (.array [.text (String.ofList h'.nameText), .text (String.ofList h'.valueText)]))
    : h = h' := by
  simp only [printed, printedItems, Json.Printed.array.injEq, List.cons.injEq,
    Json.Printed.text.injEq, String.ofList_inj, and_true] at heq
  rcases h with ⟨name, value⟩
  rcases h' with ⟨name', value'⟩
  have hname : name = name' := Text.Latin1.decode_injective heq.1
  have hvalue : value = value' := Text.Latin1.decode_injective heq.2
  rw [hname, hvalue]

theorem printed_queryParam_injective {pair pair' : String × String}
    (heq : printed (.array [.text pair.1, .text pair.2])
      = printed (.array [.text pair'.1, .text pair'.2]))
    : pair = pair' := by
  simp only [printed, printedItems, Json.Printed.array.injEq, List.cons.injEq,
    Json.Printed.text.injEq, and_true] at heq
  exact Prod.ext heq.1 heq.2

theorem FormPart.printed_toJson_injective {part part' : FormPart}
    (heq : printed part.toJson = printed part'.toJson) : part = part' := by
  cases part with
  | text value =>
    cases part' with
    | text value' => simpa [FormPart.toJson, printed, printedMembers] using heq
    | file path' => simp [FormPart.toJson, printed, printedMembers] at heq
  | file path =>
    cases part' with
    | text value' => simp [FormPart.toJson, printed, printedMembers] at heq
    | file path' => simpa [FormPart.toJson, printed, printedMembers] using heq

theorem printedMembers_mapValues_injective {α : Type} {toJson : α → Json}
    (hinj : ∀ x y, printed (toJson x) = printed (toJson y) → x = y) {fields fields' : Fields α}
    (heq : printedMembers (Fields.mapValues toJson fields)
      = printedMembers (Fields.mapValues toJson fields'))
    : fields = fields' := by
  simp only [printedMembers_eq_map, Fields.mapValues, List.map_map] at heq
  refine List.map_inj_right ?_ |>.mp heq
  intro entry entry' hentry
  simp only [Function.comp_apply, Prod.mk.injEq] at hentry
  exact Prod.ext hentry.1 (hinj _ _ hentry.2)

theorem Body.printed_toJson_injective {body body' : Body}
    (heq : printed body.toJson = printed body'.toJson) : body = body' := by
  simp only [Body.toJson, printed, printedMembers, Json.Printed.object.injEq, List.cons.injEq,
    Prod.mk.injEq, Json.Printed.text.injEq, true_and] at heq
  obtain ⟨hkind, hmembers⟩ := heq
  cases body with
  | empty =>
    cases body' with
    | empty => rfl
    | _ => simp [Body.kind] at hkind
  | raw content mime =>
    cases body' with
    | raw => simpa [printed, printedMembers] using hmembers
    | _ => simp [Body.kind] at hkind
  | binary path mime =>
    cases body' with
    | binary => simpa [printed, printedMembers] using hmembers
    | _ => simp [Body.kind] at hkind
  | formData fields =>
    cases body' with
    | formData fields' =>
      simp only [printed, printedMembers, List.cons.injEq, Prod.mk.injEq, true_and, and_true,
        Json.Printed.object.injEq] at hmembers
      have hfields := printedMembers_mapValues_injective
        (fun _ _ h => FormPart.printed_toJson_injective h) hmembers
      rw [hfields]
    | _ => simp [Body.kind] at hkind
  | formUrlencoded fields =>
    cases body' with
    | formUrlencoded fields' =>
      simp only [printed, printedMembers, List.cons.injEq, Prod.mk.injEq, true_and, and_true,
        Json.Printed.object.injEq] at hmembers
      have hfields := printedMembers_mapValues_injective
        (fun _ _ h => by simpa [printed] using h) hmembers
      rw [hfields]
    | _ => simp [Body.kind] at hkind

/--
Two requests have the same JSON print-out if and only if all that is sent is the same, byte for byte
and in the same order, and the plain data of their metadata and variables looks the same.
-/
theorem OutputFormat.print_json_eq_iff (a b : Request)
    : json.print a = json.print b
        ↔
      a.method = b.method ∧ a.url = b.url ∧ a.httpVersion = b.httpVersion ∧ a.headers = b.headers
        ∧ a.queryParams = b.queryParams ∧ a.body = b.body
        ∧ printedMembers (Value.toJsonMembers a.metadata)
          = printedMembers (Value.toJsonMembers b.metadata)
        ∧ printedMembers (Value.toJsonMembers a.vars)
          = printedMembers (Value.toJsonMembers b.vars) := by
  rw [OutputFormat.print, OutputFormat.print, Json.print_eq_print_iff]
  simp only [Request.toJson, printed, printedMembers, printedItems_eq_map, List.map_map,
    Json.Printed.object.injEq, List.cons.injEq, Prod.mk.injEq, Json.Printed.text.injEq,
    Json.Printed.array.injEq, true_and, and_true]
  constructor
  · rintro ⟨hmethod, hurl, hversion, hmetadata, hheaders, hquery, hvars, hbody⟩
    refine ⟨hmethod, hurl, hversion, ?_, ?_, ?_, hmetadata, hvars⟩
    · exact List.map_inj_right (fun _ _ h => printed_header_injective h) |>.mp hheaders
    · exact List.map_inj_right (fun _ _ h => printed_queryParam_injective h) |>.mp hquery
    · exact Body.printed_toJson_injective hbody
  · rintro ⟨hmethod, hurl, hversion, hheaders, hquery, hbody, hmetadata, hvars⟩
    rw [hheaders, hquery, hbody]
    exact ⟨hmethod, hurl, hversion, hmetadata, rfl, rfl, hvars, rfl⟩

end RequestFile
