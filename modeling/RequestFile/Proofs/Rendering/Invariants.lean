import Mathlib.Logic.Relation
import RequestFile.Proofs.Document.Requests
import RequestFile.Proofs.Rendering.Discovered

/-!
This module contains what rendering keeps, whatever the catalog and the values. The outline of a
request never changes, and a header value that is visible text stays visible text, because every value
that is put into it is checked. So no sequence of renderings breaks a request that a document became.
-/

namespace RequestFile

section Change

variable {onText : (Placeholder.Location → Bool) → String → String} {onHeader : Header → Header}

theorem Body.kind_change (body : Body) : (body.change onText).kind = body.kind := by
  cases body <;> rfl

theorem Body.formKeys_change (body : Body) : (body.change onText).formKeys = body.formKeys := by
  cases body with
  | formData fields => simp [change, formKeys, keys_mapFirsts]
  | formUrlencoded fields => simp [change, formKeys, keys_mapFirsts]
  | _ => rfl

theorem Request.outline_change (hname : ∀ h, (onHeader h).name = h.name) (r : Request)
    : (r.change onText onHeader).outline = r.outline := by
  have hnames : (mapFirsts Header.foldedName onHeader r.headers).map Header.nameText
      = r.headers.map Header.nameText := by
    apply map_mapFirsts
    intro h
    rw [Header.nameText, hname, Header.nameText]
  have hquery : Fields.keys (mapFirsts Prod.fst
      (fun entry => (entry.1, onText (· == .query entry.1) entry.2)) r.queryParams)
        = Fields.keys r.queryParams :=
    keys_mapFirsts (by simp) r.queryParams
  rw [outline, outline, Outline.mk.injEq]
  exact ⟨rfl, rfl, hnames, hquery, Body.kind_change r.body, Body.formKeys_change r.body⟩

end Change

namespace Request

variable {r r' : Request} {catalog : Placeholder.Catalog} {values : Fields String}

theorem outline_of_render (h : r.render catalog values = .ok r') : r'.outline = r.outline := by
  rcases of_render_eq_ok h with ⟨_, _, rfl⟩
  exact outline_change (by intro h; rfl) r

theorem isFieldValue_of_render (h : r.render catalog values = .ok r')
    (hvalues : ∀ h ∈ r.headers, Grammar.isFieldValue h.valueText = true)
    : ∀ h ∈ r'.headers, Grammar.isFieldValue h.valueText = true := by
  rcases of_render_eq_ok h with ⟨_, hvisible, rfl⟩
  intro header hheader
  -- A header that places lead to was checked after its last replacement, and others are as before.
  rcases mem_mapFirsts hheader with ⟨old, hfirst, rfl⟩ | hold
  · have hthrough := hvisible old hfirst
    rw [Header.valueText, Placeholder.decode_encode_replaceEach hthrough]
    exact Placeholder.isFieldValue_replaceEach hthrough (hvalues old (mem_of_isFirst hfirst))
  · exact hvalues header hold

def RendersTo (r r' : Request) : Prop :=
  ∃ catalog values, r.render catalog values = .ok r'

theorem IsWellFormed.of_rendersTo (h : r.IsWellFormed) (hstep : r.RendersTo r')
    : r'.IsWellFormed := by
  rcases hstep with ⟨catalog, values, hrender⟩
  exact h.of_outline_eq (outline_of_render hrender) (isFieldValue_of_render hrender h.headerValues)

end Request

namespace Document

open Relation

/--
A run: a request that a document became stays well-formed, with the outline of the document, however
often it is rendered.
-/
theorem wellFormed_of_renders {text : String} {d : Document} {start r : Request}
    (hdocument : ofText text = .ok d) (hstart : d.toRequest = .ok start)
    (hrun : ReflTransGen Request.RendersTo start r)
    : r.IsWellFormed ∧ r.outline = d.outline := by
  rcases exists_ofTable_of_ofText hdocument with ⟨root, hroot, htable⟩
  induction hrun with
  | refl =>
    exact ⟨isWellFormed_of_ofTable hroot htable hstart,
      outline_toRequest_of_ofTable hroot htable hstart⟩
  | tail _ hstep ih =>
    refine ⟨ih.1.of_rendersTo hstep, ?_⟩
    rcases hstep with ⟨catalog, values, hrender⟩
    rw [Request.outline_of_render hrender]
    exact ih.2

theorem wellFormed_of_renders_twice
    : ∃ d start r,
        ofText "[http]\nurl = 'u'\nmethod = 'get'\n[headers]\nA = '\x7b\x7ba\x7d\x7d'" = .ok d
        ∧ d.toRequest = .ok start
        ∧ ReflTransGen Request.RendersTo start r
        ∧ r.IsWellFormed
        ∧ r.outline = d.outline
        ∧ r.method = "GET"
        ∧ r.headers = [Header.ofText "A" "v"] := by
  -- The second catalog asks for places that are not there, and the first value brings in its name.
  let catalog : Placeholder.Catalog := ⟨[("b", [.header "a", .header "z", .query "q", .body])]⟩
  obtain ⟨d, start, next, hdocument, hstart, hfirst, htest⟩ := exists_render_of_test
    "[http]\nurl = 'u'\nmethod = 'get'\n[headers]\nA = '\x7b\x7ba\x7d\x7d'"
    [("a", "\x7b\x7bb\x7d\x7d")]
    (fun _ _ next => (next.render catalog [("b", "v")]).toOption.any fun r =>
      r.method = "GET" ∧ r.headers = [Header.ofText "A" "v"])
    (by decide +kernel)
  obtain ⟨r, hsecond, hfacts⟩ := Except.exists_of_test _ _ htest
  have hrun : ReflTransGen Request.RendersTo start r :=
    .tail (.single ⟨_, _, hfirst⟩) ⟨_, _, hsecond⟩
  have hwellFormed := wellFormed_of_renders hdocument hstart hrun
  exact ⟨d, start, r, hdocument, hstart, hrun, hwellFormed.1, hwellFormed.2,
    of_decide_eq_true hfacts⟩

end Document

end RequestFile
