import Mathlib.Data.List.Infix
import RequestFile.Document.Reading
import RequestFile.Proofs.Text.Utf8

/-!
This module contains how reading a document from a file compares with reading it from a text: which
bytes are no text, and which texts have the same line ends in both ways of reading.
-/

namespace RequestFile

namespace Text

variable {text : List Char}

def ReturnsPaired (text : List Char) : Prop :=
  ∀ rest, '\r' :: rest <:+ text → ['\n'] <+: rest

theorem ReturnsPaired.of_suffix {rest : List Char} (h : ReturnsPaired text) (hrest : rest <:+ text)
    : ReturnsPaired rest :=
  fun more hmore => h more (hmore.trans hrest)

theorem ReturnsPaired.of_not_mem (h : '\r' ∉ text) : ReturnsPaired text :=
  fun _ hrest => absurd (hrest.subset List.mem_cons_self) h

theorem universalLineEnds_eq_joinLineEnds (h : ReturnsPaired text)
    : universalLineEnds text = joinLineEnds text := by
  fun_induction universalLineEnds text with
  | case1 => rfl
  | case2 rest ih =>
    rw [joinLineEnds, ih (h.of_suffix ((List.suffix_cons _ _).trans (List.suffix_cons _ _)))]
  | case3 c rest hplain ih =>
    have hc : c ≠ '\r' := by
      rintro rfl
      rcases h rest List.suffix_rfl with ⟨more, rfl⟩
      exact hplain more rfl rfl
    rw [joinLineEnds, if_neg hc, ih (h.of_suffix (List.suffix_cons _ _))]
    exact hplain

theorem not_mem_universalLineEnds (text : List Char) : '\r' ∉ universalLineEnds text := by
  fun_induction universalLineEnds text with
  | case1 => simp
  | case2 rest ih => simpa using ih
  | case3 c rest hplain ih =>
    rw [List.mem_cons, not_or]
    refine ⟨?_, ih⟩
    split
    · decide
    · next hc => exact Ne.symm hc

theorem joinLineEnds_of_not_mem (h : '\r' ∉ text) : joinLineEnds text = text := by
  fun_induction joinLineEnds text with
  | case1 => rfl
  | case2 rest ih => simp at h
  | case3 c rest hplain ih => rw [ih (List.not_mem_of_not_mem_cons h)]

theorem joinLineEnds_universalLineEnds (text : List Char)
    : joinLineEnds (universalLineEnds text) = universalLineEnds text :=
  joinLineEnds_of_not_mem (not_mem_universalLineEnds text)

end Text

namespace Document

variable {files : FileSystem} {path : String} {bytes : List UInt8}

theorem ofFile_eq_ofBytes (h : files (Path.normalize path) = .ok bytes)
    : ofFile files path = ofBytes bytes := by
  simp only [ofFile, h]

theorem ofBytes_encode (text : List Char)
    : ofBytes (Text.Utf8.encode text) = ofText (String.ofList (Text.universalLineEnds text)) := by
  rw [ofBytes, Text.Utf8.decode_eq_ok_iff.mpr rfl]

theorem ofTable_ne_undecodable {root : Fields Value} {e : Text.Utf8.DecodeError}
    : ofTable root ≠ .error (.undecodable e) := by
  unfold ofTable
  split
  · simp
  · split
    · simp
    · simp

theorem ofText_ne_undecodable {text : String} {e : Text.Utf8.DecodeError}
    : ofText text ≠ .error (.undecodable e) := by
  unfold ofText
  split
  · simp
  · simp
  · exact ofTable_ne_undecodable

theorem exists_ofBytes_undecodable_iff
    : (∃ e, ofBytes bytes = .error (.undecodable e)) ↔ ¬ ∃ text, bytes = Text.Utf8.encode text := by
  simp only [← Text.Utf8.decode_eq_ok_iff]
  unfold ofBytes
  cases Text.Utf8.decode bytes with
  | error e => simp
  | ok text => simp [ofText_ne_undecodable]

theorem ofText_universalLineEnds {text : String} (h : Text.ReturnsPaired text.toList)
    : ofText (String.ofList (Text.universalLineEnds text.toList)) = ofText text := by
  unfold ofText Toml.read
  rw [String.toList_ofList, Text.joinLineEnds_universalLineEnds]
  rw [Text.universalLineEnds_eq_joinLineEnds h]

theorem ofFile_eq_ofText {text : String} (hreturns : Text.ReturnsPaired text.toList)
    (hbytes : files (Path.normalize path) = .ok text.toUTF8.data.toList)
    : ofFile files path = ofText text := by
  rw [← Text.Utf8.encode_toList] at hbytes
  rw [ofFile_eq_ofBytes hbytes, ofBytes_encode, ofText_universalLineEnds hreturns]

/--
A file that can be read is refused as undecodable if and only if its bytes are the UTF-8 encoding of no
text. And if they encode a text in which a line feed follows every carriage return, reading the file
and reading the text give the same.
-/
theorem ofFile_utf8
    : (∀ (files : FileSystem) (path : String) (bytes : List UInt8),
        files (Path.normalize path) = .ok bytes →
        ((∃ e, ofFile files path = .error (.undecodable e))
          ↔ ¬ ∃ text : String, bytes = text.toUTF8.data.toList))
      ∧ ∀ (files : FileSystem) (path text : String),
        Text.ReturnsPaired text.toList →
        files (Path.normalize path) = .ok text.toUTF8.data.toList →
        ofFile files path = ofText text := by
  constructor
  · intro files path bytes hbytes
    rw [ofFile_eq_ofBytes hbytes, exists_ofBytes_undecodable_iff, not_iff_not]
    simp only [← Text.Utf8.encode_toList]
    constructor
    · rintro ⟨text, rfl⟩
      exact ⟨String.ofList text, by rw [String.toList_ofList]⟩
    · rintro ⟨text, rfl⟩
      exact ⟨text.toList, rfl⟩
  · exact fun files path text hreturns hbytes => ofFile_eq_ofText hreturns hbytes

theorem ofFile_utf8_lines
    : let surrogate : List UInt8 := [0xED, 0xA0, 0x80]
      let text := "[http]\r\nurl = '''é\r\n'''"
      (¬ ∃ other : String, surrogate = other.toUTF8.data.toList)
        ∧ ∃ d, ofFile (fun _ => .ok text.toUTF8.data.toList) "f" = .ok d ∧ d.http.url = "é\n" := by
  intro surrogate text
  constructor
  · have hdecode : Text.Utf8.decode surrogate = .error ⟨0, [0xED], .continuation⟩ := by decide +kernel
    rw [← ofFile_utf8.1 (fun _ => .ok surrogate) "f" surrogate rfl, ofFile_eq_ofBytes rfl, ofBytes,
      hdecode]
    exact ⟨_, rfl⟩
  · have htails : ∀ suffix ∈ text.toList.tails, suffix.head? = some '\r' → ['\n'] <+: suffix.tail := by
      decide +kernel
    have hreturns : Text.ReturnsPaired text.toList := by
      intro rest hrest
      exact htails _ ((List.mem_tails _ _).mpr hrest) rfl
    rw [ofFile_utf8.2 _ "f" text hreturns rfl]
    obtain ⟨d, hdocument, htest⟩ := Except.exists_of_test (ofText text)
      (fun d => decide (d.http.url = "é\n")) (by decide +kernel)
    exact ⟨d, hdocument, of_decide_eq_true htest⟩

end Document

end RequestFile
