import RequestFile.Checked
import RequestFile.Text.Latin1
import RequestFile.Text.Utf8

/-!
This module contains the agreement of the two sides of UTF-8: the decoder accepts what the encoder
writes, and nothing else.
-/

namespace RequestFile.Text.Utf8

open decodeFrom (char inside continues)

variable {c : Char} {byte : UInt8} {lead : Lead} {tail bytes : List UInt8} {position : Nat}

theorem isValidChar_toNat (c : Char) : c.toNat.isValidChar :=
  c.valid

theorem ofNat_eq (byte : UInt8) {n : Nat} (h : n = byte.toNat) : UInt8.ofNat n = byte := by
  rw [h, UInt8.ofNat_toNat]

theorem exists_toNat_eq {n : Nat} (h : n < 0x100) : ∃ byte : UInt8, byte.toNat = n :=
  ⟨UInt8.ofNat n, UInt8.toNat_ofNat_of_lt' h⟩

theorem encodeChar_oneByte (h : c.toNat < 0x80) : encodeChar c = [UInt8.ofNat c.toNat] := by
  rw [encodeChar, if_pos h]

theorem encodeChar_twoBytes (h : 0x80 ≤ c.toNat) (h' : c.toNat < 0x800)
    : encodeChar c
        =
      [UInt8.ofNat (0xC0 + c.toNat / 0x40), UInt8.ofNat (0x80 + c.toNat % 0x40)] := by
  rw [encodeChar, if_neg (by omega), if_pos h']

theorem encodeChar_threeBytes (h : 0x800 ≤ c.toNat) (h' : c.toNat < 0x10000)
    : encodeChar c
        =
      [UInt8.ofNat (0xE0 + c.toNat / 0x1000), UInt8.ofNat (0x80 + c.toNat / 0x40 % 0x40),
        UInt8.ofNat (0x80 + c.toNat % 0x40)] := by
  rw [encodeChar, if_neg (by omega), if_neg (by omega), if_pos h']

theorem encodeChar_fourBytes (h : 0x10000 ≤ c.toNat)
    : encodeChar c
        =
      [UInt8.ofNat (0xF0 + c.toNat / 0x40000), UInt8.ofNat (0x80 + c.toNat / 0x1000 % 0x40),
        UInt8.ofNat (0x80 + c.toNat / 0x40 % 0x40), UInt8.ofNat (0x80 + c.toNat % 0x40)] := by
  rw [encodeChar, if_neg (by omega), if_neg (by omega), if_neg (by omega)]

theorem encodeChar_eq_utf8EncodeChar (c : Char) : encodeChar c = String.utf8EncodeChar c := by
  have hvalid := isValidChar_toNat c
  have hvalue : c.val.toNat = c.toNat := rfl
  unfold encodeChar String.utf8EncodeChar
  simp only [hvalue]
  grind

theorem encode_toList (text : String) : encode text.toList = text.toUTF8.data.toList := by
  have hbytes : text.toUTF8 = text.toList.utf8Encode := String.utf8Encode_toList.symm
  have hencode : encodeChar = String.utf8EncodeChar := funext encodeChar_eq_utf8EncodeChar
  rw [hbytes, List.utf8Encode, List.data_toByteArray, encode, hencode]

theorem lead?_eq_some_iff
    : lead? byte = some lead
        ↔
      byte.toNat < 0x80 ∧ lead = ⟨0, 0x80, 0xBF, byte.toNat⟩
        ∨ 0xC2 ≤ byte.toNat ∧ byte.toNat < 0xE0 ∧ lead = ⟨1, 0x80, 0xBF, byte.toNat - 0xC0⟩
        ∨ 0xE0 ≤ byte.toNat ∧ byte.toNat < 0xF0
          ∧ lead = ⟨2, if byte.toNat = 0xE0 then 0xA0 else 0x80,
            if byte.toNat = 0xED then 0x9F else 0xBF, byte.toNat - 0xE0⟩
        ∨ 0xF0 ≤ byte.toNat ∧ byte.toNat < 0xF5
          ∧ lead = ⟨3, if byte.toNat = 0xF0 then 0x90 else 0x80,
            if byte.toNat = 0xF4 then 0x8F else 0xBF, byte.toNat - 0xF0⟩ := by
  unfold lead?
  dsimp only
  grind

theorem following_le (h : lead? byte = some lead) : lead.following ≤ 3 := by
  rcases lead?_eq_some_iff.mp h with ⟨_, rfl⟩ | ⟨_, _, rfl⟩ | ⟨_, _, rfl⟩ | ⟨_, _, rfl⟩
  all_goals simp

theorem inside_iff : inside lead byte ↔ lead.lower ≤ byte.toNat ∧ byte.toNat ≤ lead.upper := by
  simp [inside]

theorem continues_iff : continues byte ↔ 0x80 ≤ byte.toNat ∧ byte.toNat ≤ 0xBF := by
  simp [continues]

def Completes (lead : Lead) : List UInt8 → Prop
  | [] => lead.following = 0
  | second :: others =>
    lead.following = others.length + 1 ∧ inside lead second ∧ ∀ byte ∈ others, continues byte

theorem decodeFrom_of_completes {rest : List UInt8} (hlead : lead? byte = some lead)
    (h : Completes lead tail)
    : decodeFrom position (byte :: (tail ++ rest))
        =
      (decodeFrom (position + 1 + tail.length) rest).map (char lead tail :: ·) := by
  have hfollowing := following_le hlead
  match tail, h with
  | [], hnone =>
    replace hnone : lead.following = 0 := hnone
    simp [decodeFrom, hlead, hnone, char]
  | [_], ⟨hone, hsecond, _⟩ =>
    replace hone : lead.following = 1 := hone
    simp [decodeFrom, hlead, hone, hsecond]
  | [_, _], ⟨htwo, hsecond, hothers⟩ =>
    replace htwo : lead.following = 2 := htwo
    simp only [List.forall_mem_cons] at hothers
    simp [decodeFrom, hlead, htwo, hsecond, hothers]
  | [_, _, _], ⟨hthree, hsecond, hothers⟩ =>
    replace hthree : lead.following = 3 := hthree
    simp only [List.forall_mem_cons] at hothers
    simp [decodeFrom, hlead, hthree, hsecond, hothers]
  | _ :: _ :: _ :: _ :: _, ⟨hmore, _⟩ =>
    simp only [List.length_cons] at hmore
    omega

theorem encodeChar_char (hlead : lead? byte = some lead) (h : Completes lead tail)
    : encodeChar (char lead tail) = byte :: tail := by
  rw [lead?_eq_some_iff] at hlead
  unfold char
  -- The bounds on the second byte keep the number in the range that is written with as many bytes,
  -- and away from the surrogates.
  match tail, h with
  | [], hnone =>
    have hbyte : byte.toNat < 0x80 ∧ lead.bits = byte.toNat := by grind [Completes]
    have hvalue := Latin1.toNat_ofNat (n := lead.bits) (by omega)
    rw [List.foldl_nil, encodeChar_oneByte (by omega), hvalue, ofNat_eq byte hbyte.2]
  | [second], ⟨hone, hinside, _⟩ =>
    rw [inside_iff] at hinside
    have hbyte : 0xC2 ≤ byte.toNat ∧ byte.toNat < 0xE0 ∧ lead.bits = byte.toNat - 0xC0
      ∧ 0x80 ≤ second.toNat ∧ second.toNat ≤ 0xBF := by grind
    have hvalue := Latin1.toNat_ofNat (n := lead.bits * 0x40 + second.toNat % 0x40) (by omega)
    rw [List.foldl_cons, List.foldl_nil]
    rw [encodeChar_twoBytes (by omega) (by omega), hvalue]
    rw [ofNat_eq byte (by omega), ofNat_eq second (by omega)]
  | [second, third], ⟨htwo, hinside, hothers⟩ =>
    rw [inside_iff] at hinside
    simp only [List.forall_mem_singleton, continues_iff] at hothers
    have hbyte : 0xE0 ≤ byte.toNat ∧ byte.toNat < 0xF0 ∧ lead.bits = byte.toNat - 0xE0
      ∧ 0x80 ≤ second.toNat ∧ second.toNat ≤ 0xBF
      ∧ (byte.toNat = 0xE0 → 0xA0 ≤ second.toNat)
      ∧ (byte.toNat = 0xED → second.toNat ≤ 0x9F) := by grind
    have hvalue := Latin1.toNat_ofNat
      (n := (lead.bits * 0x40 + second.toNat % 0x40) * 0x40 + third.toNat % 0x40) (by omega)
    rw [List.foldl_cons, List.foldl_cons, List.foldl_nil]
    rw [encodeChar_threeBytes (by omega) (by omega), hvalue]
    rw [ofNat_eq byte (by omega), ofNat_eq second (by omega)]
    rw [ofNat_eq third (by omega)]
  | [second, third, fourth], ⟨hthree, hinside, hothers⟩ =>
    rw [inside_iff] at hinside
    simp only [List.forall_mem_cons, continues_iff] at hothers
    have hbyte : 0xF0 ≤ byte.toNat ∧ byte.toNat < 0xF5 ∧ lead.bits = byte.toNat - 0xF0
      ∧ 0x80 ≤ second.toNat ∧ second.toNat ≤ 0xBF
      ∧ (byte.toNat = 0xF0 → 0x90 ≤ second.toNat)
      ∧ (byte.toNat = 0xF4 → second.toNat ≤ 0x8F) := by grind
    have hvalue := Latin1.toNat_ofNat
      (n := ((lead.bits * 0x40 + second.toNat % 0x40) * 0x40 + third.toNat % 0x40) * 0x40
        + fourth.toNat % 0x40) (by omega)
    rw [List.foldl_cons, List.foldl_cons, List.foldl_cons, List.foldl_nil]
    rw [encodeChar_fourBytes (by omega), hvalue]
    rw [ofNat_eq byte (by omega), ofNat_eq second (by omega)]
    rw [ofNat_eq third (by omega), ofNat_eq fourth (by omega)]
  | _ :: _ :: _ :: _ :: _, ⟨hmore, _⟩ =>
    simp only [List.length_cons] at hmore
    grind

theorem exists_completes (c : Char)
    : ∃ byte lead tail, lead? byte = some lead ∧ Completes lead tail ∧ char lead tail = c := by
  have hvalid := isValidChar_toNat c
  by_cases hone : c.toNat < 0x80
  · rcases exists_toNat_eq (n := c.toNat) (by omega) with ⟨byte, hbyte⟩
    refine ⟨byte, _, [], lead?_eq_some_iff.mpr (.inl ⟨by omega, rfl⟩), rfl, ?_⟩
    rw [char, List.foldl_nil, hbyte, Char.ofNat_toNat]
  by_cases htwo : c.toNat < 0x800
  · rcases exists_toNat_eq (n := 0xC0 + c.toNat / 0x40) (by omega) with ⟨byte, hbyte⟩
    rcases exists_toNat_eq (n := 0x80 + c.toNat % 0x40) (by omega) with ⟨second, hsecond⟩
    have hvalue : (byte.toNat - 0xC0) * 0x40 + second.toNat % 0x40 = c.toNat := by omega
    refine ⟨byte, _, [second], lead?_eq_some_iff.mpr (.inr (.inl ⟨by omega, by omega, rfl⟩)),
      ⟨rfl, ?_, by simp⟩, ?_⟩
    · rw [inside_iff]
      dsimp only
      omega
    · rw [char, List.foldl_cons, List.foldl_nil, hvalue, Char.ofNat_toNat]
  by_cases hthree : c.toNat < 0x10000
  · rcases exists_toNat_eq (n := 0xE0 + c.toNat / 0x1000) (by omega) with ⟨byte, hbyte⟩
    rcases exists_toNat_eq (n := 0x80 + c.toNat / 0x40 % 0x40) (by omega) with ⟨second, hsecond⟩
    rcases exists_toNat_eq (n := 0x80 + c.toNat % 0x40) (by omega) with ⟨third, hthird⟩
    have hvalue : ((byte.toNat - 0xE0) * 0x40 + second.toNat % 0x40) * 0x40 + third.toNat % 0x40
        = c.toNat := by omega
    refine ⟨byte, _, [second, third],
      lead?_eq_some_iff.mpr (.inr (.inr (.inl ⟨by omega, by omega, rfl⟩))), ⟨rfl, ?_, ?_⟩, ?_⟩
    · rw [inside_iff]
      dsimp only
      constructor
      · split <;> omega
      · split <;> omega
    · rw [List.forall_mem_singleton, continues_iff]
      omega
    · rw [char, List.foldl_cons, List.foldl_cons, List.foldl_nil, hvalue, Char.ofNat_toNat]
  · rcases exists_toNat_eq (n := 0xF0 + c.toNat / 0x40000) (by omega) with ⟨byte, hbyte⟩
    rcases exists_toNat_eq (n := 0x80 + c.toNat / 0x1000 % 0x40) (by omega) with ⟨second, hsecond⟩
    rcases exists_toNat_eq (n := 0x80 + c.toNat / 0x40 % 0x40) (by omega) with ⟨third, hthird⟩
    rcases exists_toNat_eq (n := 0x80 + c.toNat % 0x40) (by omega) with ⟨fourth, hfourth⟩
    have hvalue : (((byte.toNat - 0xF0) * 0x40 + second.toNat % 0x40) * 0x40
        + third.toNat % 0x40) * 0x40 + fourth.toNat % 0x40 = c.toNat := by omega
    refine ⟨byte, _, [second, third, fourth],
      lead?_eq_some_iff.mpr (.inr (.inr (.inr ⟨by omega, by omega, rfl⟩))), ⟨rfl, ?_, ?_⟩, ?_⟩
    · rw [inside_iff]
      dsimp only
      constructor
      · split <;> omega
      · split <;> omega
    · simp only [List.forall_mem_cons, continues_iff]
      exact ⟨by omega, by omega, by simp⟩
    · rw [char, List.foldl_cons, List.foldl_cons, List.foldl_cons, List.foldl_nil, hvalue,
        Char.ofNat_toNat]

theorem decodeFrom_encodeChar {rest : List UInt8} (c : Char)
    : decodeFrom position (encodeChar c ++ rest)
        =
      (decodeFrom (position + (encodeChar c).length) rest).map (c :: ·) := by
  rcases exists_completes c with ⟨byte, lead, tail, hlead, htail, rfl⟩
  rw [encodeChar_char hlead htail, List.cons_append, decodeFrom_of_completes hlead htail]
  rw [List.length_cons, Nat.add_assoc, Nat.add_comm 1]

theorem decodeFrom_encode (text : List Char) : decodeFrom position (encode text) = .ok text := by
  induction text generalizing position with
  | nil => rfl
  | cons c rest ih => rw [encode, List.flatMap_cons, decodeFrom_encodeChar, ← encode, ih]; rfl

theorem encode_of_map {text : List Char} {rest : List UInt8}
    {others : Except DecodeError (List Char)} (tail : List UInt8) (hlead : lead? byte = some lead)
    (htail : Completes lead tail)
    (ih : ∀ {text}, others = .ok text → encode text = rest)
    (h : others.map (char lead tail :: ·) = .ok text)
    : encode text = byte :: (tail ++ rest) := by
  rcases Except.map_eq_ok_iff.mp h with ⟨text, htext, rfl⟩
  rw [encode, List.flatMap_cons, ← encode, encodeChar_char hlead htail, ih htext]
  rfl

theorem encode_of_decodeFrom {text : List Char} (h : decodeFrom position bytes = .ok text)
    : encode text = bytes := by
  fun_induction decodeFrom position bytes generalizing text with
  | case1 =>
    cases h
    rfl
  | case2 | case4 | case5 | case7 | case8 | case9 | case11 | case12 | case13 | case14 | case15 =>
    cases h
  | case3 _ byte lead hlead rest hnone ih =>
    exact encode_of_map [] hlead hnone ih h
  | case6 _ byte lead hlead second rest hone hsecond ih =>
    refine encode_of_map [second] hlead ⟨hone, ?_, ?_⟩ ih h
    · simpa using hsecond
    · simp
  | case10 _ byte lead hlead second htwo hsecond third rest hthird ih =>
    refine encode_of_map [second, third] hlead ⟨htwo, ?_, ?_⟩ ih h
    · simpa using hsecond
    · simpa using hthird
  | case16 _ byte lead hlead second hsecond third hthird fourth rest hfourth hnone hone htwo ih =>
    have hthree : lead.following = 3 := by
      have hfollowing := following_le hlead
      grind only
    refine encode_of_map [second, third, fourth] hlead ⟨hthree, ?_, ?_⟩ ih h
    · simpa using hsecond
    · simp_all

theorem decode_eq_ok_iff {text : List Char} : decode bytes = .ok text ↔ bytes = encode text := by
  constructor
  · exact fun h => (encode_of_decodeFrom h).symm
  · rintro rfl
    exact decodeFrom_encode text

end RequestFile.Text.Utf8
