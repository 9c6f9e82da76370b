/-
  UTF-8 both ways, its line feeds and its order. Texts and the bytes that spell them are in
  one to one correspondence (`decode?_eq_some_iff`), only the line feed is written with its
  byte (`eq_newline_of_mem_encodeChar`), and texts are in the same order as their bytes
  (`encode_lt`), so that names sorted as texts are sorted as bytes.
-/
import SourceTidy.Text.Utf8

namespace SourceTidy.Text.Utf8

/-! ## Numbers of characters and bytes -/

theorem toNat_valid (c : Char) : c.toNat < 0xD800 ∨ 0xDFFF < c.toNat ∧ c.toNat < 0x110000 :=
  c.valid

theorem toNat_ofNat_of_valid {n : Nat} (h : n < 0xD800 ∨ 0xDFFF < n ∧ n < 0x110000) :
    (Char.ofNat n).toNat = n := by
  have hv : n.isValidChar := h
  unfold Char.ofNat
  rw [dif_pos hv]
  rfl

theorem toNat_byte {n : Nat} (h : n < 256) : (UInt8.ofNat n).toNat = n :=
  UInt8.toNat_ofNat_of_lt' h

theorem byte_eq {a : UInt8} {n : Nat} (h : a.toNat = n) : UInt8.ofNat n = a := by
  rw [← h]
  exact UInt8.ofNat_toNat

theorem isSecond_iff {lead b : Nat} : isSecond lead b = true ↔
    (0x80 ≤ b ∧ b ≤ 0xBF) ∧ (lead = 0xE0 → 0xA0 ≤ b) ∧ (lead = 0xF0 → 0x90 ≤ b) ∧
      (lead = 0xED → b ≤ 0x9F) ∧ (lead = 0xF4 → b ≤ 0x8F) := by
  simp only [isSecond, Bool.and_eq_true, decide_eq_true_eq]
  constructor
  · intro h
    repeat' split at h
    all_goals omega
  · intro h
    repeat' split
    all_goals omega

theorem isTail_iff {b : Nat} : isTail b = true ↔ 0x80 ≤ b ∧ b ≤ 0xBF := by
  simp [isTail]

/-! ## One character -/

theorem front_one {a : UInt8} {bs : Bytes} (ha : a.toNat < 0x80) :
    front (a :: bs) = .char (Char.ofNat a.toNat) bs := by
  simp [front, ha]

theorem front_two {a b : UInt8} {bs : Bytes} (ha : 0xC2 ≤ a.toNat ∧ a.toNat ≤ 0xDF)
    (hb : isSecond a.toNat b.toNat = true) : front (a :: b :: bs) =
      .char (Char.ofNat ((a.toNat - 0xC0) * 0x40 + (b.toNat - 0x80))) bs := by
  have h1 : ¬ a.toNat < 0x80 := by omega
  simp [front, h1, ha, hb]

theorem front_three {a b c : UInt8} {bs : Bytes} (ha : 0xE0 ≤ a.toNat ∧ a.toNat ≤ 0xEF)
    (hb : isSecond a.toNat b.toNat = true) (hc : isTail c.toNat = true) :
    front (a :: b :: c :: bs) =
      .char (Char.ofNat ((a.toNat - 0xE0) * 0x1000 + (b.toNat - 0x80) * 0x40 +
        (c.toNat - 0x80))) bs := by
  have h1 : ¬ a.toNat < 0x80 := by omega
  have h2 : ¬ a.toNat ≤ 0xDF := by omega
  simp [front, h1, h2, ha, hb, hc]

theorem front_four {a b c d : UInt8} {bs : Bytes} (ha : 0xF0 ≤ a.toNat ∧ a.toNat ≤ 0xF4)
    (hb : isSecond a.toNat b.toNat = true) (hc : isTail c.toNat = true)
    (hd : isTail d.toNat = true) : front (a :: b :: c :: d :: bs) =
      .char (Char.ofNat ((a.toNat - 0xF0) * 0x40000 + (b.toNat - 0x80) * 0x1000 +
        (c.toNat - 0x80) * 0x40 + (d.toNat - 0x80))) bs := by
  have h1 : ¬ a.toNat < 0x80 := by omega
  have h2 : ¬ a.toNat ≤ 0xDF := by omega
  have h3 : ¬ a.toNat ≤ 0xEF := by omega
  simp [front, h1, h2, h3, ha, hb, hc, hd]

theorem ofNat_eq {n : Nat} {c : Char} (h : n = c.toNat) : Char.ofNat n = c := by
  rw [h, Char.ofNat_toNat]

/-- What is written for a character is read as that character. -/
theorem front_encodeChar (c : Char) (bs : Bytes) : front (encodeChar c ++ bs) = .char c bs := by
  have hc := toNat_valid c
  unfold encodeChar
  simp only
  split
  · next h1 =>
    have ha := toNat_byte (n := c.toNat) (by omega)
    rw [List.singleton_append, front_one (by omega), ofNat_eq ha]
  · split
    · next h1 h2 =>
      have ha := toNat_byte (n := 0xC0 + c.toNat / 0x40) (by omega)
      have hb := toNat_byte (n := 0x80 + c.toNat % 0x40) (by omega)
      rw [List.cons_append, List.singleton_append, front_two (by omega)
        (by rw [isSecond_iff]; omega), ofNat_eq (c := c) (by omega)]
    · split
      · next h1 h2 h3 =>
        have ha := toNat_byte (n := 0xE0 + c.toNat / 0x1000) (by omega)
        have hb := toNat_byte (n := 0x80 + c.toNat / 0x40 % 0x40) (by omega)
        have hd := toNat_byte (n := 0x80 + c.toNat % 0x40) (by omega)
        rw [List.cons_append, List.cons_append, List.singleton_append, front_three (by omega)
          (by rw [isSecond_iff]; omega) (by rw [isTail_iff]; omega), ofNat_eq (c := c) (by omega)]
      · next h1 h2 h3 =>
        have ha := toNat_byte (n := 0xF0 + c.toNat / 0x40000) (by omega)
        have hb := toNat_byte (n := 0x80 + c.toNat / 0x1000 % 0x40) (by omega)
        have hd := toNat_byte (n := 0x80 + c.toNat / 0x40 % 0x40) (by omega)
        have he := toNat_byte (n := 0x80 + c.toNat % 0x40) (by omega)
        rw [List.cons_append, List.cons_append, List.cons_append, List.singleton_append,
          front_four (by omega) (by rw [isSecond_iff]; omega) (by rw [isTail_iff]; omega)
          (by rw [isTail_iff]; omega), ofNat_eq (c := c) (by omega)]

theorem encodeChar_one {a : UInt8} (ha : a.toNat < 0x80) :
    encodeChar (Char.ofNat a.toNat) = [a] := by
  have hn := toNat_ofNat_of_valid (n := a.toNat) (by omega)
  simp only [encodeChar, hn, if_pos ha]
  rw [byte_eq rfl]

theorem encodeChar_two {a b : UInt8} (ha : 0xC2 ≤ a.toNat ∧ a.toNat ≤ 0xDF)
    (hb : isSecond a.toNat b.toNat = true) :
    encodeChar (Char.ofNat ((a.toNat - 0xC0) * 0x40 + (b.toNat - 0x80))) = [a, b] := by
  rw [isSecond_iff] at hb
  have hn := toNat_ofNat_of_valid (n := (a.toNat - 0xC0) * 0x40 + (b.toNat - 0x80)) (by omega)
  simp only [encodeChar, hn]
  rw [if_neg (by omega), if_pos (by omega), byte_eq (a := a) (by omega),
    byte_eq (a := b) (by omega)]

theorem encodeChar_three {a b c : UInt8} (ha : 0xE0 ≤ a.toNat ∧ a.toNat ≤ 0xEF)
    (hb : isSecond a.toNat b.toNat = true) (hc : isTail c.toNat = true) :
    encodeChar (Char.ofNat ((a.toNat - 0xE0) * 0x1000 + (b.toNat - 0x80) * 0x40 +
      (c.toNat - 0x80))) = [a, b, c] := by
  rw [isSecond_iff] at hb
  rw [isTail_iff] at hc
  have hn := toNat_ofNat_of_valid
    (n := (a.toNat - 0xE0) * 0x1000 + (b.toNat - 0x80) * 0x40 + (c.toNat - 0x80)) (by omega)
  simp only [encodeChar, hn]
  rw [if_neg (by omega), if_neg (by omega), if_pos (by omega), byte_eq (a := a) (by omega),
    byte_eq (a := b) (by omega), byte_eq (a := c) (by omega)]

theorem encodeChar_four {a b c d : UInt8} (ha : 0xF0 ≤ a.toNat ∧ a.toNat ≤ 0xF4)
    (hb : isSecond a.toNat b.toNat = true) (hc : isTail c.toNat = true)
    (hd : isTail d.toNat = true) :
    encodeChar (Char.ofNat ((a.toNat - 0xF0) * 0x40000 + (b.toNat - 0x80) * 0x1000 +
      (c.toNat - 0x80) * 0x40 + (d.toNat - 0x80))) = [a, b, c, d] := by
  rw [isSecond_iff] at hb
  rw [isTail_iff] at hc hd
  have hn := toNat_ofNat_of_valid
    (n := (a.toNat - 0xF0) * 0x40000 + (b.toNat - 0x80) * 0x1000 + (c.toNat - 0x80) * 0x40 +
      (d.toNat - 0x80)) (by omega)
  simp only [encodeChar, hn]
  rw [if_neg (by omega), if_neg (by omega), if_neg (by omega), byte_eq (a := a) (by omega),
    byte_eq (a := b) (by omega), byte_eq (a := c) (by omega), byte_eq (a := d) (by omega)]

/-- What is read as a character is what is written for it. -/
theorem encodeChar_of_front {c : Char} {bs rest : Bytes} (h : front bs = .char c rest) :
    bs = encodeChar c ++ rest := by
  unfold front at h
  split at h
  · cases h
  · simp only at h
    split at h
    · next h1 =>
      rw [Front.char.injEq] at h
      rw [← h.1, ← h.2, encodeChar_one h1]
      rfl
    split at h
    · next h2 =>
      simp only [Bool.and_eq_true, decide_eq_true_eq] at h2
      split at h
      · cases h
      split at h
      · next hb =>
        rw [Front.char.injEq] at h
        rw [← h.1, ← h.2, encodeChar_two h2 hb]
        rfl
      · cases h
    split at h
    · next h3 =>
      simp only [Bool.and_eq_true, decide_eq_true_eq] at h3
      split at h
      · cases h
      split at h
      · next hb =>
        split at h
        · cases h
        split at h
        · next hc =>
          rw [Front.char.injEq] at h
          rw [← h.1, ← h.2, encodeChar_three h3 hb hc]
          rfl
        · cases h
      · cases h
    split at h
    · next h4 =>
      simp only [Bool.and_eq_true, decide_eq_true_eq] at h4
      split at h
      · cases h
      split at h
      · next hb =>
        split at h
        · cases h
        split at h
        · next hc =>
          split at h
          · cases h
          split at h
          · next hd =>
            rw [Front.char.injEq] at h
            rw [← h.1, ← h.2, encodeChar_four h4 hb hc hd]
            rfl
          · cases h
        · cases h
      · cases h
    · cases h

theorem encodeChar_ne_nil (c : Char) : encodeChar c ≠ [] := by
  unfold encodeChar
  simp only
  repeat' split
  all_goals simp

/-! ## Texts -/

theorem decodeUpTo_encode (s : List Char) {n : Nat} (hn : (encode s).length ≤ n) :
    decodeUpTo n (encode s) = some s := by
  induction s generalizing n with
  | nil =>
    cases n with
    | zero => rfl
    | succ n => rfl
  | cons c s ih =>
    have hpos := List.length_pos_iff.2 (encodeChar_ne_nil c)
    have hlen : (encode (c :: s)).length = (encodeChar c).length + (encode s).length := by
      simp [encode]
    cases n with
    | zero => omega
    | succ n =>
      have hfront : front (encode (c :: s)) = .char c (encode s) := front_encodeChar c (encode s)
      unfold decodeUpTo
      simp only [hfront, ih (n := n) (by omega), Option.map_some]

theorem encode_of_decodeUpTo {n : Nat} {bs : Bytes} {s : List Char}
    (h : decodeUpTo n bs = some s) : encode s = bs := by
  induction n generalizing bs s with
  | zero =>
    unfold decodeUpTo at h
    split at h
    · next hbs =>
      cases h
      exact (List.isEmpty_iff.1 hbs).symm
    · cases h
  | succ n ih =>
    unfold decodeUpTo at h
    split at h
    · next hf =>
      cases h
      cases bs with
      | nil => rfl
      | cons b bs =>
        exfalso
        unfold front at hf
        simp only at hf
        repeat' split at hf
        all_goals cases hf
    · next c rest hf =>
      rw [Option.map_eq_some_iff] at h
      obtain ⟨s', hs', rfl⟩ := h
      rw [encodeChar_of_front hf, ← ih hs']
      rfl
    · cases h

/-- Bytes spell a text exactly if they are what is written for it. -/
theorem decode?_eq_some_iff {bs : Bytes} {s : List Char} :
    decode? bs = some s ↔ encode s = bs := by
  constructor
  · exact encode_of_decodeUpTo
  · rintro rfl
    exact decodeUpTo_encode s (Nat.le_refl _)

theorem toString?_eq_some_iff {bs : Bytes} {s : String} :
    toString? bs = some s ↔ ofString s = bs := by
  unfold toString? ofString
  rw [← decode?_eq_some_iff, Option.map_eq_some_iff]
  constructor
  · rintro ⟨l, hl, rfl⟩
    rwa [String.toList_ofList]
  · intro h
    exact ⟨s.toList, h, String.ofList_toList⟩

theorem ofString_inj {a b : String} : ofString a = ofString b ↔ a = b := by
  constructor
  · intro h
    have hb := toString?_eq_some_iff.2 h
    rw [toString?_eq_some_iff.2 rfl] at hb
    exact (Option.some.inj hb).symm
  · rintro rfl
    rfl

/-! ## Line feeds -/

/-- The bytes of a character that takes more than one are all high. -/
theorem high_of_mem_encodeChar {c : Char} (hc : 0x80 ≤ c.toNat) {b : UInt8}
    (hb : b ∈ encodeChar c) : 0x80 ≤ b.toNat := by
  have hvalid := toNat_valid c
  unfold encodeChar at hb
  simp only at hb
  rw [if_neg (by omega)] at hb
  repeat' split at hb
  all_goals
    simp only [List.mem_cons, List.not_mem_nil, or_false] at hb
    rcases hb with rfl | rfl | rfl | rfl <;>
    · rw [toNat_byte (by omega)]
      omega

/-- Only the line feed is written with the byte of the line feed. -/
theorem eq_newline_of_mem_encodeChar {c : Char} (h : 10 ∈ encodeChar c) : c = '\n' := by
  by_cases hc : c.toNat < 0x80
  · have hone : encodeChar c = [UInt8.ofNat c.toNat] := by
      unfold encodeChar
      simp only [if_pos hc]
    rw [hone, List.mem_singleton] at h
    have hn := congrArg UInt8.toNat h
    rw [toNat_byte (by omega)] at hn
    rw [← Char.ofNat_toNat c, ← hn]
    rfl
  · exact absurd (high_of_mem_encodeChar (Nat.le_of_not_lt hc) h) (by decide)

theorem firstLine_append {bs : Bytes} (h : 10 ∉ bs) (rest : Bytes) :
    firstLine (bs ++ rest) = bs ++ firstLine rest := by
  induction bs with
  | nil => rfl
  | cons b bs ih =>
    rw [List.mem_cons, not_or] at h
    rw [List.cons_append, firstLine, if_neg (Ne.symm h.1), ih h.2]
    rfl

/-! ## Order -/

/-- Of two characters the one with the lesser number is written with the lesser bytes, and
    what follows them does not matter. -/
theorem encodeChar_lt {c d : Char} (h : c < d) (s t : Bytes) :
    encodeChar c ++ s < encodeChar d ++ t := by
  have hlt : c.toNat < d.toNat := h
  have hd := toNat_valid d
  unfold encodeChar
  simp only
  repeat' split
  all_goals
    simp only [List.cons_append, List.nil_append, List.cons_lt_cons_iff, UInt8.lt_iff_toNat_lt,
      ← UInt8.toNat_inj]
    simp (disch := omega) only [toNat_byte]
    omega

theorem encode_lt {s t : List Char} (h : s < t) : encode s < encode t := by
  induction s generalizing t with
  | nil =>
    cases t with
    | nil => exact absurd h (List.not_lt_nil [])
    | cons d t =>
      have hne : encode (d :: t) ≠ [] := by simp [encode, encodeChar_ne_nil]
      cases he : encode (d :: t) with
      | nil => exact absurd he hne
      | cons b bs => exact List.nil_lt_cons b bs
  | cons c s ih =>
    cases t with
    | nil => exact absurd h (List.not_lt_nil _)
    | cons d t =>
      show encodeChar c ++ encode s < encodeChar d ++ encode t
      rcases List.cons_lt_cons_iff.1 h with hcd | ⟨rfl, hst⟩
      · exact encodeChar_lt hcd _ _
      · exact List.append_left_lt (ih hst)

/-- Strings are in the order of their bytes. -/
theorem ofString_lt {a b : String} (h : a < b) : ofString a < ofString b := encode_lt h

end SourceTidy.Text.Utf8
