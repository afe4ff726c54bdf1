import SdkGraft.Text.Utf8

/-!
# Bytes and back

* `next_encodeChar` : the bytes of a character are read as that character;
* `decode_encode` : the bytes of a text are read as that text;
* `decodeLossy_of_decode` : what can be read without a fault is read the same if faults are left out;
* `encode_of_decode` : then the bytes are those of the text that is read.
-/

namespace SdkGraft.Utf8

theorem toNat_lt (c : Char) : c.toNat < 0x110000 := by
  have h := c.valid
  simp only [UInt32.isValidChar, Nat.isValidChar] at h
  simp only [Char.toNat]
  omega

/-- No character is a surrogate. -/
theorem toNat_not_surrogate (c : Char) : c.toNat < 0xD800 ∨ 0xDFFF < c.toNat := by
  have h := c.valid
  simp only [UInt32.isValidChar, Nat.isValidChar] at h
  simp only [Char.toNat]
  omega

theorem toNat_ofNat {n : Nat} (h : n < 256) : (UInt8.ofNat n).toNat = n := by
  rw [UInt8.toNat_ofNat', Nat.mod_eq_of_lt h]

theorem isTail_ofNat {n : Nat} (h : n < 0x40) : isTail (UInt8.ofNat (0x80 + n)) = true := by
  simp only [isTail, toNat_ofNat (show 0x80 + n < 256 by omega)]
  simp only [Bool.and_eq_true, decide_eq_true_eq]
  omega

theorem ofNat_eq_iff {m n : Nat} (hm : m < 256) (hn : n < 256) :
    UInt8.ofNat m = UInt8.ofNat n ↔ m = n := by
  constructor
  · intro h
    rw [← toNat_ofNat hm, ← toNat_ofNat hn, h]
  · rintro rfl; rfl

/-- The second byte of a character of three: not overlong, no surrogate. -/
theorem isSecond_of_three {n : Nat} (h1 : 0x800 ≤ n) (h2 : n < 0x10000)
    (hs : n < 0xD800 ∨ 0xDFFF < n) :
    isSecond (UInt8.ofNat (0xE0 + n / 0x1000)) (UInt8.ofNat (0x80 + n / 0x40 % 0x40)) = true := by
  have hhead : 0xE0 + n / 0x1000 < 256 := by omega
  have hb := toNat_ofNat (show 0x80 + n / 0x40 % 0x40 < 256 by omega)
  have e0 := ofNat_eq_iff hhead (show 0xE0 < 256 by decide)
  have ed := ofNat_eq_iff hhead (show 0xED < 256 by decide)
  have f0 := ofNat_eq_iff hhead (show 0xF0 < 256 by decide)
  have f4 := ofNat_eq_iff hhead (show 0xF4 < 256 by decide)
  unfold isSecond isTail
  rw [hb]
  split
  · rename_i h
    have := e0.1 h
    simp only [Bool.and_eq_true, decide_eq_true_eq]; omega
  split
  · rename_i h
    have := ed.1 h
    simp only [Bool.and_eq_true, decide_eq_true_eq]; omega
  split
  · rename_i h
    have := f0.1 h
    omega
  split
  · rename_i h
    have := f4.1 h
    omega
  · simp only [Bool.and_eq_true, decide_eq_true_eq]; omega

/-- The second byte of a character of four: not overlong, not too large. -/
theorem isSecond_of_four {n : Nat} (h1 : 0x10000 ≤ n) (h2 : n < 0x110000) :
    isSecond (UInt8.ofNat (0xF0 + n / 0x40000)) (UInt8.ofNat (0x80 + n / 0x1000 % 0x40)) = true := by
  have hhead : 0xF0 + n / 0x40000 < 256 := by omega
  have hb := toNat_ofNat (show 0x80 + n / 0x1000 % 0x40 < 256 by omega)
  have e0 := ofNat_eq_iff hhead (show 0xE0 < 256 by decide)
  have ed := ofNat_eq_iff hhead (show 0xED < 256 by decide)
  have f0 := ofNat_eq_iff hhead (show 0xF0 < 256 by decide)
  have f4 := ofNat_eq_iff hhead (show 0xF4 < 256 by decide)
  unfold isSecond isTail
  rw [hb]
  split
  · rename_i h
    have := e0.1 h
    omega
  split
  · rename_i h
    have := ed.1 h
    omega
  split
  · rename_i h
    have := f0.1 h
    simp only [Bool.and_eq_true, decide_eq_true_eq]; omega
  split
  · rename_i h
    have := f4.1 h
    simp only [Bool.and_eq_true, decide_eq_true_eq]; omega
  · simp only [Bool.and_eq_true, decide_eq_true_eq]; omega

/-- The bytes of a character are read as that character, whatever follows them. -/
theorem next_encodeChar (c : Char) (r : Bytes) :
    next (encodeChar c ++ r) = .char c (encodeChar c).length := by
  have hlt := toNat_lt c
  have hs := toNat_not_surrogate c
  have hc := Char.ofNat_toNat c
  unfold encodeChar
  generalize c.toNat = n at *
  simp only
  split
  · -- one byte
    simp only [List.singleton_append, next, toNat_ofNat (show n < 256 by omega)]
    rw [if_pos (by assumption), hc]; rfl
  split
  · -- two bytes
    simp only [List.cons_append, List.nil_append, next]
    rw [toNat_ofNat (by omega), if_neg (by omega), if_neg (by omega), if_pos (by omega), next2,
      if_pos (isTail_ofNat (by omega)), toNat_ofNat (by omega), toNat_ofNat (by omega),
      show (0xC0 + n / 0x40 - 0xC0) * 0x40 + (0x80 + n % 0x40 - 0x80) = n by omega, hc]
    rfl
  split
  · -- three bytes
    simp only [List.cons_append, List.nil_append, next]
    rw [toNat_ofNat (by omega), if_neg (by omega), if_neg (by omega), if_neg (by omega),
      if_pos (by omega), next3, if_pos (isSecond_of_three (by omega) (by omega) hs),
      if_pos (isTail_ofNat (by omega)), toNat_ofNat (by omega), toNat_ofNat (by omega),
      toNat_ofNat (by omega),
      show (0xE0 + n / 0x1000 - 0xE0) * 0x1000 + (0x80 + n / 0x40 % 0x40 - 0x80) * 0x40
        + (0x80 + n % 0x40 - 0x80) = n by omega, hc]
    rfl
  · -- four bytes
    simp only [List.cons_append, List.nil_append, next]
    rw [toNat_ofNat (by omega), if_neg (by omega), if_neg (by omega), if_neg (by omega),
      if_neg (by omega), if_pos (by omega), next4, if_pos (isSecond_of_four (by omega) (by omega)),
      if_pos (isTail_ofNat (by omega)), if_pos (isTail_ofNat (by omega)), toNat_ofNat (by omega),
      toNat_ofNat (by omega),
      toNat_ofNat (by omega), toNat_ofNat (by omega),
      show (0xF0 + n / 0x40000 - 0xF0) * 0x40000 + (0x80 + n / 0x1000 % 0x40 - 0x80) * 0x1000
        + (0x80 + n / 0x40 % 0x40 - 0x80) * 0x40 + (0x80 + n % 0x40 - 0x80) = n by omega, hc]
    rfl

theorem encodeChar_ne_nil (c : Char) : encodeChar c ≠ [] := by
  unfold encodeChar
  extract_lets n
  split
  · simp
  split
  · simp
  split <;> simp

/-! ## Skipping -/

theorem decodeFrom_skip (place : Nat) (skipped r : Bytes) :
    decodeFrom place skipped.length (skipped ++ r) = decodeFrom (place + skipped.length) 0 r := by
  induction skipped generalizing place with
  | nil => rfl
  | cons b bs ih =>
    rw [List.length_cons, List.cons_append, decodeFrom, ih, show place + 1 + bs.length
      = place + (bs.length + 1) by omega]

/-! ## Whole texts -/

theorem decodeFrom_encode (place : Nat) (t : Text) : decodeFrom place 0 (encode t) = .ok t := by
  induction t generalizing place with
  | nil => rfl
  | cons c r ih =>
    rw [show encode (c :: r) = encodeChar c ++ encode r from List.flatMap_cons]
    have hnext := next_encodeChar c (encode r)
    obtain ⟨b, bs, hbs⟩ := List.exists_cons_of_ne_nil (encodeChar_ne_nil c)
    rw [hbs] at hnext ⊢
    rw [List.cons_append] at hnext ⊢
    rw [decodeFrom, hnext]
    simp only [List.length_cons, Nat.add_sub_cancel]
    rw [decodeFrom_skip, ih]
    rfl

/-- The bytes of a text are read as that text. -/
theorem decode_encode (t : Text) : decode (encode t) = .ok t := decodeFrom_encode 0 t

/-- What can be read without a fault is read the same if faults are left out. -/
theorem decodeLossyFrom_of_decodeFrom {place skip : Nat} {bytes : Bytes} {t : Text}
    (h : decodeFrom place skip bytes = .ok t) : decodeLossyFrom skip bytes = t := by
  induction bytes generalizing place skip t with
  | nil => cases skip <;> simpa [decodeFrom, decodeLossyFrom] using h
  | cons b r ih =>
    cases skip with
    | succ skip => exact ih h
    | zero =>
      rw [decodeFrom] at h
      rw [decodeLossyFrom]
      cases hnext : next (b :: r) with
      | done => simpa [hnext] using h
      | fault reason width => simp [hnext] at h
      | char c width =>
        rw [hnext] at h
        simp only at h ⊢
        cases hrest : decodeFrom (place + 1) (width - 1) r with
        | error f => rw [hrest] at h; cases h
        | ok u =>
          rw [hrest] at h
          cases h
          rw [ih hrest]

theorem decodeLossy_of_decode {bytes : Bytes} {t : Text} (h : decode bytes = .ok t) :
    decodeLossy bytes = t := decodeLossyFrom_of_decodeFrom h

/-! ## Back to the same bytes -/

theorem toNat_char {n : Nat} (h : n < 0xD800 ∨ 0xDFFF < n ∧ n < 0x110000) : (Char.ofNat n).toNat = n := by
  have hvalid : n.isValidChar := by
    unfold Nat.isValidChar
    omega
  rw [Char.ofNat, dif_pos hvalid]
  rfl

theorem isTail_iff {b : UInt8} : isTail b = true ↔ 0x80 ≤ b.toNat ∧ b.toNat < 0xC0 := by
  simp [isTail]

theorem eq_iff_toNat {b : UInt8} {n : Nat} (h : n < 256) : b = UInt8.ofNat n ↔ b.toNat = n := by
  constructor
  · rintro rfl
    exact toNat_ofNat h
  · rintro rfl
    exact UInt8.ofNat_toNat.symm

/-- The second byte keeps a character from being overlong, a surrogate, or too large. -/
theorem bounds_of_isSecond {b c : UInt8} (h : isSecond b c = true) :
    (0x80 ≤ c.toNat ∧ c.toNat < 0xC0) ∧ (b.toNat = 0xE0 → 0xA0 ≤ c.toNat) ∧ (b.toNat = 0xED → c.toNat < 0xA0) ∧
      (b.toNat = 0xF0 → 0x90 ≤ c.toNat) ∧ (b.toNat = 0xF4 → c.toNat < 0x90) := by
  have he0 : b = 0xE0 ↔ b.toNat = 0xE0 := eq_iff_toNat (by decide)
  have hed : b = 0xED ↔ b.toNat = 0xED := eq_iff_toNat (by decide)
  have hf0 : b = 0xF0 ↔ b.toNat = 0xF0 := eq_iff_toNat (by decide)
  have hf4 : b = 0xF4 ↔ b.toNat = 0xF4 := eq_iff_toNat (by decide)
  simp only [isSecond, he0, hed, hf0, hf4] at h
  split at h
  · simp only [Bool.and_eq_true, decide_eq_true_eq] at h
    omega
  split at h
  · simp only [Bool.and_eq_true, decide_eq_true_eq] at h
    omega
  split at h
  · simp only [Bool.and_eq_true, decide_eq_true_eq] at h
    omega
  split at h
  · simp only [Bool.and_eq_true, decide_eq_true_eq] at h
    omega
  · rw [isTail_iff] at h
    omega

theorem ofNat_eq_of_toNat {b : UInt8} {n : Nat} (h : n = b.toNat) : UInt8.ofNat n = b := by
  rw [h, UInt8.ofNat_toNat]

theorem exists_of_next2 {b : UInt8} {r : Bytes} {c : Char} {width : Nat} (h1 : 0xC2 ≤ b.toNat)
    (h2 : b.toNat < 0xE0) (h : next2 b r = .char c width) :
    ∃ s, b :: r = encodeChar c ++ s ∧ width = (encodeChar c).length := by
  unfold next2 at h
  split at h
  · cases h
  rename_i d s
  split at h
  · rename_i hd
    rw [isTail_iff] at hd
    obtain ⟨rfl, rfl⟩ := Next.char.inj h
    have hc := toNat_char (n := (b.toNat - 0xC0) * 0x40 + (d.toNat - 0x80)) (by omega)
    refine ⟨s, ?_, ?_⟩ <;> unfold encodeChar <;> rw [hc, if_neg (by omega), if_pos (by omega)]
    · rw [ofNat_eq_of_toNat (b := b) (by omega), ofNat_eq_of_toNat (b := d) (by omega)]
      rfl
    · rfl
  · cases h

theorem exists_of_next3 {b : UInt8} {r : Bytes} {c : Char} {width : Nat} (h1 : 0xE0 ≤ b.toNat)
    (h2 : b.toNat < 0xF0) (h : next3 b r = .char c width) :
    ∃ s, b :: r = encodeChar c ++ s ∧ width = (encodeChar c).length := by
  unfold next3 at h
  split at h
  · cases h
  rename_i d s
  split at h
  · rename_i hd
    have hd := bounds_of_isSecond hd
    split at h
    · cases h
    rename_i e u
    split at h
    · rename_i he
      rw [isTail_iff] at he
      obtain ⟨rfl, rfl⟩ := Next.char.inj h
      have hc := toNat_char (n := (b.toNat - 0xE0) * 0x1000 + (d.toNat - 0x80) * 0x40 + (e.toNat - 0x80))
        (by omega)
      refine ⟨u, ?_, ?_⟩ <;> unfold encodeChar <;>
        rw [hc, if_neg (by omega), if_neg (by omega), if_pos (by omega)]
      · rw [ofNat_eq_of_toNat (b := b) (by omega), ofNat_eq_of_toNat (b := d) (by omega),
          ofNat_eq_of_toNat (b := e) (by omega)]
        rfl
      · rfl
    · cases h
  · cases h

theorem exists_of_next4 {b : UInt8} {r : Bytes} {c : Char} {width : Nat} (h1 : 0xF0 ≤ b.toNat)
    (h2 : b.toNat < 0xF5) (h : next4 b r = .char c width) :
    ∃ s, b :: r = encodeChar c ++ s ∧ width = (encodeChar c).length := by
  unfold next4 at h
  split at h
  · cases h
  rename_i d s
  split at h
  · rename_i hd
    have hd := bounds_of_isSecond hd
    split at h
    · cases h
    rename_i e u
    split at h
    · rename_i he
      rw [isTail_iff] at he
      split at h
      · cases h
      rename_i f v
      split at h
      · rename_i hf
        rw [isTail_iff] at hf
        obtain ⟨rfl, rfl⟩ := Next.char.inj h
        have hc := toNat_char (n := (b.toNat - 0xF0) * 0x40000 + (d.toNat - 0x80) * 0x1000 +
          (e.toNat - 0x80) * 0x40 + (f.toNat - 0x80)) (by omega)
        refine ⟨v, ?_, ?_⟩ <;> unfold encodeChar <;>
          rw [hc, if_neg (by omega), if_neg (by omega), if_neg (by omega)]
        · rw [ofNat_eq_of_toNat (b := b) (by omega), ofNat_eq_of_toNat (b := d) (by omega),
            ofNat_eq_of_toNat (b := e) (by omega), ofNat_eq_of_toNat (b := f) (by omega)]
          rfl
        · rfl
      · cases h
    · cases h
  · cases h

/-- What is read as a character are its bytes. -/
theorem exists_of_next_eq_char {bytes : Bytes} {c : Char} {width : Nat} (h : next bytes = .char c width) :
    ∃ r, bytes = encodeChar c ++ r ∧ width = (encodeChar c).length := by
  cases bytes with
  | nil => cases h
  | cons b r =>
    rw [next] at h
    split at h
    · rename_i hb
      obtain ⟨rfl, rfl⟩ := Next.char.inj h
      have hc := toNat_char (n := b.toNat) (by omega)
      refine ⟨r, ?_, ?_⟩ <;> unfold encodeChar <;> rw [hc, if_pos hb]
      · rw [UInt8.ofNat_toNat]
        rfl
      · rfl
    split at h
    · cases h
    split at h
    · exact exists_of_next2 (by omega) (by assumption) h
    split at h
    · exact exists_of_next3 (by omega) (by assumption) h
    split at h
    · exact exists_of_next4 (by omega) (by assumption) h
    · cases h

theorem next_cons_ne_done (b : UInt8) (r : Bytes) : next (b :: r) ≠ .done := by
  unfold next next2 next3 next4
  grind

theorem encode_of_decodeFrom {place skip : Nat} {bytes : Bytes} {t : Text}
    (h : decodeFrom place skip bytes = .ok t) : encode t = bytes.drop skip := by
  induction bytes generalizing place skip t with
  | nil =>
    cases skip <;> cases h <;> rfl
  | cons b r ih =>
    cases skip with
    | succ skip => exact ih h
    | zero =>
      rw [decodeFrom] at h
      cases hnext : next (b :: r) with
      | done => exact absurd hnext (next_cons_ne_done b r)
      | fault reason width =>
        rw [hnext] at h
        cases h
      | char c width =>
        rw [hnext] at h
        simp only at h
        cases hrest : decodeFrom (place + 1) (width - 1) r with
        | error f =>
          rw [hrest] at h
          cases h
        | ok u =>
          rw [hrest] at h
          cases h
          obtain ⟨s, hs, rfl⟩ := exists_of_next_eq_char hnext
          obtain ⟨d, ds, hd⟩ := List.exists_cons_of_ne_nil (encodeChar_ne_nil c)
          rw [encode, List.flatMap_cons, ← encode, ih hrest, List.drop_zero, hs]
          rw [hd] at hs ⊢
          obtain ⟨-, rfl⟩ := List.cons.inj hs
          simp

/-- Bytes that can be read without a fault are those of the text that is read. -/
theorem encode_of_decode {bytes : Bytes} {t : Text} (h : decode bytes = .ok t) : encode t = bytes :=
  encode_of_decodeFrom h

end SdkGraft.Utf8
