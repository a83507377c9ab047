import InteropBridge.Text.Utf8

/-!
# Reading back UTF-8

A character takes one to four bytes.  The first says how many there are, and
together they carry its code in groups of six bits.  Reading takes exactly these
bytes and gives the character back, so a text is read from its bytes as it was
written.
-/

namespace InteropBridge.Utf8

/-! ## Reading a character -/

section Reading

variable (index : Nat) {first second third fourth : UInt8} (rest : List UInt8)

theorem decodeFrom_one (hfirst : first.toNat < 0x80) :
    decodeFrom index (first :: rest) =
      (Char.ofNat first.toNat :: ·) <$> decodeFrom (index + 1) rest := by
  rw [decodeFrom.eq_def]
  simp only [if_pos hfirst]

theorem decodeFrom_two (htwo : isTwoByte first second = true) :
    decodeFrom index (first :: second :: rest) =
      (Char.ofNat ((first.toNat % 0x20) * 0x40 + sixBits second) :: ·) <$>
        decodeFrom (index + 2) rest := by
  have hfirst : ¬ first.toNat < 0x80 := by
    simp only [isTwoByte, Bool.and_eq_true, decide_eq_true_eq] at htwo
    omega
  rw [decodeFrom.eq_def]
  simp only [if_neg hfirst, if_pos htwo]

theorem decodeFrom_three (hopens : opensThreeByte first second = true)
    (hthird : isContinuation third = true) :
    decodeFrom index (first :: second :: third :: rest) =
      (Char.ofNat ((first.toNat % 0x10) * 0x1000 + sixBits second * 0x40 +
        sixBits third) :: ·) <$> decodeFrom (index + 3) rest := by
  have hbounds : 0xE0 ≤ first.toNat := by
    simp only [opensThreeByte, Bool.and_eq_true, decide_eq_true_eq] at hopens
    omega
  have hfirst : ¬ first.toNat < 0x80 := by omega
  have htwo : ¬ isTwoByte first second = true := by
    simp only [isTwoByte, Bool.and_eq_true, decide_eq_true_eq]
    omega
  have hthree : (opensThreeByte first second && isContinuation third) = true := by
    rw [hopens, hthird, Bool.and_self]
  rw [decodeFrom.eq_def]
  simp only [if_neg hfirst, if_neg htwo, if_pos hthree]

theorem decodeFrom_four (hopens : opensFourByte first second = true)
    (hthird : isContinuation third = true) (hfourth : isContinuation fourth = true) :
    decodeFrom index (first :: second :: third :: fourth :: rest) =
      (Char.ofNat ((first.toNat % 0x08) * 0x40000 + sixBits second * 0x1000 +
        sixBits third * 0x40 + sixBits fourth) :: ·) <$> decodeFrom (index + 4) rest := by
  have hbounds : 0xF0 ≤ first.toNat := by
    simp only [opensFourByte, Bool.and_eq_true, decide_eq_true_eq] at hopens
    omega
  have hfirst : ¬ first.toNat < 0x80 := by omega
  have htwo : ¬ isTwoByte first second = true := by
    simp only [isTwoByte, Bool.and_eq_true, decide_eq_true_eq]
    omega
  have hthree : ¬ (opensThreeByte first second && isContinuation third) = true := by
    simp only [opensThreeByte, Bool.and_eq_true, decide_eq_true_eq]
    omega
  have hfour : (opensFourByte first second && isContinuation third &&
      isContinuation fourth) = true := by
    rw [hopens, hthird, hfourth, Bool.and_self, Bool.and_self]
  rw [decodeFrom.eq_def]
  simp only [if_neg hfirst, if_neg htwo, if_neg hthree, if_pos hfour]

end Reading

/-! ## The bytes of a character -/

theorem toNat_ofNat_byte (code : Nat) (hcode : code < 0x100) :
    (UInt8.ofNat code).toNat = code :=
  UInt8.toNat_ofNat_of_lt' hcode

/-- A byte that carries six bits behind the first byte. -/
theorem continuation_ofNat (bits : Nat) (hbits : bits < 0x40) :
    isContinuation (UInt8.ofNat (bits + 128)) = true ∧
      sixBits (UInt8.ofNat (bits + 128)) = bits := by
  have hbyte := toNat_ofNat_byte (bits + 128) (by omega)
  simp only [isContinuation, sixBits, hbyte, Bool.and_eq_true, decide_eq_true_eq]
  omega

section Writing

variable (c : Char)

theorem decodeFrom_char_one (hcode : c.toNat ≤ 127) (index : Nat) (rest : List UInt8) :
    decodeFrom index (UInt8.ofNat c.toNat :: rest) =
      (c :: ·) <$> decodeFrom (index + 1) rest := by
  have hfirst := toNat_ofNat_byte c.toNat (by omega)
  rw [decodeFrom_one index rest (by omega), hfirst, Char.ofNat_toNat]

theorem decodeFrom_char_two (hover : ¬ c.toNat ≤ 127) (hcode : c.toNat ≤ 2047)
    (index : Nat) (rest : List UInt8) :
    decodeFrom index (UInt8.ofNat (c.toNat / 64 % 32 + 192) ::
        UInt8.ofNat (c.toNat % 64 + 128) :: rest) =
      (c :: ·) <$> decodeFrom (index + 2) rest := by
  have hfirst := toNat_ofNat_byte (c.toNat / 64 % 32 + 192) (by omega)
  obtain ⟨hsecond, hsix⟩ := continuation_ofNat (c.toNat % 64) (by omega)
  have htwo : isTwoByte (UInt8.ofNat (c.toNat / 64 % 32 + 192))
      (UInt8.ofNat (c.toNat % 64 + 128)) = true := by
    simp only [isTwoByte, hfirst, hsecond, Bool.and_true, Bool.and_eq_true, decide_eq_true_eq]
    omega
  have hsum : (c.toNat / 64 % 32 + 192) % 0x20 * 0x40 + c.toNat % 64 = c.toNat := by
    omega
  rw [decodeFrom_two index rest htwo, hfirst, hsix, hsum, Char.ofNat_toNat]

theorem decodeFrom_char_three (hover : ¬ c.toNat ≤ 2047) (hcode : c.toNat ≤ 65535)
    (index : Nat) (rest : List UInt8) :
    decodeFrom index (UInt8.ofNat (c.toNat / 4096 % 16 + 224) ::
        UInt8.ofNat (c.toNat / 64 % 64 + 128) :: UInt8.ofNat (c.toNat % 64 + 128) :: rest) =
      (c :: ·) <$> decodeFrom (index + 3) rest := by
  have hvalid : c.toNat < 0xD800 ∨ 0xDFFF < c.toNat ∧ c.toNat < 0x110000 := c.valid
  have hfirst := toNat_ofNat_byte (c.toNat / 4096 % 16 + 224) (by omega)
  have hbyte := toNat_ofNat_byte (c.toNat / 64 % 64 + 128) (by omega)
  obtain ⟨hsecond, hsix⟩ := continuation_ofNat (c.toNat / 64 % 64) (by omega)
  obtain ⟨hthird, hlast⟩ := continuation_ofNat (c.toNat % 64) (by omega)
  have hopens : opensThreeByte (UInt8.ofNat (c.toNat / 4096 % 16 + 224))
      (UInt8.ofNat (c.toNat / 64 % 64 + 128)) = true := by
    simp only [opensThreeByte, hfirst, hsecond, hbyte, Bool.and_true, Bool.and_eq_true,
      Bool.or_eq_true, bne_iff_ne, decide_eq_true_eq]
    omega
  have hsum : (c.toNat / 4096 % 16 + 224) % 0x10 * 0x1000 + c.toNat / 64 % 64 * 0x40 +
      c.toNat % 64 = c.toNat := by
    omega
  rw [decodeFrom_three index rest hopens hthird, hfirst, hsix, hlast, hsum, Char.ofNat_toNat]

theorem decodeFrom_char_four (hover : ¬ c.toNat ≤ 65535) (index : Nat) (rest : List UInt8) :
    decodeFrom index (UInt8.ofNat (c.toNat / 262144 % 8 + 240) ::
        UInt8.ofNat (c.toNat / 4096 % 64 + 128) :: UInt8.ofNat (c.toNat / 64 % 64 + 128) ::
          UInt8.ofNat (c.toNat % 64 + 128) :: rest) =
      (c :: ·) <$> decodeFrom (index + 4) rest := by
  have hvalid : c.toNat < 0xD800 ∨ 0xDFFF < c.toNat ∧ c.toNat < 0x110000 := c.valid
  have hfirst := toNat_ofNat_byte (c.toNat / 262144 % 8 + 240) (by omega)
  have hbyte := toNat_ofNat_byte (c.toNat / 4096 % 64 + 128) (by omega)
  obtain ⟨hsecond, hsix⟩ := continuation_ofNat (c.toNat / 4096 % 64) (by omega)
  obtain ⟨hthird, hsix'⟩ := continuation_ofNat (c.toNat / 64 % 64) (by omega)
  obtain ⟨hfourth, hlast⟩ := continuation_ofNat (c.toNat % 64) (by omega)
  have hopens : opensFourByte (UInt8.ofNat (c.toNat / 262144 % 8 + 240))
      (UInt8.ofNat (c.toNat / 4096 % 64 + 128)) = true := by
    simp only [opensFourByte, hfirst, hsecond, hbyte, Bool.and_true, Bool.and_eq_true,
      Bool.or_eq_true, bne_iff_ne, decide_eq_true_eq]
    omega
  have hsum : (c.toNat / 262144 % 8 + 240) % 0x08 * 0x40000 +
      c.toNat / 4096 % 64 * 0x1000 + c.toNat / 64 % 64 * 0x40 + c.toNat % 64 = c.toNat := by
    omega
  rw [decodeFrom_four index rest hopens hthird hfourth, hfirst, hsix, hsix', hlast, hsum,
    Char.ofNat_toNat]

end Writing

/-- Reading takes the bytes of a character and goes on behind them. -/
theorem decodeFrom_char (index : Nat) (c : Char) (rest : List UInt8) :
    decodeFrom index (String.utf8EncodeChar c ++ rest) =
      (c :: ·) <$> decodeFrom (index + (String.utf8EncodeChar c).length) rest := by
  have hval : c.val.toNat = c.toNat := rfl
  simp only [String.utf8EncodeChar, hval]
  split
  · next hone => exact decodeFrom_char_one c hone index rest
  split
  · next hone htwo => exact decodeFrom_char_two c hone htwo index rest
  split
  · next htwo hthree => exact decodeFrom_char_three c htwo hthree index rest
  · next hthree => exact decodeFrom_char_four c hthree index rest

theorem encode_cons (c : Char) (text : NativeText) :
    encode (c :: text) = String.utf8EncodeChar c ++ encode text :=
  List.flatMap_cons

theorem decodeFrom_encode (index : Nat) (text : NativeText) :
    decodeFrom index (encode text) = .ok text := by
  induction text generalizing index with
  | nil => rfl
  | cons c text ih => rw [encode_cons, decodeFrom_char, ih]; rfl

/-- A text is read from its own bytes. -/
theorem decode_encode (text : NativeText) : decode (encode text) = .ok text :=
  decodeFrom_encode 0 text

theorem encode_injective : Function.Injective encode := by
  intro left right hbytes
  have hread := decode_encode left
  rw [hbytes, decode_encode] at hread
  exact (Except.ok.inj hread).symm

end InteropBridge.Utf8
