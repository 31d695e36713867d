/-
# FidoKeyWrap.Lib.Bytes — byte strings that carry their length, and big-endian integers.

The byte vocabulary every format and transcript is written in. `Bytes n` is the array type
`[u8; n]`: a byte string together with the proof that it has exactly `n` bytes, so a field of a
fixed width needs no length check of its own. `beBytes w n` writes the low `w` bytes of `n`, most
significant first, and `ofBe` reads them back; `utf8` is the encoding of a string.

The facts a codec rests on are cancellation facts: a fixed-width field, a big-endian integer below
`256 ^ w` and a UTF-8 string are each determined by their bytes, and a fixed-width field can be
cancelled from the front of a longer string (`Bytes.append_inj`, `beBytes_append_inj`).
-/
import Mathlib.Data.List.Lex
import Mathlib.Tactic

namespace ByteData

/-- A byte string of any length. -/
abbrev ByteString := List UInt8

/-! ## Big-endian integers -/

/-- The low `w` bytes of `n`, most significant byte first. -/
def beBytes : Nat → Nat → ByteString
  | 0, _ => []
  | w + 1, n => UInt8.ofNat (n / 256 ^ w) :: beBytes w (n % 256 ^ w)

/-- A byte string read as a big-endian integer. -/
def ofBe : ByteString → Nat
  | [] => 0
  | b :: bs => b.toNat * 256 ^ bs.length + ofBe bs

@[simp] theorem length_beBytes (w n : Nat) : (beBytes w n).length = w := by
  induction w generalizing n with
  | zero => rfl
  | succ w ih => simp [beBytes, ih]

/-- Below `256 ^ w` the `w` bytes lose nothing. -/
theorem ofBe_beBytes {w n : Nat} (h : n < 256 ^ w) : ofBe (beBytes w n) = n := by
  induction w generalizing n with
  | zero =>
      have : n = 0 := by simpa using h
      subst this
      rfl
  | succ w ih =>
      have hpos : 0 < 256 ^ w := by positivity
      have htop : n / 256 ^ w < 256 := by
        rw [Nat.div_lt_iff_lt_mul hpos]
        rwa [Nat.pow_succ, Nat.mul_comm] at h
      have hlow := ih (Nat.mod_lt n hpos)
      simp only [beBytes, ofBe, length_beBytes, hlow, UInt8.toNat_ofNat']
      rw [Nat.mod_eq_of_lt htop, Nat.mul_comm]
      exact Nat.div_add_mod n (256 ^ w)

theorem ofBe_lt (bs : ByteString) : ofBe bs < 256 ^ bs.length := by
  induction bs with
  | nil => simp [ofBe]
  | cons b bs ih =>
      have hb : b.toNat < 256 := b.toNat_lt
      have hhead : b.toNat * 256 ^ bs.length ≤ 255 * 256 ^ bs.length :=
        Nat.mul_le_mul_right _ (by omega)
      simp only [ofBe, List.length_cons, Nat.pow_succ]
      omega

/-- Writing back what was read, at the same width. -/
theorem beBytes_ofBe (bs : ByteString) : beBytes bs.length (ofBe bs) = bs := by
  induction bs with
  | nil => rfl
  | cons b bs ih =>
      have hpos : 0 < 256 ^ bs.length := by positivity
      have hlow := ofBe_lt bs
      have hdiv : (b.toNat * 256 ^ bs.length + ofBe bs) / 256 ^ bs.length = b.toNat := by
        rw [Nat.mul_comm, Nat.mul_add_div hpos, Nat.div_eq_of_lt hlow, Nat.add_zero]
      have hmod : (b.toNat * 256 ^ bs.length + ofBe bs) % 256 ^ bs.length = ofBe bs := by
        rw [Nat.mul_comm, Nat.mul_add_mod, Nat.mod_eq_of_lt hlow]
      simp only [ofBe, List.length_cons, beBytes, hdiv, hmod, ih, UInt8.ofNat_toNat]

theorem beBytes_injective {w m n : Nat} (hm : m < 256 ^ w) (hn : n < 256 ^ w)
    (h : beBytes w m = beBytes w n) : m = n := by
  rw [← ofBe_beBytes hm, ← ofBe_beBytes hn, h]

/-- A big-endian integer of a known width cancels from the front of a byte string. -/
theorem beBytes_append_inj {w m n : Nat} {r s : ByteString} (hm : m < 256 ^ w)
    (hn : n < 256 ^ w) (h : beBytes w m ++ r = beBytes w n ++ s) : m = n ∧ r = s := by
  obtain ⟨hb, hr⟩ := List.append_inj h (by simp)
  exact ⟨beBytes_injective hm hn hb, hr⟩

/-! ## Fixed-width fields -/

/-- **`Bytes n`** — the array type `[u8; n]`. -/
@[ext] structure Bytes (n : Nat) where
  toList : ByteString
  length_eq : toList.length = n
  deriving DecidableEq

namespace Bytes

variable {n : Nat}

attribute [simp] length_eq

/-- The array of `n` zero bytes. -/
def zero (n : Nat) : Bytes n := ⟨List.replicate n 0, by simp⟩

/-- The low `n` bytes of an integer, most significant byte first. -/
def ofNat (n value : Nat) : Bytes n := ⟨beBytes n value, length_beBytes n value⟩

/-- `<[u8; n]>::try_from`: succeeds exactly on `n` bytes. -/
def ofList? (n : Nat) (bs : ByteString) : Option (Bytes n) :=
  if h : bs.length = n then some ⟨bs, h⟩ else none

@[simp] theorem ofList?_toList (b : Bytes n) : ofList? n b.toList = some b := by
  simp [ofList?]

theorem ofList?_eq_some {bs : ByteString} {b : Bytes n} :
    ofList? n bs = some b ↔ bs = b.toList := by
  constructor
  · intro h
    unfold ofList? at h
    split at h
    · cases h
      rfl
    · cases h
  · rintro rfl
    exact ofList?_toList b

theorem toList_inj {a b : Bytes n} : a.toList = b.toList ↔ a = b :=
  ⟨Bytes.ext, congrArg toList⟩

/-- A fixed-width field cancels from the front of a byte string. -/
theorem append_inj {a b : Bytes n} {r s : ByteString} (h : a.toList ++ r = b.toList ++ s) :
    a = b ∧ r = s := by
  obtain ⟨hab, hrs⟩ := List.append_inj h (by simp)
  exact ⟨Bytes.ext hab, hrs⟩

/-- The derived order of `[u8; n]`: lexicographic by byte. -/
instance : LinearOrder (Bytes n) :=
  LinearOrder.lift' (fun b => b.toList.map UInt8.toNat) fun _ _ h =>
    Bytes.ext (List.map_injective_iff.mpr (fun _ _ => UInt8.toNat.inj) h)

end Bytes

/-! ## Strings -/

/-- The UTF-8 encoding of a string. -/
def utf8 (s : String) : ByteString := s.toByteArray.data.toList

theorem utf8_inj {s t : String} : utf8 s = utf8 t ↔ s = t := by
  constructor
  · intro h
    refine String.toByteArray_inj.mp ?_
    exact ByteArray.ext (Array.toList_inj.mp h)
  · rintro rfl
    rfl

theorem append_string_inj {p a b : String} : p ++ a = p ++ b ↔ a = b := by
  constructor
  · intro h
    have hlist := congrArg String.toList h
    rw [String.toList_append, String.toList_append, List.append_cancel_left_eq] at hlist
    exact String.toList_inj.mp hlist
  · rintro rfl
    rfl

/-- Two prefixes with different characters in one place. -/
theorem append_string_ne {p q a b : String} {c d : Char} (n : Nat) (hp : p.toList[n]? = some c)
    (hq : q.toList[n]? = some d) (hcd : c ≠ d) : p ++ a ≠ q ++ b := by
  intro h
  have hchar := congrArg (fun s : String => s.toList[n]?) h
  simp only [String.toList_append] at hchar
  obtain ⟨hnp, -⟩ := List.getElem?_eq_some_iff.mp hp
  obtain ⟨hnq, -⟩ := List.getElem?_eq_some_iff.mp hq
  rw [List.getElem?_append_left hnp, List.getElem?_append_left hnq, hp, hq,
    Option.some.injEq] at hchar
  exact hcd hchar

/-- `{byte:02x}`. -/
def hexByte (byte : UInt8) : String :=
  let digit (n : Nat) : Char := "0123456789abcdef".toList.getD n '0'
  String.ofList [digit (byte.toNat / 16), digit (byte.toNat % 16)]

/-- Two lowercase hexadecimal digits for each byte. -/
def hex (bytes : ByteString) : String := String.join (bytes.map hexByte)

/-- The digits of a half byte differ. -/
theorem hexDigit_inj {m n : Nat} (hm : m < 16) (hn : n < 16)
    (h : "0123456789abcdef".toList.getD m '0' = "0123456789abcdef".toList.getD n '0') : m = n := by
  have hindex : ∀ k < 16, "0123456789abcdef".toList.idxOf
      ("0123456789abcdef".toList.getD k '0') = k := by decide
  rw [← hindex m hm, ← hindex n hn, h]

theorem hex_injective : Function.Injective hex := by
  intro bs bs' h
  have hlist := congrArg String.toList h
  simp only [hex, String.toList_join] at hlist
  clear h
  induction bs generalizing bs' with
  | nil =>
      cases bs' with
      | nil => rfl
      | cons b' bs' => simp [hexByte] at hlist
  | cons b bs ih =>
      cases bs' with
      | nil => simp [hexByte] at hlist
      | cons b' bs' =>
          simp only [List.map_cons, List.flatMap_cons, hexByte, String.toList_ofList, List.cons_append,
            List.nil_append, List.cons.injEq] at hlist
          obtain ⟨hhigh, hlow, hrest⟩ := hlist
          have hb := b.toNat_lt
          have hb' := b'.toNat_lt
          have hdiv := hexDigit_inj (by omega) (by omega) hhigh
          have hmod := hexDigit_inj (by omega) (by omega) hlow
          have hbyte : b = b' := UInt8.toNat.inj (by omega)
          rw [hbyte, ih hrest]

/-- `core::str::from_utf8`: the string of a valid UTF-8 byte string. -/
def fromUtf8? (bs : ByteString) : Option String := String.fromUTF8? ⟨bs.toArray⟩

@[simp] theorem fromUtf8?_utf8 (s : String) : fromUtf8? (utf8 s) = some s := by
  have hs : (⟨(utf8 s).toArray⟩ : ByteArray) = s.toByteArray := by
    simp [utf8]
  unfold fromUtf8?
  rw [hs]
  simp [String.fromUTF8?, String.fromUTF8, s.isValidUTF8]

end ByteData
