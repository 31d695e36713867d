/-
# FidoKeyWrap.Identity — the text forms of identities.

An application identity is a lowercase DNS-shaped name. `ApplicationId.new` reads its bytes;
`DnsShaped` is the same grammar over the characters of the string. A recipient identity is written
as 64 lowercase hexadecimal digits and read back by `RecipientId.fromStr`; the native stores use that
text as their account name.
-/
import FidoKeyWrap.Lib.Ascii
import FidoKeyWrap.Platform.Store

namespace FidoKeyWrap

open ByteData

/-! ## Application identities -/

namespace ApplicationId

/-- A lowercase letter or a digit. -/
def LetterOrDigit (c : Char) : Prop := 'a' ≤ c ∧ c ≤ 'z' ∨ '0' ≤ c ∧ c ≤ '9'

/-- One label of a name. -/
structure DnsLabel (label : List Char) : Prop where
  length : 1 ≤ label.length ∧ label.length ≤ 63
  characters : ∀ c ∈ label, LetterOrDigit c ∨ c = '-'
  begins : ∃ c, label.head? = some c ∧ LetterOrDigit c
  ends : ∃ c, label.getLast? = some c ∧ LetterOrDigit c

/-- The labels of a name, which dots separate. -/
def labels (value : String) : List (List Char) := value.toList.splitOn '.'

/-- **The grammar of application identities.** -/
structure DnsShaped (value : String) : Prop where
  length : 3 ≤ value.utf8ByteSize ∧ value.utf8ByteSize ≤ 253
  two_labels : 2 ≤ (labels value).length
  label : ∀ label ∈ labels value, DnsLabel label

theorem LetterOrDigit.isAscii {c : Char} (h : LetterOrDigit c) : IsAscii c := by
  rcases h with ⟨-, hle⟩ | ⟨-, hle⟩
  · exact isAscii_of_le hle (by decide)
  · exact isAscii_of_le hle (by decide)

theorem DnsLabel.isAscii {label : List Char} (h : DnsLabel label) : ∀ c ∈ label, IsAscii c := by
  intro c hc
  rcases h.characters c hc with hletter | rfl
  · exact hletter.isAscii
  · decide

/-- A name has no character of more than one byte. -/
theorem DnsShaped.isAscii {value : String} (h : DnsShaped value) :
    ∀ c ∈ value.toList, IsAscii c := by
  intro c hc
  by_cases hdot : c = '.'
  · subst hdot
    decide
  · obtain ⟨label, hlabel, hmem⟩ := exists_mem_splitOn.mpr ⟨hc, hdot⟩
    exact (h.label label hlabel).isAscii c hmem

/-! ### Bytes and characters -/

section

variable {c : Char} (hc : IsAscii c)

include hc

theorem isAsciiLowercase_toUInt8 : isAsciiLowercase c.toUInt8 = true ↔ 'a' ≤ c ∧ c ≤ 'z' := by
  exact toUInt8_between 'a' 'z' hc (by decide) (by decide)

theorem isAsciiDigit_toUInt8 : isAsciiDigit c.toUInt8 = true ↔ '0' ≤ c ∧ c ≤ '9' := by
  exact toUInt8_between '0' '9' hc (by decide) (by decide)

theorem letterOrDigit_toUInt8 :
    (isAsciiLowercase c.toUInt8 || isAsciiDigit c.toUInt8) = true ↔ LetterOrDigit c := by
  rw [Bool.or_eq_true, isAsciiLowercase_toUInt8 hc, isAsciiDigit_toUInt8 hc, LetterOrDigit]

theorem hyphen_toUInt8 : (c.toUInt8 == 0x2d) = true ↔ c = '-' := by
  rw [beq_iff_eq]
  exact toUInt8_inj (d := '-') hc (by decide)

/-- The check of a label's characters. -/
theorem labelByte_toUInt8 :
    (isAsciiLowercase c.toUInt8 || isAsciiDigit c.toUInt8 || c.toUInt8 == 0x2d) = true ↔
      LetterOrDigit c ∨ c = '-' := by
  rw [Bool.or_eq_true, letterOrDigit_toUInt8 hc, hyphen_toUInt8 hc]

/-- The check of a label's first and last character would admit an uppercase letter; the check of
all its characters does not. -/
theorem alphanumeric_toUInt8 (hlabel : LetterOrDigit c ∨ c = '-') :
    isAsciiAlphanumeric c.toUInt8 = true ↔ LetterOrDigit c := by
  constructor
  · intro h
    rcases hlabel with hletter | rfl
    · exact hletter
    · exact absurd h (by decide)
  · intro h
    rw [isAsciiAlphanumeric, Bool.or_eq_true]
    refine .inl ?_
    rw [Bool.or_comm]
    exact (letterOrDigit_toUInt8 hc).mpr h

end

/-- The loop's checks of one label. -/
theorem acceptsLabel_iff {label : List Char} (hascii : ∀ c ∈ label, IsAscii c) :
    acceptsLabel (label.map Char.toUInt8) = true ↔ DnsLabel label := by
  simp only [acceptsLabel, Bool.and_eq_true, decide_eq_true_eq, List.length_map, List.head?_map,
    List.getLast?_map, List.all_map, List.all_eq_true, Function.comp_apply, Option.any_map,
    Option.any_eq_true, Bool.not_eq_true', List.isEmpty_eq_false_iff, ne_eq, List.map_eq_nil_iff]
  have hcharacters : (∀ c ∈ label, (isAsciiLowercase c.toUInt8 || isAsciiDigit c.toUInt8 ||
      c.toUInt8 == 0x2d) = true) ↔ ∀ c ∈ label, LetterOrDigit c ∨ c = '-' :=
    forall₂_congr fun c hc => labelByte_toUInt8 (hascii c hc)
  rw [hcharacters]
  constructor
  · rintro ⟨⟨⟨⟨hne, hlength⟩, c, hhead, hc⟩, d, hlast, hd⟩, hall⟩
    have hheadMem := List.mem_of_head? hhead
    have hlastMem := List.mem_of_getLast? hlast
    refine ⟨⟨List.length_pos_iff.mpr hne, hlength⟩, hall, ⟨c, hhead, ?_⟩, d, hlast, ?_⟩
    · exact (alphanumeric_toUInt8 (hascii c hheadMem) (hall c hheadMem)).mp hc
    · exact (alphanumeric_toUInt8 (hascii d hlastMem) (hall d hlastMem)).mp hd
  · rintro ⟨⟨hpos, hlength⟩, hall, ⟨c, hhead, hc⟩, d, hlast, hd⟩
    have hheadMem := List.mem_of_head? hhead
    have hlastMem := List.mem_of_getLast? hlast
    refine ⟨⟨⟨⟨List.length_pos_iff.mp hpos, hlength⟩, c, hhead, ?_⟩, d, hlast, ?_⟩, hall⟩
    · exact (alphanumeric_toUInt8 (hascii c hheadMem) (hall c hheadMem)).mpr hc
    · exact (alphanumeric_toUInt8 (hascii d hlastMem) (hall d hlastMem)).mpr hd

/-- Splitting an ASCII value's bytes at `0x2e` is splitting its characters at `.`. -/
theorem splitOn_utf8 {value : String} (hascii : ∀ c ∈ value.toList, IsAscii c) :
    (utf8 value).splitOn 0x2e = (labels value).map (List.map Char.toUInt8) := by
  rw [utf8_of_isAscii hascii]
  exact splitOn_map (a := '.') fun c hc h => (toUInt8_inj (hascii c hc) (by decide)).mp h

theorem accepts_iff (value : String) : accepts value = true ↔ DnsShaped value := by
  simp only [accepts, Bool.and_eq_true, decide_eq_true_eq, List.all_eq_true, length_utf8]
  constructor
  · rintro ⟨⟨⟨⟨hmin, hmax⟩, hbytes⟩, hall⟩, hcount⟩
    have hascii := forall_utf8_lt_iff.mp hbytes
    rw [splitOn_utf8 hascii] at hall hcount
    rw [List.length_map] at hcount
    refine ⟨⟨hmin, hmax⟩, hcount, fun label hlabel => ?_⟩
    refine (acceptsLabel_iff fun c hc => ?_).mp (hall _ (List.mem_map_of_mem hlabel))
    exact hascii c (exists_mem_splitOn.mp ⟨label, hlabel, hc⟩).1
  · intro h
    have hascii := h.isAscii
    rw [splitOn_utf8 hascii, List.length_map]
    refine ⟨⟨⟨h.length, forall_utf8_lt_iff.mpr hascii⟩, fun bytes hmem => ?_⟩, h.two_labels⟩
    obtain ⟨label, hlabel, rfl⟩ := List.mem_map.mp hmem
    exact (acceptsLabel_iff (h.label label hlabel).isAscii).mpr (h.label label hlabel)

/-- **The identities that exist**: `new` accepts exactly the DNS-shaped names, and returns the name
it was given. -/
theorem new_accepts_exactly (value : String) :
    ((∃ application, new value = .ok application) ↔ DnsShaped value) ∧
      ∀ application, new value = .ok application → application.asStr = value := by
  constructor
  · rw [← accepts_iff]
    constructor
    · rintro ⟨application, h⟩
      rw [new_eq_ok.mp h]
      exact application.accepted
    · intro h
      exact ⟨⟨value, h⟩, new_eq_ok.mpr rfl⟩
  · intro application h
    exact (new_eq_ok.mp h).symm

end ApplicationId

/-! ## Recipient identities -/

namespace RecipientId

/-- `Display`. -/
def display (recipient : RecipientId) : String := hex recipient.asBytes.toList

def isLowercaseHex (byte : UInt8) : Bool := isAsciiDigit byte || (0x61 ≤ byte && byte ≤ 0x66)

def decodeHex (value : UInt8) : UInt8 :=
  if isAsciiDigit value then value - 0x30
  else if 0x61 ≤ value && value ≤ 0x66 then value - 0x61 + 10
  else 0

/-- The loop over `chunks_exact(2)`. -/
def decodePairs : ByteString → ByteString
  | high :: low :: rest => (decodeHex high <<< 4 ||| decodeHex low) :: decodePairs rest
  | _ => []

theorem length_decodePairs (bytes : ByteString) :
    (decodePairs bytes).length = bytes.length / 2 := by
  induction bytes using decodePairs.induct with
  | case1 high low rest ih =>
      simp only [decodePairs, List.length_cons, ih]
      omega
  | case2 bytes hshort =>
      match bytes with
      | [] => rfl
      | [_] => simp [decodePairs]
      | high :: low :: rest => exact absurd rfl (hshort high low rest)

/-- `FromStr`. -/
def fromStr (value : String) : Result RecipientId :=
  let bytes := utf8 value
  if h : bytes.length = 64 ∧ bytes.all isLowercaseHex = true then
    .ok ⟨⟨decodePairs bytes, by rw [length_decodePairs, h.1]⟩⟩
  else .error .invalidRecipientId

/-- A lowercase hexadecimal digit. -/
def HexDigit (c : Char) : Prop := '0' ≤ c ∧ c ≤ '9' ∨ 'a' ≤ c ∧ c ≤ 'f'

/-- **The text form of a recipient identity.** -/
structure HexText (value : String) : Prop where
  length : value.length = 64
  digits : ∀ c ∈ value.toList, HexDigit c

instance : DecidablePred HexDigit := fun c =>
  inferInstanceAs (Decidable ('0' ≤ c ∧ c ≤ '9' ∨ 'a' ≤ c ∧ c ≤ 'f'))

/-! ### Digits -/

theorem HexDigit.isAscii {c : Char} (h : HexDigit c) : IsAscii c := by
  rcases h with ⟨-, hle⟩ | ⟨-, hle⟩
  · exact isAscii_of_le hle (by decide)
  · exact isAscii_of_le hle (by decide)

theorem isLowercaseHex_toUInt8 {c : Char} (hc : IsAscii c) :
    isLowercaseHex c.toUInt8 = true ↔ HexDigit c := by
  rw [isLowercaseHex, Bool.or_eq_true, HexDigit]
  exact or_congr (toUInt8_between '0' '9' hc (by decide) (by decide))
    (toUInt8_between 'a' 'f' hc (by decide) (by decide))

theorem isAscii_of_isLowercaseHex {byte : UInt8} (h : isLowercaseHex byte = true) : byte < 0x80 := by
  simp only [isLowercaseHex, isAsciiDigit, Bool.or_eq_true, Bool.and_eq_true,
    decide_eq_true_eq] at h
  rcases h with ⟨-, hle⟩ | ⟨-, hle⟩
  · exact UInt8.lt_of_le_of_lt hle (by decide)
  · exact UInt8.lt_of_le_of_lt hle (by decide)

/-- The sixteen digits, in the order of their values. -/
theorem HexDigit.mem_digits {c : Char} (h : HexDigit c) : c ∈ "0123456789abcdef".toList := by
  have hrange : 48 ≤ c.toNat ∧ c.toNat ≤ 57 ∨ 97 ≤ c.toNat ∧ c.toNat ≤ 102 := by
    simp only [HexDigit, Char.le_def, UInt32.le_iff_toNat_le] at h
    exact h
  rw [← Char.ofNat_toNat c]
  generalize c.toNat = n at hrange
  rcases hrange with ⟨hlow, hhigh⟩ | ⟨hlow, hhigh⟩
  · interval_cases n <;> decide
  · interval_cases n <;> decide

/-- Reading a digit gives its place among the digits. -/
theorem HexDigit.decodeHex {c : Char} (h : HexDigit c) :
    (decodeHex c.toUInt8).toNat < 16 ∧
      "0123456789abcdef".toList.getD (RecipientId.decodeHex c.toUInt8).toNat '0' = c := by
  -- over the list of digits, not over all characters
  have hall : ("0123456789abcdef".toList.all fun d =>
      decide ((RecipientId.decodeHex d.toUInt8).toNat < 16 ∧
        "0123456789abcdef".toList.getD (RecipientId.decodeHex d.toUInt8).toNat '0' = d)) = true := by
    decide
  exact of_decide_eq_true (List.all_eq_true.mp hall c h.mem_digits)

theorem hexDigit_getD {n : Nat} (h : n < 16) : HexDigit ("0123456789abcdef".toList.getD n '0') := by
  have hall : ∀ k < 16, HexDigit ("0123456789abcdef".toList.getD k '0') := by decide
  exact hall n h

/-- Two half bytes side by side. -/
theorem toNat_halves {high low : UInt8} (hhigh : high.toNat < 16) (hlow : low.toNat < 16) :
    (high <<< 4 ||| low).toNat = 16 * high.toNat + low.toNat := by
  have hshift : (high <<< 4).toNat = high.toNat <<< 4 := by
    rw [UInt8.toNat_shiftLeft]
    change high.toNat <<< 4 % 256 = _
    rw [Nat.shiftLeft_eq]
    omega
  rw [UInt8.toNat_or, hshift, ← Nat.shiftLeft_add_eq_or_of_lt (by omega), Nat.shiftLeft_eq]
  omega

/-! ### Round trips -/

theorem toList_hex (bytes : ByteString) :
    (hex bytes).toList = bytes.flatMap fun byte => (hexByte byte).toList := by
  rw [hex, String.toList_join, List.flatMap_map]

theorem length_hex (bytes : ByteString) : (hex bytes).length = 2 * bytes.length := by
  rw [← String.length_toList, toList_hex]
  induction bytes with
  | nil => rfl
  | cons byte bytes ih =>
      rw [List.flatMap_cons, List.length_append, ih, hexByte, String.toList_ofList]
      simp only [List.length_cons, List.length_nil]
      omega

theorem hexText_display (recipient : RecipientId) : HexText recipient.display := by
  constructor
  · rw [display, length_hex, recipient.asBytes.length_eq]
  · intro c hc
    rw [display, toList_hex] at hc
    obtain ⟨byte, -, hdigit⟩ := List.mem_flatMap.mp hc
    rw [hexByte, String.toList_ofList] at hdigit
    have hbyte := byte.toNat_lt
    simp only [List.mem_cons, List.not_mem_nil, or_false] at hdigit
    rcases hdigit with rfl | rfl
    · exact hexDigit_getD (by omega)
    · exact hexDigit_getD (by omega)

/-- Printing the byte that two digits were read as gives the digits back. -/
theorem toList_hexByte_pair {high low : Char} (hhigh : HexDigit high) (hlow : HexDigit low) :
    (hexByte (decodeHex high.toUInt8 <<< 4 ||| decodeHex low.toUInt8)).toList = [high, low] := by
  obtain ⟨hhighLt, hhighDigit⟩ := hhigh.decodeHex
  obtain ⟨hlowLt, hlowDigit⟩ := hlow.decodeHex
  have hbyte := toNat_halves hhighLt hlowLt
  have hdiv : (decodeHex high.toUInt8 <<< 4 ||| decodeHex low.toUInt8).toNat / 16 =
      (decodeHex high.toUInt8).toNat := by omega
  have hmod : (decodeHex high.toUInt8 <<< 4 ||| decodeHex low.toUInt8).toNat % 16 =
      (decodeHex low.toUInt8).toNat := by omega
  simp only [hexByte, String.toList_ofList, hdiv, hmod, hhighDigit, hlowDigit]

theorem toList_hex_decodePairs : ∀ digits : List Char, digits.length % 2 = 0 →
    (∀ c ∈ digits, HexDigit c) →
      (hex (decodePairs (digits.map Char.toUInt8))).toList = digits
  | [], _, _ => rfl
  | [_], hodd, _ => by simp at hodd
  | high :: low :: rest, heven, hdigits => by
      have hpair := toList_hexByte_pair (hdigits high (by simp)) (hdigits low (by simp))
      have hrestEven : rest.length % 2 = 0 := by
        simp only [List.length_cons] at heven
        omega
      have hrest := toList_hex_decodePairs rest hrestEven fun c hc => hdigits c (by simp [hc])
      rw [toList_hex] at hrest ⊢
      simp only [List.map_cons, decodePairs, List.flatMap_cons, hrest, hpair]
      rfl

/-- The checks of `fromStr` accept the text form and nothing else. -/
theorem checks_iff {value : String} :
    (utf8 value).length = 64 ∧ (utf8 value).all isLowercaseHex = true ↔ HexText value := by
  rw [List.all_eq_true]
  constructor
  · rintro ⟨hlength, hall⟩
    have hascii := forall_utf8_lt_iff.mp fun byte hbyte =>
      isAscii_of_isLowercaseHex (hall byte hbyte)
    rw [length_utf8_of_isAscii hascii] at hlength
    refine ⟨hlength, fun c hc => (isLowercaseHex_toUInt8 (hascii c hc)).mp ?_⟩
    refine hall _ ?_
    rw [utf8_of_isAscii hascii]
    exact List.mem_map_of_mem hc
  · intro h
    have hascii : ∀ c ∈ value.toList, IsAscii c := fun c hc => (h.digits c hc).isAscii
    rw [length_utf8_of_isAscii hascii, utf8_of_isAscii hascii]
    refine ⟨h.length, fun byte hbyte => ?_⟩
    obtain ⟨c, hc, rfl⟩ := List.mem_map.mp hbyte
    exact (isLowercaseHex_toUInt8 (hascii c hc)).mpr (h.digits c hc)

theorem exists_fromStr_iff {value : String} :
    (∃ recipient, fromStr value = .ok recipient) ↔ HexText value := by
  rw [← checks_iff, fromStr]
  constructor
  · rintro ⟨recipient, h⟩
    split at h
    · assumption
    · cases h
  · intro h
    exact ⟨_, dif_pos h⟩

theorem display_of_fromStr {value : String} {recipient : RecipientId}
    (h : fromStr value = .ok recipient) : recipient.display = value := by
  have htext := exists_fromStr_iff.mp ⟨recipient, h⟩
  have hascii : ∀ c ∈ value.toList, IsAscii c := fun c hc => (htext.digits c hc).isAscii
  rw [fromStr, dif_pos (checks_iff.mpr htext)] at h
  cases h
  have heven : value.toList.length % 2 = 0 := by
    rw [String.length_toList, htext.length]
  have hdigits := toList_hex_decodePairs value.toList heven htext.digits
  rw [← utf8_of_isAscii hascii] at hdigits
  exact String.toList_inj.mp hdigits

theorem fromStr_display (recipient : RecipientId) : fromStr recipient.display = .ok recipient := by
  obtain ⟨parsed, h⟩ := exists_fromStr_iff.mpr (hexText_display recipient)
  have hsame : parsed.asBytes.toList = recipient.asBytes.toList :=
    hex_injective (display_of_fromStr h)
  rw [h, RecipientId.ext (Bytes.ext hsame)]

/-- **The text form is a bijection**: printing and reading are inverse, a string reads exactly when
it has the text form, and the account names of the native stores are these strings, one for each
recipient. -/
theorem text_form :
    (∀ recipient, fromStr (display recipient) = .ok recipient) ∧
      (∀ value recipient, fromStr value = .ok recipient → recipient.display = value) ∧
      (∀ value, (∃ recipient, fromStr value = .ok recipient) ↔ HexText value) ∧
      Set.BijOn Platform.recipientName Set.univ {value | HexText value} := by
  refine ⟨fromStr_display, fun _ _ => display_of_fromStr, fun _ => exists_fromStr_iff, ?_⟩
  refine ⟨fun recipient _ => hexText_display recipient, ?_, ?_⟩
  · intro a _ b _ h
    exact Platform.recipientName_inj.mp h
  · intro value htext
    obtain ⟨recipient, h⟩ := exists_fromStr_iff.mpr htext
    exact ⟨recipient, trivial, display_of_fromStr h⟩

end RecipientId

end FidoKeyWrap
