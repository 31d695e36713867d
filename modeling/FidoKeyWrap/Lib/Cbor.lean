/-
# FidoKeyWrap.Lib.Cbor — core deterministic CBOR: items, their encoding, and readers of it.

An `Item` is one call of a CBOR encoder: an unsigned integer, a byte string, a text string or the
header of a definite array. `Item.encode` is the shortest definite form of RFC 8949 core
deterministic encoding. A `Decoder` is the interface of a CBOR reader as a set of functions on the
unread input; `Decoder.Lawful` is what an application may rely on — every reader returns the value
of the item the encoder wrote and consumes exactly that item — and leaves open what it makes of
any other input, in particular of longer forms.

`readItem` is a reader of our own that also accepts the longer integer forms. It shows the laws
are satisfiable (`Decoder.reference_lawful`) and carries the argument that items are a prefix code:
`Item.encode_append_inj` cancels one item from the front of two equal byte strings, and
`encodeAll_injective` cancels a whole sequence of items.
-/
import FidoKeyWrap.Lib.Bytes

namespace Cbor

open ByteData

/-! ## Items and their shortest form -/

/-- One encoder call. -/
inductive Item where
  | uint (value : Nat)
  | bytes (value : ByteString)
  | str (value : String)
  | array (length : Nat)
  deriving DecidableEq

namespace Item

/-- `Encoder::u8`. -/
def u8 (value : UInt8) : Item := .uint value.toNat

/-- `Encoder::u32`. -/
def u32 (value : UInt32) : Item := .uint value.toNat

end Item

/-- The initial byte: three bits of major type, five bits of additional information. -/
def initialByte (major info : Nat) : UInt8 := UInt8.ofNat (major * 32 + info)

/-- The head of an item in shortest form: major type and argument. -/
def head (major arg : Nat) : ByteString :=
  if arg < 24 then [initialByte major arg]
  else if arg < 256 ^ 1 then initialByte major 24 :: beBytes 1 arg
  else if arg < 256 ^ 2 then initialByte major 25 :: beBytes 2 arg
  else if arg < 256 ^ 4 then initialByte major 26 :: beBytes 4 arg
  else initialByte major 27 :: beBytes 8 arg

namespace Item

/-- The major type of an item's head. -/
def major : Item → Nat
  | .uint _ => 0
  | .bytes _ => 2
  | .str _ => 3
  | .array _ => 4

/-- The argument of an item's head: its value, or its length. -/
def arg : Item → Nat
  | .uint value => value
  | .bytes value => value.length
  | .str value => (utf8 value).length
  | .array length => length

/-- The bytes after an item's head. -/
def content : Item → ByteString
  | .bytes value => value
  | .str value => utf8 value
  | _ => []

/-- The shortest definite form of one item. -/
def encode (i : Item) : ByteString := head i.major i.arg ++ i.content

/-- The argument of the head is a 64-bit integer. -/
def Sized (i : Item) : Prop := i.arg < 256 ^ 8

end Item

/-- The concatenated encodings of a sequence of encoder calls. -/
def encodeAll (items : List Item) : ByteString := items.flatMap Item.encode

@[simp] theorem encodeAll_nil : encodeAll [] = [] := rfl

@[simp] theorem encodeAll_cons (i : Item) (is : List Item) :
    encodeAll (i :: is) = i.encode ++ encodeAll is := rfl

@[simp] theorem encodeAll_append (is js : List Item) :
    encodeAll (is ++ js) = encodeAll is ++ encodeAll js :=
  List.flatMap_append

theorem head_ne_nil (major arg : Nat) : head major arg ≠ [] := by
  unfold head
  split_ifs <;> simp

theorem Item.encode_ne_nil (i : Item) : i.encode ≠ [] := by
  simp [Item.encode, head_ne_nil]

theorem length_head_le (major arg : Nat) : (head major arg).length ≤ 9 := by
  unfold head
  split_ifs <;> simp

/-- A head costs at most nine bytes. -/
theorem Item.length_encode_le (i : Item) : i.encode.length ≤ 9 + i.content.length := by
  have := length_head_le i.major i.arg
  simp only [Item.encode, List.length_append]
  omega

/-! ## Reading a head -/

/-- Read the `w` argument bytes that follow an initial byte. -/
def readArg (major w : Nat) (bs : ByteString) : Option (Nat × Nat × ByteString) :=
  if bs.length < w then none else some (major, ofBe (bs.take w), bs.drop w)

/-- Read one head: its major type, its argument and the input after it. -/
def readHead : ByteString → Option (Nat × Nat × ByteString)
  | [] => none
  | b :: bs =>
    let major := b.toNat / 32
    let info := b.toNat % 32
    if info < 24 then some (major, info, bs)
    else if info = 24 then readArg major 1 bs
    else if info = 25 then readArg major 2 bs
    else if info = 26 then readArg major 4 bs
    else if info = 27 then readArg major 8 bs
    else none

theorem initialByte_toNat {major info : Nat} (hm : major < 8) (hi : info < 32) :
    (initialByte major info).toNat / 32 = major ∧ (initialByte major info).toNat % 32 = info := by
  have h : (initialByte major info).toNat = major * 32 + info := by
    simp only [initialByte, UInt8.toNat_ofNat']
    omega
  omega

theorem readArg_beBytes {major w arg : Nat} {rest : ByteString} (h : arg < 256 ^ w) :
    readArg major w (beBytes w arg ++ rest) = some (major, arg, rest) := by
  have hlen : (beBytes w arg).length = w := length_beBytes w arg
  simp [readArg, List.take_left' hlen, List.drop_left' hlen, ofBe_beBytes h]

/-- **Reading inverts writing**, whatever follows. -/
theorem readHead_head {major arg : Nat} (rest : ByteString) (hm : major < 8)
    (ha : arg < 256 ^ 8) : readHead (head major arg ++ rest) = some (major, arg, rest) := by
  unfold head
  split_ifs with h24 h1 h2 h4
  · obtain ⟨hmaj, hinfo⟩ := initialByte_toNat hm (by omega : arg < 32)
    simp [readHead, hmaj, hinfo, h24]
  · obtain ⟨hmaj, hinfo⟩ := initialByte_toNat hm (by omega : 24 < 32)
    simp [readHead, hmaj, hinfo, readArg_beBytes h1]
  · obtain ⟨hmaj, hinfo⟩ := initialByte_toNat hm (by omega : 25 < 32)
    simp [readHead, hmaj, hinfo, readArg_beBytes h2]
  · obtain ⟨hmaj, hinfo⟩ := initialByte_toNat hm (by omega : 26 < 32)
    simp [readHead, hmaj, hinfo, readArg_beBytes h4]
  · obtain ⟨hmaj, hinfo⟩ := initialByte_toNat hm (by omega : 27 < 32)
    simp [readHead, hmaj, hinfo, readArg_beBytes ha]

/-! ## Reading an item -/

/-- Take `n` content bytes. -/
def readContent (n : Nat) (bs : ByteString) : Option (ByteString × ByteString) :=
  if bs.length < n then none else some (bs.take n, bs.drop n)

@[simp] theorem readContent_append (content rest : ByteString) :
    readContent content.length (content ++ rest) = some (content, rest) := by
  simp [readContent]

/-- Read one item of the four kinds, in any integer form. -/
def readItem (bs : ByteString) : Option (Item × ByteString) :=
  match readHead bs with
  | some (0, value, rest) => some (.uint value, rest)
  | some (2, n, rest) => (readContent n rest).map fun (content, rest) => (.bytes content, rest)
  | some (3, n, rest) =>
    match readContent n rest with
    | some (content, rest) => (fromUtf8? content).map fun s => (.str s, rest)
    | none => none
  | some (4, n, rest) => some (.array n, rest)
  | _ => none

theorem readItem_encode {i : Item} (rest : ByteString) (h : i.Sized) :
    readItem (i.encode ++ rest) = some (i, rest) := by
  have hmajor : i.major < 8 := by cases i <;> simp [Item.major]
  have hread := readHead_head (i.content ++ rest) hmajor h
  rw [Item.encode, List.append_assoc]
  cases i <;> simp only [Item.major, Item.arg, Item.content, List.nil_append] at hread ⊢ <;>
    simp only [readItem, hread, readContent_append, fromUtf8?_utf8, Option.map_some]

/-! ## Items are a prefix code -/

/-- One item cancels from the front of two equal byte strings. -/
theorem Item.encode_append_inj {i j : Item} {r s : ByteString} (hi : i.Sized) (hj : j.Sized)
    (h : i.encode ++ r = j.encode ++ s) : i = j ∧ r = s := by
  have hread := readItem_encode r hi
  rw [h, readItem_encode s hj] at hread
  simpa [eq_comm] using hread

/-- A sequence of items that starts the encoding of another is its head. -/
theorem encodeAll_append_eq {is js : List Item} {rest : ByteString} (his : ∀ i ∈ is, i.Sized)
    (hjs : ∀ j ∈ js, j.Sized) (h : encodeAll is ++ rest = encodeAll js) :
    ∃ ks, js = is ++ ks ∧ rest = encodeAll ks := by
  induction is generalizing js with
  | nil => exact ⟨js, rfl, h⟩
  | cons i is ih =>
      cases js with
      | nil => simp [Item.encode_ne_nil] at h
      | cons j js =>
          rw [encodeAll_cons, encodeAll_cons, List.append_assoc] at h
          obtain ⟨rfl, hrest⟩ := Item.encode_append_inj (his i (by simp)) (hjs j (by simp)) h
          obtain ⟨ks, rfl, hks⟩ :=
            ih (fun k hk => his k (by simp [hk])) (fun k hk => hjs k (by simp [hk])) hrest
          exact ⟨ks, rfl, hks⟩

/-- A sequence of items is determined by its bytes. -/
theorem encodeAll_injective {is js : List Item} (his : ∀ i ∈ is, i.Sized)
    (hjs : ∀ j ∈ js, j.Sized) (h : encodeAll is = encodeAll js) : is = js := by
  rw [← List.append_nil (encodeAll is)] at h
  obtain ⟨ks, rfl, hks⟩ := encodeAll_append_eq his hjs h
  cases ks with
  | nil => rw [List.append_nil]
  | cons k ks => simp [Item.encode_ne_nil] at hks

theorem length_encode_le_of_mem {i : Item} {is : List Item} (h : i ∈ is) :
    i.encode.length ≤ (encodeAll is).length := by
  induction is with
  | nil => cases h
  | cons j js ih =>
      rw [encodeAll_cons, List.length_append]
      rcases List.mem_cons.mp h with rfl | h
      · omega
      · have := ih h
        omega

/-- The argument of a head that is not the length of content. -/
def Item.fixedArg : Item → Nat
  | .uint value => value
  | .array length => length
  | _ => 0

@[simp] theorem Item.fixedArg_bytes (b : ByteString) : (Item.bytes b).fixedArg = 0 := rfl

@[simp] theorem Item.fixedArg_str (s : String) : (Item.str s).fixedArg = 0 := rfl

@[simp] theorem Item.fixedArg_array (n : Nat) : (Item.array n).fixedArg = n := rfl

theorem Item.fixedArg_u8_lt (v : UInt8) : (Item.u8 v).fixedArg < 256 ^ 8 :=
  lt_trans v.toNat_lt (by norm_num)

theorem Item.fixedArg_u32_lt (v : UInt32) : (Item.u32 v).fixedArg < 256 ^ 8 :=
  lt_trans v.toNat_lt (by norm_num)

/-- Every item costs at least one byte. -/
theorem length_le_length_encodeAll (is : List Item) : is.length ≤ (encodeAll is).length := by
  induction is with
  | nil => simp
  | cons i is ih =>
      have := List.length_pos_iff.mpr i.encode_ne_nil
      simp only [encodeAll_cons, List.length_cons, List.length_append]
      omega

/-- In a short encoding only the fixed arguments can be too large, since content is written in
full. -/
theorem Item.sized_of_mem {i : Item} {is : List Item} (hi : i ∈ is)
    (hfixed : i.fixedArg < 256 ^ 8) (hlength : (encodeAll is).length < 256 ^ 8) : i.Sized := by
  have hcontent : i.content.length < 256 ^ 8 := by
    have hle := length_encode_le_of_mem hi
    have hpart : i.content.length ≤ i.encode.length := by simp [Item.encode]
    omega
  cases i with
  | uint value => exact hfixed
  | bytes value => exact hcontent
  | str value => exact hcontent
  | array length => exact hfixed

theorem Item.u8_inj {a b : UInt8} : Item.u8 a = Item.u8 b ↔ a = b := by
  simp [Item.u8, UInt8.toNat_inj]

theorem Item.u32_inj {a b : UInt32} : Item.u32 a = Item.u32 b ↔ a = b := by
  simp [Item.u32, UInt32.toNat_inj]

/-! ## Readers -/

/-- The reader methods of a CBOR decoder, on the unread input. A method returns the value it read
and the input after it, or fails. `array` returns the length of a definite array, or `none` inside
for an indefinite one. -/
structure Decoder where
  array : ByteString → Option (Option Nat × ByteString)
  u8 : ByteString → Option (UInt8 × ByteString)
  u32 : ByteString → Option (UInt32 × ByteString)
  str : ByteString → Option (String × ByteString)
  bytes : ByteString → Option (ByteString × ByteString)

/-- On an item the encoder wrote, a reader returns the value and stops right after the item. -/
structure Decoder.Lawful (D : Decoder) : Prop where
  array : ∀ {n : Nat} (rest : ByteString), n < 256 ^ 8 →
    D.array ((Item.array n).encode ++ rest) = some (some n, rest)
  u8 : ∀ (v : UInt8) (rest : ByteString), D.u8 ((Item.u8 v).encode ++ rest) = some (v, rest)
  u32 : ∀ (v : UInt32) (rest : ByteString), D.u32 ((Item.u32 v).encode ++ rest) = some (v, rest)
  str : ∀ {s : String} (rest : ByteString), (utf8 s).length < 256 ^ 8 →
    D.str ((Item.str s).encode ++ rest) = some (s, rest)
  bytes : ∀ {b : ByteString} (rest : ByteString), b.length < 256 ^ 8 →
    D.bytes ((Item.bytes b).encode ++ rest) = some (b, rest)

/-- The reader over `readItem`. -/
def Decoder.reference : Decoder where
  array bs := match readItem bs with
    | some (.array n, rest) => some (some n, rest)
    | _ => none
  u8 bs := match readItem bs with
    | some (.uint n, rest) => if n < 256 then some (UInt8.ofNat n, rest) else none
    | _ => none
  u32 bs := match readItem bs with
    | some (.uint n, rest) => if n < 256 ^ 4 then some (UInt32.ofNat n, rest) else none
    | _ => none
  str bs := match readItem bs with
    | some (.str s, rest) => some (s, rest)
    | _ => none
  bytes bs := match readItem bs with
    | some (.bytes b, rest) => some (b, rest)
    | _ => none

/-- The laws are satisfiable. -/
theorem Decoder.reference_lawful : Decoder.reference.Lawful where
  array rest h := by simp only [Decoder.reference, readItem_encode (i := .array _) rest h]
  u8 v rest := by
    have hv : v.toNat < 256 := v.toNat_lt
    have hsized : (Item.u8 v).Sized := by
      simp only [Item.Sized, Item.u8, Item.arg]
      omega
    have hread := readItem_encode rest hsized
    simp only [Item.u8] at hread ⊢
    simp only [Decoder.reference, hread]
    rw [if_pos hv, UInt8.ofNat_toNat]
  u32 v rest := by
    have hv : v.toNat < 256 ^ 4 := v.toNat_lt
    have hsized : (Item.u32 v).Sized := by
      simp only [Item.Sized, Item.u32, Item.arg]
      omega
    have hread := readItem_encode rest hsized
    simp only [Item.u32] at hread ⊢
    simp only [Decoder.reference, hread]
    rw [if_pos hv, UInt32.ofNat_toNat]
  str rest h := by simp only [Decoder.reference, readItem_encode (i := .str _) rest h]
  bytes rest h := by simp only [Decoder.reference, readItem_encode (i := .bytes _) rest h]

/-! ## Reading a sequence of items -/

/-- A computation over the unread input that may fail. -/
abbrev Reader (ε : Type) := StateT ByteString (Except ε)

section Reader

variable {ε α β : Type}

/-- Call one method of a decoder, with one error for everything it rejects. -/
def read (method : ByteString → Option (α × ByteString)) (error : ε) : Reader ε α :=
  fun unread =>
    match method unread with
    | some result => .ok result
    | none => .error error

theorem Reader.run_bind_eq_ok {x : Reader ε α} {f : α → Reader ε β} {s s' : ByteString} {b : β} :
    (x >>= f).run s = .ok (b, s') ↔
      ∃ a s₁, x.run s = .ok (a, s₁) ∧ (f a).run s₁ = .ok (b, s') := by
  rw [StateT.run_bind]
  cases h : x.run s with
  | error e => simp [bind, Except.bind]
  | ok out =>
      constructor
      · intro hf
        exact ⟨out.1, out.2, rfl, hf⟩
      · rintro ⟨a, s₁, hout, hf⟩
        cases hout
        exact hf

@[simp] theorem Reader.run_lift_eq_ok {x : Except ε α} {s s' : ByteString} {a : α} :
    (liftM x : Reader ε α).run s = .ok (a, s') ↔ x = .ok a ∧ s' = s := by
  cases x with
  | error e =>
      constructor
      · intro h
        cases h
      · rintro ⟨h, -⟩
        cases h
  | ok b =>
      constructor
      · intro h
        cases h
        exact ⟨rfl, rfl⟩
      · rintro ⟨h, rfl⟩
        cases h
        rfl

@[simp] theorem Reader.run_pure_eq_ok {a b : α} {s s' : ByteString} :
    (pure a : Reader ε α).run s = .ok (b, s') ↔ b = a ∧ s' = s := by
  constructor
  · intro h
    cases h
    exact ⟨rfl, rfl⟩
  · rintro ⟨rfl, rfl⟩
    rfl

/-- **`Reads x items a`** — on the encoded items, whatever follows them, `x` returns `a` and stops
right after them. -/
def Reads (x : Reader ε α) (items : List Item) (a : α) : Prop :=
  ∀ rest, x.run (encodeAll items ++ rest) = .ok (a, rest)

namespace Reads

theorem pure (a : α) : Reads (pure a : Reader ε α) [] a := fun _ => rfl

theorem bind {x : Reader ε α} {f : α → Reader ε β} {is js : List Item} {a : α} {b : β}
    (hx : Reads x is a) (hf : Reads (f a) js b) : Reads (x >>= f) (is ++ js) b := by
  intro rest
  rw [encodeAll_append, List.append_assoc]
  exact Reader.run_bind_eq_ok.mpr ⟨a, _, hx _, hf rest⟩

/-- Read one item, then the others. -/
theorem cons {x : Reader ε α} {f : α → Reader ε β} {i : Item} {is : List Item} {a : α} {b : β}
    (hx : Reads x [i] a) (hf : Reads (f a) is b) : Reads (x >>= f) (i :: is) b :=
  bind hx hf

/-- Read the last items, then only return. -/
theorem last {x : Reader ε α} {f : α → Reader ε β} {is : List Item} {a : α} {b : β}
    (hx : Reads x is a) (hf : Reads (f a) [] b) : Reads (x >>= f) is b := by
  have h := bind hx hf
  rwa [List.append_nil] at h

/-- A check of values already read reads nothing. -/
theorem lift {x : Except ε α} {f : α → Reader ε β} {is : List Item} {a : α} {b : β}
    (hx : x = .ok a) (hf : Reads (f a) is b) : Reads (liftM x >>= f) is b := by
  intro rest
  exact Reader.run_bind_eq_ok.mpr ⟨a, _, Reader.run_lift_eq_ok.mpr ⟨hx, rfl⟩, hf rest⟩

theorem of_method {method : ByteString → Option (α × ByteString)} {error : ε} {i : Item} {a : α}
    (h : ∀ rest, method (i.encode ++ rest) = some (a, rest)) : Reads (read method error) [i] a := by
  intro rest
  have hread := h rest
  simp only [encodeAll_cons, encodeAll_nil, List.append_nil]
  change read method error (i.encode ++ rest) = _
  simp only [read, hread]

end Reads

end Reader

end Cbor
