/-
# FidoKeyWrap.Lib.Framing — length-prefixed framing of a list of fields.

`frame fields` is the field count and then every field behind its length, each number as four
big-endian bytes. Two lists whose counts and lengths fit those four bytes have the same frame only
if they are equal, and one frame is never a proper prefix of another (`frame_append_inj`): the
count says how many fields follow and every length says where its field ends.
-/
import FidoKeyWrap.Lib.Bytes

namespace Framing

open ByteData

/-- One field behind its length. -/
def frameField (field : ByteString) : ByteString := beBytes 4 field.length ++ field

/-- The framed fields, without the count. -/
def frameFields (fields : List ByteString) : ByteString := fields.flatMap frameField

/-- A count and the framed fields. -/
def frame (fields : List ByteString) : ByteString :=
  beBytes 4 fields.length ++ frameFields fields

/-- Every number a frame writes fits four bytes. -/
structure Framed (fields : List ByteString) : Prop where
  count : fields.length < 256 ^ 4
  length : ∀ field ∈ fields, field.length < 256 ^ 4

/-- One framed field cancels from the front of two equal byte strings. -/
theorem frameField_append_inj {f g r s : ByteString} (hf : f.length < 256 ^ 4)
    (hg : g.length < 256 ^ 4) (h : frameField f ++ r = frameField g ++ s) : f = g ∧ r = s := by
  simp only [frameField, List.append_assoc] at h
  obtain ⟨hlen, hrest⟩ := beBytes_append_inj hf hg h
  exact List.append_inj hrest hlen

/-- Equally many framed fields cancel from the front. -/
theorem frameFields_append_inj {fs gs : List ByteString} {r s : ByteString}
    (hf : ∀ f ∈ fs, f.length < 256 ^ 4) (hg : ∀ g ∈ gs, g.length < 256 ^ 4)
    (hcount : fs.length = gs.length) (h : frameFields fs ++ r = frameFields gs ++ s) :
    fs = gs ∧ r = s := by
  induction fs generalizing gs with
  | nil =>
      cases gs with
      | nil => exact ⟨rfl, h⟩
      | cons g gs => simp at hcount
  | cons f fs ih =>
      cases gs with
      | nil => simp at hcount
      | cons g gs =>
          simp only [frameFields, List.flatMap_cons, List.append_assoc] at h
          obtain ⟨rfl, hrest⟩ := frameField_append_inj (hf f (by simp)) (hg g (by simp)) h
          obtain ⟨rfl, hrs⟩ := ih (fun x hx => hf x (by simp [hx])) (fun x hx => hg x (by simp [hx]))
            (by simpa using hcount) hrest
          exact ⟨rfl, hrs⟩

/-- **Frames are a prefix code.** -/
theorem frame_append_inj {fs gs : List ByteString} {r s : ByteString} (hf : Framed fs)
    (hg : Framed gs) (h : frame fs ++ r = frame gs ++ s) : fs = gs ∧ r = s := by
  simp only [frame, List.append_assoc] at h
  obtain ⟨hcount, hrest⟩ := beBytes_append_inj hf.count hg.count h
  exact frameFields_append_inj hf.length hg.length hcount hrest

theorem frame_injective {fs gs : List ByteString} (hf : Framed fs) (hg : Framed gs)
    (h : frame fs = frame gs) : fs = gs :=
  (frame_append_inj (r := []) (s := []) hf hg (by simpa using h)).1

end Framing
