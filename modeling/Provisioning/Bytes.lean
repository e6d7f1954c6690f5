/-! # Bytes, words and text

Everything that travels over the serial line is a list of bytes. A 32-bit word takes four of them,
least significant first; text is written in UTF-8. `word_ofWord` and `ofWord_word` say that words
and groups of four bytes determine each other, `text?_eq_some_iff` that a byte string is read as
the one text it is the encoding of.
-/

namespace Provisioning

abbrev Bytes := List UInt8

namespace Bytes

/-- The four bytes of a word, least significant first. -/
def ofWord (w : UInt32) : Bytes :=
  [UInt8.ofNat w.toNat, UInt8.ofNat (w.toNat / 256), UInt8.ofNat (w.toNat / 65536),
    UInt8.ofNat (w.toNat / 16777216)]

/-- The word that four bytes spell, least significant first. -/
def word (b0 b1 b2 b3 : UInt8) : UInt32 :=
  UInt32.ofNat (b0.toNat + 256 * b1.toNat + 65536 * b2.toNat + 16777216 * b3.toNat)

@[simp] theorem length_ofWord (w : UInt32) : (ofWord w).length = 4 := rfl

theorem toNat_word (b0 b1 b2 b3 : UInt8) :
    (word b0 b1 b2 b3).toNat =
      b0.toNat + 256 * b1.toNat + 65536 * b2.toNat + 16777216 * b3.toNat := by
  have := b0.toNat_lt
  have := b1.toNat_lt
  have := b2.toNat_lt
  have := b3.toNat_lt
  simp only [word, UInt32.toNat_ofNat']
  omega

theorem ofWord_word (b0 b1 b2 b3 : UInt8) : ofWord (word b0 b1 b2 b3) = [b0, b1, b2, b3] := by
  have := b0.toNat_lt
  have := b1.toNat_lt
  have := b2.toNat_lt
  have := b3.toNat_lt
  simp only [ofWord, toNat_word, List.cons.injEq, ← UInt8.toNat_inj, UInt8.toNat_ofNat', and_true]
  omega

theorem word_ofWord (w : UInt32) :
    word (UInt8.ofNat w.toNat) (UInt8.ofNat (w.toNat / 256)) (UInt8.ofNat (w.toNat / 65536))
      (UInt8.ofNat (w.toNat / 16777216)) = w := by
  have := w.toNat_lt
  simp only [← UInt32.toNat_inj, toNat_word, UInt8.toNat_ofNat']
  omega

theorem ofWord_injective {v w : UInt32} (same : ofWord v = ofWord w) : v = w := by
  rw [← word_ofWord v, ← word_ofWord w]
  simp only [ofWord, List.cons.injEq] at same
  obtain ⟨first, second, third, fourth, _⟩ := same
  rw [first, second, third, fourth]

/-- The UTF-8 encoding of a text. -/
def ofText (text : String) : Bytes := text.toByteArray.data.toList

/-- The text that the bytes encode in UTF-8, if they encode one. -/
def text? (bytes : Bytes) : Option String := String.fromUTF8? bytes.toByteArray

theorem ofText_append (first second : String) :
    ofText (first ++ second) = ofText first ++ ofText second := by
  simp [ofText]

theorem ofText_join (texts : List String) :
    ofText (String.join texts) = (texts.map ofText).flatten := by
  induction texts with
  | nil => rfl
  | cons text rest ih => rw [String.join_cons, ofText_append, ih, List.map_cons, List.flatten_cons]

theorem length_ofText (text : String) : (ofText text).length = text.utf8ByteSize := by
  rw [ofText, Array.length_toList]
  rfl

theorem toByteArray_ofText (text : String) : (ofText text).toByteArray = text.toByteArray :=
  ByteArray.ext (by simp [ofText, List.data_toByteArray])

theorem text?_eq_some_iff {bytes : Bytes} {text : String} :
    text? bytes = some text ↔ bytes = ofText text := by
  constructor
  · intro decoded
    simp only [text?, String.fromUTF8?] at decoded
    split at decoded
    · cases decoded
      simp [ofText, String.fromUTF8, List.data_toByteArray]
    · cases decoded
  · rintro rfl
    simp [text?, String.fromUTF8?, toByteArray_ofText, text.isValidUTF8, String.fromUTF8]

@[simp] theorem text?_ofText (text : String) : text? (ofText text) = some text :=
  text?_eq_some_iff.mpr rfl

theorem ofText_injective {s t : String} (same : ofText s = ofText t) : s = t :=
  Option.some.inj ((text?_ofText s).symm.trans (same ▸ text?_ofText t))

end Bytes

end Provisioning
