import Mathlib.Tactic
import ShopSync.Text.Percent

/-!
Percent encoding is read back.

Every byte is read back from what it is written with, so the text of a segment is the text that was
encoded.  What is written consists of unreserved characters and of triples of `%` and two digits; in
particular no character that divides an address stands in a segment.
-/

namespace ShopSync.Text.Percent

theorem hexValue?_hexDigit {n : Nat} (h : n < 16) : hexValue? (hexDigit n) = some n := by
  interval_cases n <;> decide

theorem isUnreserved_lt {b : UInt8} (h : isUnreserved b = true) : b.toNat < 0x80 := by
  simp only [isUnreserved, Bool.or_eq_true, Bool.and_eq_true, decide_eq_true_eq, beq_iff_eq] at h
  omega

theorem toNat_charOfByte (b : UInt8) : (Char.ofNat b.toNat).toNat = b.toNat := by
  have hb : b.toNat < 256 := UInt8.toNat_lt_size b
  have hvalid : b.toNat.isValidChar := Or.inl (by omega)
  have hchar : Char.ofNat b.toNat = Char.ofNatAux b.toNat hvalid := dif_pos hvalid
  rw [hchar]
  rfl

/-! ### Segments -/

/-- The text that a segment stands for, when it is well formed. -/
def decode? (segment : List Char) : Option String :=
  (decodeBytes? segment).bind fun bytes => String.fromUTF8? bytes.toByteArray

/-- A byte is read back from what it is written with. -/
theorem decodeBytes?_encodeByte (b : UInt8) (rest : List Char) :
    decodeBytes? (encodeByte b ++ rest) = (decodeBytes? rest).map (b :: ·) := by
  have hb : b.toNat < 256 := UInt8.toNat_lt_size b
  unfold encodeByte
  split
  case isTrue h =>
    have hlt := isUnreserved_lt h
    have hne : Char.ofNat b.toNat ≠ '%' := by
      intro heq
      have hval := congrArg Char.toNat heq
      rw [toNat_charOfByte] at hval
      have hb' : b = 0x25 := UInt8.toNat_inj.1 hval
      rw [hb'] at h
      exact absurd h (by decide)
    rw [List.singleton_append, decodeBytes?, toNat_charOfByte, UInt8.ofNat_toNat, if_pos ⟨hlt, h⟩]
    intro a b' rest' hpercent
    exact absurd hpercent hne
  case isFalse =>
    have hhigh := hexValue?_hexDigit (n := b.toNat / 16) (by omega)
    have hlow := hexValue?_hexDigit (n := b.toNat % 16) (by omega)
    have hval : UInt8.ofNat (16 * (b.toNat / 16) + b.toNat % 16) = b := by
      rw [Nat.div_add_mod]
      exact UInt8.ofNat_toNat
    simp only [List.cons_append, List.nil_append, decodeBytes?, hhigh, hlow, Option.bind_eq_bind,
      Option.bind_some, hval]
    cases decodeBytes? rest <;> rfl

theorem decodeBytes?_encodeBytes (bs : List UInt8) : decodeBytes? (encodeBytes bs) = some bs := by
  induction bs with
  | nil => rfl
  | cons b bs ih =>
    rw [encodeBytes, List.flatMap_cons, decodeBytes?_encodeByte]
    rw [encodeBytes] at ih
    rw [ih, Option.map_some]

/-! ### Texts -/

theorem toList_loop (bytes : ByteArray) (i : Nat) (done : List UInt8) :
    ByteArray.toList.loop bytes i done = done.reverse ++ bytes.data.toList.drop i := by
  fun_induction ByteArray.toList.loop bytes i done with
  | case1 i done hlt ih =>
    have hlen : i < bytes.data.toList.length := by simpa using hlt
    have hget : bytes.get! i = bytes.data.toList[i] := by
      rw [Array.getElem_toList]
      exact getElem!_pos bytes.data i hlt
    rw [ih, List.drop_eq_getElem_cons hlen, hget, List.reverse_cons, List.append_assoc,
      List.singleton_append]
  | case2 i done hlt =>
    have hlen : bytes.data.toList.length ≤ i := by simpa using hlt
    rw [List.drop_eq_nil_of_le hlen, List.append_nil]

/-- The bytes of a text are those its characters are written with. -/
theorem toList_toUTF8 (s : String) : s.toUTF8.toList = s.toList.flatMap String.utf8EncodeChar := by
  rw [ByteArray.toList, toList_loop, List.reverse_nil, List.nil_append, List.drop_zero,
    String.toUTF8_eq_toByteArray, ← String.utf8Encode_toList, List.utf8Encode,
    List.toList_data_toByteArray]

theorem decode?_encode (s : String) : decode? (encode s).toList = some s := by
  have hbytes : s.toUTF8.toList.toByteArray = s.toUTF8 := by
    rw [toList_toUTF8, String.toUTF8_eq_toByteArray, ← String.utf8Encode_toList, List.utf8Encode]
  rw [decode?, encode, String.toList_ofList, decodeBytes?_encodeBytes, Option.bind_some, hbytes,
    String.fromUTF8?, String.toUTF8_eq_toByteArray, dif_pos s.isValidUTF8]
  rfl

theorem encode_injective : Function.Injective encode := by
  intro s s' h
  have hread := decode?_encode s
  rw [h, decode?_encode] at hread
  exact (Option.some.inj hread).symm

/-! ### The form of segments -/

/-- A letter, a digit, or one of four marks. -/
def IsUnreservedChar (c : Char) : Prop := c.isAlphanum = true ∨ c ∈ ['-', '_', '.', '~']

instance (c : Char) : Decidable (IsUnreservedChar c) := inferInstanceAs (Decidable (_ ∨ _))

def hexDigits : List Char := "0123456789ABCDEF".toList

/-- The form of a segment: unreserved characters, and triples of `%` and two hexadecimal digits. -/
inductive IsSegment : List Char → Prop
  | nil : IsSegment []
  | plain {c : Char} {rest : List Char} (hc : IsUnreservedChar c) (hrest : IsSegment rest) :
      IsSegment (c :: rest)
  | triple {a b : Char} {rest : List Char} (ha : a ∈ hexDigits) (hb : b ∈ hexDigits)
      (hrest : IsSegment rest) : IsSegment ('%' :: a :: b :: rest)

theorem isUnreservedChar_of_isUnreserved {b : UInt8} (h : isUnreserved b = true) :
    IsUnreservedChar (Char.ofNat b.toNat) := by
  have hbytes : ∀ n < 256, isUnreserved (UInt8.ofNat n) = true →
      IsUnreservedChar (Char.ofNat n) := by
    decide +kernel
  exact hbytes b.toNat (UInt8.toNat_lt_size b) (by rwa [UInt8.ofNat_toNat])

theorem hexDigit_mem_hexDigits {n : Nat} (h : n < 16) : hexDigit n ∈ hexDigits := by
  interval_cases n <;> decide

theorem isSegment_encode (s : String) : IsSegment (encode s).toList := by
  rw [encode, String.toList_ofList]
  induction s.toUTF8.toList with
  | nil => exact .nil
  | cons b bs ih =>
    have hb : b.toNat < 256 := UInt8.toNat_lt_size b
    rw [encodeBytes, List.flatMap_cons, encodeByte]
    split
    next hplain => exact .plain (isUnreservedChar_of_isUnreserved hplain) ih
    next =>
      exact .triple (hexDigit_mem_hexDigits (by omega)) (hexDigit_mem_hexDigits (by omega)) ih

/-- The characters that segments are written with. -/
def isSegmentChar (c : Char) : Bool :=
  decide (c.toNat < 0x80) && (isUnreserved (UInt8.ofNat c.toNat) || c == '%')

theorem isSegmentChar_hexDigit {n : Nat} (h : n < 16) : isSegmentChar (hexDigit n) = true := by
  interval_cases n <;> decide

theorem isSegmentChar_of_mem_encode {s : String} {c : Char} (h : c ∈ (encode s).toList) :
    isSegmentChar c = true := by
  rw [encode, String.toList_ofList, encodeBytes, List.mem_flatMap] at h
  obtain ⟨b, -, hc⟩ := h
  have hb : b.toNat < 256 := UInt8.toNat_lt_size b
  unfold encodeByte at hc
  split at hc
  case isTrue hplain =>
    rw [List.mem_singleton] at hc
    rw [hc, isSegmentChar, toNat_charOfByte, UInt8.ofNat_toNat, hplain]
    simpa using isUnreserved_lt hplain
  case isFalse =>
    simp only [List.mem_cons, List.not_mem_nil, or_false] at hc
    rcases hc with rfl | rfl | rfl
    · decide
    · exact isSegmentChar_hexDigit (by omega)
    · exact isSegmentChar_hexDigit (by omega)

/-- A character that no segment is written with, such as one that divides an address. -/
theorem notMem_encode {c : Char} (h : isSegmentChar c = false) (s : String) :
    c ∉ (encode s).toList := by
  intro hmem
  rw [isSegmentChar_of_mem_encode hmem] at h
  exact absurd h (by decide)

/-! ### Texts that are their own segments -/

/-- Whether a character stands for itself in an address. -/
def isPlain (c : Char) : Bool :=
  decide (c.toNat < 0x80) && isUnreserved (UInt8.ofNat c.toNat)

theorem encodeBytes_utf8EncodeChar {c : Char} (h : isPlain c = true) :
    encodeBytes (String.utf8EncodeChar c) = [c] := by
  simp only [isPlain, Bool.and_eq_true, decide_eq_true_eq] at h
  have hsize : c.utf8Size = 1 := by
    have hlt : c.val.toNat < 0x80 := h.1
    rw [Char.utf8Size_eq_one_iff, UInt32.le_iff_toNat_le]
    exact Nat.le_of_lt_succ hlt
  have hbyte : c.val.toUInt8 = UInt8.ofNat c.toNat := rfl
  have hval : (UInt8.ofNat c.toNat).toNat = c.toNat := by
    rw [UInt8.toNat_ofNat']
    omega
  rw [String.utf8EncodeChar_eq_singleton hsize, hbyte, encodeBytes, List.flatMap_singleton,
    encodeByte, if_pos h.2, hval, Char.ofNat_toNat]

theorem encode_of_all_isPlain {cs : List Char} (h : cs.all isPlain = true) :
    encode (String.ofList cs) = String.ofList cs := by
  have hchars : encodeBytes (cs.flatMap String.utf8EncodeChar) = cs := by
    induction cs with
    | nil => rfl
    | cons c cs ih =>
      rw [List.all_cons, Bool.and_eq_true] at h
      have ih := ih h.2
      rw [encodeBytes] at ih ⊢
      rw [List.flatMap_cons, List.flatMap_append, ih]
      exact congrArg (· ++ cs) (encodeBytes_utf8EncodeChar h.1)
  rw [encode, toList_toUTF8, String.toList_ofList, hchars]

theorem encode_eq_self {s : String} (h : s.toList.all isPlain = true) : encode s = s := by
  have hencoded := encode_of_all_isPlain h
  rwa [String.ofList_toList] at hencoded

end ShopSync.Text.Percent
