import LogDelivery.Text.Utf8
import Mathlib.Tactic.SplitIfs

/-!
# Texts as bytes and back

The UTF-8 bytes of a text are read as that text.
-/
namespace LogDelivery.Text

theorem toList_loop (bytes : ByteArray) (i : Nat) (done : List UInt8) :
    ByteArray.toList.loop bytes i done = done.reverse ++ bytes.data.toList.drop i := by
  induction i, done using ByteArray.toList.loop.induct bytes with
  | case1 i done hi ih =>
    have hlength : i < bytes.data.toList.length := hi
    have hbyte : bytes.get! i = bytes.data.toList[i] :=
      show bytes.data[i]! = bytes.data[i] from getElem!_pos bytes.data i hi
    rw [ByteArray.toList.loop, if_pos hi, ih, List.reverse_cons, List.append_assoc, hbyte,
      List.drop_eq_getElem_cons hlength, List.singleton_append]
  | case2 i done hi =>
    have hend : bytes.data.toList.length ≤ i := Nat.le_of_not_lt hi
    rw [ByteArray.toList.loop, if_neg hi, List.drop_of_length_le hend, List.append_nil]

theorem byteArray_toList (bytes : ByteArray) : bytes.toList = bytes.data.toList := by
  rw [ByteArray.toList, toList_loop]
  rfl

theorem toUTF8_toList (s : String) : s.toUTF8.toList = s.toList.flatMap String.utf8EncodeChar := by
  calc s.toUTF8.toList = (String.ofList s.toList).toUTF8.data.toList := by
        rw [byteArray_toList, String.ofList_toList]
    _ = s.toList.flatMap String.utf8EncodeChar := List.toList_data_toByteArray

section

variable {v : Nat}

theorem toNat_ofNat {n : Nat} (hn : n < 256) : (UInt8.ofNat n).toNat = n :=
  UInt8.toNat_ofNat_of_lt' hn

/-- A byte of a character is the character itself, or one of those that no character is. -/
theorem toNat_of_mem_encodeChar {c : Char} {b : UInt8} (h : b ∈ String.utf8EncodeChar c) :
    b.toNat = c.toNat ∧ b.toNat < 0x80 ∨ 0x80 ≤ b.toNat ∧ b.toNat < 0xF8 := by
  have hbyte : ∀ n, n < 256 → b = UInt8.ofNat n → b.toNat = n := by
    rintro n hn rfl
    exact toNat_ofNat hn
  rw [String.utf8EncodeChar] at h
  rw [show c.toNat = c.val.toNat from rfl]
  generalize c.val.toNat = v at h ⊢
  split_ifs at h <;> simp only [List.mem_cons, List.not_mem_nil, or_false] at h
  · have hb := hbyte _ (by omega) h
    omega
  · rcases h with h | h <;> have hb := hbyte _ (by omega) h <;> omega
  · rcases h with h | h | h <;> have hb := hbyte _ (by omega) h <;> omega
  · rcases h with h | h | h | h <;> have hb := hbyte _ (by omega) h <;> omega

theorem continuation?_two (hlo : 0x80 ≤ v) (hhi : v < 0x800) :
    continuation? (UInt8.ofNat (v / 64 % 32 + 192)) = some (1, 0x80, 0xBF) := by
  rw [continuation?, toNat_ofNat (by omega)]
  exact if_pos (by omega)

theorem continuation?_three (hlo : 0x800 ≤ v) (hhi : v < 0x10000) (hs : v < 0xD800 ∨ 0xDFFF < v) :
    ∃ lo hi, continuation? (UInt8.ofNat (v / 4096 % 16 + 224)) = some (2, lo, hi) ∧
      lo ≤ v / 64 % 64 + 128 ∧ v / 64 % 64 + 128 ≤ hi := by
  rw [continuation?, toNat_ofNat (by omega)]
  rw [if_neg (by omega)]
  split_ifs with hfirst hlast hmiddle
  · exact ⟨_, _, rfl, by omega, by omega⟩
  · exact ⟨_, _, rfl, by omega, by omega⟩
  · exact ⟨_, _, rfl, by omega, by omega⟩
  all_goals omega

theorem continuation?_four (hlo : 0x10000 ≤ v) (hhi : v < 0x110000) :
    ∃ lo hi, continuation? (UInt8.ofNat (v / 262144 % 8 + 240)) = some (3, lo, hi) ∧
      lo ≤ v / 4096 % 64 + 128 ∧ v / 4096 % 64 + 128 ≤ hi := by
  rw [continuation?, toNat_ofNat (by omega)]
  rw [if_neg (by omega), if_neg (by omega), if_neg (by omega), if_neg (by omega)]
  split_ifs with hfirst hmiddle hlast
  · exact ⟨_, _, rfl, by omega, by omega⟩
  · exact ⟨_, _, rfl, by omega, by omega⟩
  · exact ⟨_, _, rfl, by omega, by omega⟩
  · omega

end

theorem later_byte {value lo hi b : Nat} (count seen : Nat) (rest : List UInt8) (hb : b < 256)
    (hlo : lo ≤ b) (hhi : b ≤ hi) :
    later value lo hi (count + 1) seen (UInt8.ofNat b :: rest) =
      later (value * 64 + b % 64) 0x80 0xBF count (seen + 1) rest := by
  rw [later, toNat_ofNat hb, if_pos ⟨hlo, hhi⟩]

theorem readUtf8_further {b count lo hi value : Nat} (fuel start : Nat) {rest : List UInt8}
    (done : List Char) (hb : b < 256) (hfirst : 0x80 ≤ b)
    (hcontinue : continuation? (UInt8.ofNat b) = some (count, lo, hi))
    (hlater : later (b % 2 ^ (6 - count)) lo hi count 1 rest = .ok value) :
    readUtf8 (fuel + 1) start (UInt8.ofNat b :: rest) done =
      readUtf8 fuel (start + 1 + count) (rest.drop count) (Char.ofNat value :: done) := by
  rw [readUtf8, toNat_ofNat hb, if_neg (by omega), hcontinue]
  simp only [hlater]

theorem readUtf8_char (c : Char) (fuel start : Nat) (rest : List UInt8) (done : List Char) :
    ∃ next, readUtf8 (fuel + 1) start (String.utf8EncodeChar c ++ rest) done =
      readUtf8 fuel next rest (c :: done) := by
  have hvalid : c.toNat < 0xD800 ∨ 0xDFFF < c.toNat ∧ c.toNat < 0x110000 := c.valid
  have hchar : ∀ n, n = c.toNat → Char.ofNat n = c := fun n hn => hn ▸ Char.ofNat_toNat c
  have hval : c.val.toNat = c.toNat := rfl
  generalize hv : c.toNat = v at hvalid hchar hval
  rw [String.utf8EncodeChar, hval]
  split_ifs with hone htwo hthree
  · refine ⟨start + 1, ?_⟩
    rw [List.singleton_append, readUtf8, toNat_ofNat (by omega), if_pos (by omega), hchar v rfl]
  · have hlater : later ((v / 64 % 32 + 192) % 2 ^ (6 - 1)) 0x80 0xBF 1 1
        (UInt8.ofNat (v % 64 + 128) :: rest) = .ok v := by
      rw [later_byte 0 1 rest (by omega) (by omega) (by omega), later]
      exact congrArg _ (by omega)
    have hread := readUtf8_further fuel start done (by omega) (by omega)
      (continuation?_two (by omega) (by omega)) hlater
    exact ⟨_, hchar v rfl ▸ hread⟩
  · obtain ⟨lo, hi, hcontinue, hlo, hhi⟩ :=
      continuation?_three (v := v) (by omega) (by omega) (by omega)
    have hlater : later ((v / 4096 % 16 + 224) % 2 ^ (6 - 2)) lo hi 2 1
        (UInt8.ofNat (v / 64 % 64 + 128) :: UInt8.ofNat (v % 64 + 128) :: rest) = .ok v := by
      rw [later_byte 1 1 _ (by omega) hlo hhi, later_byte 0 2 rest (by omega) (by omega) (by omega),
        later]
      exact congrArg _ (by omega)
    have hread := readUtf8_further fuel start done (by omega) (by omega) hcontinue hlater
    exact ⟨_, hchar v rfl ▸ hread⟩
  · obtain ⟨lo, hi, hcontinue, hlo, hhi⟩ := continuation?_four (v := v) (by omega) (by omega)
    have hlater : later ((v / 262144 % 8 + 240) % 2 ^ (6 - 3)) lo hi 3 1
        (UInt8.ofNat (v / 4096 % 64 + 128) :: UInt8.ofNat (v / 64 % 64 + 128) ::
          UInt8.ofNat (v % 64 + 128) :: rest) = .ok v := by
      rw [later_byte 2 1 _ (by omega) hlo hhi, later_byte 1 2 _ (by omega) (by omega) (by omega),
        later_byte 0 3 rest (by omega) (by omega) (by omega), later]
      exact congrArg _ (by omega)
    have hread := readUtf8_further fuel start done (by omega) (by omega) hcontinue hlater
    exact ⟨_, hchar v rfl ▸ hread⟩

theorem readUtf8_encoded (cs : List Char) {fuel : Nat} (hfuel : cs.length ≤ fuel) (start : Nat)
    (done : List Char) :
    readUtf8 fuel start (cs.flatMap String.utf8EncodeChar) done = .ok (done.reverse ++ cs) := by
  induction cs generalizing fuel start done with
  | nil =>
    rw [List.append_nil]
    cases fuel <;> rfl
  | cons c cs ih =>
    obtain ⟨fuel, rfl⟩ := Nat.exists_eq_add_of_le' (Nat.le_trans (Nat.le_add_left 1 _) hfuel)
    obtain ⟨next, hnext⟩ := readUtf8_char c fuel start (cs.flatMap String.utf8EncodeChar) done
    rw [List.flatMap_cons, hnext, ih (Nat.le_of_succ_le_succ hfuel)]
    simp

theorem length_le_encoded (cs : List Char) :
    cs.length ≤ (cs.flatMap String.utf8EncodeChar).length := by
  induction cs with
  | nil => exact Nat.le_refl 0
  | cons c cs ih =>
    have hpos := List.length_pos_iff.2 (String.utf8EncodeChar_ne_nil (c := c))
    rw [List.flatMap_cons, List.length_append, List.length_cons]
    omega

theorem decodeUtf8_toUTF8 (s : String) : decodeUtf8 s.toUTF8.toList = .ok s := by
  rw [toUTF8_toList, decodeUtf8, readUtf8_encoded s.toList (length_le_encoded _)]
  simp [Except.map]

end LogDelivery.Text
