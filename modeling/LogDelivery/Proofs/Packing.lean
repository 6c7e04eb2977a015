import LogDelivery.MessagePack.Reader
import LogDelivery.Proofs.EventReading
import LogDelivery.Proofs.Utf8

/-!
# MessagePack read back

A document whose texts, lists and records have lengths of 32 bits, and whose numbers have 64, is read
back from its bytes, and no byte is left over.
-/
namespace LogDelivery

namespace Document

theorem length_bigEndian (count n : Nat) : (bigEndian count n).length = count := by
  induction count generalizing n with
  | zero => rfl
  | succ count ih => rw [bigEndian, List.length_append, ih, List.length_singleton]

theorem foldl_bigEndian (count n : Nat) :
    (bigEndian count n).foldl (fun n b => n * 256 + b.toNat) 0 = n % 256 ^ count := by
  induction count generalizing n with
  | zero => rw [Nat.pow_zero, Nat.mod_one]; rfl
  | succ count ih =>
    rw [bigEndian, List.foldl_append, ih, Nat.pow_succ', Nat.mod_mul]
    simp only [List.foldl_cons, List.foldl_nil, UInt8.toNat_ofNat']
    omega

theorem readBigEndian_bigEndian {count n : Nat} (hn : n < 256 ^ count) (rest : List UInt8) :
    readBigEndian count (bigEndian count n ++ rest) = some (n, rest) := by
  have hlength := length_bigEndian count n
  rw [readBigEndian, if_neg (by rw [List.length_append]; omega), List.take_left' hlength,
    List.drop_left' hlength, foldl_bigEndian, Nat.mod_eq_of_lt hn]

namespace Head

theorem range_of_further {mark count : Nat} {head : Nat → Head}
    (h : further mark = some (count, head)) : 0xC0 ≤ mark ∧ mark < 0xE0 := by
  unfold further at h
  split at h <;> first | omega | cases h

theorem read?_marked (mark : UInt8) {count n : Nat} {head : Nat → Head}
    (hmark : further mark.toNat = some (count, head)) (hn : n < 256 ^ count) (rest : List UInt8) :
    read? (mark :: (bigEndian count n ++ rest)) = some (head n, rest) := by
  obtain ⟨hlo, hhi⟩ := range_of_further hmark
  simp only [read?]
  rw [if_neg (by omega), if_neg (by omega), if_neg (by omega), if_neg (by omega),
    if_neg (by omega), hmark]
  simp only [readBigEndian_bigEndian hn, Option.map_some]

theorem read?_packNatural {n : Nat} (hn : n < 2 ^ 64) (rest : List UInt8) :
    read? (packNatural n ++ rest) = some (.integer n, rest) := by
  unfold packNatural
  split_ifs with h7 h8 h16 h32
  · simp only [List.singleton_append, read?, Text.toNat_ofNat (show n < 256 by omega)]
    exact if_pos h7
  · exact read?_marked 0xCC rfl (by omega) rest
  · exact read?_marked 0xCD rfl (by omega) rest
  · exact read?_marked 0xCE rfl (by omega) rest
  · exact read?_marked 0xCF rfl (by omega) rest

theorem signed_complement (count : Nat) {n : Nat} (hn : n < 2 ^ (8 * count + 7)) :
    signed (count + 1) (2 ^ (8 * (count + 1)) - 1 - n) = .integer (.negSucc n) := by
  have hpow : 2 ^ (8 * (count + 1)) = 2 * 2 ^ (8 * count + 7) := by
    rw [show 8 * (count + 1) = 8 * count + 7 + 1 by omega, Nat.pow_succ']
  have hint : (2 ^ (8 * (count + 1)) : Int) = 2 * (2 ^ (8 * count + 7) : Nat) := by
    exact_mod_cast hpow
  rw [signed, show 8 * (count + 1) - 1 = 8 * count + 7 by omega, if_neg (by omega), hint, hpow]
  exact congrArg Head.integer (by omega)

theorem read?_signed (mark : UInt8) (count : Nat) {n : Nat}
    (hmark : further mark.toNat = some (count + 1, signed (count + 1)))
    (hn : n < 2 ^ (8 * count + 7)) (rest : List UInt8) :
    read? (mark :: (bigEndian (count + 1) (2 ^ (8 * (count + 1)) - 1 - n) ++ rest)) =
      some (.integer (.negSucc n), rest) := by
  have hbits : 2 ^ (8 * (count + 1)) - 1 - n < 256 ^ (count + 1) := by
    have hpos := Nat.two_pow_pos (8 * (count + 1))
    rw [show 256 = 2 ^ 8 from rfl, ← Nat.pow_mul]
    omega
  rw [read?_marked mark hmark hbits, signed_complement count hn]

theorem read?_packNegative {n : Nat} (hn : n < 2 ^ 63) (rest : List UInt8) :
    read? (packNegative n ++ rest) = some (.integer (.negSucc n), rest) := by
  unfold packNegative
  split_ifs with h5 h7 h15 h31
  · have hsmall : signed 1 (255 - n) = .integer (.negSucc n) := signed_complement 0 (by omega)
    simp only [List.singleton_append, read?, Text.toNat_ofNat (show 255 - n < 256 by omega)]
    rw [if_neg (by omega), if_neg (by omega), if_neg (by omega), if_neg (by omega),
      if_pos (by omega), hsmall]
  · exact read?_signed 0xD0 0 rfl h7 rest
  · exact read?_signed 0xD1 1 rfl h15 rest
  · exact read?_signed 0xD2 3 rfl h31 rest
  · exact read?_signed 0xD3 7 rfl hn rest

theorem read?_packInteger {i : Int} (hi : (Document.integer i).Fits64) (rest : List UInt8) :
    read? (packInteger i ++ rest) = some (.integer i, rest) := by
  obtain ⟨hlo, hhi⟩ := hi
  cases i with
  | ofNat n =>
    have hn : (n : Int) < 2 ^ 64 := hhi
    exact read?_packNatural (by omega) rest
  | negSucc n => exact read?_packNegative (by omega) rest

theorem read?_packLength {small fixed n : Nat} {byte : Option UInt8} {two four : UInt8}
    {head : Nat → Head} (rest : List UInt8)
    (hsmall : n < small → read? (UInt8.ofNat (fixed + n) :: rest) = some (head n, rest))
    (hbyte : ∀ mark ∈ byte, further mark.toNat = some (1, head))
    (htwo : further two.toNat = some (2, head)) (hfour : further four.toNat = some (4, head))
    (hn : n < 2 ^ 32) :
    read? (packLength small fixed byte two four n ++ rest) = some (head n, rest) := by
  unfold packLength
  by_cases hlt : n < small
  · rw [if_pos hlt]
    exact hsmall hlt
  · rw [if_neg hlt]
    cases byte with
    | none =>
      dsimp only
      split_ifs with h16
      · exact read?_marked two htwo (by omega) rest
      · exact read?_marked four hfour (by omega) rest
    | some mark =>
      dsimp only
      split_ifs with h8 h16
      · exact read?_marked mark (hbyte mark rfl) (by omega) rest
      · exact read?_marked two htwo (by omega) rest
      · exact read?_marked four hfour (by omega) rest

theorem read?_textHead {n : Nat} (hn : n < 2 ^ 32) (rest : List UInt8) :
    read? (packLength 32 0xA0 (some 0xD9) 0xDA 0xDB n ++ rest) = some (.text n, rest) := by
  refine read?_packLength rest (fun hlt => ?_) (by rintro _ ⟨⟩; rfl) rfl rfl hn
  simp only [read?, Text.toNat_ofNat (show 0xA0 + n < 256 by omega)]
  rw [if_neg (by omega), if_neg (by omega), if_neg (by omega), if_pos (by omega),
    Nat.add_sub_cancel_left]

theorem read?_listHead {n : Nat} (hn : n < 2 ^ 32) (rest : List UInt8) :
    read? (packListHead n ++ rest) = some (.list n, rest) := by
  refine read?_packLength rest (fun hlt => ?_) (fun _ h => nomatch h) rfl rfl hn
  simp only [read?, Text.toNat_ofNat (show 0x90 + n < 256 by omega)]
  rw [if_neg (by omega), if_neg (by omega), if_pos (by omega), Nat.add_sub_cancel_left]

theorem read?_recordHead {n : Nat} (hn : n < 2 ^ 32) (rest : List UInt8) :
    read? (packRecordHead n ++ rest) = some (.record n, rest) := by
  refine read?_packLength rest (fun hlt => ?_) (fun _ h => nomatch h) rfl rfl hn
  simp only [read?, Text.toNat_ofNat (show 0x80 + n < 256 by omega)]
  rw [if_neg (by omega), if_pos (by omega), Nat.add_sub_cancel_left]

end Head

/-- A document whose own length has 32 bits, and the lengths of its field names too. -/
def Short : Document → Prop
  | .text s => s.utf8ByteSize < 2 ^ 32
  | .integer _ => True
  | .list items => items.length < 2 ^ 32
  | .record fields => fields.length < 2 ^ 32 ∧ ∀ f ∈ fields, f.1.utf8ByteSize < 2 ^ 32

theorem length_toUTF8 (s : String) : s.toUTF8.toList.length = s.utf8ByteSize := by
  rw [Text.byteArray_toList]
  exact Array.length_toList

theorem read?_packText {s : String} (hs : s.utf8ByteSize < 2 ^ 32) (rest : List UInt8) :
    Head.read? (packText s ++ rest) =
      some (.text s.toUTF8.toList.length, s.toUTF8.toList ++ rest) := by
  rw [packText, List.append_assoc]
  exact Head.read?_textHead (by rwa [length_toUTF8]) _

theorem readText_toUTF8 (s : String) (rest : List UInt8) :
    readText s.toUTF8.toList.length (s.toUTF8.toList ++ rest) = some (s, rest) := by
  rw [readText, if_neg (by rw [List.length_append]; omega), List.take_left, List.drop_left,
    Text.decodeUtf8_toUTF8]

theorem length_packInteger_pos (i : Int) : 0 < (packInteger i).length := by
  cases i with
  | ofNat n =>
    rw [packInteger, packNatural]
    split_ifs <;> simp
  | negSucc n =>
    rw [packInteger, packNegative]
    split_ifs <;> simp

theorem length_packLength_pos (small fixed : Nat) (byte : Option UInt8) (two four : UInt8)
    (n : Nat) : 0 < (packLength small fixed byte two four n).length := by
  unfold packLength
  cases byte <;> dsimp only <;> split_ifs <;> simp

theorem length_messagePack_pos (d : Document) : 0 < d.messagePack.length := by
  cases d with
  | text s =>
    rw [messagePack, packText, List.length_append]
    exact Nat.add_pos_left (length_packLength_pos ..) _
  | integer i => exact length_packInteger_pos i
  | list items =>
    rw [messagePack, List.length_append]
    exact Nat.add_pos_left (length_packLength_pos ..) _
  | record fields =>
    rw [messagePack, List.length_append]
    exact Nat.add_pos_left (length_packLength_pos ..) _

mutual

/-- The readers follow the writers through the document. A value has at least one byte, so two units of
fuel for each byte last for every value and every item. -/
theorem readValue_messagePack {d : Document} (hshort : d.All Short) (hfits : d.All Fits64)
    {fuel : Nat} (hfuel : 2 * d.messagePack.length ≤ fuel) (rest : List UInt8) :
    readValue fuel (d.messagePack ++ rest) = some (d, rest) := by
  have hpos := length_messagePack_pos d
  obtain ⟨fuel, rfl⟩ := Nat.exists_eq_add_of_le' (show 1 ≤ fuel by omega)
  match d with
  | .text s =>
    rw [messagePack, readValue, read?_packText hshort]
    simp only [readText_toUTF8, Option.map_some]
  | .integer i =>
    rw [messagePack, readValue, Head.read?_packInteger hfits]
  | .list items =>
    have hhead : 0 < (packListHead items.length).length := length_packLength_pos ..
    simp only [messagePack, List.length_append, List.append_assoc] at hfuel ⊢
    rw [readValue, Head.read?_listHead hshort.1]
    simp only [readItems_packItems hshort.2 hfits.2 (show _ ≤ fuel by omega) rest,
      Option.map_some]
  | .record fields =>
    have hhead : 0 < (packRecordHead fields.length).length := length_packLength_pos ..
    simp only [messagePack, List.length_append, List.append_assoc] at hfuel ⊢
    rw [readValue, Head.read?_recordHead hshort.1.1]
    simp only [readFields_packFields hshort.1.2 hshort.2 hfits.2 (show _ ≤ fuel by omega) rest,
      Option.map_some]

theorem readItems_packItems {items : List Document} (hshort : AllItems Short items)
    (hfits : AllItems Fits64 items) {fuel : Nat} (hfuel : 2 * (packItems items).length + 1 ≤ fuel)
    (rest : List UInt8) :
    readItems fuel items.length (packItems items ++ rest) = some (items, rest) := by
  obtain ⟨fuel, rfl⟩ := Nat.exists_eq_add_of_le' (show 1 ≤ fuel by omega)
  match items with
  | [] => rfl
  | d :: items =>
    have hpos := length_messagePack_pos d
    simp only [packItems, List.length_append, List.append_assoc] at hfuel ⊢
    rw [List.length_cons, readItems, readValue_messagePack hshort.1 hfits.1 (by omega)]
    simp only [Option.bind_eq_bind, Option.bind_some,
      readItems_packItems hshort.2 hfits.2 (show _ ≤ fuel by omega) rest]
    rfl

theorem readFields_packFields {fields : List (String × Document)}
    (hnames : ∀ f ∈ fields, f.1.utf8ByteSize < 2 ^ 32) (hshort : AllFields Short fields)
    (hfits : AllFields Fits64 fields) {fuel : Nat}
    (hfuel : 2 * (packFields fields).length + 1 ≤ fuel) (rest : List UInt8) :
    readFields fuel fields.length (packFields fields ++ rest) = some (fields, rest) := by
  obtain ⟨fuel, rfl⟩ := Nat.exists_eq_add_of_le' (show 1 ≤ fuel by omega)
  match fields with
  | [] => rfl
  | (name, d) :: fields =>
    have hpos := length_messagePack_pos d
    obtain ⟨hname, hnames⟩ := List.forall_mem_cons.1 hnames
    simp only [packFields, List.length_append, List.append_assoc] at hfuel ⊢
    rw [List.length_cons, readFields, read?_packText hname]
    simp only [Option.bind_eq_bind, Option.bind_some, readText_toUTF8,
      readValue_messagePack hshort.1 hfits.1 (show _ ≤ fuel by omega),
      readFields_packFields hnames hshort.2 hfits.2 (show _ ≤ fuel by omega) rest]
    rfl

end

theorem ofMessagePack?_messagePack {d : Document} (hshort : d.All Short) (hfits : d.All Fits64) :
    ofMessagePack? d.messagePack = some d := by
  have hread : readValue (2 * d.messagePack.length + 1) (d.messagePack ++ []) = some (d, []) :=
    readValue_messagePack hshort hfits (by omega) []
  rw [List.append_nil] at hread
  simp only [ofMessagePack?, hread]

/-- A record whose first bytes say how many fields follow them. -/
def Announced : Document → Prop
  | .record fields =>
    Head.read? (record fields).messagePack = some (.record fields.length, packFields fields)
  | _ => True

theorem announced_of_short {d : Document} (h : d.Short) : d.Announced := by
  cases d with
  | record fields => exact Head.read?_recordHead h.1 _
  | _ => exact trivial

mutual

theorem All.mono {p q : Document → Prop} (h : ∀ d, p d → q d) {d : Document} (hd : d.All p) :
    d.All q := by
  match d with
  | .text s => exact h _ hd
  | .integer i => exact h _ hd
  | .list items => exact ⟨h _ hd.1, AllItems.mono h hd.2⟩
  | .record fields => exact ⟨h _ hd.1, AllFields.mono h hd.2⟩

theorem AllItems.mono {p q : Document → Prop} (h : ∀ d, p d → q d) {items : List Document}
    (hitems : AllItems p items) : AllItems q items := by
  match items with
  | [] => exact trivial
  | d :: rest => exact ⟨All.mono h hitems.1, AllItems.mono h hitems.2⟩

theorem AllFields.mono {p q : Document → Prop} (h : ∀ d, p d → q d)
    {fields : List (String × Document)} (hfields : AllFields p fields) : AllFields q fields := by
  match fields with
  | [] => exact trivial
  | (_, d) :: rest => exact ⟨All.mono h hfields.1, AllFields.mono h hfields.2⟩

end

end Document

open Document Json

theorem Tags.fits64 (t : Tags) : t.document.All Fits64 := by
  rw [document, All, allFields_iff, List.forall_mem_map]
  simp

theorem Tags.fits64_slot (t : Tags) : ∀ d ∈ t.slot, d.All Fits64 := by
  unfold slot
  split_ifs
  · simp
  · simpa using t.fits64

theorem Location.fits64 (l : Location) : l.document.All Fits64 := by
  rw [document_eq, All, allFields_present]
  simp [slots]

theorem Frame.fits64 (f : Frame) : f.document.All Fits64 := by
  rw [document_eq, All, allFields_present]
  simp [slots]

theorem ErrorNode.fits64_frameSlot (n : ErrorNode) : ∀ d ∈ n.frameSlot, d.All Fits64 := by
  unfold frameSlot
  split_ifs
  · simp
  · simp [All, allItems_iff, Frame.fits64]

theorem ErrorChain.fits64_of_cause (e : ErrorChain)
    (hcause : ∀ c ∈ e.cause, c.document.All Fits64) : e.document.All Fits64 := by
  rw [document_eq, All, allFields_present]
  have hdata := e.outer.data.fits64_slot
  have hframes := e.outer.fits64_frameSlot
  simp_all [slots, ErrorNode.slots]

theorem ErrorChain.fits64 (e : ErrorChain) : e.document.All Fits64 := by
  obtain ⟨outer, causes⟩ := e
  induction causes generalizing outer with
  | nil => exact fits64_of_cause _ fun _ h => nomatch h
  | cons c rest ih =>
    refine fits64_of_cause _ ?_
    rintro _ ⟨⟩
    exact ih c

theorem Event.fits64 (e : Event) : e.document.All Fits64 := by
  rw [document_eq, All, allFields_present]
  have htags := e.tags.fits64_slot
  simp_all [slots, Level.document, Location.fits64, ErrorChain.fits64]

theorem Batch.fits64 (b : Batch) : b.document.All Fits64 := by
  rw [document_eq, All, allFields_present]
  simp [slots, Context.slots, Identity.fits64, Event.fits64, All, allItems_iff]

def Batch.ofMessagePack? (bytes : List UInt8) : Option Batch :=
  (Document.ofMessagePack? bytes).bind fun d => Batch.decode d.nesting (.ofDocument d)

/-- The bytes of a batch hold one value and nothing else, in which every record says how many fields it
has; read by name, its fields are those of the batch. No two batches have the same bytes. -/
theorem Format.messagePack_read_back :
    (∀ b : Batch, b.document.All Short → ∃ bytes, Format.messagePack.body b = .messagePack bytes ∧
      Document.ofMessagePack? bytes = some b.document ∧ b.document.All Announced ∧
      Batch.ofMessagePack? bytes = some b) ∧
    ∀ a b : Batch, a.document.All Short → b.document.All Short →
      Format.messagePack.body a = Format.messagePack.body b → a = b := by
  have hread : ∀ b : Batch, b.document.All Short →
      Document.ofMessagePack? b.document.messagePack = some b.document := fun b hb =>
    ofMessagePack?_messagePack hb b.fits64
  refine ⟨fun b hb => ⟨_, rfl, hread b hb, hb.mono fun _ => announced_of_short, ?_⟩, ?_⟩
  · rw [Batch.ofMessagePack?, hread b hb, Option.bind_some]
    exact (Batch.reads b.document.nesting b).trans (if_pos le_rfl)
  · intro a b ha hb hab
    have hbytes : a.document.messagePack = b.document.messagePack := Body.messagePack.inj hab
    have hdocument : a.document = b.document :=
      Option.some.inj ((hread a ha).symm.trans (hbytes ▸ hread b hb))
    exact Batch.reads.injective (congrArg ofDocument hdocument)

theorem Batch.short_unidentified (events : List Event)
    (h : events = [] ∨ events = Batch.unidentified.events) :
    ({ Batch.unidentified with events } : Batch).document.All Short := by
  obtain rfl | rfl := h
  all_goals
    simp [Batch.unidentified, Batch.document, Context.fields, Identity.document, Event.document,
      Level.document, Level.name, Location.document, ErrorChain.document, ErrorNode.nested,
      ErrorNode.fields, Tags.field, Tags.isEmpty, Tags.empty, Frame.document, Document.optional,
      All, AllFields, AllItems, Short]
    decide

theorem Format.messagePack_read_back_unidentified :
    (∃ bytes, Format.messagePack.body .unidentified = .messagePack bytes ∧
      Batch.ofMessagePack? bytes = some .unidentified) ∧
    Format.messagePack.body .unidentified ≠
      Format.messagePack.body { Batch.unidentified with events := [] } := by
  have hshort := Batch.short_unidentified Batch.unidentified.events (.inr rfl)
  have hempty := Batch.short_unidentified [] (.inl rfl)
  obtain ⟨bytes, hbody, -, -, hread⟩ := Format.messagePack_read_back.1 .unidentified hshort
  refine ⟨⟨bytes, hbody, hread⟩, fun hsame => ?_⟩
  exact absurd (Format.messagePack_read_back.2 _ _ hshort hempty hsame) (by decide)

end LogDelivery
