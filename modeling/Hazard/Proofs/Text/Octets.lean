import Hazard.Proofs.Text.Places
import Hazard.Text.Encoding

/-!
# Texts and their octets

A character is written as an octet that begins it and octets that continue it, and neither is taken
for the other.  So a line feed is found among the octets exactly where it is one of the characters,
offsets that do not divide a character are those before an octet that begins one, and the octets up to
any offset are read as the characters that they hold in full.
-/

namespace Hazard
namespace Text

/-- The octets of the character are the one that begins it and those that continue it.  It is read
again from all of them, and from no fewer. -/
structure WrittenAs (c : Char) (lead : UInt8) (tail : List UInt8) : Prop where
  /-- The octets are the first one and the others. -/
  octets : String.utf8EncodeChar c = lead :: tail
  /-- The first octet continues no character. -/
  begins : continuation? lead = none
  /-- Each of the others continues one. -/
  continues : ∀ octet ∈ tail, (continuation? octet).isSome
  /-- The character is read from the octets, whatever follows. -/
  read (rest : List UInt8) : leadingChar? (lead :: (tail ++ rest)) = some c
  /-- It is not read from fewer octets. -/
  short {part : List UInt8} (shorter : part.length < tail.length) :
    leadingChar? (lead :: part) = none
  /-- Only the line feed begins as the line feed does. -/
  newline : lead = 10 ↔ c = '\n'

/-! ## Octets of a character -/

theorem toNat_octet {code : Nat} (small : code < 256) : (UInt8.ofNat code).toNat = code :=
  UInt8.toNat_ofNat_of_lt' small

theorem continuation?_ofNat {code : Nat} (small : code < 256) :
    continuation? (UInt8.ofNat code) =
      if 0x80 ≤ code ∧ code < 0xc0 then some (code - 0x80) else none := by
  simp only [continuation?, Bool.and_eq_true, decide_eq_true_eq, UInt8.le_iff_toNat_le,
    UInt8.lt_iff_toNat_lt, toNat_octet small]
  rfl

theorem continuation?_tail {bits : Nat} (small : bits < 64) :
    continuation? (UInt8.ofNat (bits + 0x80)) = some bits := by
  rw [continuation?_ofNat (by omega), if_pos (by omega), Nat.add_sub_cancel]

theorem isSome_continuation?_tail (code : Nat) :
    (continuation? (UInt8.ofNat (code % 64 + 0x80))).isSome := by
  rw [continuation?_tail (Nat.mod_lt _ (by decide))]
  rfl

theorem charFrom?_toNat {c : Char} {least code : Nat} (le : least ≤ c.toNat)
    (code_eq : code = c.toNat) : charFrom? least code = some c := by
  have valid : c.toNat.isValidChar := c.valid
  simp [charFrom?, code_eq, le, valid, Char.ofNat_toNat]

theorem ofNat_eq_newline_iff {code : Nat} (small : code < 256) :
    UInt8.ofNat code = 10 ↔ code = 10 := by
  rw [← UInt8.toNat_inj, toNat_octet small]
  rfl

theorem eq_newline_iff (c : Char) : c = '\n' ↔ c.toNat = 10 := by
  rw [← Char.toNat_inj]
  rfl

theorem writtenAs_one {c : Char} (lt : c.toNat < 0x80) :
    WrittenAs c (UInt8.ofNat c.toNat) [] where
  octets := by
    rw [String.utf8EncodeChar]
    exact if_pos (Nat.le_of_lt_succ lt)
  begins := by rw [continuation?_ofNat (by omega), if_neg (by omega)]
  continues := List.forall_mem_nil _
  read rest := by
    have small : c.toNat < 256 := by omega
    simp only [leadingChar?, toNat_octet small, if_pos lt, Char.ofNat_toNat]
  short shorter := absurd shorter (Nat.not_lt_zero _)
  newline := by rw [ofNat_eq_newline_iff (by omega), eq_newline_iff]

theorem writtenAs_two {c : Char} (ge : 0x80 ≤ c.toNat) (lt : c.toNat < 0x800) :
    WrittenAs c (UInt8.ofNat (c.toNat / 64 + 0xc0)) [UInt8.ofNat (c.toNat % 64 + 0x80)] where
  octets := by
    have high : c.toNat / 64 % 0x20 = c.toNat / 64 := Nat.mod_eq_of_lt (by omega)
    rw [← high, String.utf8EncodeChar]
    exact (if_neg (Nat.not_le.mpr ge)).trans (if_pos (Nat.le_of_lt_succ lt))
  begins := by rw [continuation?_ofNat (by omega), if_neg (by omega)]
  continues := List.forall_mem_singleton.mpr (isSome_continuation?_tail _)
  read rest := by
    have small : c.toNat / 64 + 0xc0 < 256 := by omega
    have low := continuation?_tail (Nat.mod_lt c.toNat (show 0 < 64 by decide))
    simp only [leadingChar?, toNat_octet small, List.cons_append, low, Option.bind_eq_bind,
      Option.bind_some]
    rw [if_neg (by omega), if_neg (by omega), if_pos (by omega)]
    exact charFrom?_toNat ge (by omega)
  short {part} shorter := by
    have small : c.toNat / 64 + 0xc0 < 256 := by omega
    obtain rfl : part = [] := List.length_eq_zero_iff.mp (Nat.lt_one_iff.mp shorter)
    simp only [leadingChar?, toNat_octet small]
    rw [if_neg (by omega), if_neg (by omega), if_pos (by omega)]
  newline := by
    rw [ofNat_eq_newline_iff (by omega), eq_newline_iff]
    omega

theorem writtenAs_three {c : Char} (ge : 0x800 ≤ c.toNat) (lt : c.toNat < 0x10000) :
    WrittenAs c (UInt8.ofNat (c.toNat / 4096 + 0xe0))
      [UInt8.ofNat (c.toNat / 64 % 64 + 0x80), UInt8.ofNat (c.toNat % 64 + 0x80)] where
  octets := by
    have high : c.toNat / 4096 % 0x10 = c.toNat / 4096 := Nat.mod_eq_of_lt (by omega)
    rw [← high, String.utf8EncodeChar]
    refine (if_neg (Nat.not_le.mpr ?_)).trans ((if_neg (Nat.not_le.mpr ge)).trans
      (if_pos (Nat.le_of_lt_succ lt)))
    exact Nat.lt_of_lt_of_le (by decide) ge
  begins := by rw [continuation?_ofNat (by omega), if_neg (by omega)]
  continues := List.forall_mem_cons.mpr ⟨isSome_continuation?_tail _,
    List.forall_mem_singleton.mpr (isSome_continuation?_tail _)⟩
  read rest := by
    have small : c.toNat / 4096 + 0xe0 < 256 := by omega
    have middle := continuation?_tail (Nat.mod_lt (c.toNat / 64) (show 0 < 64 by decide))
    have low := continuation?_tail (Nat.mod_lt c.toNat (show 0 < 64 by decide))
    simp only [leadingChar?, toNat_octet small, List.cons_append, middle, low, Option.bind_eq_bind,
      Option.bind_some]
    rw [if_neg (by omega), if_neg (by omega), if_neg (by omega), if_pos (by omega)]
    exact charFrom?_toNat ge (by omega)
  short {part} shorter := by
    have small : c.toNat / 4096 + 0xe0 < 256 := by omega
    simp only [leadingChar?, toNat_octet small]
    rw [if_neg (by omega), if_neg (by omega), if_neg (by omega), if_pos (by omega)]
    rcases part with _ | ⟨first, _ | ⟨second, part⟩⟩
    · rfl
    · rfl
    · simp only [List.length_cons, List.length_nil] at shorter
      omega
  newline := by
    rw [ofNat_eq_newline_iff (by omega), eq_newline_iff]
    omega

theorem toNat_lt (c : Char) : c.toNat < 0x110000 := by
  rcases c.valid with small | large
  · exact Nat.lt_trans small (by decide)
  · exact large.2

theorem writtenAs_four {c : Char} (ge : 0x10000 ≤ c.toNat) :
    WrittenAs c (UInt8.ofNat (c.toNat / 262144 + 0xf0))
      [UInt8.ofNat (c.toNat / 4096 % 64 + 0x80), UInt8.ofNat (c.toNat / 64 % 64 + 0x80),
        UInt8.ofNat (c.toNat % 64 + 0x80)] where
  octets := by
    have lt := toNat_lt c
    have high : c.toNat / 262144 % 0x08 = c.toNat / 262144 := Nat.mod_eq_of_lt (by omega)
    rw [← high, String.utf8EncodeChar]
    refine (if_neg (Nat.not_le.mpr ?_)).trans ((if_neg (Nat.not_le.mpr ?_)).trans
      (if_neg (Nat.not_le.mpr ge)))
    · exact Nat.lt_of_lt_of_le (by decide) ge
    · exact Nat.lt_of_lt_of_le (by decide) ge
  begins := by
    have lt := toNat_lt c
    rw [continuation?_ofNat (by omega), if_neg (by omega)]
  continues := List.forall_mem_cons.mpr ⟨isSome_continuation?_tail _,
    List.forall_mem_cons.mpr ⟨isSome_continuation?_tail _,
      List.forall_mem_singleton.mpr (isSome_continuation?_tail _)⟩⟩
  read rest := by
    have lt := toNat_lt c
    have small : c.toNat / 262144 + 0xf0 < 256 := by omega
    have high := continuation?_tail (Nat.mod_lt (c.toNat / 4096) (show 0 < 64 by decide))
    have middle := continuation?_tail (Nat.mod_lt (c.toNat / 64) (show 0 < 64 by decide))
    have low := continuation?_tail (Nat.mod_lt c.toNat (show 0 < 64 by decide))
    simp only [leadingChar?, toNat_octet small, List.cons_append, high, middle, low,
      Option.bind_eq_bind, Option.bind_some]
    rw [if_neg (by omega), if_neg (by omega), if_neg (by omega), if_neg (by omega),
      if_pos (by omega)]
    exact charFrom?_toNat ge (by omega)
  short {part} shorter := by
    have lt := toNat_lt c
    have small : c.toNat / 262144 + 0xf0 < 256 := by omega
    simp only [leadingChar?, toNat_octet small]
    rw [if_neg (by omega), if_neg (by omega), if_neg (by omega), if_neg (by omega),
      if_pos (by omega)]
    rcases part with _ | ⟨first, _ | ⟨second, _ | ⟨third, part⟩⟩⟩
    · rfl
    · rfl
    · rfl
    · simp only [List.length_cons, List.length_nil] at shorter
      omega
  newline := by
    have lt := toNat_lt c
    rw [ofNat_eq_newline_iff (by omega), eq_newline_iff]
    omega

/-- Every character is written as octets of these kinds. -/
theorem exists_writtenAs (c : Char) : ∃ lead tail, WrittenAs c lead tail := by
  by_cases one : c.toNat < 0x80
  · exact ⟨_, _, writtenAs_one one⟩
  · by_cases two : c.toNat < 0x800
    · exact ⟨_, _, writtenAs_two (Nat.not_lt.mp one) two⟩
    · by_cases three : c.toNat < 0x10000
      · exact ⟨_, _, writtenAs_three (Nat.not_lt.mp two) three⟩
      · exact ⟨_, _, writtenAs_four (Nat.not_lt.mp three)⟩

theorem WrittenAs.utf8Size_eq {c : Char} {lead : UInt8} {tail : List UInt8}
    (written : WrittenAs c lead tail) : c.utf8Size = tail.length + 1 := by
  rw [← String.length_utf8EncodeChar, written.octets, List.length_cons]

theorem WrittenAs.newline_notMem {c : Char} {lead : UInt8} {tail : List UInt8}
    (written : WrittenAs c lead tail) : 10 ∉ tail := by
  intro member
  exact absurd (written.continues 10 member) (by decide)

/-! ## Octets of a text -/

/-- The octets of an array that are listed from an index on. -/
theorem toList_loop (octets : ByteArray) (index : Nat) (listed : List UInt8) :
    ByteArray.toList.loop octets index listed =
      listed.reverse ++ octets.data.toList.drop index := by
  fun_induction ByteArray.toList.loop octets index listed with
  | case1 index listed within ih =>
      have next : octets.data.toList.drop index =
          octets.get! index :: octets.data.toList.drop (index + 1) := by
        rw [List.drop_eq_getElem_cons within]
        congr 1
        exact (getElem!_pos octets.data index within).symm
      rw [ih, List.reverse_cons, List.append_assoc, List.singleton_append, ← next]
  | case2 index listed beyond =>
      rw [List.drop_eq_nil_of_le (Nat.not_lt.mp beyond), List.append_nil]

theorem encode_eq (text : List Char) : encode text = text.flatMap String.utf8EncodeChar := by
  rw [encode, ByteArray.toList, toList_loop]
  exact List.toList_data_toByteArray

theorem encode_nil : encode [] = [] := encode_eq []

theorem encode_append (front rear : List Char) :
    encode (front ++ rear) = encode front ++ encode rear := by
  rw [encode_eq, encode_eq, encode_eq, List.flatMap_append]

theorem WrittenAs.encode_cons {c : Char} {lead : UInt8} {tail : List UInt8}
    (written : WrittenAs c lead tail) (rest : List Char) :
    encode (c :: rest) = lead :: (tail ++ encode rest) := by
  rw [encode_eq, List.flatMap_cons, written.octets, encode_eq, List.cons_append]

theorem length_encode (text : List Char) : (encode text).length = byteLength text := by
  induction text with
  | nil => rw [encode_nil, byteLength, List.length_nil]
  | cons c rest ih =>
      obtain ⟨lead, tail, written⟩ := exists_writtenAs c
      rw [written.encode_cons, byteLength, written.utf8Size_eq, List.length_cons, List.length_append,
        ih]
      omega

/-- No octet of another character is the octet of a line feed. -/
theorem count_newline_encode (text : List Char) : (encode text).count 10 = text.count '\n' := by
  induction text with
  | nil => rw [encode_nil, List.count_nil, List.count_nil]
  | cons c rest ih =>
      obtain ⟨lead, tail, written⟩ := exists_writtenAs c
      rw [written.encode_cons, List.count_cons, List.count_append,
        List.count_eq_zero.mpr written.newline_notMem, ih, List.count_cons, Nat.zero_add]
      simp only [beq_iff_eq, written.newline]

theorem newline_mem_encode_iff (text : List Char) : 10 ∈ encode text ↔ '\n' ∈ text := by
  rw [← List.count_pos_iff, count_newline_encode, List.count_pos_iff]

/-! ## Reading all octets -/

theorem decodeFrom?_append (skipped octets : List UInt8) :
    decodeFrom? skipped.length (skipped ++ octets) = decode? octets := by
  induction skipped with
  | nil => rfl
  | cons octet skipped ih =>
      rw [List.length_cons, List.cons_append, decodeFrom?, ih]

/-- A text is read back from its octets. -/
theorem decode?_encode (text : List Char) : decode? (encode text) = some text := by
  induction text with
  | nil =>
      rw [encode_nil]
      rfl
  | cons c rest ih =>
      obtain ⟨lead, tail, written⟩ := exists_writtenAs c
      rw [written.encode_cons, decode?, decodeFrom?, written.read]
      simp only [Option.bind_eq_bind, Option.bind_some, written.utf8Size_eq, Nat.add_sub_cancel]
      rw [decodeFrom?_append, ih]
      rfl

theorem uniformLineEnds_of_notMem {text : List Char} (plain : '\r' ∉ text) :
    uniformLineEnds text = text := by
  induction text with
  | nil => rfl
  | cons c rest ih =>
      rw [List.mem_cons, not_or] at plain
      have other : (c == '\r') = false := beq_eq_false_iff_ne.mpr (Ne.symm plain.1)
      rw [uniformLineEnds, ih plain.2, other, if_neg Bool.false_ne_true]
      exact fun _ same => absurd same.symm plain.1

/-! ## Reading a part of the octets -/

theorem decodeSomeFrom_append (skipped octets : List UInt8) :
    decodeSomeFrom skipped.length (skipped ++ octets) = decodeSome octets := by
  induction skipped with
  | nil => rfl
  | cons octet skipped ih =>
      rw [List.length_cons, List.cons_append, decodeSomeFrom, ih]

theorem WrittenAs.decodeSome_append {c : Char} {lead : UInt8} {tail : List UInt8}
    (written : WrittenAs c lead tail) (octets : List UInt8) :
    decodeSome (lead :: (tail ++ octets)) = c :: decodeSome octets := by
  rw [decodeSome, decodeSomeFrom, written.read]
  simp only [written.utf8Size_eq, Nat.add_sub_cancel]
  rw [decodeSomeFrom_append]

/-- Octets that continue a character say nothing without the one that begins it. -/
theorem decodeSome_of_continues {octets : List UInt8}
    (continues : ∀ octet ∈ octets, (continuation? octet).isSome) : decodeSome octets = [] := by
  induction octets with
  | nil => rfl
  | cons octet octets ih =>
      obtain ⟨first, others⟩ := List.forall_mem_cons.mp continues
      have range : 0x80 ≤ octet.toNat ∧ octet.toNat < 0xc0 := by
        by_contra outside
        have none : continuation? octet = none := by
          rw [← octet.ofNat_toNat, continuation?_ofNat octet.toNat_lt, if_neg outside]
        rw [none] at first
        contradiction
      have unread : leadingChar? (octet :: octets) = none := by
        simp only [leadingChar?]
        rw [if_neg (by omega), if_pos range.2]
      rw [decodeSome, decodeSomeFrom, unread]
      exact ih others

/-- A character of which octets are missing is left out. -/
theorem WrittenAs.decodeSome_take {c : Char} {lead : UInt8} {tail : List UInt8}
    (written : WrittenAs c lead tail) {count : Nat} (short : count < c.utf8Size)
    (octets : List UInt8) : decodeSome ((lead :: (tail ++ octets)).take count) = [] := by
  rw [written.utf8Size_eq] at short
  cases count with
  | zero => rfl
  | succ count =>
      have within : count < tail.length := Nat.lt_of_succ_lt_succ short
      have kept : (tail ++ octets).take count = tail.take count :=
        List.take_append_of_le_length (Nat.le_of_lt within)
      have unread : leadingChar? (lead :: tail.take count) = none := by
        apply written.short
        rwa [List.length_take, Nat.min_eq_left (Nat.le_of_lt within)]
      rw [List.take_succ_cons, kept, decodeSome, decodeSomeFrom, unread]
      exact decodeSome_of_continues fun octet member =>
        written.continues octet (List.mem_of_mem_take member)

/-- The octets up to an offset are read as the characters that lie before it. -/
theorem decodeSome_take_encode (count : Nat) (text : List Char) :
    decodeSome ((encode text).take count) = takeBytes count text := by
  induction text generalizing count with
  | nil =>
      rw [takeBytes, encode_nil, List.take_nil]
      rfl
  | cons c rest ih =>
      obtain ⟨lead, tail, written⟩ := exists_writtenAs c
      rw [written.encode_cons, takeBytes]
      split
      · rename_i fits
        have size_eq : c.utf8Size = (lead :: tail).length := written.utf8Size_eq
        rw [← List.cons_append, List.take_append, List.take_of_length_le (size_eq ▸ fits),
          List.cons_append, written.decodeSome_append, ih, size_eq]
      · rename_i missing
        exact written.decodeSome_take (Nat.not_le.mp missing) _

/-! ## Offsets between characters -/

/-- The offset divides no character: it is the end, or an octet that begins a character follows. -/
structure IsBoundary (octets : List UInt8) (offset : Nat) : Prop where
  /-- The offset is not beyond the end. -/
  within : offset ≤ octets.length
  /-- The octet after it, if there is one, begins a character. -/
  begins (octet : UInt8) (next : octets[offset]? = some octet) : continuation? octet = none

theorem isBoundary_encode_append (before after : List Char) :
    IsBoundary (encode (before ++ after)) (encode before).length where
  within := by
    rw [encode_append, List.length_append]
    exact Nat.le_add_right _ _
  begins octet next := by
    rw [encode_append, List.getElem?_append_right (Nat.le_refl _), Nat.sub_self] at next
    cases after with
    | nil =>
        rw [encode_nil] at next
        contradiction
    | cons c rest =>
        obtain ⟨lead, tail, written⟩ := exists_writtenAs c
        rw [written.encode_cons] at next
        obtain rfl := Option.some.inj next
        exact written.begins

/-- An offset that divides no character has whole characters on either side. -/
theorem isBoundary_encode_iff {text : List Char} {offset : Nat} :
    IsBoundary (encode text) offset ↔
      ∃ before after, text = before ++ after ∧ offset = (encode before).length := by
  constructor
  · intro boundary
    induction text generalizing offset with
    | nil =>
        have within := boundary.within
        rw [encode_nil] at within
        exact ⟨[], [], rfl, by rw [Nat.le_zero.mp within, encode_nil, List.length_nil]⟩
    | cons c rest ih =>
        obtain ⟨lead, tail, written⟩ := exists_writtenAs c
        obtain ⟨within, begins⟩ := boundary
        rw [written.encode_cons] at within begins
        cases offset with
        | zero => exact ⟨[], c :: rest, rfl, by rw [encode_nil, List.length_nil]⟩
        | succ offset =>
            rw [List.getElem?_cons_succ] at begins
            rw [List.length_cons, List.length_append] at within
            by_cases divided : offset < tail.length
            · -- Inside the character an octet follows that continues it.
              have next : (tail ++ encode rest)[offset]? = some tail[offset] := by
                rw [List.getElem?_append_left divided, List.getElem?_eq_getElem divided]
              have none := begins _ next
              have some := written.continues _ (List.getElem_mem divided)
              rw [none] at some
              contradiction
            · have further : IsBoundary (encode rest) (offset - tail.length) := by
                refine ⟨by omega, fun octet next => begins octet ?_⟩
                rwa [List.getElem?_append_right (Nat.not_lt.mp divided)]
              obtain ⟨before, after, rfl, offset_eq⟩ := ih further
              refine ⟨c :: before, after, rfl, ?_⟩
              rw [written.encode_cons, List.length_cons, List.length_append]
              omega
  · rintro ⟨before, after, rfl, rfl⟩
    exact isBoundary_encode_append before after

end Text
end Hazard
