import Mrtd.Text.Utf8

/-!
Text and its UTF-8 octets. Every character is read back from its octets, whatever follows them, so
text is read back as it was written, by the strict reader and by the lenient one.
-/

namespace Mrtd.Text

namespace Utf8

theorem continuation_succ {owed low high value b : Nat} (rest : Bytes) (hb : b < 0x40)
    (hlow : low ≤ 0x80 + b) (hhigh : 0x80 + b ≤ high) :
    continuation (owed + 1) low high value (UInt8.ofNat (b + 0x80) :: rest) =
      continuation owed 0x80 0xBF (value * 64 + b) rest := by
  have hoctet : (UInt8.ofNat (b + 0x80)).toNat = 0x80 + b := by
    rw [UInt8.toNat_ofNat']
    omega
  have hvalue : 0x80 + b - 0x80 = b := by omega
  rw [continuation, hoctet, if_pos ⟨hlow, hhigh⟩, hvalue]

theorem toNat_lead {n base : Nat} (h : n + base < 256) :
    (UInt8.ofNat (n + base)).toNat = n + base := by
  rw [UInt8.toNat_ofNat']
  omega

/-- A character is read back from its octets. -/
theorem first_utf8EncodeChar (c : Char) (rest : Bytes) :
    ∃ lead tail, String.utf8EncodeChar c = lead :: tail ∧
      first lead (tail ++ rest) = (some c, rest) := by
  have hvalid : c.val.toNat < 0xD800 ∨ 0xDFFF < c.val.toNat ∧ c.val.toNat < 0x110000 := c.valid
  have hchar : Char.ofNat c.val.toNat = c := Char.ofNat_toNat c
  rw [String.utf8EncodeChar]
  generalize c.val.toNat = v at hvalid hchar
  by_cases h1 : v ≤ 0x7f
  · refine ⟨UInt8.ofNat v, [], by rw [if_pos h1], ?_⟩
    have hlead : (UInt8.ofNat v).toNat = v := @toNat_lead v 0 (by omega)
    rw [first, hlead, if_pos (by omega), hchar, List.nil_append]
  by_cases h2 : v ≤ 0x7ff
  · refine ⟨_, _, by rw [if_neg h1, if_pos h2], ?_⟩
    rw [first, toNat_lead (by omega), if_neg (by omega), if_neg (by omega), if_pos (by omega),
      List.cons_append, continuation_succ _ (by omega) (by omega) (by omega), continuation]
    have hvalue : (v / 64 % 0x20 + 0xc0 - 0xC0) * 64 + v % 0x40 = v := by omega
    rw [hvalue, hchar, List.nil_append]
  by_cases h3 : v ≤ 0xffff
  · refine ⟨_, _, by rw [if_neg h1, if_neg h2, if_pos h3], ?_⟩
    rw [first, toNat_lead (by omega), if_neg (by omega), if_neg (by omega), if_neg (by omega),
      if_pos (by omega), List.cons_append, continuation_succ _ (by omega) (by split <;> omega)
        (by split <;> omega),
      List.cons_append, continuation_succ _ (by omega) (by omega) (by omega), continuation]
    have hvalue : ((v / 4096 % 0x10 + 0xe0 - 0xE0) * 64 + v / 64 % 0x40) * 64 + v % 0x40 = v := by
      omega
    rw [hvalue, hchar, List.nil_append]
  · refine ⟨_, _, by rw [if_neg h1, if_neg h2, if_neg h3], ?_⟩
    rw [first, toNat_lead (by omega), if_neg (by omega), if_neg (by omega), if_neg (by omega),
      if_neg (by omega), if_pos (by omega), List.cons_append,
      continuation_succ _ (by omega) (by split <;> omega)
        (by split <;> omega),
      List.cons_append, continuation_succ _ (by omega) (by omega) (by omega),
      List.cons_append, continuation_succ _ (by omega) (by omega) (by omega), continuation]
    have hvalue : (((v / 262144 % 0x08 + 0xf0 - 0xF0) * 64 + v / 4096 % 0x40) * 64 +
        v / 64 % 0x40) * 64 + v % 0x40 = v := by omega
    rw [hvalue, hchar, List.nil_append]

theorem pieces_flatMap {bound : Nat} {cs : List Char}
    (hbound : (cs.flatMap String.utf8EncodeChar).length ≤ bound) :
    pieces bound (cs.flatMap String.utf8EncodeChar) = cs.map some := by
  induction cs generalizing bound with
  | nil => cases bound <;> rfl
  | cons c rest ih =>
      obtain ⟨lead, tail, hoctets, hfirst⟩ :=
        first_utf8EncodeChar c (rest.flatMap String.utf8EncodeChar)
      rw [List.flatMap_cons, hoctets, List.cons_append] at hbound ⊢
      cases bound with
      | zero => cases hbound
      | succ bound =>
          have hrest : (rest.flatMap String.utf8EncodeChar).length ≤ bound := by
            simp only [List.length_cons, List.length_append] at hbound
            omega
          rw [pieces, hfirst, List.map_cons, ← ih hrest]

end Utf8

theorem toList_loop_eq (b : ByteArray) (i : Nat) (r : Bytes) :
    ByteArray.toList.loop b i r = r.reverse ++ b.data.toList.drop i := by
  fun_induction ByteArray.toList.loop b i r with
  | case1 i r hlt ih =>
      have hoctet : b.get! i = b.data.toList[i] :=
        getElem!_pos b.data i hlt
      rw [ih, List.drop_eq_getElem_cons (i := i) hlt, hoctet]
      simp
  | case2 i r hend =>
      have hlength : b.data.toList.length ≤ i := Nat.le_of_not_lt hend
      rw [List.drop_eq_nil_of_le hlength, List.append_nil]

theorem ofString_eq_flatMap (s : String) :
    Bytes.ofString s = s.toList.flatMap String.utf8EncodeChar := by
  rw [Bytes.ofString, String.toUTF8, ByteArray.toList, toList_loop_eq, List.reverse_nil,
    List.nil_append, List.drop_zero, ← String.utf8Encode_toList, List.utf8Encode,
    List.toList_data_toByteArray]

theorem pieces_ofString (s : String) :
    Utf8.pieces (Bytes.ofString s).length (Bytes.ofString s) = s.toList.map some := by
  rw [ofString_eq_flatMap]
  exact Utf8.pieces_flatMap (Nat.le_refl _)

/-- Text is read back from its octets. -/
theorem ofUtf8?_ofString (s : String) : ofUtf8? (Bytes.ofString s) = some s := by
  have hread : (s.toList.map some).mapM id = some s.toList := by
    induction s.toList with
    | nil => rfl
    | cons c rest ih =>
        rw [List.map_cons, List.mapM_cons, ih]
        rfl
  rw [ofUtf8?, Utf8.decode?, pieces_ofString, hread, Option.map_some, String.ofList_toList]

theorem ofUtf8Lossy_ofString (s : String) : ofUtf8Lossy (Bytes.ofString s) = s := by
  have hread : (fun c : Option Char => c.getD (Char.ofNat 0xFFFD)) ∘ some = id := rfl
  rw [ofUtf8Lossy, Utf8.decodeLossy, pieces_ofString, List.map_map, hread, List.map_id,
    String.ofList_toList]

end Mrtd.Text
