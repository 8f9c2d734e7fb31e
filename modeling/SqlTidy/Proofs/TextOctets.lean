import SqlTidy.Process.Invoke

/-!
# Texts as octets and back

The octets of a text are read as the text again, by the strict reader and by the lenient one
(`utf8Decode_utf8Encode`, `utf8DecodeLenient_utf8Encode`). A text that has only one kind of line boundary is
not changed by bringing it to one kind (`unifyNewlines_of_not_mem`), so what a program has written stays the
same if it is written to a file and read again.
-/

namespace SqlTidy

/-! ## Characters -/

/-- The octet that follows a leading one with six bits. -/
def followOctet (bits : Nat) : UInt8 := .ofNat (bits + 128)

theorem toNat_followOctet {bits : Nat} (h : bits < 64) : (followOctet bits).toNat = bits + 128 := by
  rw [followOctet, UInt8.toNat_ofNat_of_lt' (by simp only [UInt8.size]; omega)]

theorem utf8Follow_followOctet {lo hi : UInt8} {bits next : Nat} (taken : Octets)
    (bounds : List (UInt8 × UInt8)) (rest : Octets) (hn : next < 64) (hlo : lo.toNat ≤ next + 128)
    (hhi : next + 128 ≤ hi.toNat) :
    utf8Follow taken bits ((lo, hi) :: bounds) (followOctet next :: rest) =
      utf8Follow (followOctet next :: taken) (64 * bits + next) bounds rest := by
  have hlo' : lo ≤ followOctet next := by rwa [UInt8.le_iff_toNat_le, toNat_followOctet hn]
  have hhi' : followOctet next ≤ hi := by rwa [UInt8.le_iff_toNat_le, toNat_followOctet hn]
  have hmod : (followOctet next).toNat % 64 = next := by
    rw [toNat_followOctet hn]
    omega
  simp [utf8Follow, hlo', hhi', hmod]

theorem utf8Lead?_one : ∀ n < 128, utf8Lead? (.ofNat n) = some (n, []) := by decide

theorem utf8Lead?_two : ∀ n < 30, utf8Lead? (.ofNat (n + 194)) = some (n + 2, [(0x80, 0xBF)]) := by decide

/-- Octets that would make up a shorter character or half of a pair are refused. -/
theorem utf8Lead?_three : ∀ n < 16, utf8Lead? (.ofNat (n + 224)) =
    some (n, [(if n = 0 then 0xA0 else 0x80, if n = 13 then 0x9F else 0xBF), (0x80, 0xBF)]) := by
  decide

theorem utf8Lead?_four : ∀ n < 5, utf8Lead? (.ofNat (n + 240)) =
    some (n, [(if n = 0 then 0x90 else 0x80, if n = 4 then 0x8F else 0xBF), (0x80, 0xBF), (0x80, 0xBF)]) := by
  decide

theorem utf8Piece_of_lead {b : UInt8} {bits : Nat} {bounds : List (UInt8 × UInt8)}
    (h : utf8Lead? b = some (bits, bounds)) (rest : Octets) :
    utf8Piece b rest = utf8Follow [b] bits bounds rest := by
  simp [utf8Piece, h]

/-- The octets of a character are read as that character, whatever follows. -/
theorem utf8Piece_encodeChar (c : Char) (rest : Octets) :
    ∃ b bs, String.utf8EncodeChar c = b :: bs ∧ utf8Piece b (bs ++ rest) = (.char c, rest) := by
  have hvalid : c.toNat < 0xD800 ∨ 0xDFFF < c.toNat ∧ c.toNat < 0x110000 := c.valid
  have hchar : Char.ofNat c.toNat = c := Char.ofNat_toNat c
  have hcode : c.val.toNat = c.toNat := rfl
  generalize c.toNat = v at hvalid hchar hcode
  rw [String.utf8EncodeChar, hcode, ← hchar]
  -- One case for each number of octets; the bits of the octets make up the code again.
  by_cases h1 : v ≤ 127
  · refine ⟨_, _, if_pos h1, ?_⟩
    rw [utf8Piece_of_lead (utf8Lead?_one v (by omega)), List.nil_append, utf8Follow]
  by_cases h2 : v ≤ 2047
  · refine ⟨.ofNat (v / 64 % 32 + 192), [followOctet (v % 64)], by rw [if_neg h1, if_pos h2]; rfl, ?_⟩
    have hlead := utf8Lead?_two (v / 64 - 2) (by omega)
    rw [show v / 64 - 2 + 194 = v / 64 % 32 + 192 by omega] at hlead
    rw [utf8Piece_of_lead hlead, List.singleton_append,
      utf8Follow_followOctet _ _ _ (by omega) (by simp) (by simp; omega), utf8Follow]
    congr 3
    omega
  by_cases h3 : v ≤ 65535
  · refine ⟨.ofNat (v / 4096 % 16 + 224), [followOctet (v / 64 % 64), followOctet (v % 64)],
      by rw [if_neg h1, if_neg h2, if_pos h3]; rfl, ?_⟩
    rw [utf8Piece_of_lead (utf8Lead?_three _ (by omega)), List.cons_append, List.singleton_append,
      utf8Follow_followOctet _ _ _ (by omega) (by split <;> simp; omega) (by split <;> simp <;> omega),
      utf8Follow_followOctet _ _ _ (by omega) (by simp) (by simp; omega), utf8Follow]
    congr 3
    omega
  · refine ⟨.ofNat (v / 262144 % 8 + 240),
      [followOctet (v / 4096 % 64), followOctet (v / 64 % 64), followOctet (v % 64)],
      by rw [if_neg h1, if_neg h2, if_neg h3]; rfl, ?_⟩
    rw [utf8Piece_of_lead (utf8Lead?_four _ (by omega)), List.cons_append, List.cons_append,
      List.singleton_append,
      utf8Follow_followOctet _ _ _ (by omega) (by split <;> simp; omega) (by split <;> simp <;> omega),
      utf8Follow_followOctet _ _ _ (by omega) (by simp) (by simp; omega),
      utf8Follow_followOctet _ _ _ (by omega) (by simp) (by simp; omega), utf8Follow]
    congr 3
    omega

/-! ## Texts -/

theorem utf8Pieces_flatMap : ∀ cs : List Char,
    utf8Pieces (cs.flatMap String.utf8EncodeChar) = cs.map .char
  | [] => by simp [utf8Pieces]
  | c :: cs => by
    obtain ⟨b, bs, hc, hp⟩ := utf8Piece_encodeChar c (cs.flatMap String.utf8EncodeChar)
    rw [List.flatMap_cons, hc, List.cons_append, utf8Pieces, hp, utf8Pieces_flatMap cs]
    rfl

theorem strictFrom_map_char : ∀ (cs : List Char) (position : Nat), strictFrom position (cs.map .char) = .ok cs
  | [], _ => rfl
  | c :: cs, position => by
    rw [List.map_cons, strictFrom, strictFrom_map_char cs]
    rfl

theorem utf8Decode_utf8Encode (s : String) : utf8Decode (utf8Encode s) = .ok s := by
  rw [utf8Decode, utf8Encode, utf8Pieces_flatMap, strictFrom_map_char]
  exact congrArg Except.ok String.ofList_toList

theorem utf8DecodeLenient_utf8Encode (s : String) : utf8DecodeLenient (utf8Encode s) = s := by
  have hreplaced : Utf8Piece.replaced ∘ Utf8Piece.char = id := rfl
  rw [utf8DecodeLenient, utf8Encode, utf8Pieces_flatMap, List.map_map, hreplaced, List.map_id,
    String.ofList_toList]

/-! ## Line boundaries -/

theorem not_mem_unifyNewlines (cs : List Char) : '\r' ∉ unifyNewlines cs := by
  fun_induction unifyNewlines cs with
  | case1 => exact List.not_mem_nil
  | case2 rest ih => simpa using ih
  | case3 rest _ ih => simpa using ih
  | case4 c rest _ hc ih => simpa [ih] using fun h => hc h.symm

theorem unifyNewlines_of_not_mem {cs : List Char} (h : '\r' ∉ cs) : unifyNewlines cs = cs := by
  fun_induction unifyNewlines cs with
  | case1 => rfl
  | case2 rest _ => simp at h
  | case3 rest _ _ => simp at h
  | case4 c rest _ _ ih => rw [ih fun hm => h (List.mem_cons_of_mem _ hm)]

/-- A text has one kind of line boundary. -/
def Unified (s : String) : Prop := '\r' ∉ s.toList

theorem unified_outputText (bs : Octets) : Unified (outputText bs) := by
  rw [Unified, outputText, String.toList_ofList]
  exact not_mem_unifyNewlines _

/-- A text that is echoed comes back as it is. -/
theorem outputText_utf8Encode {s : String} (h : Unified s) : outputText (utf8Encode s) = s := by
  rw [outputText, utf8DecodeLenient_utf8Encode, unifyNewlines_of_not_mem h, String.ofList_toList]

end SqlTidy
