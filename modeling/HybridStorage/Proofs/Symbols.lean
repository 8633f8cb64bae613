import HybridStorage.Text.Utf8

/-!
# Symbols of a file

Text is read as its own characters, and a line of a file can be read on its own: an ASCII byte
belongs to no longer character, so that the symbols before it and those from it on do not depend on
each other.
-/

namespace HybridStorage.Text

namespace Symbol

/-! ### Bytes of a character -/

/-- Every byte of a character that has several is no ASCII byte. -/
theorem bytes_of_char (c : Char) : String.utf8EncodeChar c = [UInt8.ofNat c.toNat] ∧ c.toNat < 128 ∨
    ∀ b ∈ String.utf8EncodeChar c, 128 ≤ b.toNat := by
  change String.utf8EncodeChar c = [UInt8.ofNat c.val.toNat] ∧ c.val.toNat < 128 ∨ _
  rw [String.utf8EncodeChar.eq_def]
  dsimp only
  generalize c.val.toNat = v
  split
  · exact .inl ⟨rfl, by omega⟩
  · right
    intro b member
    split at member
    · simp only [List.mem_cons, List.not_mem_nil, or_false] at member
      rcases member with rfl | rfl <;> simp [UInt8.toNat_ofNat] <;> omega
    · split at member
      · simp only [List.mem_cons, List.not_mem_nil, or_false] at member
        rcases member with rfl | rfl | rfl <;> simp [UInt8.toNat_ofNat] <;> omega
      · simp only [List.mem_cons, List.not_mem_nil, or_false] at member
        rcases member with rfl | rfl | rfl | rfl <;> simp [UInt8.toNat_ofNat] <;> omega

/-- An ASCII byte within text is a character of its own. -/
theorem toNat_of_mem_bytes {c : Char} {b : UInt8} (member : b ∈ String.utf8EncodeChar c)
    (ascii : b.toNat < 128) : c.toNat = b.toNat := by
  rcases bytes_of_char c with ⟨single, low⟩ | long
  · rw [single, List.mem_singleton] at member
    rw [member, UInt8.toNat_ofNat']
    omega
  · exact absurd (long b member) (Nat.not_le.mpr ascii)

/-- The character that bytes start with, if they start with one. -/
def char?At (bytes : List UInt8) : Option Char := bytes.toByteArray.utf8DecodeChar? 0

theorem char?At_eq_some_iff {bytes : List UInt8} {c : Char} :
    char?At bytes = some c ↔ ∃ rest, bytes = String.utf8EncodeChar c ++ rest := by
  constructor
  · intro found
    have split := ByteArray.eq_of_utf8DecodeChar?_eq_some found
    have list := congrArg (fun b : ByteArray => b.data.toList) split
    simp only [ByteArray.toList_data_append, List.data_toByteArray] at list
    exact ⟨_, list⟩
  · rintro ⟨rest, rfl⟩
    rw [char?At, List.toByteArray_append]
    exact ByteArray.utf8DecodeChar?_utf8EncodeChar_append

/-! ### One symbol -/

theorem decode_append (a b : ByteArray) (i : Nat) :
    (a ++ b).utf8DecodeChar? (a.size + i) = b.utf8DecodeChar? i := by
  rw [ByteArray.utf8DecodeChar?_eq_utf8DecodeChar?_extract, ByteArray.size_append,
    ByteArray.extract_append_size_add, ← ByteArray.utf8DecodeChar?_eq_utf8DecodeChar?_extract]

/-- What is read from a position on does not depend on what stands before it. -/
theorem readFrom_append (a b : ByteArray) (i : Nat) :
    readFrom (a ++ b) (a.size + i) = readFrom b i := by
  fun_induction readFrom b i with
  | case1 i inside c found ih =>
    have inside' : a.size + i < (a ++ b).size := by
      rw [ByteArray.size_append]
      omega
    rw [readFrom, dif_pos inside', decode_append, found]
    change _ :: readFrom (a ++ b) (a.size + i + c.utf8Size) = _
    rw [Nat.add_assoc, ih]
  | case2 i inside missing ih =>
    have inside' : a.size + i < (a ++ b).size := by
      rw [ByteArray.size_append]
      omega
    have byte : (a ++ b)[a.size + i] = b[i] := by
      rw [ByteArray.getElem_append_right (by omega)]
      simp
    rw [readFrom, dif_pos inside', decode_append, missing]
    change _ :: readFrom (a ++ b) (a.size + i + 1) = _
    rw [Nat.add_assoc, ih, byte]
  | case3 i outside =>
    have outside' : ¬a.size + i < (a ++ b).size := by
      rw [ByteArray.size_append]
      omega
    rw [readFrom, dif_neg outside']

def ofList (bytes : List UInt8) : List Symbol := ofBytes bytes.toByteArray

theorem ofList_nil : ofList [] = [] := by
  rw [ofList, ofBytes, readFrom, dif_neg (by decide)]

theorem ofList_char (c : Char) (rest : List UInt8) :
    ofList (String.utf8EncodeChar c ++ rest) = .char c :: ofList rest := by
  have found : char?At (String.utf8EncodeChar c ++ rest) = some c :=
    char?At_eq_some_iff.mpr ⟨rest, rfl⟩
  have size : (String.utf8EncodeChar c).toByteArray.size = c.utf8Size := by
    rw [List.size_toByteArray, String.length_utf8EncodeChar]
  have positive := c.utf8Size_pos
  rw [char?At, List.toByteArray_append] at found
  rw [ofList, ofBytes, List.toByteArray_append, readFrom, dif_pos, found]
  · change _ :: readFrom _ (0 + c.utf8Size) = _
    rw [Nat.zero_add, ← size, ← Nat.add_zero (ByteArray.size _), readFrom_append]
    rfl
  · rw [ByteArray.size_append]
    omega

theorem ofList_stray {b : UInt8} {rest : List UInt8} (missing : char?At (b :: rest) = none) :
    ofList (b :: rest) = .stray b :: ofList rest := by
  have split : ([b] ++ rest).toByteArray = [b].toByteArray ++ rest.toByteArray :=
    List.toByteArray_append
  rw [List.singleton_append] at split
  have one : [b].toByteArray.size = 1 := List.size_toByteArray
  have inside : 0 < ([b].toByteArray ++ rest.toByteArray).size := by
    rw [ByteArray.size_append]
    omega
  rw [char?At, split] at missing
  rw [ofList, ofBytes, split, readFrom, dif_pos inside, missing]
  change _ :: readFrom _ (0 + 1) = _
  rw [Nat.zero_add, ← one, ← Nat.add_zero (ByteArray.size [b].toByteArray), readFrom_append]
  rfl

/-! ### Sequences of symbols -/

/-- Bytes are taken apart the way they are read. -/
@[elab_as_elim]
theorem bytes_induction {P : List UInt8 → Prop} (bytes : List UInt8) (nil : P [])
    (char : ∀ c rest, P rest → P (String.utf8EncodeChar c ++ rest))
    (stray : ∀ b rest, char?At (b :: rest) = none → P rest → P (b :: rest)) : P bytes := by
  match bytes with
  | [] => exact nil
  | b :: rest =>
    cases found : char?At (b :: rest) with
    | none => exact stray b rest found (bytes_induction rest nil char stray)
    | some c =>
      obtain ⟨left, split⟩ := char?At_eq_some_iff.mp found
      have shorter : left.length < (b :: rest).length := by
        have positive := c.utf8Size_pos
        rw [split, List.length_append, String.length_utf8EncodeChar]
        omega
      rw [split]
      exact char c left (bytes_induction left nil char stray)
termination_by bytes.length
decreasing_by
  · exact Nat.lt_succ_self _
  · exact shorter

theorem ofList_text (cs : List Char) (rest : List UInt8) :
    ofList (cs.flatMap String.utf8EncodeChar ++ rest) = cs.map .char ++ ofList rest := by
  induction cs with
  | nil => rfl
  | cons c others ih =>
    rw [List.flatMap_cons, List.append_assoc, ofList_char, ih]
    rfl

theorem ofList_chars (cs : List Char) :
    ofList (cs.flatMap String.utf8EncodeChar) = cs.map .char := by
  have text := ofList_text cs []
  rw [List.append_nil, ofList_nil, List.append_nil] at text
  exact text

/-- No character begins before an ASCII byte and goes on behind it. -/
theorem char?At_append_ascii {front : List UInt8} {x : UInt8} (ascii : x.toNat < 128)
    (some : front ≠ []) (missing : char?At front = none) (rest : List UInt8) :
    char?At (front ++ x :: rest) = none := by
  rw [Option.eq_none_iff_forall_ne_some]
  intro c found
  obtain ⟨left, split⟩ := char?At_eq_some_iff.mp found
  rcases List.append_eq_append_iff.mp split with ⟨more, whole, behind⟩ | ⟨more, within, -⟩
  · -- The character takes in `x`, unless it is all of `front`.
    cases more with
    | nil =>
      rw [List.append_nil] at whole
      rw [char?At_eq_some_iff.mpr ⟨[], by rw [whole, List.append_nil]⟩] at missing
      cases missing
    | cons y others =>
      obtain ⟨rfl, -⟩ := List.cons.inj behind
      rcases bytes_of_char c with ⟨single, -⟩ | long
      · have length := congrArg List.length (whole.symm.trans single)
        have positive := List.length_pos_iff.mpr some
        simp only [List.length_append, List.length_cons, List.length_nil] at length
        omega
      · have member : x ∈ String.utf8EncodeChar c := by
          rw [whole]
          exact List.mem_append_right _ List.mem_cons_self
        exact absurd (long x member) (Nat.not_le.mpr ascii)
  · rw [char?At_eq_some_iff.mpr ⟨more, within⟩] at missing
    cases missing

theorem ofList_append_ascii (front : List UInt8) {x : UInt8} (ascii : x.toNat < 128)
    (rest : List UInt8) : ofList (front ++ x :: rest) = ofList front ++ ofList (x :: rest) := by
  induction front using bytes_induction with
  | nil => rw [ofList_nil, List.nil_append, List.nil_append]
  | char c others ih =>
    rw [List.append_assoc, ofList_char, ofList_char, ih, List.cons_append]
  | stray b others missing ih =>
    have missing' := char?At_append_ascii ascii (List.cons_ne_nil b others) missing rest
    rw [List.cons_append] at missing' ⊢
    rw [ofList_stray missing', ofList_stray missing, ih, List.cons_append]

theorem flatMap_bytes_ofList (bytes : List UInt8) : (ofList bytes).flatMap Symbol.bytes = bytes := by
  induction bytes using bytes_induction with
  | nil => rw [ofList_nil, List.flatMap_nil]
  | char c others ih =>
    rw [ofList_char, List.flatMap_cons, ih]
    rfl
  | stray b others missing ih =>
    rw [ofList_stray missing, List.flatMap_cons, ih]
    rfl

theorem ofList_injective : Function.Injective ofList := by
  intro a b same
  rw [← flatMap_bytes_ofList a, same, flatMap_bytes_ofList]

theorem bytes_of_mem_ofList {bytes : List UInt8} {c : Char} (member : .char c ∈ ofList bytes) :
    ∀ b ∈ String.utf8EncodeChar c, b ∈ bytes := by
  intro b encoded
  rw [← flatMap_bytes_ofList bytes]
  exact List.mem_flatMap.mpr ⟨_, member, encoded⟩

end Symbol

/-! ### Symbols that are text -/

theorem ofSymbols?_map_char (cs : List Char) : ofSymbols? (cs.map .char) = some cs := by
  have all : (cs.map Symbol.char).mapM Symbol.char? = some cs := by
    rw [List.mapM_map]
    exact List.mapM_pure.trans (congrArg some (List.map_id cs))
  rw [ofSymbols?, all]

theorem mapM_ofSymbols? (texts : List (List Char)) :
    (texts.map (List.map .char)).mapM ofSymbols? = some texts := by
  rw [List.mapM_map, (funext ofSymbols?_map_char : ofSymbols? ∘ List.map .char = some)]
  exact List.mapM_pure.trans (congrArg some (List.map_id texts))

end HybridStorage.Text
