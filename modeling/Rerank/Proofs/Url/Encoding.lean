import Mathlib
import Rerank.Url.Host
import Rerank.Url.Path

/-!
# What percent encoding leaves alone

Encoding keeps the characters of ASCII that are not in its set, and what it writes is made of such
characters, so encoded text is not changed by encoding it once more.  It never writes a dot, so text
that is encoded to dots is made of them.  Decoding leaves text alone that is ASCII and has no
percent sign.
-/

namespace Rerank.Url

/-- Characters that encoding keeps. -/
def Kept (set : Char → Bool) (c : Char) : Prop :=
  c.toNat < 0x80 ∧ set c = false

instance (set : Char → Bool) (c : Char) : Decidable (Kept set c) :=
  inferInstanceAs (Decidable (c.toNat < 0x80 ∧ set c = false))

/-- The characters that encoded bytes are written with. -/
def escapeChars : List Char :=
  ['%', '0', '1', '2', '3', '4', '5', '6', '7', '8', '9', 'A', 'B', 'C', 'D', 'E', 'F']

/-- What holds of each ASCII character in turn holds of all of them. -/
theorem of_forall_ascii (p : Char → Bool)
    (hall : ((List.range 0x80).all fun n => p (Char.ofNat n)) = true) {c : Char}
    (hc : c.toNat < 0x80) : p c = true := by
  have hp := List.all_eq_true.1 hall c.toNat (List.mem_range.2 hc)
  rwa [Char.ofNat_toNat] at hp

section Encoding

variable {set : Char → Bool}

theorem encodeChar_of_kept {c : Char} (hc : Kept set c) : encodeChar set c = [c] := by
  have hlow : ¬ 0x80 ≤ c.toNat := Nat.not_le.2 hc.1
  simp [encodeChar, hlow, hc.2]

theorem percentEncode_of_kept {cs : List Char} (hcs : ∀ c ∈ cs, Kept set c) :
    percentEncode set cs = cs := by
  induction cs with
  | nil => rfl
  | cons c rest ih =>
    rw [percentEncode, List.flatMap_cons, encodeChar_of_kept (hcs c List.mem_cons_self)]
    exact congrArg (c :: ·) (ih fun d hd => hcs d (List.mem_cons_of_mem c hd))

theorem upperHex_mem_escapeChars {n : Nat} (hn : n < 16) : upperHex n ∈ escapeChars := by
  have hall : ∀ m : Fin 16, upperHex m ∈ escapeChars := by decide
  exact hall ⟨n, hn⟩

theorem mem_encodeByte {b : UInt8} {c : Char} (hc : c ∈ encodeByte b) : c ∈ escapeChars := by
  have hb := b.toNat_lt
  simp only [encodeByte, List.mem_cons, List.not_mem_nil, or_false] at hc
  obtain rfl | rfl | rfl := hc
  · decide
  · exact upperHex_mem_escapeChars (by omega)
  · exact upperHex_mem_escapeChars (by omega)

/-- Encoded text is made of the characters of escapes and of those that are kept. -/
theorem mem_percentEncode {cs : List Char} {c : Char} (hc : c ∈ percentEncode set cs) :
    c ∈ escapeChars ∨ c ∈ cs ∧ Kept set c := by
  obtain ⟨d, hmem, hd⟩ := List.mem_flatMap.1 hc
  rw [encodeChar] at hd
  split at hd
  · obtain ⟨b, -, hb⟩ := List.mem_flatMap.1 hd
    exact .inl (mem_encodeByte hb)
  · next hkept =>
    obtain rfl := List.mem_singleton.1 hd
    rw [Bool.or_eq_true, decide_eq_true_eq, not_or, Nat.not_le, Bool.not_eq_true] at hkept
    exact .inr ⟨hmem, hkept⟩

/-- All characters of encoded text are kept, as long as those of escapes are. -/
theorem kept_of_mem_percentEncode (hset : ∀ c ∈ escapeChars, Kept set c) {cs : List Char} {c : Char}
    (hc : c ∈ percentEncode set cs) : Kept set c := by
  obtain hescape | ⟨-, hkept⟩ := mem_percentEncode hc
  · exact hset c hescape
  · exact hkept

theorem percentEncode_cons_ne_nil (c : Char) (rest : List Char) :
    percentEncode set (c :: rest) ≠ [] := by
  have hbytes : String.utf8EncodeChar c ≠ [] := by
    rw [String.utf8EncodeChar]
    split
    · exact List.cons_ne_nil _ _
    · split
      · exact List.cons_ne_nil _ _
      · split <;> exact List.cons_ne_nil _ _
  obtain ⟨b, more, hcons⟩ := List.exists_cons_of_ne_nil hbytes
  rw [percentEncode, List.flatMap_cons, encodeChar, hcons]
  split
  · simp [encodeByte]
  · simp

theorem kept_inPathSet_of_mem_escapeChars : ∀ c ∈ escapeChars, Kept inPathSet c := by
  have hall : (escapeChars.all fun c => decide (Kept inPathSet c)) = true := by decide
  simpa using hall

theorem kept_inUserinfoSet_of_mem_escapeChars : ∀ c ∈ escapeChars, Kept inUserinfoSet c := by
  have hall : (escapeChars.all fun c => decide (Kept inUserinfoSet c)) = true := by decide
  simpa using hall

end Encoding

section Decoding

theorem utf8EncodeChar_of_lt {c : Char} (hc : c.toNat < 0x80) :
    String.utf8EncodeChar c = [UInt8.ofNat c.toNat] := by
  have hlow : c.val.toNat ≤ 127 := Nat.le_of_lt_succ hc
  rw [String.utf8EncodeChar]
  exact if_pos hlow

/-- Text is decoded to the bytes of its characters if it is ASCII and has no percent sign. -/
theorem percentDecode_of_lt {cs : List Char} (hcs : ∀ c ∈ cs, c.toNat < 0x80 ∧ c ≠ '%') :
    percentDecode cs = asciiBytes cs := by
  induction cs with
  | nil => rfl
  | cons c rest ih =>
    obtain ⟨hlow, hpercent⟩ := hcs c List.mem_cons_self
    rw [percentDecode, utf8EncodeChar_of_lt hlow, ih fun d hd => hcs d (List.mem_cons_of_mem c hd)]
    · rfl
    · exact fun _ _ _ h => absurd h hpercent

end Decoding

section Dots

/-- Whether every percent sign in a text in lower case begins the escape of a dot. -/
def escapesDots : List Char → Bool
  | [] => true
  | c :: rest => (c != '%' || ['2', 'e'].isPrefixOf rest) && escapesDots rest

/-- No byte of a character that is encoded is that of a dot. -/
theorem exists_utf8EncodeChar_eq_cons {set : Char → Bool} (hdot : set '.' = false) {c : Char}
    (hc : ¬ Kept set c) : ∃ b more, String.utf8EncodeChar c = b :: more ∧ b.toNat ≠ 0x2E := by
  by_cases hlow : c.toNat < 0x80
  · refine ⟨_, [], utf8EncodeChar_of_lt hlow, ?_⟩
    rw [UInt8.toNat_ofNat', Nat.mod_eq_of_lt (by omega)]
    intro hbyte
    obtain rfl : c = '.' := Char.toNat_inj.1 hbyte
    exact hc ⟨hlow, hdot⟩
  · have hhigh : ¬ c.val.toNat ≤ 127 := fun h => hlow (Nat.lt_succ_of_le h)
    rw [String.utf8EncodeChar, if_neg hhigh]
    split
    · exact ⟨_, _, rfl, by rw [UInt8.toNat_ofNat']; omega⟩
    · split
      · exact ⟨_, _, rfl, by rw [UInt8.toNat_ofNat']; omega⟩
      · exact ⟨_, _, rfl, by rw [UInt8.toNat_ofNat']; omega⟩

theorem eq_of_toLower_upperHex {n : Nat} (hn : n < 16) :
    ((upperHex n).toLower = '2' → n = 2) ∧ ((upperHex n).toLower = 'e' → n = 14) := by
  have hall : ∀ m : Fin 16, ((upperHex m).toLower = '2' → m.val = 2) ∧
      ((upperHex m).toLower = 'e' → m.val = 14) := by
    decide
  exact hall ⟨n, hn⟩

/-- A text that is encoded to escapes of dots was written with them. -/
theorem percentEncode_of_escapesDots {set : Char → Bool} (hdot : set '.' = false) {cs : List Char}
    (hescapes : escapesDots ((percentEncode set cs).map Char.toLower) = true) :
    percentEncode set cs = cs := by
  induction cs with
  | nil => rfl
  | cons c rest ih =>
    rw [percentEncode, List.flatMap_cons] at hescapes ⊢
    by_cases hc : Kept set c
    · rw [encodeChar_of_kept hc] at hescapes ⊢
      simp only [List.cons_append, List.nil_append, List.map_cons, escapesDots,
        Bool.and_eq_true] at hescapes
      exact congrArg (c :: ·) (ih hescapes.2)
    · obtain ⟨b, more, hbytes, hb⟩ := exists_utf8EncodeChar_eq_cons hdot hc
      have hencoded : encodeChar set c = encodeByte b ++ more.flatMap encodeByte := by
        rw [encodeChar, if_pos, hbytes, List.flatMap_cons]
        simp only [Kept, not_and_or, Nat.not_lt, Bool.not_eq_false] at hc
        simpa using hc
      have hbound := b.toNat_lt
      simp only [hencoded, encodeByte, List.cons_append, List.map_cons, escapesDots,
        Bool.and_eq_true, Bool.or_eq_true, bne_iff_ne, ne_eq] at hescapes
      obtain ⟨hfirst, -⟩ := hescapes
      simp only [List.isPrefixOf, Bool.and_eq_true, beq_iff_eq] at hfirst
      obtain hpercent | ⟨htwo, he, -⟩ := hfirst
      · exact absurd (by decide) hpercent
      · have hhigh := (eq_of_toLower_upperHex (by omega)).1 htwo.symm
        have hlow := (eq_of_toLower_upperHex (by omega)).2 he.symm
        omega

end Dots

end Rerank.Url
