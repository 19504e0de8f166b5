import Mathlib
import Rerank.Text.Utf8

/-!
# Texts in the order of their bytes

UTF-8 keeps the order of characters: the first byte tells how long a character is, longer ones have
greater first bytes, and characters of one length have their bits in the order of their bytes.  So
texts that are compared character by character come in the order of the bytes that encode them.
-/

namespace Rerank.Text.Utf8

/-- A byte decides between two sequences unless they begin with the same one. -/
theorem ofNat_cons_lt_iff {m n : Nat} (hm : m < 256) (hn : n < 256) {left right : List UInt8} :
    UInt8.ofNat m :: left < UInt8.ofNat n :: right ↔ m < n ∨ m = n ∧ left < right := by
  rw [List.cons_lt_cons_iff, UInt8.lt_iff_toNat_lt, ← UInt8.toNat_inj, UInt8.toNat_ofNat',
    UInt8.toNat_ofNat', Nat.mod_eq_of_lt hm, Nat.mod_eq_of_lt hn]

/-- What begins alike is compared by what follows. -/
theorem append_lt_append_iff (front : List UInt8) {left right : List UInt8} :
    front ++ left < front ++ right ↔ left < right := by
  induction front with
  | nil => rfl
  | cons byte front ih => rw [List.cons_append, List.cons_append, List.cons_lt_cons_self, ih]

/-- The bytes of a lesser character come first, whatever follows them. -/
theorem encodeChar_append_lt {c d : Char} (hlt : c < d) (left right : List UInt8) :
    String.utf8EncodeChar c ++ left < String.utf8EncodeChar d ++ right := by
  have hvalue : c.val.toNat < d.val.toNat := hlt
  have hbound : d.val.toNat < 0x110000 := by
    obtain hlow | ⟨-, hhigh⟩ := d.valid
    · exact hlow.trans (by decide)
    · exact hhigh
  generalize hm : c.val.toNat = m at hvalue
  generalize hn : d.val.toNat = n at hvalue hbound
  have hfirst : m / 262144 % 8 = m / 262144 := Nat.mod_eq_of_lt (by omega)
  have hfirst' : n / 262144 % 8 = n / 262144 := Nat.mod_eq_of_lt (by omega)
  simp only [String.utf8EncodeChar, hm, hn]
  -- The four lengths of each of both characters; the longer one is never the lesser one.
  split_ifs
  all_goals
    simp (disch := omega) only [List.cons_append, List.nil_append, ofNat_cons_lt_iff]
    omega

/-- Lists of characters are ordered as their bytes are. -/
theorem flatMap_encodeChar_lt_iff {cs ds : List Char} :
    cs.flatMap String.utf8EncodeChar < ds.flatMap String.utf8EncodeChar ↔ cs < ds := by
  induction cs generalizing ds with
  | nil =>
    cases ds with
    | nil => simp
    | cons d ds =>
      obtain ⟨byte, more, hbytes⟩ :=
        List.exists_cons_of_ne_nil (String.utf8EncodeChar_ne_nil (c := d))
      simp [hbytes]
  | cons c cs ih =>
    cases ds with
    | nil => simp
    | cons d ds =>
      rw [List.flatMap_cons, List.flatMap_cons, List.cons_lt_cons_iff]
      obtain hlt | rfl | hgt := lt_trichotomy c d
      · simp [encodeChar_append_lt hlt, hlt]
      · simp [append_lt_append_iff, ih]
      · have hafter := List.lt_asymm
          (encodeChar_append_lt hgt (ds.flatMap String.utf8EncodeChar)
            (cs.flatMap String.utf8EncodeChar))
        simp [hafter, hgt.not_gt, hgt.ne']

/-- The order of texts is that of their bytes. -/
theorem encode_lt_encode_iff {s t : String} : encode s < encode t ↔ s < t :=
  flatMap_encodeChar_lt_iff

end Rerank.Text.Utf8
