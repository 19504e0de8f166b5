import Rerank.Proofs.Url.Path
import Rerank.Url.Ipv6

/-!
# Addresses

The addresses that are read fit in their bits, and each of them is read back from its text.
-/

namespace Rerank.Url

theorem hexValue?_digitChar {d : Nat} (hd : d < 16) : hexValue? (Nat.digitChar d) = some d := by
  have hall : ∀ m : Fin 16, hexValue? (Nat.digitChar m) = some m.val := by decide
  exact hall ⟨d, hd⟩

theorem lt_of_hexValue? {c : Char} {d : Nat} (hd : hexValue? c = some d) : d < 16 := by
  rw [hexValue?] at hd
  split at hd
  · rw [Json.hexDigit?] at hd
    simp only [UInt8.le_iff_toNat_le, UInt8.reduceToNat] at hd
    split at hd
    · cases hd
      omega
    · split at hd
      · cases hd
        omega
      · split at hd
        · cases hd
          omega
        · contradiction
  · contradiction

theorem exists_digitChar_of_mem_toDigits {base n : Nat} (hbase : 1 < base) {c : Char}
    (hc : c ∈ Nat.toDigits base n) : ∃ d < base, Nat.digitChar d = c := by
  induction n using Nat.strongRecOn with
  | _ n ih =>
    rw [Nat.toDigits_eq_if hbase] at hc
    split at hc
    · next hn => exact ⟨n, hn, (List.mem_singleton.1 hc).symm⟩
    · next hn =>
      obtain hfront | hlast := List.mem_append.1 hc
      · exact ih (n / base) (Nat.div_lt_self (by omega) hbase) hfront
      · exact ⟨n % base, Nat.mod_lt n (by omega), (List.mem_singleton.1 hlast).symm⟩

/-- Every hexadecimal digit has a value. -/
theorem hexValue?_of_mem_toDigits {n : Nat} {c : Char} (hc : c ∈ Nat.toDigits 16 n) :
    ∃ d, hexValue? c = some d := by
  obtain ⟨d, hd, rfl⟩ := exists_digitChar_of_mem_toDigits (by omega) hc
  exact ⟨d, hexValue?_digitChar hd⟩

/-- The digits of a number denote it. -/
theorem foldl_toDigits (n : Nat) :
    (Nat.toDigits 16 n).foldl (fun n d => n * 16 + (hexValue? d).getD 0) 0 = n := by
  induction n using Nat.strongRecOn with
  | _ n ih =>
    rw [Nat.toDigits_eq_if (by omega)]
    split
    · next hn => simp [hexValue?_digitChar hn]
    · next hn =>
      rw [List.foldl_append, ih (n / 16) (by omega), List.foldl_cons, List.foldl_nil,
        hexValue?_digitChar (Nat.mod_lt n (by omega))]
      exact Nat.div_add_mod' n 16

/-- What digits denote is bounded by their number. -/
theorem foldl_lt {α : Type} {base : Nat} {value : α → Nat} {digits : List α}
    (hdigits : ∀ d ∈ digits, value d < base) (n : Nat) :
    digits.foldl (fun n d => n * base + value d) n < (n + 1) * base ^ digits.length := by
  induction digits generalizing n with
  | nil => simp
  | cons d rest ih =>
    have hd := hdigits d List.mem_cons_self
    rw [List.foldl_cons, List.length_cons]
    calc
      _ < (n * base + value d + 1) * base ^ rest.length :=
        ih (fun e he => hdigits e (List.mem_cons_of_mem d he)) _
      _ ≤ ((n + 1) * base) * base ^ rest.length := by
        apply Nat.mul_le_mul_right
        rw [Nat.succ_mul]
        omega
      _ = (n + 1) * base ^ (rest.length + 1) := by
        rw [Nat.pow_succ, Nat.mul_assoc, Nat.mul_comm base]

namespace Ipv4

theorem lt_of_ofNumbers? {numbers : List Nat} {address : Nat}
    (haddress : ofNumbers? numbers = some address) : address < 2 ^ 32 := by
  rw [ofNumbers?] at haddress
  split at haddress
  · contradiction
  · next last others _ =>
    dsimp only at haddress
    split at haddress
    · next hfits =>
      obtain ⟨hcount, hbytes, hlast⟩ := hfits
      simp only [List.all_eq_true, decide_eq_true_eq] at hbytes
      simp only [Nat.pow_eq, Option.some.injEq] at hlast haddress
      have hvalue : others.reverse.foldl (fun n b => n * 256 + b) 0 <
          (0 + 1) * 256 ^ others.reverse.length :=
        foldl_lt (fun b hb => Nat.lt_succ_of_le (hbytes b hb)) 0
      rw [Nat.zero_add, Nat.one_mul] at hvalue
      rw [← haddress]
      generalize others.reverse.foldl (fun n b => n * 256 + b) 0 = value at hvalue ⊢
      generalize others.reverse.length = count at hcount hlast hvalue ⊢
      calc
        value * 256 ^ (4 - count) + last < (value + 1) * 256 ^ (4 - count) := by
          rw [Nat.succ_mul]
          omega
        _ ≤ 256 ^ count * 256 ^ (4 - count) := Nat.mul_le_mul_right _ hvalue
        _ = 2 ^ 32 := by
          rw [← Nat.pow_add, Nat.add_sub_cancel' (by omega)]
          rfl
    · contradiction

theorem part?_toDigits {byte : Nat} (hbyte : byte < 256) :
    part? (Nat.toDigits 10 byte) = some byte := by
  have hall : ∀ b : Fin 256, part? (Nat.toDigits 10 b) = some b.val := by decide +kernel
  exact hall ⟨byte, hbyte⟩

/-- The decimal digits of the bytes of an address. -/
def labels (address : Nat) : List (List Char) :=
  [3, 2, 1, 0].map fun k => Nat.toDigits 10 (address / 256 ^ k % 256)

/-- No digit is a dot. -/
theorem ne_dot_of_mem_toDigits {n : Nat} : ∀ c ∈ Nat.toDigits 10 n, (c == '.') = false := by
  intro c hc
  have hdigit : c.isDigit = true := Nat.isDigit_of_mem_toDigits (by omega) (by omega) hc
  rw [beq_eq_false_iff_ne]
  rintro rfl
  contradiction

theorem splitOn_text (address : Nat) : splitOn (· == '.') (text address) = labels address := by
  have hdot : ('.' == '.') = true := rfl
  simp only [text, labels, List.append_assoc, List.cons_append, splitOn_eq_splitOnP, Nat.pow_eq]
  rw [List.splitOnP_append_cons_of_forall_mem ne_dot_of_mem_toDigits _ hdot,
    List.splitOnP_append_cons_of_forall_mem ne_dot_of_mem_toDigits _ hdot,
    List.splitOnP_append_cons_of_forall_mem ne_dot_of_mem_toDigits _ hdot,
    List.splitOnP_eq_singleton ne_dot_of_mem_toDigits]
  rfl

theorem endsInNumber_labels (address : Nat) : endsInNumber (labels address) = true := by
  have hlast : lastLabel (labels address) = Nat.toDigits 10 (address / 256 ^ 0 % 256) := by
    cases hdigits : Nat.toDigits 10 (address / 256 ^ 0 % 256) with
    | nil => exact absurd hdigits Nat.toDigits_ne_nil
    | cons c rest => simp only [labels, List.map_cons, List.map_nil, hdigits]; rfl
  rw [endsInNumber, hlast, part?_toDigits (Nat.mod_lt _ (by omega))]
  exact Bool.or_true _

theorem parse?_labels {address : Nat} (haddress : address < 2 ^ 32) :
    parse? (labels address) = some address := by
  have hbyte (k : Nat) : part? (Nat.toDigits 10 (address / 256 ^ k % 256)) =
      some (address / 256 ^ k % 256) :=
    part?_toDigits (Nat.mod_lt _ (by omega))
  have hend : dropEmptyEnd (labels address) = labels address := by
    rw [dropEmptyEnd]
    split
    · next hlast => 
      simp only [labels, List.map_cons, List.map_nil, List.getLast?_cons_cons,
        List.getLast?_singleton, Option.some.injEq] at hlast
      exact absurd hlast Nat.toDigits_ne_nil
    · rfl
  have hnumbers : (labels address).mapM part? =
      some ([3, 2, 1, 0].map fun k => address / 256 ^ k % 256) := by
    simp only [labels, List.map_cons, List.map_nil, List.mapM_cons, List.mapM_nil, hbyte]
    rfl
  have hbytes (k : Nat) : address / 256 ^ k % 256 ≤ 255 := by
    have := Nat.mod_lt (address / 256 ^ k) (show 0 < 256 by omega)
    omega
  have hvalue : (((0 * 256 + address / 256 ^ 3 % 256) * 256 + address / 256 ^ 2 % 256) * 256 +
      address / 256 ^ 1 % 256) * 256 ^ 1 + address / 256 ^ 0 % 256 = address := by
    norm_num
    omega
  rw [parse?, hend, hnumbers]
  change ofNumbers? [address / 256 ^ 3 % 256, address / 256 ^ 2 % 256, address / 256 ^ 1 % 256,
    address / 256 ^ 0 % 256] = _
  have hlast : address / 256 ^ 0 % 256 < Nat.pow 256 1 := Nat.lt_succ_of_le (hbytes 0)
  rw [ofNumbers?]
  simp only [List.reverse_cons, List.reverse_nil, List.nil_append, List.cons_append]
  rw [if_pos ⟨by simp, by simp only [List.all_cons, hbytes]; rfl, hlast⟩]
  exact congrArg some hvalue

end Ipv4

namespace Ipv6

/-- Groups that fit in their bits, and of which there are not too many. -/
structure Groups.Bounded (read : Groups) : Prop where
  length_le : read.groups.length ≤ 8
  lt : ∀ group ∈ read.groups, group < 65536

theorem le_of_byte? {cs : List Char} {byte : Nat} (hbyte : byte? cs = some byte) : byte ≤ 255 := by
  unfold byte? at hbyte
  split at hbyte
  · contradiction
  · contradiction
  · obtain ⟨n, -, hn⟩ := Option.bind_eq_some_iff.1 hbyte
    split at hn
    · next hle =>
      cases hn
      exact hle
    · contradiction

theorem le_of_mem_mapM_byte? {pieces : List (List Char)} {bytes : List Nat}
    (hbytes : pieces.mapM byte? = some bytes) : ∀ byte ∈ bytes, byte ≤ 255 := by
  induction pieces generalizing bytes with
  | nil =>
    cases hbytes
    exact nofun
  | cons piece rest ih =>
    rw [List.mapM_cons] at hbytes
    obtain ⟨byte, hbyte, hrest⟩ := Option.bind_eq_some_iff.1 hbytes
    obtain ⟨more, hmore, hcons⟩ := Option.bind_eq_some_iff.1 hrest
    cases hcons
    exact List.forall_mem_cons.2 ⟨le_of_byte? hbyte, ih hmore⟩

theorem dotted?_eq_some {cs : List Char} {groups : List Nat} (hdotted : dotted? cs = some groups) :
    groups.length = 2 ∧ ∀ group ∈ groups, group < 65536 := by
  rw [dotted?] at hdotted
  obtain ⟨bytes, hbytes, hgroups⟩ := Option.bind_eq_some_iff.1 hdotted
  have hle := le_of_mem_mapM_byte? hbytes
  split at hgroups
  · cases hgroups
    simp only [List.forall_mem_cons] at hle ⊢
    refine ⟨rfl, ?_, ?_, nofun⟩ <;> omega
  · contradiction

theorem Groups.Bounded.append {read : Groups} {more : List Nat} {gap : Option Nat}
    (hread : read.Bounded) (hlength : read.groups.length + more.length ≤ 8)
    (hmore : ∀ group ∈ more, group < 65536) : Bounded ⟨read.groups ++ more, gap⟩ where
  length_le := by rwa [List.length_append]
  lt := List.forall_mem_append.2 ⟨hread.lt, hmore⟩

/-- Four digits at most make a group. -/
theorem foldl_takeWhile_lt (cs : List Char) :
    ((cs.take 4).takeWhile fun d => (hexValue? d).isSome).foldl
      (fun n d => n * 16 + (hexValue? d).getD 0) 0 < 65536 := by
  have hvalue (d : Char) : (hexValue? d).getD 0 < 16 := by
    cases hd : hexValue? d with
    | none => simp
    | some n => exact lt_of_hexValue? hd
  have hcount : ((cs.take 4).takeWhile fun d => (hexValue? d).isSome).length ≤ 4 := by
    apply Nat.le_trans (List.takeWhile_sublist _).length_le
    rw [List.length_take]
    exact Nat.min_le_left _ _
  calc
    _ < (0 + 1) * 16 ^ ((cs.take 4).takeWhile fun d => (hexValue? d).isSome).length :=
      foldl_lt (fun d _ => hvalue d) 0
    _ ≤ 1 * 16 ^ 4 := Nat.mul_le_mul_left 1 (Nat.pow_le_pow_right (by omega) hcount)

theorem bounded_readGroups {fuel : Nat} {read result : Groups} {cs : List Char}
    (hread : read.Bounded) (hresult : readGroups fuel read cs = some result) : result.Bounded := by
  induction fuel generalizing read cs with
  | zero =>
    cases cs with
    | nil =>
      cases hresult
      exact hread
    | cons c rest => contradiction
  | succ fuel ih =>
    cases cs with
    | nil =>
      cases hresult
      exact hread
    | cons c rest =>
      rw [readGroups] at hresult
      split at hresult
      · contradiction
      next hlength =>
      have hgroup := foldl_takeWhile_lt (c :: rest)
      have hnext {gap : Option Nat} {group : Nat} (hgroup : group < 65536) :
          Groups.Bounded ⟨read.groups ++ [group], gap⟩ := by
        apply hread.append
        · simp only [List.length_singleton]
          omega
        · simpa using hgroup
      split at hresult
      · split at hresult
        · contradiction
        · exact ih (hnext (by omega)) hresult
      · dsimp only at hresult
        split at hresult
        · cases hresult
          exact hnext hgroup
        · split at hresult
          · contradiction
          next hroom =>
          obtain ⟨last, hlast, rfl⟩ := Option.map_eq_some_iff.1 hresult
          obtain ⟨htwo, hlt⟩ := dotted?_eq_some hlast
          exact hread.append (by omega) hlt
        · split at hresult
          · contradiction
          · exact ih (hnext hgroup) hresult
        · contradiction

theorem length_of_expand? {read : Groups} {groups : List Nat} (hread : read.Bounded)
    (hexpand : expand? read = some groups) :
    groups.length = 8 ∧ ∀ group ∈ groups, group < 65536 := by
  have hlength := hread.length_le
  rw [expand?] at hexpand
  split at hexpand
  · next gap _ =>
    cases hexpand
    constructor
    · simp only [List.length_append, List.length_take, List.length_replicate, List.length_drop]
      omega
    · intro group hgroup
      rw [List.mem_append, List.mem_append] at hgroup
      obtain (hfront | hzero) | hback := hgroup
      · exact hread.lt group (List.mem_of_mem_take hfront)
      · rw [List.eq_of_mem_replicate hzero]
        omega
      · exact hread.lt group (List.mem_of_mem_drop hback)
  · split at hexpand
    · next height =>
      cases hexpand
      exact ⟨height, hread.lt⟩
    · contradiction

theorem of_parse? {cs : List Char} {groups : List Nat} (hparse : parse? cs = some groups) :
    groups.length = 8 ∧ ∀ group ∈ groups, group < 65536 := by
  have hzero : Groups.Bounded ⟨[0], some 1⟩ := ⟨by simp, by simp⟩
  have hempty : Groups.Bounded ⟨[], none⟩ := ⟨by simp, nofun⟩
  unfold parse? at hparse
  split at hparse
  · contradiction
  · contradiction
  · obtain ⟨read, hread, hexpand⟩ := Option.bind_eq_some_iff.1 hparse
    exact length_of_expand? (bounded_readGroups hzero hread) hexpand
  · contradiction
  · obtain ⟨read, hread, hexpand⟩ := Option.bind_eq_some_iff.1 hparse
    exact length_of_expand? (bounded_readGroups hempty hread) hexpand

/-- The digits of a group are the ones that are read. -/
theorem takeWhile_take_toDigits {group : Nat} (hgroup : group < 65536) {rest : List Char}
    (hrest : rest.head?.all (· == ':') = true) :
    ((Nat.toDigits 16 group ++ rest).take 4).takeWhile (fun d => (hexValue? d).isSome) =
      Nat.toDigits 16 group := by
  have hlength : (Nat.toDigits 16 group).length ≤ 4 :=
    (Nat.length_toDigits_le_iff (by omega) (by omega)).2 hgroup
  have hdigits : ∀ c ∈ Nat.toDigits 16 group, (hexValue? c).isSome = true := by
    intro c hc
    obtain ⟨d, hd⟩ := hexValue?_of_mem_toDigits hc
    rw [hd]
    rfl
  rw [List.take_append, List.take_of_length_le hlength, List.takeWhile_append_of_pos hdigits]
  cases rest with
  | nil => simp
  | cons c rest =>
    obtain rfl : c = ':' := by simpa using hrest
    cases 4 - (Nat.toDigits 16 group).length with
    | zero => simp
    | succ k => simp [show (hexValue? ':').isSome = false from rfl]

theorem exists_toDigits_eq_cons (group : Nat) :
    ∃ c more, Nat.toDigits 16 group = c :: more ∧ c ≠ ':' := by
  obtain ⟨c, more, hcons⟩ : ∃ c more, Nat.toDigits 16 group = c :: more :=
    List.exists_cons_of_ne_nil Nat.toDigits_ne_nil
  refine ⟨c, more, hcons, ?_⟩
  rintro rfl
  obtain ⟨d, hd⟩ := hexValue?_of_mem_toDigits
    (hcons ▸ List.mem_cons_self : ':' ∈ Nat.toDigits 16 group)
  contradiction

section Reading

variable {read : Groups} {group : Nat} (hlength : read.groups.length < 8) (hgroup : group < 65536)
  (fuel : Nat)

include hlength hgroup

/-- A group at the end of the text. -/
theorem readGroups_last :
    readGroups (fuel + 1) read (Nat.toDigits 16 group) =
      some ⟨read.groups ++ [group], read.gap⟩ := by
  have hdigits := takeWhile_take_toDigits hgroup (show [].head?.all (· == ':') = true from rfl)
  have hvalue := foldl_toDigits group
  obtain ⟨c, more, hcons, hc⟩ := exists_toDigits_eq_cons group
  rw [List.append_nil] at hdigits
  rw [hcons] at hdigits hvalue ⊢
  rw [readGroups, if_neg (Nat.not_le.2 hlength), if_neg hc]
  dsimp only
  rw [hdigits, hvalue, List.drop_length]

/-- A group and a colon that is not the end of the text. -/
theorem readGroups_colon {rest : List Char} (hrest : rest ≠ []) :
    readGroups (fuel + 1) read (Nat.toDigits 16 group ++ ':' :: rest) =
      readGroups fuel ⟨read.groups ++ [group], read.gap⟩ rest := by
  have hdigits := takeWhile_take_toDigits hgroup
    (show (':' :: rest).head?.all (· == ':') = true from rfl)
  have hvalue := foldl_toDigits group
  obtain ⟨c, more, hcons, hc⟩ := exists_toDigits_eq_cons group
  rw [hcons] at hdigits hvalue ⊢
  rw [List.cons_append] at hdigits ⊢
  rw [readGroups, if_neg (Nat.not_le.2 hlength), if_neg hc]
  dsimp only
  rw [hdigits, hvalue, ← List.cons_append, List.drop_left]
  exact if_neg (by simpa using hrest)

end Reading

theorem joined_cons_cons (group next : Nat) (more : List Nat) :
    joined (group :: next :: more) = Nat.toDigits 16 group ++ ':' :: joined (next :: more) := by
  simp [joined, List.intercalate_cons_cons]

theorem joined_ne_nil (group : Nat) (more : List Nat) : joined (group :: more) ≠ [] := by
  cases more with
  | nil => simp [joined, Nat.toDigits_ne_nil]
  | cons next more => simp [joined_cons_cons]

theorem length_joined_lt (group next : Nat) (more : List Nat) :
    (joined (next :: more)).length + 1 < (joined (group :: next :: more)).length := by
  have hpos : 0 < (Nat.toDigits 16 group).length := Nat.length_toDigits_pos
  rw [joined_cons_cons, List.length_append, List.length_cons]
  omega

/-- Groups with colons between are read up to the end. -/
theorem readGroups_joined {groups : List Nat} (hgroups : ∀ group ∈ groups, group < 65536)
    {read : Groups} (hlength : read.groups.length + groups.length ≤ 8) {fuel : Nat}
    (hfuel : (joined groups).length ≤ fuel) :
    readGroups fuel read (joined groups) = some ⟨read.groups ++ groups, read.gap⟩ := by
  induction groups generalizing read fuel with
  | nil =>
    rw [List.append_nil]
    cases fuel <;> rfl
  | cons group more ih =>
    rw [List.length_cons] at hlength
    have hgroup := hgroups group List.mem_cons_self
    have hpos : 0 < (joined (group :: more)).length :=
      List.length_pos_of_ne_nil (joined_ne_nil group more)
    obtain ⟨fuel, rfl⟩ : ∃ n, fuel = n + 1 := ⟨fuel - 1, by omega⟩
    cases more with
    | nil =>
      rw [show joined [group] = Nat.toDigits 16 group by simp [joined]]
      exact readGroups_last (by omega) hgroup fuel
    | cons next more =>
      have hshorter := length_joined_lt group next more
      rw [joined_cons_cons, readGroups_colon (by omega) hgroup fuel (joined_ne_nil next more), ih]
      · rw [List.append_assoc, List.singleton_append]
      · exact fun g hg => hgroups g (List.mem_cons_of_mem group hg)
      · rw [List.length_append, List.length_singleton]
        omega
      · omega

/-- Two colons are a gap among groups. -/
theorem readGroups_gap {front back : List Nat} (hne : front ≠ [])
    (hfront : ∀ group ∈ front, group < 65536) (hback : ∀ group ∈ back, group < 65536)
    {read : List Nat} (hlength : read.length + front.length + 1 + back.length ≤ 8) {fuel : Nat}
    (hfuel : (joined front ++ ':' :: ':' :: joined back).length ≤ fuel) :
    readGroups fuel ⟨read, none⟩ (joined front ++ ':' :: ':' :: joined back) =
      some ⟨read ++ front ++ 0 :: back, some (read.length + front.length + 1)⟩ := by
  induction front generalizing read fuel with
  | nil => contradiction
  | cons group more ih =>
    rw [List.length_cons] at hlength
    have hgroup := hfront group List.mem_cons_self
    cases more with
    | nil =>
      rw [show joined [group] = Nat.toDigits 16 group by simp [joined]] at hfuel ⊢
      rw [List.length_append, List.length_cons, List.length_cons] at hfuel
      obtain ⟨fuel, rfl⟩ : ∃ n, fuel = n + 2 := ⟨fuel - 2, by omega⟩
      rw [readGroups_colon (by simp only; omega) hgroup (fuel + 1) (List.cons_ne_nil _ _),
        readGroups, if_neg (by simp; omega), if_pos rfl]
      dsimp only
      rw [readGroups_joined hback]
      · simp
      · simp
        omega
      · omega
    | cons next more =>
      have hshorter := length_joined_lt group next more
      rw [List.length_append] at hfuel
      obtain ⟨fuel, rfl⟩ : ∃ n, fuel = n + 1 := ⟨fuel - 1, by omega⟩
      rw [joined_cons_cons, List.append_assoc, List.cons_append,
        readGroups_colon (by simp only; omega) hgroup fuel (by simp), ih]
      · simp
        omega
      · simp
      · exact fun g hg => hfront g (List.mem_cons_of_mem group hg)
      · simp at hlength ⊢
        omega
      · rw [List.length_append]
        omega

/-- Zeros that are counted can be split off. -/
theorem eq_replicate_append_drop {groups : List Nat} {run : Nat} (hrun : run ≤ zeros groups) :
    groups = List.replicate run 0 ++ groups.drop run := by
  induction run generalizing groups with
  | zero => rfl
  | succ run ih =>
    cases groups with
    | nil => simp [zeros] at hrun
    | cons group rest =>
      rw [zeros, List.takeWhile_cons] at hrun
      split at hrun
      · next hzero =>
        obtain rfl := eq_of_beq hzero
        rw [List.replicate_succ, List.cons_append, List.drop_succ_cons,
          ← ih (Nat.le_of_succ_le_succ hrun)]
      · simp at hrun

theorem longestZeros_le (groups : List Nat) :
    (longestZeros groups).2 ≤ zeros (groups.drop (longestZeros groups).1) := by
  rw [longestZeros]
  refine List.foldlRecOn (motive := fun best : Nat × Nat => best.2 ≤ zeros (groups.drop best.1))
    _ _ ?_ ?_
  · exact Nat.zero_le _
  · intro best hbest start _
    dsimp only
    split
    · exact le_rfl
    · exact hbest

/-- Groups are split around the zeros that their text leaves out. -/
theorem exists_split (groups : List Nat) :
    ∃ front back, groups = front ++ List.replicate (longestZeros groups).2 0 ++ back ∧
      groups.take (longestZeros groups).1 = front ∧
      groups.drop ((longestZeros groups).1 + (longestZeros groups).2) = back := by
  refine ⟨_, _, ?_, rfl, rfl⟩
  rw [List.append_assoc, ← List.drop_drop, ← eq_replicate_append_drop (longestZeros_le groups),
    List.take_append_drop]

/-- Text that does not begin with a colon is read group by group. -/
theorem parse?_of_head? {cs : List Char} (hhead : cs.head? ≠ some ':') (hlength : 2 ≤ cs.length) :
    parse? cs = (readGroups cs.length ⟨[], none⟩ cs).bind expand? := by
  unfold parse?
  split
  · simp at hlength
  · simp at hlength
  · simp at hhead
  · simp at hhead
  · rfl

theorem head?_joined (group : Nat) (more : List Nat) (rest : List Char) :
    (joined (group :: more) ++ rest).head? ≠ some ':' := by
  obtain ⟨c, digits, hcons, hc⟩ := exists_toDigits_eq_cons group
  cases more with
  | nil => simpa [joined, hcons] using hc
  | cons next more => simpa [joined_cons_cons, hcons] using hc

/-- The zeros of a gap are filled in after the one that it is read as. -/
theorem expand?_gap {front back : List Nat} {run : Nat} (hrun : 2 ≤ run)
    (hlength : front.length + run + back.length = 8) :
    expand? ⟨front ++ 0 :: back, some (front.length + 1)⟩ =
      some (front ++ List.replicate run 0 ++ back) := by
  have hsplit : front ++ 0 :: back = (front ++ [0]) ++ back := by simp
  have hgap : front.length + 1 = (front ++ [0]).length := by simp
  have hcount : 8 - ((front ++ [0]) ++ back).length = run - 1 := by
    rw [List.length_append, ← hgap]
    omega
  have hzeros : front ++ [0] ++ List.replicate (run - 1) 0 = front ++ List.replicate run 0 := by
    rw [List.append_assoc, List.singleton_append, ← List.replicate_succ,
      Nat.sub_add_cancel (by omega)]
  rw [hsplit, hgap, expand?]
  dsimp only
  rw [List.take_left, List.drop_left, hcount, hzeros]

/-- The groups around a gap are read back. -/
theorem parse?_gap {front back : List Nat} {run : Nat} (hrun : 2 ≤ run)
    (hlength : front.length + run + back.length = 8) (hfront : ∀ group ∈ front, group < 65536)
    (hback : ∀ group ∈ back, group < 65536) :
    parse? (joined front ++ ':' :: ':' :: joined back) =
      some (front ++ List.replicate run 0 ++ back) := by
  rw [← expand?_gap hrun hlength]
  cases front with
  | nil =>
    have hread : readGroups (joined back).length ⟨[0], some 1⟩ (joined back) =
        some ⟨[0] ++ back, some 1⟩ :=
      readGroups_joined hback (by simp at hlength ⊢; omega) le_rfl
    change (readGroups (joined back).length ⟨[0], some 1⟩ (joined back)).bind expand? = _
    rw [hread]
    rfl
  | cons group more =>
    have hread := readGroups_gap (List.cons_ne_nil group more) hfront hback
      (show [].length + (group :: more).length + 1 + back.length ≤ 8 by simp at hlength ⊢; omega)
      le_rfl
    rw [parse?_of_head? (head?_joined group more _) (by simp; omega), hread]
    simp

/-- An address is read back from its text. -/
theorem parse?_text {groups : List Nat} (hlength : groups.length = 8)
    (hgroups : ∀ group ∈ groups, group < 65536) : parse? (text groups) = some groups := by
  obtain ⟨front, back, hsplit, hfront, hback⟩ := exists_split groups
  rw [text]
  dsimp only
  split
  · next hrun =>
    rw [hfront, hback, List.append_assoc]
    generalize (longestZeros groups).2 = run at hsplit hrun
    subst hsplit
    apply parse?_gap hrun
    · simpa [Nat.add_assoc] using hlength
    · exact fun g hg => hgroups g (by simp [hg])
    · exact fun g hg => hgroups g (by simp [hg])
  · have hread : readGroups (joined groups).length ⟨[], none⟩ (joined groups) =
        some ⟨[] ++ groups, none⟩ :=
      readGroups_joined hgroups (by simp [hlength]) le_rfl
    obtain ⟨group, next, more, rfl⟩ : ∃ group next more, groups = group :: next :: more := by
      match groups, hlength with
      | group :: next :: more, _ => exact ⟨group, next, more, rfl⟩
    have hhead := head?_joined group (next :: more) []
    have htext := length_joined_lt group next more
    rw [List.append_nil] at hhead
    rw [parse?_of_head? hhead (by omega), hread]
    exact if_pos hlength

end Ipv6

end Rerank.Url
